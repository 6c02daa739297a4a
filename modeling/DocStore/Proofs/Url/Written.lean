import DocStore.Proofs.Text.Trim
import DocStore.Proofs.Url.Path

/-! # Written URLs

The text of a URL is read back part by part. It has no character that would end a part too early,
so that each part is read from what was written for it, and all of them but the authority are read
as they are. The authority is read as if it stood by itself.
-/

namespace DocStore.Url

/-! ## Escapes -/

/-- What escapes are made of need not be escaped again. -/
def EscapeSet.IsStable (set : EscapeSet) : Prop :=
  set '%' = false ∧ ∀ n < 16, set (upperHexDigit n) = false

instance (set : EscapeSet) : Decidable set.IsStable :=
  inferInstanceAs (Decidable (_ ∧ ∀ n < 16, _))

theorem mem_escape {set : EscapeSet} {text : List Char} {c : Char} (mem : c ∈ escape set text) :
    (c ∈ text ∧ set c = false) ∨ c = '%' ∨ ∃ n < 16, c = upperHexDigit n := by
  obtain ⟨source, inText, written⟩ := List.mem_flatMap.mp mem
  split at written
  next =>
    obtain ⟨byte, -, digits⟩ := List.mem_flatMap.mp written
    have small := byte.toNat_lt
    simp only [escapeByte, List.mem_cons, List.not_mem_nil, or_false] at digits
    obtain rfl | rfl | rfl := digits
    · exact .inr (.inl rfl)
    · exact .inr (.inr ⟨_, by omega, rfl⟩)
    · exact .inr (.inr ⟨_, by omega, rfl⟩)
  next outside =>
    cases List.mem_singleton.mp written
    exact .inl ⟨inText, eq_false_of_ne_true outside⟩

theorem not_set_of_mem_escape {set : EscapeSet} (stable : set.IsStable) {text : List Char}
    {c : Char} (mem : c ∈ escape set text) : set c = false := by
  obtain ⟨-, outside⟩ | rfl | ⟨n, small, rfl⟩ := mem_escape mem
  · exact outside
  · exact stable.1
  · exact stable.2 n small

theorem escape_eq_self {set : EscapeSet} {text : List Char}
    (outside : ∀ c ∈ text, set c = false) : escape set text = text := by
  have kept : ∀ c ∈ text, (if set c then escapeChar c else [c]) = [c] := by
    intro c mem
    rw [outside c mem]
    rfl
  rw [escape, List.flatMap_congr kept, List.flatMap_singleton']

/-! ## Characters -/

theorem visible_of_controlSet {c : Char} (plain : controlSet c = false) (noSpace : c ≠ ' ') :
    32 < c.toNat := by
  simp only [controlSet, Bool.or_eq_false_iff, decide_eq_false_iff_not] at plain
  have differs : c.toNat ≠ 32 := by
    intro same
    exact noSpace (by rw [← Char.ofNat_toNat c, same])
  omega

theorem visible_of_fragmentSet {c : Char} (outside : fragmentSet c = false) : 32 < c.toNat := by
  rw [fragmentSet, Bool.or_eq_false_iff] at outside
  refine visible_of_controlSet outside.1 ?_
  rintro rfl
  cases outside.2

theorem visible_of_querySet {special : Bool} {c : Char} (outside : querySet special c = false) :
    32 < c.toNat := by
  rw [querySet, Bool.or_eq_false_iff, Bool.or_eq_false_iff] at outside
  refine visible_of_controlSet outside.1.1 ?_
  rintro rfl
  cases outside.1.2

theorem visible_of_pathSet {c : Char} (outside : pathSet c = false) : 32 < c.toNat := by
  rw [pathSet, Bool.or_eq_false_iff] at outside
  exact visible_of_fragmentSet outside.1

theorem isAlpha_iff {c : Char} : c.isAlpha = true ↔
    65 ≤ c.toNat ∧ c.toNat ≤ 90 ∨ 97 ≤ c.toNat ∧ c.toNat ≤ 122 := by
  have upper : c.isUpper = true ↔ 65 ≤ c.toNat ∧ c.toNat ≤ 90 := decide_eq_true_iff
  have lower : c.isLower = true ↔ 97 ≤ c.toNat ∧ c.toNat ≤ 122 :=
    Bool.and_eq_true_iff.trans (and_congr decide_eq_true_iff decide_eq_true_iff)
  exact Bool.or_eq_true_iff.trans (or_congr upper lower)

theorem isAlphanum_iff {c : Char} : c.isAlphanum = true ↔
    (65 ≤ c.toNat ∧ c.toNat ≤ 90 ∨ 97 ≤ c.toNat ∧ c.toNat ≤ 122) ∨
      48 ≤ c.toNat ∧ c.toNat ≤ 57 :=
  Bool.or_eq_true_iff.trans (or_congr isAlpha_iff Char.isDigit_iff_toNat)

theorem visible_of_isSchemeChar {c : Char} (inScheme : isSchemeChar c = true) : 32 < c.toNat := by
  simp only [isSchemeChar, Bool.or_eq_true, isAlphanum_iff, beq_iff_eq] at inScheme
  obtain ((alphanumeric | rfl) | rfl) | rfl := inScheme
  · omega
  all_goals decide

theorem isIgnored_of_visible {c : Char} (visible : 32 < c.toNat) : isIgnored c = false := by
  by_contra ignored
  simp only [isIgnored, Bool.not_eq_false, Bool.or_eq_true, beq_iff_eq] at ignored
  obtain (rfl | rfl) | rfl := ignored <;> revert visible <;> decide

/-- A character that may stand anywhere between a scheme and a path. -/
def IsAuthorityChar (special : Bool) (c : Char) : Prop :=
  32 < c.toNat ∧ isSlash special c = false ∧ endsPath c = false

instance (special : Bool) : DecidablePred (IsAuthorityChar special) := fun _ =>
  inferInstanceAs (Decidable (_ ∧ _ ∧ _))

/-- A segment that is read as it is. -/
structure IsStableName (special : Bool) (name : String) : Prop where
  chars : ∀ c ∈ name.toList, pathSet c = false ∧ isSlash special c = false
  noDot : isSingleDot name.toList = false
  noDots : isDoubleDot name.toList = false

theorem isStableName_empty (special : Bool) : IsStableName special "" :=
  ⟨nofun, rfl, rfl⟩

/-- A scheme that is read as it is. -/
structure IsWrittenScheme (scheme : String) : Prop where
  first : ∃ letter ∈ scheme.toList.head?, letter.isAlpha = true
  chars : ∀ c ∈ scheme.toList, isSchemeChar c = true ∧ c.toLower = c

theorem IsWrittenScheme.of_all {scheme : String}
    (begins : scheme.toList.head?.any Char.isAlpha = true)
    (all : (scheme.toList.all fun c => isSchemeChar c && c.toLower == c) = true) :
    IsWrittenScheme scheme where
  first := (Option.any_eq_true _ _).mp begins
  chars := by simpa only [List.all_eq_true, Bool.and_eq_true, beq_iff_eq] using all

/-- A URL of which no part can be mistaken for another in its text. -/
structure IsWritten (url : Url) : Prop where
  scheme : IsWrittenScheme url.scheme
  authority : ∀ authority ∈ url.authority, ∀ c ∈ authority.chars, IsAuthorityChar url.isSpecial c
  hosted : url.isSpecial = true →
    ∃ authority ∈ url.authority, url.scheme ≠ "file" → authority.chars ≠ []
  stable : ∀ names, url.path = .segments names → ∀ name ∈ names, IsStableName url.isSpecial name
  filled : url.path = .segments [] → url.isSpecial = false ∧ url.authority ≠ none
  query : ∀ text ∈ url.query, ∀ c ∈ text.toList, querySet url.isSpecial c = false
  fragment : ∀ text ∈ url.fragment, ∀ c ∈ text.toList, fragmentSet c = false

/-! ## The query and the fragment -/

theorem readTail_tailChars {special : Bool} {query fragment : Option String}
    (queryWritten : ∀ text ∈ query, ∀ c ∈ text.toList, querySet special c = false)
    (fragmentWritten : ∀ text ∈ fragment, ∀ c ∈ text.toList, fragmentSet c = false) :
    readTail special (tailChars query fragment) = (query, fragment) := by
  have fragmentKept {text : String} (given : fragment = some text) :
      String.ofList (escape fragmentSet text.toList) = text := by
    rw [escape_eq_self (fragmentWritten text given), String.ofList_toList]
  cases query with
  | none =>
      cases fragment with
      | none => rfl
      | some text => simp [tailChars, readTail, fragmentKept rfl]
  | some query =>
      have unmarked : ∀ c ∈ query.toList, (c != '#') = true := by
        intro c mem
        rw [bne_iff_ne]
        rintro rfl
        have outside := queryWritten query rfl '#' mem
        simp [querySet] at outside
      have queryKept : String.ofList (escape (querySet special) query.toList) = query := by
        rw [escape_eq_self (queryWritten query rfl), String.ofList_toList]
      cases fragment with
      | none =>
          obtain ⟨taken, dropped⟩ := span_of_stop [] unmarked (by simp)
          rw [List.append_nil] at taken dropped
          simp [tailChars, readTail, taken, dropped, queryKept]
      | some text =>
          obtain ⟨taken, dropped⟩ :=
            span_of_stop ('#' :: text.toList) unmarked (by simp)
          simp [tailChars, readTail, taken, dropped, queryKept, fragmentKept rfl]

theorem head?_tailChars {query fragment : Option String} {c : Char}
    (first : c ∈ (tailChars query fragment).head?) : endsPath c = true := by
  cases query <;> cases fragment <;> simp [tailChars] at first <;> subst first <;> rfl

/-! ## The path -/

variable {special : Bool} {names : List String}

theorem isSlashFree_of_stable (stable : ∀ name ∈ names, IsStableName special name) :
    IsSlashFree names := by
  intro name mem slash
  have isSlash := ((stable name mem).chars '/' slash).2
  cases isSlash

theorem parts_of_stable (stable : ∀ name ∈ names, IsStableName special name) :
    (Path.segments names).parts = names.map String.toList :=
  Path.parts_segments (isSlashFree_of_stable stable)

theorem segments_chars_eq (first : String) (rest : List String) :
    (Path.segments (first :: rest)).chars =
      '/' :: (first.toList ++ rest.flatMap fun name => '/' :: name.toList) :=
  rfl

/-- Besides the slashes before its segments, a path has the characters of the segments. -/
theorem mem_segments_chars {c : Char} (mem : c ∈ (Path.segments names).chars) :
    c = '/' ∨ ∃ name ∈ names, c ∈ name.toList := by
  obtain ⟨name, inNames, inName⟩ := List.mem_flatMap.mp mem
  obtain rfl | inName := List.mem_cons.mp inName
  · exact .inl rfl
  · exact .inr ⟨name, inNames, inName⟩

theorem segmentText_of_stable {name : String} (stable : IsStableName special name)
    (before : List String) : segmentText false before name.toList = name := by
  have kept := escape_eq_self fun c mem => (stable.chars c mem).1
  rw [segmentText, Bool.false_and, Bool.false_and, if_neg Bool.false_ne_true, kept,
    String.ofList_toList]

theorem readSegments_of_stable (stable : ∀ name ∈ names, IsStableName special name)
    (before : List String) :
    readSegments false before (names.map String.toList) = before ++ names := by
  induction names generalizing before with
  | nil => simp [readSegments]
  | cons name rest ih =>
      obtain ⟨nameStable, restStable⟩ := List.forall_mem_cons.mp stable
      have text := segmentText_of_stable nameStable before
      cases rest with
      | nil => simp [readSegments, nameStable.noDot, nameStable.noDots, text]
      | cons second others =>
          rw [List.map_cons, List.map_cons, readSegments, nameStable.noDot, nameStable.noDots,
            if_neg Bool.false_ne_true, if_neg Bool.false_ne_true, text, ← List.map_cons,
            ih restStable, List.append_assoc, List.singleton_append]
          nofun

/-- A backslash in a path is none of its slashes. -/
theorem map_slashes_of_stable (stable : ∀ name ∈ names, IsStableName special name) :
    (Path.segments names).chars.map (fun c => if isSlash special c then '/' else c) =
      (Path.segments names).chars := by
  have kept : ∀ c ∈ (Path.segments names).chars, (if isSlash special c then '/' else c) = c := by
    intro c mem
    obtain rfl | ⟨name, inNames, inName⟩ := mem_segments_chars mem
    · split <;> rfl
    · rw [((stable name inNames).chars c inName).2]
      rfl
  rw [List.map_congr_left kept, List.map_id']

theorem readPath_of_stable {scheme : String} (notFile : scheme ≠ "file") {first : String}
    {rest : List String}
    (stable : ∀ name ∈ first :: rest, IsStableName (isSpecialScheme scheme) name) :
    readPath scheme (first.toList ++ rest.flatMap fun name => '/' :: name.toList) =
      .segments (first :: rest) := by
  have isFile : (scheme == "file") = false := beq_false_of_ne notFile
  have slashed := map_slashes_of_stable stable
  rw [segments_chars_eq, List.map_cons, List.cons.injEq] at slashed
  have split : splitChars '/' (first.toList ++ rest.flatMap fun name => '/' :: name.toList) =
      (first :: rest).map String.toList :=
    parts_of_stable stable
  rw [readPath, isFile, slashed.2, split, readSegments_of_stable stable]
  rfl

/-- A dot before a path is dropped, which keeps a path of empty segments from being read as an
    authority. -/
theorem readPath_dot_of_stable {scheme : String} (notFile : scheme ≠ "file")
    (stable : ∀ name ∈ names, IsStableName (isSpecialScheme scheme) name) (filled : names ≠ []) :
    readPath scheme ('.' :: (Path.segments names).chars) = .segments names := by
  have isFile : (scheme == "file") = false := beq_false_of_ne notFile
  have slashed : ('.' :: (Path.segments names).chars).map
      (fun c => if isSlash (isSpecialScheme scheme) c then '/' else c) =
        '.' :: (Path.segments names).chars := by
    have dot : isSlash (isSpecialScheme scheme) '.' = false := by simp [isSlash]
    rw [List.map_cons, dot, map_slashes_of_stable stable]
    rfl
  have free : ∀ part ∈ names.map String.toList, '/' ∉ part :=
    List.forall_mem_map.mpr (isSlashFree_of_stable stable)
  have dotFree : '/' ∉ ['.'] := by decide
  have split := splitChars_flatMap dotFree free
  rw [List.flatMap_map, List.singleton_append] at split
  have behindDot : readSegments false [] (['.'] :: names.map String.toList) =
      readSegments false [] (names.map String.toList) := by
    obtain ⟨first, rest, rfl⟩ := List.exists_cons_of_ne_nil filled
    rfl
  rw [readPath, isFile, slashed, Path.chars, split, behindDot, readSegments_of_stable stable]
  rfl

theorem readPathStart_of_stable {scheme : String} (notFile : scheme ≠ "file")
    (stable : ∀ name ∈ names, IsStableName (isSpecialScheme scheme) name)
    (filled : names = [] → isSpecialScheme scheme = false) :
    readPathStart scheme (Path.segments names).chars = .segments names := by
  cases names with
  | nil =>
      have plain := filled rfl
      simp [Path.chars, readPathStart, plain]
  | cons first rest =>
      have slash : isSlash (isSpecialScheme scheme) '/' = true := rfl
      rw [segments_chars_eq, readPathStart, slash, if_pos rfl, readPath_of_stable notFile stable]

/-- A path that does not look like an authority has no second slash behind its first one. -/
theorem head?_ne_slash_of_stable {first : String} {rest : List String}
    (stable : ∀ name ∈ first :: rest, IsStableName special name)
    (plain : (Path.segments (first :: rest)).looksLikeAuthority = false) :
    (first.toList ++ rest.flatMap fun name => '/' :: name.toList).head? ≠ some '/' := by
  intro slash
  cases chars : first.toList with
  | nil =>
      cases String.toList_eq_nil_iff.mp chars
      cases rest with
      | nil => cases slash
      | cons second others => cases plain
  | cons c others =>
      rw [chars] at slash
      cases slash
      refine isSlashFree_of_stable stable first List.mem_cons_self ?_
      rw [chars]
      exact List.mem_cons_self

/-- Neither a query nor a fragment begins inside a path. -/
theorem not_endsPath_of_stable (stable : ∀ name ∈ names, IsStableName special name) {c : Char}
    (mem : c ∈ (Path.segments names).chars) : endsPath c = false := by
  obtain rfl | ⟨name, inNames, inName⟩ := mem_segments_chars mem
  · rfl
  · have outside := ((stable name inNames).chars c inName).1
    simp only [pathSet, Bool.or_eq_false_iff] at outside
    have unlisted := outside.2
    simp at unlisted
    simp [endsPath, unlisted]

/-! ## The whole URL -/

theorem assemble_tailChars {scheme : String} {query fragment : Option String}
    (queryWritten : ∀ text ∈ query, ∀ c ∈ text.toList, querySet (isSpecialScheme scheme) c = false)
    (fragmentWritten : ∀ text ∈ fragment, ∀ c ∈ text.toList, fragmentSet c = false)
    (authority : Option Authority) (path : Path) :
    assemble scheme authority path (tailChars query fragment) =
      ⟨scheme, authority, path, query, fragment⟩ := by
  rw [assemble, readTail_tailChars queryWritten fragmentWritten]

namespace IsWritten

variable {url : Url}

/-- What follows the authority is cut at the end of the path. -/
theorem span_path (written : url.IsWritten) (segmented : url.path = .segments names) :
    (url.path.chars ++ tailChars url.query url.fragment).takeWhile (fun c => !endsPath c) =
        url.path.chars ∧
      (url.path.chars ++ tailChars url.query url.fragment).dropWhile (fun c => !endsPath c) =
        tailChars url.query url.fragment := by
  have stable := written.stable names segmented
  refine span_of_stop _ (fun c mem => ?_) fun c first => ?_
  · rw [segmented] at mem
    rw [not_endsPath_of_stable stable mem]
    rfl
  · rw [head?_tailChars first]
    rfl

theorem span_authority (written : url.IsWritten) (segmented : url.path = .segments names)
    {authority : Authority} (present : url.authority = some authority) :
    let behind := url.path.chars ++ tailChars url.query url.fragment
    let inAuthority := fun c => !(isSlash url.isSpecial c || endsPath c)
    (authority.chars ++ behind).takeWhile inAuthority = authority.chars ∧
      (authority.chars ++ behind).dropWhile inAuthority = behind := by
  intro behind inAuthority
  refine span_of_stop _ (fun c mem => ?_) fun c first => ?_
  · obtain ⟨-, noSlash, noEnd⟩ := written.authority authority present c mem
    simp [inAuthority, noSlash, noEnd]
  · have starts : c = '/' ∨ endsPath c = true := by
      dsimp only [behind] at first
      rw [segmented] at first
      cases names with
      | nil => exact .inr (head?_tailChars first)
      | cons name rest => exact .inl (Option.some.inj first).symm
    obtain rfl | ends := starts
    · rfl
    · simp [inAuthority, ends]

end IsWritten

/-- The authority that is read where one is written. -/
def rereadAuthority (url : Url) : Except UrlFault (Option Authority) :=
  match url.authority with
  | none => .ok none
  | some authority => (readAuthority url.scheme authority.chars).map some

theorem splitScheme?_of_written {scheme : String} (written : IsWrittenScheme scheme)
    (rest : List Char) : splitScheme? (scheme.toList ++ ':' :: rest) = some (scheme, rest) := by
  obtain ⟨letter, first, isLetter⟩ := written.first
  have inScheme : ∀ c ∈ scheme.toList, isSchemeChar c = true := fun c mem => (written.chars c mem).1
  have lower : scheme.toList.map Char.toLower = scheme.toList := by
    rw [List.map_congr_left fun c mem => (written.chars c mem).2, List.map_id']
  have colon : isSchemeChar ':' = false := by decide
  obtain ⟨taken, dropped⟩ := span_of_stop (':' :: rest) inScheme (by simp [colon])
  obtain ⟨others, split⟩ : ∃ others, scheme.toList ++ ':' :: rest = letter :: others := by
    cases list : scheme.toList with
    | nil => rw [list] at first; cases first
    | cons head tail =>
        rw [list] at first
        cases first
        exact ⟨_, rfl⟩
  rw [split] at taken dropped ⊢
  rw [splitScheme?, if_pos isLetter, dropped, taken, lower, String.ofList_toList]
  rfl

/-- A path behind a single slash, where there is no authority. -/
theorem readOther_of_slash {scheme : String} {body tail : List Char}
    (free : ∀ c ∈ body, endsPath c = false) (stop : ∀ c ∈ tail.head?, endsPath c = true)
    (single : body.head? ≠ some '/') :
    readOther scheme ('/' :: (body ++ tail)) =
      .ok (assemble scheme none (readPath scheme body) tail) := by
  have inBody : ∀ c ∈ body, (!endsPath c) = true := fun c mem => by rw [free c mem]; rfl
  have behind : ∀ c ∈ tail.head?, (!endsPath c) = false := fun c first => by rw [stop c first]; rfl
  obtain ⟨taken, dropped⟩ := span_of_stop tail inBody behind
  unfold readOther
  dsimp only
  split
  next rest impossible =>
    exfalso
    cases body with
    | nil =>
        rw [List.nil_append] at impossible
        have ends := stop '/' (by rw [(List.cons.inj impossible).2]; rfl)
        cases ends
    | cons c others =>
        have slash := (List.cons.inj (List.cons.inj impossible).2).1
        exact single (congrArg some slash)
  next rest _ same =>
    cases (List.cons.inj same).2
    rw [taken, dropped]
  next _ other => exact absurd rfl (other _)

namespace IsWritten

variable {url : Url}

theorem readBehindSlashes_eq (written : url.IsWritten) (segmented : url.path = .segments names)
    (notFile : url.scheme ≠ "file") {authority : Authority}
    (present : url.authority = some authority) :
    readBehindSlashes url.scheme
        (authority.chars ++ (url.path.chars ++ tailChars url.query url.fragment)) =
      (readAuthority url.scheme authority.chars).map fun read =>
        { url with authority := some read } := by
  obtain ⟨taken, dropped⟩ := written.span_authority segmented present
  obtain ⟨path, tail⟩ := written.span_path segmented
  have names : readPathStart url.scheme url.path.chars = url.path := by
    rw [segmented]
    refine readPathStart_of_stable notFile (written.stable _ segmented) fun empty => ?_
    exact (written.filled (by rw [segmented, empty])).1
  simp only [isSpecial] at taken dropped
  simp only [readBehindSlashes, taken, dropped, path, tail, names,
    assemble_tailChars written.query written.fragment]
  cases readAuthority url.scheme authority.chars <;> rfl

theorem readOther_eq (written : url.IsWritten) (segmented : url.path = .segments names)
    (notFile : url.scheme ≠ "file") (absent : url.authority = none) :
    readOther url.scheme ((if url.path.looksLikeAuthority then ['/', '.'] else []) ++
        url.path.chars ++ tailChars url.query url.fragment) = .ok url := by
  have stable := written.stable names segmented
  have free : ∀ c ∈ url.path.chars, endsPath c = false := by
    rw [segmented]
    exact fun c => not_endsPath_of_stable stable
  have stop : ∀ c ∈ (tailChars url.query url.fragment).head?, endsPath c = true :=
    fun c => head?_tailChars
  have assembled (path : Path) :=
    assemble_tailChars written.query written.fragment none path
  cases names with
  | nil => exact absurd absent (written.filled segmented).2
  | cons first rest =>
      -- Without an authority, a path of empty segments would be taken for one. It is written
      -- behind a dot.
      cases looks : url.path.looksLikeAuthority with
      | true =>
          have dotFree : ∀ c ∈ '.' :: url.path.chars, endsPath c = false :=
            List.forall_mem_cons.mpr ⟨rfl, free⟩
          have single : ('.' :: url.path.chars).head? ≠ some '/' := nofun
          refine (readOther_of_slash dotFree stop single).trans ?_
          rw [segmented, readPath_dot_of_stable notFile stable (List.cons_ne_nil _ _), assembled,
            ← absent, ← segmented]
      | false =>
          rw [segmented, segments_chars_eq] at free
          rw [segmented] at looks
          have single := head?_ne_slash_of_stable stable looks
          have bodyFree : ∀ c ∈ first.toList ++ rest.flatMap fun name => '/' :: name.toList,
              endsPath c = false := fun c mem => free c (List.mem_cons_of_mem _ mem)
          rw [segmented, segments_chars_eq]
          refine (readOther_of_slash bodyFree stop single).trans ?_
          rw [readPath_of_stable notFile stable, assembled, ← absent, ← segmented]

/-- Two slashes lead to the authority, also where all slashes behind the scheme are skipped: there
    the authority has a character to stop this, which the path could not. -/
theorem read_authority_eq (written : url.IsWritten) (notFile : url.scheme ≠ "file")
    {authority : Authority} (present : url.authority = some authority) (behind : List Char) :
    (if isSpecialScheme url.scheme = true then
        readBehindSlashes url.scheme
          (('/' :: '/' :: (authority.chars ++ behind)).dropWhile (isSlash true))
      else readOther url.scheme ('/' :: '/' :: (authority.chars ++ behind))) =
      readBehindSlashes url.scheme (authority.chars ++ behind) := by
  cases special : isSpecialScheme url.scheme with
  | false => rfl
  | true =>
      obtain ⟨_, given, filled⟩ := written.hosted special
      cases present.symm.trans given
      obtain ⟨c, others, chars⟩ := List.exists_cons_of_ne_nil (filled notFile)
      have inside : c ∈ authority.chars := by
        rw [chars]
        exact List.mem_cons_self
      have noSlash := (written.authority authority present c inside).2.1
      rw [isSpecial, special] at noSlash
      rw [chars, List.cons_append, if_pos rfl, List.dropWhile_cons_of_pos rfl,
        List.dropWhile_cons_of_pos rfl, List.dropWhile_cons_of_neg (by simp [noSlash])]

theorem readCleaned_chars (written : url.IsWritten) (segmented : url.path = .segments names)
    (notFile : url.scheme ≠ "file") :
    readCleaned url.chars = url.rereadAuthority.map fun read => { url with authority := read } := by
  rw [chars, readCleaned, splitScheme?_of_written written.scheme]
  dsimp only
  rw [if_neg notFile, rereadAuthority]
  cases present : url.authority with
  | none =>
      have plain : isSpecialScheme url.scheme = false := by
        by_contra special
        obtain ⟨authority, given, -⟩ := written.hosted (eq_true_of_ne_false special)
        rw [present] at given
        cases given
      rw [plain, if_neg Bool.false_ne_true]
      refine (written.readOther_eq segmented notFile present).trans ?_
      exact congrArg (fun read => Except.ok { url with authority := read }) present
  | some authority =>
      have behind := written.readBehindSlashes_eq segmented notFile present
      dsimp only
      rw [List.append_assoc, List.cons_append, List.cons_append]
      rw [written.read_authority_eq notFile present, behind]
      cases readAuthority url.scheme authority.chars <;> rfl

theorem visible_of_mem_path (written : url.IsWritten) (segmented : url.path = .segments names)
    {c : Char} (mem : c ∈ url.path.chars) : 32 < c.toNat := by
  rw [segmented] at mem
  obtain rfl | ⟨name, inNames, inName⟩ := mem_segments_chars mem
  · decide
  · exact visible_of_pathSet ((written.stable names segmented name inNames).chars c inName).1

theorem visible_of_mem_tail (written : url.IsWritten) {c : Char}
    (mem : c ∈ tailChars url.query url.fragment) : 32 < c.toNat := by
  unfold tailChars at mem
  rw [List.mem_append] at mem
  obtain mem | mem := mem
  · cases query : url.query with
    | none => rw [query] at mem; cases mem
    | some text =>
        rw [query] at mem
        obtain rfl | mem := List.mem_cons.mp mem
        · decide
        · exact visible_of_querySet (written.query text query c mem)
  · cases fragment : url.fragment with
    | none => rw [fragment] at mem; cases mem
    | some text =>
        rw [fragment] at mem
        obtain rfl | mem := List.mem_cons.mp mem
        · decide
        · exact visible_of_fragmentSet (written.fragment text fragment c mem)

/-- The characters of a URL are none that is dropped when a text is read. -/
theorem printable (written : url.IsWritten) (segmented : url.path = .segments names) {c : Char}
    (mem : c ∈ url.chars) : 32 < c.toNat := by
  rw [chars, List.mem_append, List.mem_cons, List.mem_append, List.mem_append] at mem
  obtain inScheme | rfl | (start | path) | tail := mem
  · exact visible_of_isSchemeChar (written.scheme.chars c inScheme).1
  · decide
  · cases present : url.authority with
    | none =>
        rw [present] at start
        dsimp only at start
        split at start
        next =>
          simp only [List.mem_cons, List.not_mem_nil, or_false] at start
          obtain rfl | rfl := start <;> decide
        next => cases start
    | some authority =>
        rw [present] at start
        simp only [List.mem_cons] at start
        obtain rfl | rfl | inAuthority := start
        · decide
        · decide
        · exact (written.authority authority present c inAuthority).1
  · exact written.visible_of_mem_path segmented path
  · exact written.visible_of_mem_tail tail

/-- The text of a URL reads as the URL itself, its authority being read by itself. -/
theorem parse_text (written : url.IsWritten) (segmented : url.path = .segments names)
    (notFile : url.scheme ≠ "file") :
    parse url.text =
      (url.rereadAuthority.map fun read => { url with authority := read }).mapError .url := by
  have trimmed : trimWhere (fun c => c.toNat ≤ 32) url.chars = url.chars := by
    refine trimWhere_of_free fun c mem => decide_eq_false ?_
    exact Nat.not_le.mpr (written.printable segmented mem)
  have kept : (url.chars.filter fun c => !isIgnored c) = url.chars := by
    refine List.filter_eq_self.mpr fun c mem => ?_
    have visible := written.printable segmented mem
    rw [isIgnored_of_visible visible]
    rfl
  simp only [parse, text, String.toList_ofList, trimmed, kept,
    written.readCleaned_chars segmented notFile]

end IsWritten

end DocStore.Url
