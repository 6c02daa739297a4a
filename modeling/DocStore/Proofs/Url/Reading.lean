import DocStore.Proofs.Url.Host
import Mathlib.Data.List.TakeWhile

/-! # URLs that were read

Every URL that is read from a text can be written and read again. What is kept of a part of the
text has been escaped where it could end the part, and the segments of a path have neither slashes
nor dots.
-/

namespace DocStore.Url

/-! ## Dots -/

theorem eq_dot_of_utf8EncodeChar {c : Char} {more : List UInt8}
    (encoded : String.utf8EncodeChar c = 46 :: more) : c = '.' := by
  have same : Char.ofNat c.val.toNat = c := Char.ofNat_toNat c
  have first {n : Nat} {rest : List UInt8} (starts : UInt8.ofNat n :: rest = 46 :: more) :
      n % 256 = 46 := congrArg UInt8.toNat (List.cons.inj starts).1
  unfold String.utf8EncodeChar at encoded
  generalize c.val.toNat = n at same encoded
  dsimp only at encoded
  -- The first byte of a longer character is above it.
  split at encoded
  next ascii =>
    have code : n = 46 := by
      have := first encoded
      omega
    rw [← same, code]
  next =>
    exfalso
    split at encoded
    next => have := first encoded; omega
    next =>
      split at encoded
      next => have := first encoded; omega
      next => have := first encoded; omega

/-- The texts of one or two dots, each as such or as an escape. -/
def dotTexts : List (List Char) :=
  [".", "%2e", "..", ".%2e", "%2e.", "%2e%2e"].map String.toList

theorem mem_dotTexts {segment : List Char} :
    segment.map Char.toLower ∈ dotTexts ↔
      isSingleDot segment = true ∨ isDoubleDot segment = true := by
  simp [dotTexts, isSingleDot, isDoubleDot, or_assoc]

/-- In a text of dots, each percent sign begins the escape of a dot. -/
theorem percent_of_mem_dotTexts {before rest : List Char} {high low : Char}
    (dots : before ++ '%' :: high :: low :: rest ∈ dotTexts) : high = '2' ∧ low = 'e' := by
  have places : ∀ text ∈ dotTexts, ∀ place < 6, text[place]? = some '%' →
      text[place + 1]? = some '2' ∧ text[place + 2]? = some 'e' := by decide
  have long : ∀ text ∈ dotTexts, text.length ≤ 6 := by decide
  have limit := long _ dots
  rw [List.length_append, List.length_cons] at limit
  have found := places _ dots before.length (by omega) (by simp)
  simpa using found

/-- What escapes something other than a dot is no text of dots. -/
theorem escape_eq_self_of_dots {set : EscapeSet} (dot : set '.' = false) {text : List Char}
    (dots : (escape set text).map Char.toLower ∈ dotTexts) : escape set text = text := by
  refine escape_eq_self fun c mem => ?_
  refine eq_false_of_ne_true fun escaped => ?_
  obtain ⟨before, after, rfl⟩ := List.append_of_mem mem
  obtain ⟨byte, more, encoded⟩ : ∃ byte more, String.utf8EncodeChar c = byte :: more :=
    List.exists_cons_of_ne_nil (by simp)
  have written : escape set (before ++ c :: after) =
      escape set before ++ '%' :: upperHexDigit (byte.toNat / 16) ::
        upperHexDigit (byte.toNat % 16) :: (more.flatMap escapeByte ++ escape set after) := by
    simp [escape, escaped, escapeChar, encoded, escapeByte]
  -- An escape in the text of dots would be that of a dot, which is none that is escaped.
  rw [written, List.map_append, List.map_cons, List.map_cons, List.map_cons] at dots
  obtain ⟨high, low⟩ := percent_of_mem_dotTexts dots
  have small := byte.toNat_lt
  have highDigits : ∀ n < 16, (upperHexDigit n).toLower = '2' → n = 2 := by decide
  have lowDigits : ∀ n < 16, (upperHexDigit n).toLower = 'e' → n = 14 := by decide
  have isHigh := highDigits _ (by omega) high
  have isLow := lowDigits _ (by omega) low
  have code : byte = 46 := UInt8.toNat_inj.mp (by simp; omega)
  subst code
  rw [eq_dot_of_utf8EncodeChar encoded, dot] at escaped
  cases escaped

/-! ## Segments -/

variable {special : Bool} {names : List String}

theorem isStableName_escape_path {text : List Char} (free : ∀ c ∈ text, isSlash special c = false)
    (noDots : text.map Char.toLower ∉ dotTexts) :
    IsStableName special (String.ofList (escape pathSet text)) := by
  have written : ¬(isSingleDot (escape pathSet text) = true ∨
      isDoubleDot (escape pathSet text) = true) := by
    intro dots
    rw [← mem_dotTexts] at dots
    rw [escape_eq_self_of_dots (by decide) dots] at dots
    exact noDots dots
  rw [← String.toList_ofList (l := escape _ _), not_or, Bool.not_eq_true, Bool.not_eq_true]
    at written
  refine ⟨fun c mem => ?_, written.1, written.2⟩
  rw [String.toList_ofList] at mem
  refine ⟨not_set_of_mem_escape (by decide) mem, ?_⟩
  obtain ⟨inText, -⟩ | rfl | ⟨n, small, rfl⟩ := mem_escape mem
  · exact free c inText
  · cases special <;> rfl
  · have digits : ∀ n < 16, ∀ special, isSlash special (upperHexDigit n) = false := by decide
    exact digits n small special

/-- A segment without dots is read as it is written then, also one that names a drive. -/
theorem isStableName_segmentText (file : Bool) (names : List String) {segment : List Char}
    (free : ∀ c ∈ segment, isSlash special c = false) (noDot : isSingleDot segment = false)
    (noDots : isDoubleDot segment = false) :
    IsStableName special (segmentText file names segment) := by
  unfold segmentText
  dsimp only
  split
  · refine isStableName_escape_path (fun c mem => ?_) fun dots => ?_
    · obtain inSegment | colon := List.mem_append.mp mem
      · exact free c (List.mem_of_mem_take inSegment)
      · cases List.mem_singleton.mp colon
        cases special <;> rfl
    · have noColon : ∀ text ∈ dotTexts, ':' ∉ text := by decide
      refine noColon _ dots (List.mem_map.mpr ⟨':', ?_, rfl⟩)
      exact List.mem_append_right _ (List.mem_singleton_self _)
  · refine isStableName_escape_path free fun dots => ?_
    rw [mem_dotTexts, noDot, noDots] at dots
    simp at dots

theorem stable_parentOf (stable : ∀ name ∈ names, IsStableName special name) (file : Bool) :
    ∀ name ∈ parentOf file names, IsStableName special name := by
  unfold parentOf
  dsimp only
  split
  · exact stable
  · exact fun name mem => stable name (List.dropLast_subset _ mem)

theorem stable_concat {last : String} (stable : ∀ name ∈ names, IsStableName special name)
    (lastStable : IsStableName special last) :
    ∀ name ∈ names ++ [last], IsStableName special name :=
  List.forall_mem_append.mpr ⟨stable, List.forall_mem_singleton.mpr lastStable⟩

theorem stable_readSegments (stable : ∀ name ∈ names, IsStableName special name) (file : Bool)
    {segments : List (List Char)}
    (free : ∀ segment ∈ segments, ∀ c ∈ segment, isSlash special c = false) :
    ∀ name ∈ readSegments file names segments, IsStableName special name := by
  have text (names : List String) {segment : List Char}
      (free : ∀ c ∈ segment, isSlash special c = false) (noDots : ¬isDoubleDot segment = true)
      (noDot : ¬isSingleDot segment = true) :
      IsStableName special (segmentText file names segment) :=
    isStableName_segmentText file names free (eq_false_of_ne_true noDot)
      (eq_false_of_ne_true noDots)
  fun_induction readSegments file names segments with
  | case1 names => exact stable
  | case2 names last dots =>
      exact stable_concat (stable_parentOf stable file) (isStableName_empty special)
  | case3 names last _ dot => exact stable_concat stable (isStableName_empty special)
  | case4 names last noDots noDot =>
      exact stable_concat stable (text names (free last List.mem_cons_self) noDots noDot)
  | case5 names segment rest _ _ ih =>
      exact ih (stable_parentOf stable file) (List.forall_mem_cons.mp free).2
  | case6 names segment rest _ _ _ ih => exact ih stable (List.forall_mem_cons.mp free).2
  | case7 names segment rest _ noDots noDot ih =>
      obtain ⟨segmentFree, restFree⟩ := List.forall_mem_cons.mp free
      exact ih (stable_concat stable (text names segmentFree noDots noDot)) restFree

theorem readSegments_ne_nil (file : Bool) (names : List String) {segments : List (List Char)}
    (filled : segments ≠ []) : readSegments file names segments ≠ [] := by
  have concat {names : List String} {last : String} : names ++ [last] ≠ [] :=
    List.append_ne_nil_of_right_ne_nil _ (List.cons_ne_nil _ _)
  fun_induction readSegments file names segments with
  | case1 names => exact absurd rfl filled
  | case2 | case3 | case4 => exact concat
  | case5 _ _ rest _ _ ih | case6 _ _ rest _ _ _ ih | case7 _ _ rest _ _ _ ih =>
      exact ih (by assumption)

theorem withoutEmptyStart_subset (names : List String) : withoutEmptyStart names ⊆ names := by
  fun_induction withoutEmptyStart names with
  | case1 name rest ih => exact List.subset_cons_of_subset _ ih
  | case2 names => exact List.Subset.refl names

theorem withoutEmptyStart_ne_nil (filled : names ≠ []) : withoutEmptyStart names ≠ [] := by
  fun_induction withoutEmptyStart names with
  | case1 name rest ih => exact ih (List.cons_ne_nil _ _)
  | case2 names => exact filled

/-- A path that was read has a segment, and its segments are read as they are. -/
theorem readPath_written (scheme : String) (text : List Char) :
    ∃ names, readPath scheme text = .segments names ∧ names ≠ [] ∧
      ∀ name ∈ names, IsStableName (isSpecialScheme scheme) name := by
  let slashed := text.map fun c => if isSlash (isSpecialScheme scheme) c then '/' else c
  let read := readSegments (scheme == "file") [] (splitChars '/' slashed)
  have free : ∀ segment ∈ splitChars '/' slashed, ∀ c ∈ segment,
      isSlash (isSpecialScheme scheme) c = false := by
    intro segment mem c inSegment
    obtain ⟨source, -, written⟩ := List.mem_map.mp (mem_of_mem_splitChars mem inSegment)
    split at written
    next =>
      rw [← written] at inSegment
      exact absurd inSegment (free_of_mem_splitChars mem)
    next noSlash =>
      rw [← written]
      exact eq_false_of_ne_true noSlash
  have split : splitChars '/' slashed ≠ [] := by
    rw [splitChars_eq_splitOn]
    exact List.splitOn_ne_nil '/' slashed
  have filled : read ≠ [] := readSegments_ne_nil _ _ split
  have stable := stable_readSegments (List.forall_mem_nil _) (scheme == "file") free
  cases file : scheme == "file" with
  | true =>
      refine ⟨withoutEmptyStart read, ?_, withoutEmptyStart_ne_nil filled,
        fun name mem => stable name (withoutEmptyStart_subset _ mem)⟩
      rw [readPath, file, if_pos rfl]
      simp [read, slashed, file]
  | false =>
      exact ⟨read, by rw [readPath, file]; simp [read, slashed, file], filled, stable⟩

/-- Behind an authority a path may be empty, under a scheme that is not special. -/
theorem readPathStart_written (scheme : String) (text : List Char) :
    ∃ names, readPathStart scheme text = .segments names ∧
      (names = [] → isSpecialScheme scheme = false) ∧
      ∀ name ∈ names, IsStableName (isSpecialScheme scheme) name := by
  cases text with
  | nil =>
      rw [readPathStart]
      cases isSpecialScheme scheme with
      | true =>
          exact ⟨[""], rfl, fun empty => absurd empty (List.cons_ne_nil _ _),
            List.forall_mem_singleton.mpr (isStableName_empty true)⟩
      | false => exact ⟨[], rfl, fun _ => rfl, List.forall_mem_nil _⟩
  | cons c rest =>
      obtain ⟨names, read, filled, stable⟩ := readPath_written scheme
        (if isSlash (isSpecialScheme scheme) c then rest else c :: rest)
      exact ⟨names, read, fun empty => absurd empty filled, stable⟩

/-! ## Authorities -/

theorem isStable_userinfoSet : userinfoSet.IsStable := by decide

theorem isAuthorityChar_of_userinfoSet {c : Char} (outside : userinfoSet c = false) :
    IsAuthorityChar true c := by
  rw [userinfoSet, Bool.or_eq_false_iff] at outside
  obtain ⟨outsidePath, unlisted⟩ := outside
  refine ⟨visible_of_pathSet outsidePath, ?_, ?_⟩
  · simp at unlisted
    simp [isSlash, unlisted]
  · rw [pathSet, Bool.or_eq_false_iff] at outsidePath
    have unended := outsidePath.2
    simp at unended
    simp [endsPath, unended]

/-- What an authority is written with, if its parts stay inside it. -/
theorem isAuthorityChar_chars {authority : Authority}
    (username : ∀ c ∈ authority.username.toList, IsAuthorityChar true c)
    (password : ∀ c ∈ authority.password.toList, IsAuthorityChar true c)
    (host : ∀ host ∈ authority.host, ∀ c ∈ host.text, IsAuthorityChar true c) :
    ∀ c ∈ authority.chars, IsAuthorityChar true c := by
  have behindColon {text : List Char} (inText : ∀ c ∈ text, IsAuthorityChar true c) :
      ∀ c ∈ ':' :: text, IsAuthorityChar true c :=
    List.forall_mem_cons.mpr ⟨by decide, inText⟩
  unfold Authority.chars
  dsimp only
  rw [List.forall_mem_append, List.forall_mem_append]
  refine ⟨⟨?_, ?_⟩, ?_⟩
  · split
    · exact List.forall_mem_nil _
    · rw [List.forall_mem_append, List.forall_mem_append]
      refine ⟨⟨username, ?_⟩, List.forall_mem_singleton.mpr (by decide)⟩
      split
      · exact List.forall_mem_nil _
      · exact behindColon password
  · cases present : authority.host with
    | none => exact List.forall_mem_nil _
    | some named => exact host named present
  · split
    · exact behindColon fun c => isAuthorityChar_of_mem_toDigits (by decide) (by decide)
    · exact List.forall_mem_nil _

theorem chars_ne_nil_of_host {authority : Authority} {host : Host}
    (present : authority.host = some host) (filled : host.text ≠ []) : authority.chars ≠ [] := by
  simp [Authority.chars, present, filled]

theorem isAuthorityChar_readUserinfo (userinfo : List Char) :
    (∀ c ∈ (readUserinfo userinfo).1.toList, IsAuthorityChar true c) ∧
      ∀ c ∈ (readUserinfo userinfo).2.toList, IsAuthorityChar true c := by
  have escaped {text : List Char} :
      ∀ c ∈ (String.ofList (escape userinfoSet text)).toList, IsAuthorityChar true c := by
    intro c mem
    rw [String.toList_ofList] at mem
    exact isAuthorityChar_of_userinfoSet (not_set_of_mem_escape isStable_userinfoSet mem)
  exact ⟨escaped, escaped⟩

theorem readAuthority_ensures (scheme : String) (text : List Char) :
    Ensures (readAuthority scheme text) fun authority =>
      (∀ c ∈ authority.chars, IsAuthorityChar true c) ∧
        (isSpecialScheme scheme = true → authority.chars ≠ []) := by
  unfold readAuthority
  dsimp only
  obtain ⟨username, password⟩ :=
    isAuthorityChar_readUserinfo ((splitUserinfo? text).getD ([], text)).1
  refine .branch (fun _ => ?_) fun _ => ?_
  · refine .branch (fun _ => .error _) fun plain => .ok ⟨?_, fun special => ?_⟩
    · exact isAuthorityChar_chars username password nofun
    · simp [special] at plain
  · cases special : isSpecialScheme scheme with
    | true =>
        refine .bind fun host read => .bind fun port _ => .ok ?_
        obtain ⟨inAuthority, filled⟩ := Host.isAuthorityChar_of_parse read
        refine ⟨isAuthorityChar_chars username password fun named same => ?_, fun _ =>
          chars_ne_nil_of_host rfl filled⟩
        cases same
        exact inAuthority
    | false =>
        refine .bind fun host read => .bind fun port _ => .ok ⟨?_, nofun⟩
        refine isAuthorityChar_chars username password fun named same => ?_
        cases same
        exact Host.isAuthorityChar_of_parseOther read

/-! ## Schemes -/

/-- A character in lower case is the character itself or a small letter. -/
theorem toLower_cases (c : Char) :
    c.toLower = c ∨ 97 ≤ c.toLower.toNat ∧ c.toLower.toNat ≤ 122 := by
  obtain same | ⟨shifted, least, greatest⟩ := eq_or_upper_of_toLower (c := c) rfl
  · exact .inl same.symm
  · exact .inr ⟨by omega, by omega⟩

theorem isSchemeChar_of_isAlpha {c : Char} (isLetter : c.isAlpha = true) :
    isSchemeChar c = true := by
  have alphanumeric : c.isAlphanum = true := isAlphanum_iff.mpr (.inl (isAlpha_iff.mp isLetter))
  rw [isSchemeChar, alphanumeric]
  rfl

theorem toLower_of_small {c : Char} (least : 97 ≤ c.toNat) : c.toLower = c := by
  unfold Char.toLower
  split
  next upper =>
    have greatest : c.toNat ≤ 90 := upper.2
    omega
  next => rfl

theorem isWrittenScheme_of_split {text rest : List Char} {scheme : String}
    (split : splitScheme? text = some (scheme, rest)) : IsWrittenScheme scheme := by
  unfold splitScheme? at split
  split at split
  next first others =>
    split at split
    next isLetter =>
      split at split
      next =>
        cases split
        have inScheme := isSchemeChar_of_isAlpha isLetter
        refine ⟨⟨first.toLower, ?_, ?_⟩, fun c mem => ?_⟩
        · simp [inScheme]
        · obtain same | ⟨least, greatest⟩ := toLower_cases first
          · rw [same, isLetter]
          · exact isAlpha_iff.mpr (.inr ⟨least, greatest⟩)
        · rw [String.toList_ofList] at mem
          obtain ⟨source, taken, rfl⟩ := List.mem_map.mp mem
          obtain same | ⟨least, greatest⟩ := toLower_cases source
          · rw [same]
            exact ⟨List.mem_takeWhile_imp taken, same⟩
          · have isLetter := isAlpha_iff.mpr (.inr ⟨least, greatest⟩)
            exact ⟨isSchemeChar_of_isAlpha isLetter, toLower_of_small least⟩
      next => cases split
    next => cases split
  next => cases split

/-! ## URLs -/

theorem readTail_written (special : Bool) (text : List Char) :
    (∀ query ∈ (readTail special text).1, ∀ c ∈ query.toList, querySet special c = false) ∧
      ∀ fragment ∈ (readTail special text).2, ∀ c ∈ fragment.toList, fragmentSet c = false := by
  have escaped {set : EscapeSet} (stable : set.IsStable) {source : List Char} {written : String}
      (same : some (String.ofList (escape set source)) = some written) :
      ∀ c ∈ written.toList, set c = false := by
    cases same
    rw [String.toList_ofList]
    exact fun c => not_set_of_mem_escape stable
  have querySet_stable : (querySet special).IsStable := by cases special <;> decide
  have fragmentSet_stable : fragmentSet.IsStable := by decide
  unfold readTail
  split
  · refine ⟨fun query same => escaped querySet_stable same, fun fragment same => ?_⟩
    dsimp only at same
    split at same
    · exact escaped fragmentSet_stable same
    · cases same
  · exact ⟨nofun, fun fragment same => escaped fragmentSet_stable same⟩
  · exact ⟨nofun, nofun⟩

theorem isWritten_assemble {scheme : String} (written : IsWrittenScheme scheme)
    {authority : Option Authority}
    (inside : ∀ present ∈ authority, ∀ c ∈ present.chars, IsAuthorityChar true c)
    (hosted : isSpecialScheme scheme = true →
      ∃ present ∈ authority, scheme ≠ "file" → present.chars ≠ [])
    {path : Path}
    (stable : ∀ names, path = .segments names →
      ∀ name ∈ names, IsStableName (isSpecialScheme scheme) name)
    (filled : path = .segments [] → isSpecialScheme scheme = false ∧ authority ≠ none)
    (tail : List Char) : (assemble scheme authority path tail).IsWritten where
  scheme := written
  authority := fun present same c mem => (inside present same c mem).ofSpecial _
  hosted := hosted
  stable := stable
  filled := filled
  query := (readTail_written _ tail).1
  fragment := (readTail_written _ tail).2

theorem readBehindSlashes_written {scheme : String} (written : IsWrittenScheme scheme)
    (text : List Char) : Ensures (readBehindSlashes scheme text) IsWritten := by
  refine .bind fun authority read => .ok ?_
  obtain ⟨inside, filled⟩ := readAuthority_ensures _ _ _ read
  obtain ⟨names, path, empty, stable⟩ := readPathStart_written scheme _
  refine isWritten_assemble written (fun present same => ?_)
    (fun special => ⟨authority, rfl, fun _ => filled special⟩) (fun others same => ?_)
    (fun same => ?_) _
  · cases same
    exact inside
  · cases path.symm.trans same
    exact stable
  · cases path.symm.trans same
    exact ⟨empty rfl, nofun⟩

theorem readOther_written {scheme : String} (written : IsWrittenScheme scheme)
    (plain : isSpecialScheme scheme = false) (text : List Char) :
    Ensures (readOther scheme text) IsWritten := by
  have unhosted (special : isSpecialScheme scheme = true) :
      ∃ present ∈ (none : Option Authority), scheme ≠ "file" → present.chars ≠ [] := by
    rw [plain] at special
    cases special
  have outside (present : Authority) (impossible : present ∈ (none : Option Authority)) :
      ∀ c ∈ present.chars, IsAuthorityChar true c := by
    cases impossible
  unfold readOther
  dsimp only
  split
  · exact readBehindSlashes_written written _
  · obtain ⟨names, path, filled, stable⟩ := readPath_written scheme _
    rw [path]
    refine .ok (isWritten_assemble written outside unhosted (fun others same => ?_)
      (fun same => ?_) _)
    · cases same
      exact stable
    · cases same
      exact absurd rfl filled
  · refine .ok (isWritten_assemble written outside unhosted (fun names impossible => ?_)
      (fun impossible => ?_) _)
    · cases impossible
    · cases impossible

theorem readFile_written {scheme : String} (file : scheme = "file") (text : List Char) :
    Ensures (readFile scheme text) IsWritten := by
  have written : IsWrittenScheme scheme := by
    subst file
    exact .of_all rfl rfl
  have assembled (drive : Bool) {host : Option Host}
      (inHost : ∀ named ∈ host, ∀ c ∈ named.text, IsAuthorityChar true c) (start tail : List Char) :
      IsWritten (assemble scheme (some (.ofHost (if drive then none else host)))
        (readPathStart scheme start) tail) := by
    obtain ⟨names, path, empty, stable⟩ := readPathStart_written scheme start
    refine isWritten_assemble written (fun present same => ?_)
      (fun _ => ⟨_, rfl, fun notFile => absurd file notFile⟩) (fun others same => ?_)
      (fun same => ?_) _
    · cases same
      refine isAuthorityChar_chars nofun nofun ?_
      cases drive with
      | true => nofun
      | false => exact inHost
    · cases path.symm.trans same
      exact stable
    · cases path.symm.trans same
      exact ⟨empty rfl, nofun⟩
  have noHost : ∀ named ∈ (none : Option Host), ∀ c ∈ named.text, IsAuthorityChar true c := nofun
  unfold readFile
  dsimp only
  split
  · refine .branch (fun _ => ?_) (fun _ => .ok (assembled _ noHost _ _))
    refine .branch (fun _ => .ok (assembled _ noHost _ _)) (fun _ => ?_)
    refine .branch (fun _ => ?_) (fun _ => ?_)
    · refine .bind fun host absent => .ok (assembled _ ?_ _ _)
      cases absent
      split <;> exact noHost
    · refine .bind fun host parsed => .ok (assembled _ ?_ _ _)
      obtain ⟨named, read, rfl⟩ := map_eq_ok_iff.mp parsed
      split
      · exact noHost
      · intro other same
        cases same
        exact (Host.isAuthorityChar_of_parse read).1
  · exact .ok (assembled _ noHost _ _)

theorem readCleaned_written (text : List Char) : Ensures (readCleaned text) IsWritten := by
  unfold readCleaned
  split
  · exact .error _
  · next scheme rest split =>
    have written := isWrittenScheme_of_split split
    refine .branch (fun file => readFile_written file _) (fun _ => ?_)
    refine .branch (fun _ => readBehindSlashes_written written _) (fun plain => ?_)
    exact readOther_written written (eq_false_of_ne_true plain) _

/-- A URL that was read can be written and read again. -/
theorem isWritten_of_parse {text : String} {url : Url} (parsed : parse text = .ok url) :
    url.IsWritten :=
  readCleaned_written _ _ (mapError_eq_ok_iff.mp parsed)

end DocStore.Url
