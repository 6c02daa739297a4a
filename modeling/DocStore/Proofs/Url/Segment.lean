import DocStore.Proofs.Url.Encoding
import DocStore.Url.Type
import Mathlib.Data.List.Induction

/-! # Appending segments to a path

A text that is appended to a path can be read back from it exactly when it is a literal one: it is
neither one nor two dots, and has none of the characters that a URL ignores. Any other text is
left out, changed, or takes away the segment before it.
-/

namespace DocStore.Url

/-- A text that stands for itself as a segment. -/
def IsLiteral (text : String) : Prop :=
  text ≠ "." ∧ text ≠ ".." ∧ ∀ c ∈ text.toList, isIgnored c = false

instance : DecidablePred IsLiteral := fun text =>
  decidable_of_iff (text ≠ "." ∧ text ≠ ".." ∧ (text.toList.all fun c => !isIgnored c) = true)
    (by simp only [IsLiteral, List.all_eq_true, Bool.not_eq_true'])

/-- What a segment of a path says, its escapes being resolved. -/
def decoded (name : String) : List UInt8 :=
  unescape name.toList

theorem eq_or_upper_of_toLower {c d : Char} (lowered : c.toLower = d) :
    c = d ∨ c.toNat + 32 = d.toNat ∧ 65 ≤ c.toNat ∧ c.toNat ≤ 90 := by
  subst lowered
  unfold Char.toLower
  split
  next upper =>
    right
    have lower : 65 ≤ c.val.toNat := upper.1
    have higher : c.val.toNat ≤ 90 := upper.2
    refine ⟨?_, lower, higher⟩
    change c.val.toNat + 32 = (c.val + 32).toNat
    rw [UInt32.toNat_add]
    change _ = (c.val.toNat + 32) % 4294967296
    omega
  next => exact .inl rfl

theorem eq_of_toLower_of_small {c d : Char} (small : d.toNat < 97) (lowered : c.toLower = d) :
    c = d := by
  obtain same | ⟨upper, _, _⟩ := eq_or_upper_of_toLower lowered
  · exact same
  · omega

/-- Reading one dot, which may be written as an escape. -/
theorem unescape_dot {dot : List Char} (isDot : dot.map Char.toLower = ['.'] ∨
    dot.map Char.toLower = ['%', '2', 'e']) (rest : List Char) :
    unescape (dot ++ rest) = 46 :: unescape rest := by
  simp only [List.map_eq_cons_iff, List.map_eq_nil_iff] at isDot
  obtain ⟨c, _, rfl, plain, rfl⟩ | ⟨mark, _, rfl, marked, high, _, rfl, highDigit, low, _, rfl,
    lowDigit, rfl⟩ := isDot
  · rw [eq_of_toLower_of_small (by decide) plain]
    rfl
  · rw [eq_of_toLower_of_small (by decide) marked, eq_of_toLower_of_small (by decide) highDigit]
    obtain rfl | ⟨upper, _, _⟩ := eq_or_upper_of_toLower lowDigit
    · rfl
    · have capital : low = 'E' := by
        rw [← Char.ofNat_toNat low, show low.toNat = 69 by simpa using upper]
      rw [capital]
      rfl

theorem unescape_of_isSingleDot {segment : List Char} (isDot : isSingleDot segment = true) :
    unescape segment = [46] := by
  have written : segment.map Char.toLower = ['.'] ∨ segment.map Char.toLower = ['%', '2', 'e'] := by
    simpa [isSingleDot] using isDot
  have read := unescape_dot written []
  rwa [List.append_nil] at read

/-- Two dots are one dot behind another, each of them in either form. -/
theorem unescape_of_isDoubleDot {segment : List Char} (areDots : isDoubleDot segment = true) :
    unescape segment = [46, 46] := by
  obtain ⟨first, second, rfl, isFirst, isSecond⟩ : ∃ first second, segment = first ++ second ∧
      (first.map Char.toLower = ['.'] ∨ first.map Char.toLower = ['%', '2', 'e']) ∧
      (second.map Char.toLower = ['.'] ∨ second.map Char.toLower = ['%', '2', 'e']) := by
    have written : segment.map Char.toLower = ['.'] ++ ['.'] ∨
        segment.map Char.toLower = ['.'] ++ ['%', '2', 'e'] ∨
        segment.map Char.toLower = ['%', '2', 'e'] ++ ['.'] ∨
        segment.map Char.toLower = ['%', '2', 'e'] ++ ['%', '2', 'e'] := by
      simpa [isDoubleDot] using areDots
    simp only [List.map_eq_append_iff] at written
    rcases written with ⟨first, second, rfl, isFirst, isSecond⟩ |
      ⟨first, second, rfl, isFirst, isSecond⟩ | ⟨first, second, rfl, isFirst, isSecond⟩ |
      ⟨first, second, rfl, isFirst, isSecond⟩
    all_goals exact ⟨first, second, rfl, by simp [isFirst], by simp [isSecond]⟩
  have read := unescape_dot isSecond []
  rw [List.append_nil] at read
  rw [unescape_dot isFirst, read]
  rfl

theorem unescape_segment (special : Bool) (text : List Char) :
    unescape (escape (segmentSet special) text) = bytesOf text :=
  unescape_escape (by simp [segmentSet]) text

theorem eq_of_isSingleDot {special : Bool} {text : List Char}
    (isDot : isSingleDot (escape (segmentSet special) text) = true) : text = ['.'] := by
  have read := unescape_of_isSingleDot isDot
  rw [unescape_segment] at read
  exact bytesOf_inj.mp (read.trans rfl)

theorem eq_of_isDoubleDot {special : Bool} {text : List Char}
    (areDots : isDoubleDot (escape (segmentSet special) text) = true) : text = ['.', '.'] := by
  have read := unescape_of_isDoubleDot areDots
  rw [unescape_segment] at read
  exact bytesOf_inj.mp (read.trans rfl)

/-- A path that has a segment, so that the next one is put behind it. -/
def IsStarted (names : List String) : Prop :=
  names ≠ [] ∧ names ≠ [""]

theorem isStarted_of_length {names : List String} (long : 2 ≤ names.length) : IsStarted names := by
  constructor <;> (rintro rfl; simp at long)

theorem filter_isIgnored_eq_self {text : String} :
    (text.toList.filter fun c => !isIgnored c) = text.toList ↔
      ∀ c ∈ text.toList, isIgnored c = false := by
  rw [List.filter_eq_self]
  simp only [Bool.not_eq_true']

/-- A text is put behind the others, where it can be read back if it is literal; or else the path
    gets no longer. -/
theorem pushSegment_cases (special : Bool) {names : List String} (started : IsStarted names)
    (text : String) :
    (∃ name, pushSegment special names text = names ++ [name] ∧
        (decoded name = bytesOf text.toList ↔ IsLiteral text)) ∨
      (pushSegment special names text).length ≤ names.length ∧ ¬IsLiteral text := by
  obtain ⟨filled, notRoot⟩ := started
  unfold pushSegment appendSegment
  simp only [if_neg notRoot]
  split
  next dots =>
    refine .inr ⟨Nat.le_refl _, ?_⟩
    rintro ⟨notDot, notDots, -⟩
    exact dots.elim notDot notDots
  next noDots =>
    have noDots := not_or.mp noDots
    have unchanged : IsLiteral text ↔ (text.toList.filter fun c => !isIgnored c) = text.toList := by
      rw [filter_isIgnored_eq_self]
      exact ⟨fun literal => literal.2.2, fun kept => ⟨noDots.1, noDots.2, kept⟩⟩
    split
    next areDots =>
      right
      constructor
      · rw [List.length_append, List.length_dropLast, List.length_singleton]
        have := List.length_pos_iff.mpr filled
        omega
      · intro literal
        have same := (unchanged.mp literal).symm.trans (eq_of_isDoubleDot areDots)
        exact noDots.2 (String.toList_inj.mp same)
    next noDoubleDot =>
      left
      split
      next isDot =>
        refine ⟨"", rfl, ?_⟩
        constructor
        · intro read
          have empty : text.toList = [] := bytesOf_inj.mp read.symm
          rw [empty] at isDot
          cases isDot
        · intro literal
          have same := (unchanged.mp literal).symm.trans (eq_of_isSingleDot isDot)
          exact absurd (String.toList_inj.mp same) noDots.1
      next noSingleDot =>
        refine ⟨_, rfl, ?_⟩
        rw [decoded, String.toList_ofList, unescape_segment, bytesOf_inj, unchanged]

theorem length_pushSegment_le (special : Bool) (names : List String) (text : String) :
    (pushSegment special names text).length ≤ names.length + 1 := by
  unfold pushSegment appendSegment
  grind

theorem length_foldl_pushSegment_le (special : Bool) (names texts : List String) :
    (texts.foldl (pushSegment special) names).length ≤ names.length + texts.length := by
  induction texts generalizing names with
  | nil => exact Nat.le_refl _
  | cons text rest ih =>
      have grows := length_pushSegment_le special names text
      have later := ih (pushSegment special names text)
      rw [List.foldl_cons, List.length_cons]
      omega

/-- A path that got as long as it can is still one that the next text is put behind. -/
theorem IsStarted.foldl {names : List String} (started : IsStarted names) (special : Bool)
    (texts : List String)
    (long : (texts.foldl (pushSegment special) names).length = names.length + texts.length) :
    IsStarted (texts.foldl (pushSegment special) names) := by
  cases texts with
  | nil => exact started
  | cons text rest =>
      apply isStarted_of_length
      have filled := List.length_pos_iff.mpr started.1
      rw [long, List.length_cons]
      omega

/-- Texts can all be read back in their places exactly when they are literal. -/
theorem decoded_foldl_pushSegment_iff (special : Bool) {names : List String}
    (started : IsStarted names) (texts : List String) :
    (texts.foldl (pushSegment special) names).map decoded =
        names.map decoded ++ texts.map (fun text => bytesOf text.toList) ↔
      ∀ text ∈ texts, IsLiteral text := by
  -- From the last text: a path that gets as long as it can has lost nothing of what it had before.
  induction texts using List.reverseRecOn with
  | nil => simp
  | append_singleton texts last ih =>
      have limit := length_foldl_pushSegment_le special names texts
      have startedAgain := started.foldl special texts
      rw [List.foldl_append, List.foldl_cons, List.foldl_nil, List.map_append, List.map_singleton,
        ← List.append_assoc, List.forall_mem_append, List.forall_mem_singleton, ← ih]
      generalize texts.foldl (pushSegment special) names = before at limit startedAgain ⊢
      constructor
      · intro read
        have lengths := congrArg List.length read
        have grows := length_pushSegment_le special before last
        simp only [List.length_map, List.length_append, List.length_singleton] at lengths
        obtain ⟨name, pushed, literal⟩ | ⟨short, -⟩ :=
          pushSegment_cases special (startedAgain (by omega)) last
        · rw [pushed, List.map_append] at read
          obtain ⟨earlier, same⟩ := List.append_inj' read rfl
          exact ⟨earlier, literal.mp (List.singleton_inj.mp same)⟩
        · omega
      · rintro ⟨earlier, isLiteral⟩
        have lengths := congrArg List.length earlier
        simp only [List.length_map, List.length_append] at lengths
        obtain ⟨name, pushed, literal⟩ | ⟨-, notLiteral⟩ :=
          pushSegment_cases special (startedAgain lengths) last
        · rw [pushed, List.map_append, earlier, List.map_singleton, literal.mpr isLiteral]
        · exact absurd isLiteral notLiteral

/-- Literal texts are determined by the path that they make. -/
theorem eq_of_foldl_pushSegment_eq {special : Bool} {names first second : List String}
    (started : IsStarted names) (firstLiteral : ∀ text ∈ first, IsLiteral text)
    (secondLiteral : ∀ text ∈ second, IsLiteral text)
    (same : first.foldl (pushSegment special) names = second.foldl (pushSegment special) names) :
    first = second := by
  have firstRead := (decoded_foldl_pushSegment_iff special started first).mpr firstLiteral
  have secondRead := (decoded_foldl_pushSegment_iff special started second).mpr secondLiteral
  rw [same, secondRead] at firstRead
  have determined (left right : String)
      (equal : bytesOf left.toList = bytesOf right.toList) : left = right :=
    String.toList_inj.mp (bytesOf_inj.mp equal)
  exact ((List.map_inj_right determined).mp (List.append_cancel_left firstRead)).symm

/-- A text that is not literal is treated like some other one, and like one that can be a segment
    if it can be one itself. -/
theorem exists_pushSegment_eq {text : String} (notLiteral : ¬IsLiteral text) :
    ∃ other, other ≠ text ∧ (text.toList ≠ [] → other.toList ≠ []) ∧
      ('/' ∉ text.toList → '/' ∉ other.toList) ∧
      ∀ special names, pushSegment special names other = pushSegment special names text := by
  by_cases dot : text = "."
  · subst dot
    refine ⟨"..", by decide, by decide, by decide, fun special names => ?_⟩
    rw [pushSegment, pushSegment, if_pos (.inr rfl), if_pos (.inl rfl)]
  by_cases dots : text = ".."
  · subst dots
    refine ⟨".", by decide, by decide, by decide, fun special names => ?_⟩
    rw [pushSegment, pushSegment, if_pos (.inl rfl), if_pos (.inr rfl)]
  have padded : (text.push '\t').toList = text.toList ++ ['\t'] := String.toList_push _
  have filtered : ((text.push '\t').toList.filter fun c => !isIgnored c) =
      text.toList.filter fun c => !isIgnored c := by
    rw [padded, List.filter_append]
    exact List.append_nil _
  have padding : '\t' ∈ (text.push '\t').toList := by
    rw [padded]
    exact List.mem_append_right _ List.mem_cons_self
  have notDots : ¬(text.push '\t' = "." ∨ text.push '\t' = "..") := by
    rintro (same | same) <;> (rw [same] at padding; revert padding; decide)
  refine ⟨text.push '\t', ?_, ?_, ?_, fun special names => ?_⟩
  · intro same
    have lengths := congrArg (fun text => text.toList.length) same
    simp only [padded, List.length_append, List.length_singleton] at lengths
    omega
  · intro _ empty
    rw [padded] at empty
    exact List.append_ne_nil_of_right_ne_nil _ (List.cons_ne_nil _ _) empty
  · intro free
    rw [padded, List.mem_append, not_or]
    exact ⟨free, by decide⟩
  · rw [pushSegment, pushSegment, if_neg notDots, if_neg (not_or.mpr ⟨dot, dots⟩), filtered]

/-- No segment contains a slash, so that the written path has no others than they are. -/
def IsSlashFree (names : List String) : Prop :=
  ∀ name ∈ names, '/' ∉ name.toList

theorem IsSlashFree.append {names : List String} {last : String} (free : IsSlashFree names)
    (lastFree : '/' ∉ last.toList) : IsSlashFree (names ++ [last]) :=
  List.forall_mem_append.mpr ⟨free, List.forall_mem_singleton.mpr lastFree⟩

theorem IsSlashFree.dropLast {names : List String} (free : IsSlashFree names) :
    IsSlashFree names.dropLast :=
  fun name member => free name (List.dropLast_subset names member)

theorem IsSlashFree.pushSegment {special : Bool} {names : List String} (free : IsSlashFree names)
    (text : String) : IsSlashFree (pushSegment special names text) := by
  have appended {last : String} (lastFree : '/' ∉ last.toList) :
      IsSlashFree (appendSegment names last) := by
    unfold appendSegment
    split
    · exact List.forall_mem_singleton.mpr lastFree
    · exact free.append lastFree
  unfold Url.pushSegment
  split
  · exact free
  · dsimp only
    split
    · exact free.dropLast.append List.not_mem_nil
    · split
      · exact appended List.not_mem_nil
      · apply appended
        rw [String.toList_ofList]
        exact slash_not_mem_escape (.inl (by simp [segmentSet]))

theorem IsSlashFree.foldl {special : Bool} {names : List String} (free : IsSlashFree names)
    (texts : List String) : IsSlashFree (texts.foldl (Url.pushSegment special) names) := by
  induction texts generalizing names with
  | nil => exact free
  | cons text rest ih => exact ih (free.pushSegment text)

end DocStore.Url
