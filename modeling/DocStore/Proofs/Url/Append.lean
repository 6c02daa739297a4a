import DocStore.Endpoint
import DocStore.Proofs.Url.Written

/-! # What is appended to a URL

Whatever texts are appended to the path of a URL, and whatever pairs become its query, the text of
the URL can be read back. A text becomes at most one segment of the path, which says nothing but
the text.
-/

namespace DocStore.Url

variable {special : Bool} {names : List String}

/-! ## Segments -/

theorem isStableName_escape {text : List Char}
    (noDot : isSingleDot (escape (segmentSet special) text) = false)
    (noDots : isDoubleDot (escape (segmentSet special) text) = false) :
    IsStableName special (String.ofList (escape (segmentSet special) text)) := by
  rw [← String.toList_ofList (l := escape _ _)] at noDot noDots
  refine ⟨fun c mem => ?_, noDot, noDots⟩
  rw [String.toList_ofList] at mem
  obtain ⟨-, outside⟩ | rfl | ⟨n, small, rfl⟩ := mem_escape mem
  · simp only [segmentSet, Bool.or_eq_false_iff] at outside
    obtain ⟨⟨⟨inPath, noSlash⟩, -⟩, noBackslash⟩ := outside
    rw [isSlash, noSlash]
    exact ⟨inPath, noBackslash⟩
  · cases special <;> decide
  · have outside : ∀ n < 16, pathSet (upperHexDigit n) = false ∧
        ∀ special, isSlash special (upperHexDigit n) = false := by decide
    exact ⟨(outside n small).1, (outside n small).2 special⟩

theorem mem_appendSegment {name segment : String} (mem : name ∈ appendSegment names segment) :
    name ∈ names ∨ name = segment := by
  unfold appendSegment at mem
  split at mem
  next => exact .inr (List.mem_singleton.mp mem)
  next =>
    obtain old | new := List.mem_append.mp mem
    · exact .inl old
    · exact .inr (List.mem_singleton.mp new)

/-- The segments of a path to which a text is appended: the old ones, an empty one, or the text
    without what a URL ignores. -/
theorem mem_pushSegment {name text : String} (mem : name ∈ pushSegment special names text) :
    name ∈ names ∨ name = "" ∨ IsStableName special name ∧
      decoded name = bytesOf (text.toList.filter fun c => !isIgnored c) := by
  unfold pushSegment at mem
  split at mem
  next => exact .inl mem
  next =>
    dsimp only at mem
    split at mem
    next =>
      obtain old | new := List.mem_append.mp mem
      · exact .inl (List.dropLast_subset _ old)
      · exact .inr (.inl (List.mem_singleton.mp new))
    next noDots =>
      split at mem
      next => exact (mem_appendSegment mem).imp_right .inl
      next noDot =>
        obtain old | rfl := mem_appendSegment mem
        · exact .inl old
        · refine .inr (.inr ⟨isStableName_escape (eq_false_of_ne_true noDot)
            (eq_false_of_ne_true noDots), ?_⟩)
          rw [decoded, String.toList_ofList, unescape_segment]

theorem stable_pushSegment (stable : ∀ name ∈ names, IsStableName special name) (text : String) :
    ∀ name ∈ pushSegment special names text, IsStableName special name := by
  intro name mem
  obtain old | rfl | ⟨new, -⟩ := mem_pushSegment mem
  · exact stable name old
  · exact isStableName_empty special
  · exact new

theorem stable_foldl_pushSegment (stable : ∀ name ∈ names, IsStableName special name)
    (texts : List String) :
    ∀ name ∈ texts.foldl (pushSegment special) names, IsStableName special name := by
  induction texts generalizing names with
  | nil => exact stable
  | cons text rest ih => exact ih (stable_pushSegment stable text)

theorem mem_foldl_pushSegment {texts : List String} {name : String}
    (mem : name ∈ texts.foldl (pushSegment special) names) :
    name ∈ names ∨ name = "" ∨
      ∃ text ∈ texts, decoded name = bytesOf (text.toList.filter fun c => !isIgnored c) := by
  induction texts generalizing names with
  | nil => exact .inl mem
  | cons text rest ih =>
      obtain earlier | empty | ⟨later, inRest, reads⟩ := ih mem
      · obtain old | empty | ⟨-, reads⟩ := mem_pushSegment earlier
        · exact .inl old
        · exact .inr (.inl empty)
        · exact .inr (.inr ⟨text, List.mem_cons_self, reads⟩)
      · exact .inr (.inl empty)
      · exact .inr (.inr ⟨later, List.mem_cons_of_mem _ inRest, reads⟩)

theorem popIfEmpty_subset (names : List String) : popIfEmpty names ⊆ names := by
  unfold popIfEmpty
  split
  · exact List.dropLast_subset names
  · exact List.Subset.refl names

theorem length_popIfEmpty_le (names : List String) : (popIfEmpty names).length ≤ names.length := by
  unfold popIfEmpty
  split <;> simp

theorem appendSegment_ne_nil (names : List String) (segment : String) :
    appendSegment names segment ≠ [] := by
  unfold appendSegment
  split
  · nofun
  · exact List.append_ne_nil_of_right_ne_nil _ (List.cons_ne_nil _ _)

/-- A path does not lose its last segment, and with a text that is not dots it has one. -/
theorem pushSegment_ne_nil {text : String} (kept : names ≠ [] ∨ (text ≠ "." ∧ text ≠ "..")) :
    pushSegment special names text ≠ [] := by
  unfold pushSegment
  split
  next dots => exact kept.resolve_right fun noDots => dots.elim noDots.1 noDots.2
  next =>
    dsimp only
    split
    next => exact List.append_ne_nil_of_right_ne_nil _ (List.cons_ne_nil _ _)
    next => split <;> exact appendSegment_ne_nil _ _

theorem foldl_pushSegment_ne_nil (filled : names ≠ []) (texts : List String) :
    texts.foldl (pushSegment special) names ≠ [] := by
  induction texts generalizing names with
  | nil => exact filled
  | cons text rest ih => exact ih (pushSegment_ne_nil (.inl filled))

/-! ## Pairs -/

theorem not_querySet_of_isFormSafe {c : Char} (safe : isFormSafe c = true) (special : Bool) :
    querySet special c = false := by
  rw [isFormSafe, Bool.or_eq_true] at safe
  obtain alphanumeric | listed := safe
  · have bounds : 48 ≤ c.toNat ∧ c.toNat ≤ 122 ∧ c.toNat ≠ 60 ∧ c.toNat ≠ 62 := by
      rw [isAlphanum_iff] at alphanumeric
      omega
    have control : controlSet c = false := by
      simp only [controlSet, Bool.or_eq_false_iff, decide_eq_false_iff_not]
      omega
    have differs : ∀ d ∈ [' ', '"', '#', '<', '>', '\x27'], c ≠ d := by
      rintro d listed rfl
      simp only [List.mem_cons, List.not_mem_nil, or_false] at listed
      obtain rfl | rfl | rfl | rfl | rfl | rfl := listed <;> revert bounds <;> decide
    simp [querySet, control, differs]
  · simp only [List.contains_cons, List.contains_nil, Bool.or_eq_true, beq_iff_eq,
      Bool.false_eq_true, or_false] at listed
    obtain rfl | rfl | rfl | rfl := listed <;> cases special <;> decide

theorem isStable_querySet (special : Bool) : (querySet special).IsStable := by
  cases special <;> decide

theorem not_querySet_of_mem_formEscape {text : List Char} {c : Char} (mem : c ∈ formEscape text) :
    querySet special c = false := by
  obtain ⟨source, -, written⟩ := List.mem_flatMap.mp mem
  split at written
  next =>
    cases List.mem_singleton.mp written
    cases special <;> decide
  next =>
    split at written
    next safe =>
      cases List.mem_singleton.mp written
      exact not_querySet_of_isFormSafe safe special
    next =>
      have inEscape : c ∈ escape (fun _ => true) [source] := by
        rw [escape, List.flatMap_singleton]
        exact written
      obtain ⟨-, impossible⟩ | rfl | ⟨n, small, rfl⟩ := mem_escape inEscape
      · cases impossible
      · exact (isStable_querySet special).1
      · exact (isStable_querySet special).2 n small

theorem not_querySet_of_mem_formPair {key value : String} {c : Char}
    (mem : c ∈ formPair key value) :
    querySet special c = false := by
  rw [formPair, List.mem_append, List.mem_cons] at mem
  obtain inKey | rfl | inValue := mem
  · exact not_querySet_of_mem_formEscape inKey
  · cases special <;> decide
  · exact not_querySet_of_mem_formEscape inValue

/-- Pairs bring nothing into a query that could end it. -/
theorem not_querySet_of_mem_appendPairs {query : List Char} {pairs : List (String × String)}
    (outside : ∀ c ∈ query, querySet special c = false) :
    ∀ c ∈ appendPairs query pairs, querySet special c = false := by
  induction pairs generalizing query with
  | nil => exact outside
  | cons pair rest ih =>
      obtain ⟨key, value⟩ := pair
      refine ih fun c mem => ?_
      obtain before | inPair := List.mem_append.mp mem
      · split at before
        next => cases before
        next =>
          obtain old | new := List.mem_append.mp before
          · exact outside c old
          · cases List.mem_singleton.mp new
            cases special <;> decide
      · exact not_querySet_of_mem_formPair inPair

/-! ## URLs -/

namespace IsWritten

variable {base url : Url}

/-- A URL with another path, of segments that are read as they are. -/
theorem withNames (written : base.IsWritten)
    (stable : ∀ name ∈ names, IsStableName base.isSpecial name) (filled : names ≠ []) :
    IsWritten { base with path := .segments names } where
  scheme := written.scheme
  authority := written.authority
  hosted := written.hosted
  stable := fun others same => by
    cases same
    exact stable
  filled := fun empty => absurd (Path.segments.inj empty) filled
  query := written.query
  fragment := written.fragment

theorem withPairs (written : url.IsWritten) (pairs : List (String × String)) :
    (url.withPairs pairs).IsWritten where
  scheme := written.scheme
  authority := written.authority
  hosted := written.hosted
  stable := written.stable
  filled := written.filled
  query := fun text given c mem => by
    cases given
    rw [String.toList_ofList] at mem
    exact not_querySet_of_mem_appendPairs (List.forall_mem_nil _) c mem
  fragment := written.fragment

end IsWritten

end DocStore.Url
