import DocStore.Endpoint
import DocStore.Proofs.Reference
import DocStore.Proofs.Url.Path

/-! # Where references are reached

The URL of a reference names it as long as its texts are literal ones. Other texts are lost or
changed on the way into the path, and each reference that has one shares its URL with another
reference.
-/

namespace DocStore

namespace Reference

/-- The texts of a reference that become segments of a path. -/
def texts (reference : Reference) : List String :=
  reference.database :: reference.segments

/-- All texts of the reference stand for themselves in a path. -/
def IsLiteral (reference : Reference) : Prop :=
  ∀ text ∈ reference.texts, Url.IsLiteral text

instance : DecidablePred IsLiteral := fun reference =>
  decidable_of_iff ((reference.texts.all fun text => decide (Url.IsLiteral text)) = true)
    (by simp only [IsLiteral, List.all_eq_true, decide_eq_true_eq])

theorem eq_of_texts_eq {first second : Reference} (firstValid : first.IsValid)
    (secondValid : second.IsValid) (same : first.texts = second.texts) : first = second := by
  obtain ⟨sameDatabase, sameSegments⟩ := List.cons.inj same
  have sameKind : first.isDocument = second.isDocument := by
    rw [Bool.eq_iff_iff, ← firstValid.parity, ← secondValid.parity, sameSegments]
  cases first with
  | document first =>
      cases second with
      | document second =>
          obtain ⟨segments, database⟩ := first
          cases sameDatabase
          cases sameSegments
          rfl
      | collection second => cases sameKind
  | collection first =>
      cases second with
      | document second => cases sameKind
      | collection second =>
          obtain ⟨segments, database⟩ := first
          cases sameDatabase
          cases sameSegments
          rfl

end Reference

namespace Url

/-- The parts of a path without one empty part at their end. -/
def withoutEmptyLast (parts : List (List Char)) : List (List Char) :=
  if parts.getLast? = some [] then parts.dropLast else parts

theorem withoutEmptyLast_map {names : List String} (long : 2 ≤ names.length) :
    withoutEmptyLast (names.map String.toList) = (popIfEmpty names).map String.toList := by
  have ends : (names.map String.toList).getLast? = some [] ↔ names.getLast? = some "" := by
    rw [List.getLast?_map, Option.map_eq_some_iff]
    constructor
    · rintro ⟨last, found, empty⟩
      rw [found, String.toList_eq_nil_iff.mp empty]
    · intro found
      exact ⟨"", found, rfl⟩
  unfold withoutEmptyLast popIfEmpty
  by_cases empty : names.getLast? = some ""
  · rw [if_pos (ends.mpr empty), if_pos (by simp [empty]; omega), List.map_dropLast]
  · rw [if_neg fun found => empty (ends.mp found), if_neg (by simp [empty])]

theorem eq_of_popIfEmpty {names : List String} (long : 2 ≤ names.length)
    (root : popIfEmpty names = [""]) : names = ["", ""] := by
  unfold popIfEmpty at root
  split at root
  next empty =>
    have last : names.getLast? = some "" := by
      simpa using ((Bool.and_eq_true _ _).mp empty).2
    obtain ⟨before, rfl⟩ := List.getLast?_eq_some_iff.mp last
    rw [List.dropLast_concat] at root
    rw [root]
    rfl
  next =>
    rw [root] at long
    exact absurd long (by decide)

/-- The path to which the texts of a reference are appended. -/
def resourcePath (names : List String) : List String :=
  appendSegment (popIfEmpty names) resourceSegment

theorem isStarted_resourcePath (names : List String) : IsStarted (resourcePath names) := by
  unfold resourcePath appendSegment
  split
  · exact ⟨by decide, by decide⟩
  · constructor
    · exact List.append_ne_nil_of_right_ne_nil _ (List.cons_ne_nil _ _)
    · intro root
      have ends : (popIfEmpty names ++ [resourceSegment]).getLast? = some "" := by rw [root]; rfl
      rw [List.getLast?_concat] at ends
      revert ends
      decide

/-- What the base path says stays before what is appended, unless the path is two slashes. -/
theorem decoded_resourcePath {names : List String} (free : IsSlashFree names)
    (notSlashes : names ≠ ["", ""]) :
    (resourcePath names).map decoded =
      (withoutEmptyLast (Path.segments names).parts).map unescape ++
        [bytesOf resourceSegment.toList] := by
  have read : decoded resourceSegment = bytesOf resourceSegment.toList := rfl
  rw [Path.parts_segments free]
  match names, notSlashes with
  | [], _ => rfl
  | [name], _ =>
    by_cases root : name = ""
    · subst root
      rfl
    · have notRoot : [name] ≠ [""] := fun same => root (List.singleton_inj.mp same)
      have filled : ¬[name.toList].getLast? = some [] :=
        fun empty => root (String.toList_eq_nil_iff.mp (Option.some.inj empty))
      have kept : popIfEmpty [name] = [name] := rfl
      rw [resourcePath, kept, appendSegment, if_neg notRoot, List.map_singleton, withoutEmptyLast,
        if_neg filled]
      rfl
  | first :: second :: rest, notSlashes =>
    have long : 2 ≤ (first :: second :: rest).length := by
      rw [List.length_cons, List.length_cons]
      omega
    have notRoot : popIfEmpty (first :: second :: rest) ≠ [""] :=
      fun root => notSlashes (eq_of_popIfEmpty long root)
    rw [withoutEmptyLast_map long, resourcePath, appendSegment, if_neg notRoot, List.map_append,
      List.map_singleton, read, List.map_map]
    rfl

theorem resource_eq {base : Url} {names : List String} (segmented : base.path = .segments names)
    (reference : Reference) :
    base.resource reference = .ok { base with
      path := .segments
        (reference.texts.foldl (pushSegment base.isSpecial) (resourcePath names)) } := by
  have pushed : pushSegment base.isSpecial (popIfEmpty names) resourceSegment =
      resourcePath names := by
    cases base.isSpecial <;> rfl
  rw [resource, endpoint, append?, segmented]
  dsimp only
  rw [List.foldl_cons, pushed]
  rfl

theorem isSlashFree_resourcePath {names : List String} (free : IsSlashFree names) :
    IsSlashFree (resourcePath names) := by
  have popped : IsSlashFree (popIfEmpty names) := by
    unfold popIfEmpty
    split
    · exact free.dropLast
    · exact free
  have service : '/' ∉ resourceSegment.toList := by decide
  unfold resourcePath appendSegment
  split
  · exact List.forall_mem_singleton.mpr service
  · exact popped.append service

end Url

namespace Reference

/-- A reference of the same kind with other texts. -/
def renamed (reference : Reference) (database : String) (segments : List String) : Reference :=
  match reference with
  | .document _ => .document ⟨segments, database⟩
  | .collection _ => .collection ⟨segments, database⟩

@[simp] theorem texts_renamed (reference : Reference) (database : String) (segments : List String) :
    (reference.renamed database segments).texts = database :: segments := by
  cases reference <;> rfl

theorem IsValid.renamed {reference : Reference} (valid : reference.IsValid) (database : String)
    {segments : List String} (all : ∀ segment ∈ segments, isSegment segment = true)
    (length : segments.length = reference.segments.length) :
    (reference.renamed database segments).IsValid := by
  have filled : segments ≠ [] := by
    rintro rfl
    exact valid.filled (List.length_eq_zero_iff.mp length.symm)
  have parity := valid.parity
  rw [← length] at parity
  cases reference with
  | document _ => exact ⟨filled, all, parity⟩
  | collection _ => exact ⟨filled, all, parity⟩

/-- A reference with a text that is not literal shares its path with another one. -/
theorem exists_sharing {reference : Reference} (valid : reference.IsValid)
    (notLiteral : ¬reference.IsLiteral) :
    ∃ other : Reference, other.IsValid ∧ other ≠ reference ∧ ∀ special names,
      other.texts.foldl (Url.pushSegment special) names =
        reference.texts.foldl (Url.pushSegment special) names := by
  obtain ⟨text, member, lost⟩ : ∃ text ∈ reference.texts, ¬Url.IsLiteral text := by
    simpa only [IsLiteral, not_forall, exists_prop] using notLiteral
  obtain ⟨other, differs, filled, free, same⟩ := Url.exists_pushSegment_eq lost
  obtain database | inside := List.mem_cons.mp member
  · refine ⟨reference.renamed other reference.segments,
      valid.renamed other valid.segments rfl, ?_, fun special names => ?_⟩
    · intro equal
      have texts := congrArg Reference.texts equal
      rw [texts_renamed] at texts
      exact differs (database ▸ (List.cons.inj texts).1)
    · rw [texts_renamed, texts, List.foldl_cons, List.foldl_cons, same, database]
  · obtain ⟨before, after, split⟩ := List.append_of_mem inside
    have all : ∀ segment ∈ before ++ other :: after, isSegment segment = true := by
      have segments := valid.segments
      rw [split, List.forall_mem_append, List.forall_mem_cons] at segments
      obtain ⟨beforeAll, isSegment, afterAll⟩ := segments
      rw [isSegment_iff] at isSegment
      rw [List.forall_mem_append, List.forall_mem_cons]
      exact ⟨beforeAll, isSegment_iff.mpr ⟨filled isSegment.1, free isSegment.2⟩, afterAll⟩
    refine ⟨reference.renamed reference.database (before ++ other :: after),
      valid.renamed _ all (by rw [split]; simp), ?_, fun special names => ?_⟩
    · intro equal
      have texts := congrArg Reference.texts equal
      rw [texts_renamed, Reference.texts, split] at texts
      exact differs (List.cons.inj (List.append_cancel_left (List.cons.inj texts).2)).1
    · rw [texts_renamed, texts, split]
      simp only [List.foldl_cons, List.foldl_append, same]

end Reference

namespace Url

theorem length_withoutEmptyLast_slashes :
    (withoutEmptyLast (Path.segments ["", ""]).parts).length = 1 :=
  rfl

/-- The path of a reference reads as the base's path, the service and the reference's texts exactly
    if these are literal, the base being no path of two slashes. -/
theorem parts_resource_iff {names : List String} (free : IsSlashFree names) (special : Bool)
    (reference : Reference) :
    (Path.segments (reference.texts.foldl (pushSegment special) (resourcePath names))).parts.map
          unescape =
        (withoutEmptyLast (Path.segments names).parts).map unescape ++
          (resourceSegment :: reference.texts).map (fun text => bytesOf text.toList) ↔
      names ≠ ["", ""] ∧ reference.IsLiteral := by
  have started := isStarted_resourcePath names
  rw [Path.parts_segments ((isSlashFree_resourcePath free).foldl _), List.map_map,
    List.map_cons, ← List.singleton_append, ← List.append_assoc]
  by_cases slashes : names = ["", ""]
  · -- One slash is dropped for being at the end, and the other as the root: the path is too short.
    subst slashes
    refine iff_of_false ?_ fun both => both.1 rfl
    intro same
    have limit := length_foldl_pushSegment_le special (resourcePath ["", ""]) reference.texts
    have lengths := congrArg List.length same
    simp only [List.length_map, List.length_append, List.length_singleton,
      length_withoutEmptyLast_slashes] at lengths
    have short : (resourcePath ["", ""]).length = 1 := rfl
    omega
  · rw [← decoded_resourcePath free slashes]
    exact (decoded_foldl_pushSegment_iff special started reference.texts).trans
      (and_iff_right slashes).symm

/-- A base URL and the URL of a reference under it: the written path says the base's path, the
    service, the database and the segments exactly if these texts are literal and the base's path
    is not two slashes; no two references with literal texts have the same URL; and a reference
    with another text has one that another reference has too. -/
theorem resource_names_reference {text : String} {base : Url} {names : List String}
    {reference : Reference} (parsed : parse text = .ok base)
    (segmented : base.path = .segments names) (valid : reference.IsValid) :
    ∃ url, base.resource reference = .ok url ∧
      (url.path.parts.map unescape =
          (withoutEmptyLast base.path.parts).map unescape ++
            (resourceSegment :: reference.database :: reference.segments).map
              (fun segment => segment.toUTF8.data.toList) ↔
        names ≠ ["", ""] ∧ reference.IsLiteral) ∧
      (reference.IsLiteral → ∀ other : Reference, other.IsValid → other.IsLiteral →
        base.resource other = .ok url → other = reference) ∧
      (¬reference.IsLiteral → ∃ other : Reference, other.IsValid ∧ other ≠ reference ∧
        base.resource other = .ok url) := by
  have free : IsSlashFree names := by
    have free := isSlashFree_of_parse parsed
    rwa [segmented] at free
  have started := isStarted_resourcePath names
  refine ⟨_, resource_eq segmented reference, ?_, ?_, ?_⟩
  · rw [segmented]
    simp only [← bytesOf_toList]
    exact parts_resource_iff free base.isSpecial reference
  · intro literal other otherValid otherLiteral same
    rw [resource_eq segmented other, Except.ok.injEq, Url.mk.injEq, Path.segments.injEq] at same
    have texts := eq_of_foldl_pushSegment_eq started otherLiteral literal same.2.2.1
    exact Reference.eq_of_texts_eq otherValid valid texts
  · intro notLiteral
    obtain ⟨other, otherValid, differs, same⟩ := Reference.exists_sharing valid notLiteral
    refine ⟨other, otherValid, differs, ?_⟩
    rw [resource_eq segmented other, same]

/-- A base URL on the loopback host, whose path ends with a slash. -/
def loopback : Url :=
  ⟨"http", some (.ofHost (some (.ipv6 [0, 0, 0, 0, 0, 0, 0, 1]))), .segments ["api", ""], none,
    none⟩

/-- Reserved characters, an empty database and what looks like an escape are all read back. -/
theorem resource_names_reserved_characters :
    parse "http://[::1]/api/" = .ok loopback ∧
      loopback.path = .segments ["api", ""] ∧
      (Reference.document ⟨["a?b#c", "%2E"], ""⟩).IsValid ∧
      ∃ url, loopback.resource (.document ⟨["a?b#c", "%2E"], ""⟩) = .ok url ∧
        url.path.parts.map unescape =
          ["api", "databases", "", "a?b#c", "%2E"].map
            fun segment => segment.toUTF8.data.toList := by
  have parsed : parse "http://[::1]/api/" = .ok loopback := rfl
  have valid : (Reference.document ⟨["a?b#c", "%2E"], ""⟩).IsValid :=
    ⟨by decide, by decide, by decide⟩
  have literal : (Reference.document ⟨["a?b#c", "%2E"], ""⟩).IsLiteral := by decide
  obtain ⟨url, found, read, -⟩ := resource_names_reference parsed rfl valid
  exact ⟨parsed, rfl, valid, url, found, read.mpr ⟨by decide, literal⟩⟩

/-- A document and the collection it is in have the same URL, for a dot is left out of a path. -/
theorem resource_shared_with_collection :
    parse "http://[::1]/api/" = .ok loopback ∧
      (Reference.document ⟨["users", "."], "main"⟩).IsValid ∧
      (Reference.collection ⟨["users"], "main"⟩).IsValid ∧
      loopback.resource (.document ⟨["users", "."], "main"⟩) =
        .ok { loopback with path := .segments ["api", "databases", "main", "users"] } ∧
      loopback.resource (.collection ⟨["users"], "main"⟩) =
        .ok { loopback with path := .segments ["api", "databases", "main", "users"] } := by
  have document : (Reference.document ⟨["users", "."], "main"⟩).IsValid :=
    ⟨by decide, by decide, by decide⟩
  have collection : (Reference.collection ⟨["users"], "main"⟩).IsValid :=
    ⟨by decide, by decide, by decide⟩
  exact ⟨rfl, document, collection, rfl, rfl⟩

end Url

end DocStore
