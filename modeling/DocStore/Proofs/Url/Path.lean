import DocStore.Proofs.Outcome
import DocStore.Proofs.Text.Split
import DocStore.Proofs.Url.Segment
import DocStore.Url.Parser

/-! # Paths of URLs that were read

The segments of a path that was read are the parts of the written path between its slashes: a
reader splits at every slash, and what it escapes has none either.
-/

namespace DocStore.Url

namespace Path

/-- The parts of a written path, each of them behind a slash. -/
def parts (path : Path) : List (List Char) :=
  match path.chars with
  | [] => []
  | _ :: behind => splitChars '/' behind

theorem parts_segments {names : List String} (free : IsSlashFree names) :
    (Path.segments names).parts = names.map String.toList := by
  cases names with
  | nil => rfl
  | cons first rest =>
      obtain ⟨firstFree, restFree⟩ := List.forall_mem_cons.mp free
      have others : ∀ part ∈ rest.map String.toList, '/' ∉ part := List.forall_mem_map.mpr restFree
      have split := splitChars_flatMap firstFree others
      rw [List.flatMap_map] at split
      exact split

/-- The segments of a path have no slash. -/
def IsSlashFree : Path → Prop
  | .rootless _ => True
  | .segments names => Url.IsSlashFree names

end Path

theorem slash_not_mem_segmentText (file : Bool) (names : List String) {segment : List Char}
    (free : '/' ∉ segment) : '/' ∉ (segmentText file names segment).toList := by
  rw [segmentText, String.toList_ofList]
  refine slash_not_mem_escape (.inr ?_)
  split
  · rw [List.mem_append, not_or]
    exact ⟨fun member => free (List.mem_of_mem_take member), by decide⟩
  · exact free

theorem IsSlashFree.parentOf {names : List String} (free : IsSlashFree names) (file : Bool) :
    IsSlashFree (parentOf file names) := by
  unfold Url.parentOf
  dsimp only
  split
  · exact free
  · exact free.dropLast

theorem IsSlashFree.readSegments {names : List String} (free : IsSlashFree names) (file : Bool)
    {segments : List (List Char)} (segmentsFree : ∀ segment ∈ segments, '/' ∉ segment) :
    IsSlashFree (readSegments file names segments) := by
  fun_induction Url.readSegments file names segments with
  | case1 names => exact free
  | case2 names last areDots => exact (free.parentOf file).append List.not_mem_nil
  | case3 names last _ isDot => exact free.append List.not_mem_nil
  | case4 names last _ _ =>
      have lastFree := segmentsFree last List.mem_cons_self
      exact free.append (slash_not_mem_segmentText file names lastFree)
  | case5 names segment rest _ _ ih =>
      exact ih (free.parentOf file) (List.forall_mem_cons.mp segmentsFree).2
  | case6 names segment rest _ _ _ ih => exact ih free (List.forall_mem_cons.mp segmentsFree).2
  | case7 names segment rest _ _ _ ih =>
      obtain ⟨segmentFree, restFree⟩ := List.forall_mem_cons.mp segmentsFree
      exact ih (free.append (slash_not_mem_segmentText file names segmentFree)) restFree

theorem IsSlashFree.withoutEmptyStart {names : List String} (free : IsSlashFree names) :
    IsSlashFree (withoutEmptyStart names) := by
  fun_induction Url.withoutEmptyStart names with
  | case1 name rest ih => exact ih (List.forall_mem_cons.mp free).2
  | case2 names => exact free

theorem isSlashFree_readPath (scheme : String) (text : List Char) :
    (readPath scheme text).IsSlashFree := by
  have free (slashed : List Char) :
      IsSlashFree (readSegments (scheme == "file") [] (splitChars '/' slashed)) :=
    IsSlashFree.readSegments (List.forall_mem_nil _) _ fun _ found => free_of_mem_splitChars found
  unfold readPath
  dsimp only [Path.IsSlashFree]
  split
  · exact (free _).withoutEmptyStart
  · exact free _

theorem isSlashFree_readPathStart (scheme : String) (text : List Char) :
    (readPathStart scheme text).IsSlashFree := by
  cases text with
  | nil =>
      rw [readPathStart]
      split
      · exact List.forall_mem_singleton.mpr List.not_mem_nil
      · exact List.forall_mem_nil _
  | cons c rest => exact isSlashFree_readPath scheme _

/-- A URL whose segments have no slash. -/
def HasSlashFreePath (url : Url) : Prop :=
  url.path.IsSlashFree

theorem hasSlashFreePath_assemble (scheme : String) (authority : Option Authority)
    (text tail : List Char) :
    HasSlashFreePath (assemble scheme authority (readPathStart scheme text) tail) :=
  isSlashFree_readPathStart scheme text

theorem readBehindSlashes_ensures (scheme : String) (text : List Char) :
    Ensures (readBehindSlashes scheme text) HasSlashFreePath :=
  .bind fun _ _ => .ok (hasSlashFreePath_assemble scheme _ _ _)

theorem readFile_ensures (scheme : String) (text : List Char) :
    Ensures (readFile scheme text) HasSlashFreePath := by
  unfold readFile
  dsimp only
  split
  · refine .branch (fun _ => ?_) (fun _ => .ok (hasSlashFreePath_assemble scheme _ _ _))
    refine .branch (fun _ => .ok (hasSlashFreePath_assemble scheme _ _ _)) (fun _ => ?_)
    refine .branch (fun _ => ?_) (fun _ => ?_) <;>
      exact .bind fun _ _ => .ok (hasSlashFreePath_assemble scheme _ _ _)
  · exact .ok (hasSlashFreePath_assemble scheme _ _ _)

theorem readOther_ensures (scheme : String) (text : List Char) :
    Ensures (readOther scheme text) HasSlashFreePath := by
  unfold readOther
  dsimp only
  split
  · exact readBehindSlashes_ensures scheme _
  · exact .ok (isSlashFree_readPath scheme _)
  · exact .ok trivial

theorem readCleaned_ensures (text : List Char) : Ensures (readCleaned text) HasSlashFreePath := by
  unfold readCleaned
  split
  · exact .error _
  · refine .branch (fun _ => readFile_ensures _ _) (fun _ => ?_)
    exact .branch (fun _ => readBehindSlashes_ensures _ _) (fun _ => readOther_ensures _ _)

/-- The segments of a URL that was read have no slash. -/
theorem isSlashFree_of_parse {text : String} {url : Url} (parsed : parse text = .ok url) :
    url.path.IsSlashFree := by
  have read := mapError_eq_ok_iff.mp parsed
  exact readCleaned_ensures _ _ read

end DocStore.Url
