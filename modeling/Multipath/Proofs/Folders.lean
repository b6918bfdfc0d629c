import Multipath.Proofs.Written

/-! # Folders that are made

Before a file is written the folders on its way are made. That adds folders where there was nothing, and
changes nothing else (`Grows.prepare`): every text stays, and every path that led somewhere leads there
still. A path may come to lead to a file that it did not lead to before, though the file was there: it
goes down into a folder that was missing, and up again. Where no name leads up this cannot be
(`locate_of_grows`).
-/

namespace Multipath.Files

variable {files files' files'' : Files}

/-- Folders were made, and nothing else was changed. -/
structure Grows (files files' : Files) : Prop where
  working : files'.working = files.working
  entry? : ∀ place, files'.entry? place = files.entry? place ∨
    files.entry? place = none ∧ files'.entry? place = some .folder

namespace Grows

theorem refl (files : Files) : files.Grows files := ⟨rfl, fun _ => .inl rfl⟩

theorem trans (first : files.Grows files') (second : files'.Grows files'') : files.Grows files'' := by
  refine ⟨second.working.trans first.working, fun place => ?_⟩
  rcases second.entry? place with same | ⟨none_, made⟩
  · rw [same]
    exact first.entry? place
  · rcases first.entry? place with same | ⟨-, made'⟩
    · exact .inr ⟨same ▸ none_, made⟩
    · rw [none_] at made'
      cases made'

theorem keeps (grows : files.Grows files') : files.Keeps files' := by
  refine ⟨grows.working, fun {place} there => ?_⟩
  rcases grows.entry? place with same | ⟨none_, -⟩
  · rw [same, there]
  · rw [there] at none_
    cases none_

theorem put_folder {place : List String} (none_ : files.entry? place = none) :
    files.Grows (files.put place .folder) := by
  have inner : place ≠ [] := by
    rintro rfl
    cases none_
  refine ⟨rfl, fun other => ?_⟩
  by_cases same : other = place
  · subst same
    exact .inr ⟨none_, by simp [Files.entry?, put, inner]⟩
  · refine .inl ?_
    unfold Files.entry?
    split
    · rfl
    · simp [put, Std.HashMap.getElem?_insert, Ne.symm same]

theorem makeFolder {path : String} (made : files.makeFolder path = .ok files') :
    files.Grows files' := by
  unfold Files.makeFolder at made
  obtain ⟨target, -, made⟩ := bind_eq_ok.1 made
  obtain ⟨found, looked, made⟩ := bind_eq_ok.1 made
  split at made
  · cases made
  · rename_i none_
    obtain rfl := Except.ok.inj made
    refine put_folder ?_
    rw [entry?_of_look looked]
    simpa using none_

theorem makeNearest {fuel : Nat} {waiting waiting' backwards : List String}
    (made : files.makeNearest waiting fuel backwards = .ok (waiting', files')) :
    files.Grows files' := by
  fun_induction Files.makeNearest files waiting fuel backwards with
  | case1 | case2 | case5 =>
      cases made
      exact refl files
  | case3 _ _ _ _ _ _ _ first =>
      cases made
      exact makeFolder first
  | case4 _ _ _ _ _ _ _ ih => exact ih made
  | case6 | case7 => cases made

theorem makeAll {paths : List String} (made : files.makeAll paths = .ok files') :
    files.Grows files' := by
  fun_induction Files.makeAll files paths with
  | case1 =>
      cases made
      exact refl files'
  | case2 _ _ _ _ first ih => exact (makeFolder first).trans (ih made)
  | case3 _ _ _ _ _ _ ih => exact ih made
  | case4 => cases made

theorem makeFolders {path : String} (made : files.makeFolders path = .ok files') :
    files.Grows files' := by
  unfold Files.makeFolders at made
  obtain ⟨⟨waiting, reached⟩, nearest, made⟩ := bind_eq_ok.1 made
  exact (makeNearest nearest).trans (makeAll made)

theorem prepare {path : String} (prepared : files.prepare path = .ok files') :
    files.Grows files' := by
  unfold Files.prepare at prepared
  split at prepared
  · obtain rfl := Except.ok.inj prepared
    exact refl files
  · split at prepared
    · rename_i made
      obtain rfl := Except.ok.inj prepared
      exact makeFolders made
    · cases prepared

end Grows

/-! ## Ways that lead down -/

/-- What is in a folder is nowhere else. -/
def IsTree (files : Files) : Prop :=
  ∀ place name, files.entry? (place ++ [name]) ≠ none → files.entry? place = some .folder

theorem IsTree.folder (tree : files.IsTree) {place below : List String} {last : String}
    (there : files.entry? (place ++ below ++ [last]) ≠ none) :
    files.entry? place = some .folder := by
  induction below generalizing place with
  | nil => exact tree place last (by simpa using there)
  | cons name below ih =>
      rw [List.append_cons place name below] at there
      have inner : files.entry? (place ++ [name]) = some .folder := ih there
      exact tree place name (by simp [inner])

end Multipath.Files
