import Multipath.Settings.Stored

/-! # What is written is read

A path is walked through folders alone, so it leads where it led as long as these stay (`Keeps.locate`).
A file is put where there is no folder. So after a file is written its path leads to its text.
-/

namespace Multipath

theorem bind_eq_ok {α β ε : Type} {x : Except ε α} {f : α → Except ε β} {b : β} :
    x >>= f = .ok b ↔ ∃ a, x = .ok a ∧ f a = .ok b := by
  cases x <;> simp [bind, Except.bind]

namespace Files

theorem foldlM_ok {α β ε : Type} {f g : β → α → Except ε β}
    (same : ∀ {b a b'}, f b a = .ok b' → g b a = .ok b') {l : List α} {b b' : β}
    (folded : l.foldlM f b = .ok b') : l.foldlM g b = .ok b' := by
  induction l generalizing b with
  | nil => exact folded
  | cons a rest ih =>
      rw [List.foldlM_cons] at folded ⊢
      obtain ⟨next, first, folded⟩ := bind_eq_ok.1 folded
      exact bind_eq_ok.2 ⟨next, same first, ih folded⟩

variable {files files' : Files} {place : List String}

theorem entry?_of_look {found : Option Entry} (looked : files.look place = .ok found) :
    files.entry? place = found := by
  unfold look at looked
  split at looked
  · cases looked
  · exact Except.ok.inj looked

/-- Whether a place can be looked at does not depend on what is there. -/
theorem look_again {found : Option Entry} (looked : files.look place = .ok found) (other : Files) :
    other.look place = .ok (other.entry? place) := by
  unfold look at looked ⊢
  split at looked
  · cases looked
  · rename_i short
    rw [if_neg short]

/-- The folders are still there. -/
structure Keeps (files files' : Files) : Prop where
  working : files'.working = files.working
  folder : ∀ {place}, files.entry? place = some .folder → files'.entry? place = some .folder

namespace Keeps

theorem enter (keeps : files.Keeps files') {folder next : List String} {name : String}
    (entered : files.enter folder name = .ok next) : files'.enter folder name = .ok next := by
  unfold Files.enter at entered ⊢
  by_cases still : (name = "" || name = ".") = true
  · rwa [if_pos still] at entered ⊢
  by_cases up : name = ".."
  · rwa [if_neg still, if_pos up] at entered ⊢
  rw [if_neg still, if_neg up] at entered ⊢
  obtain ⟨found, looked, entered⟩ := bind_eq_ok.1 entered
  split at entered
  · rw [look_again looked files', keeps.folder (entry?_of_look looked)]
    exact entered
  · cases entered
  · cases entered

theorem walk (keeps : files.Keeps files') {names folder : List String}
    (walked : files.walk names = .ok folder) : files'.walk names = .ok folder := by
  unfold Files.walk at walked ⊢
  rw [keeps.working]
  exact foldlM_ok (fun entered => keeps.enter entered) walked

/-- What comes after a walk comes after it again. -/
theorem walk_bind (keeps : files.Keeps files') {α : Type} {names : List String}
    {next : List String → Except FileFault α} {a : α} (walked : files.walk names >>= next = .ok a) :
    files'.walk names >>= next = .ok a := by
  obtain ⟨folder, led, walked⟩ := bind_eq_ok.1 walked
  exact bind_eq_ok.2 ⟨folder, keeps.walk led, walked⟩

theorem locate (keeps : files.Keeps files') {path : String} {target : Target}
    (located : files.locate path = .ok target) : files'.locate path = .ok target := by
  unfold Files.locate at located ⊢
  by_cases zero : path.contains '\x00' = true
  · rwa [if_pos zero] at located ⊢
  by_cases empty : path = ""
  · rwa [if_neg zero, if_pos empty] at located ⊢
  by_cases long : maxPath < path.utf8ByteSize
  · rwa [if_neg zero, if_neg empty, if_pos long] at located ⊢
  rw [if_neg zero, if_neg empty, if_neg long] at located ⊢
  generalize (Path.names path).reverse = backwards at located ⊢
  simp only at located ⊢
  generalize backwards.dropWhile (· = "") = named at located ⊢
  cases named with
  | nil => exact located
  | cons last before =>
      simp only at located ⊢
      by_cases dots : (last = "." || last = "..") = true
      · rw [if_pos dots] at located ⊢
        exact keeps.walk_bind located
      · rw [if_neg dots] at located ⊢
        exact keeps.walk_bind located

end Keeps

/-- A file may be put here. -/
def Free (files : Files) (place : List String) : Prop := files.entry? place ≠ some .folder

namespace Free

theorem ne_nil (free : files.Free place) : place ≠ [] := by
  rintro rfl
  exact free rfl

theorem entry?_put (free : files.Free place) (entry : Entry) :
    Files.entry? (files.put place entry) place = some entry := by
  simp [ entry?, put, free.ne_nil]

/-- A folder is somewhere else, and stays. -/
theorem folder_put (free : files.Free place) {other : List String}
    (there : files.entry? other = some .folder) (entry : Entry) :
    Files.entry? (files.put place entry) other = some .folder := by
  have apart : place ≠ other := by
    rintro rfl
    exact free there
  by_cases root : other = []
  · rw [ entry?, if_pos root]
  · rw [ entry?, if_neg root] at there ⊢
    simpa [put, Std.HashMap.getElem?_insert, apart] using there

theorem keeps (free : files.Free place) (entry : Entry) : files.Keeps (files.put place entry) :=
  ⟨rfl, fun there => free.folder_put there entry⟩

end Free

/-- A text is put where its path leads to, and there is no folder. -/
theorem write_eq_ok {path text : String} (written : files.write path text = .ok files') :
    ∃ folder name, files.locate path = .ok ⟨folder, some name, false⟩ ∧
      files.look (folder ++ [name]) = .ok (files.entry? (folder ++ [name])) ∧
      files.Free (folder ++ [name]) ∧ files' = files.put (folder ++ [name]) (.file text) := by
  unfold write at written
  obtain ⟨⟨folder, name, slashed⟩, located, written⟩ := bind_eq_ok.1 written
  dsimp only at written
  split at written
  · cases written
  rename_i named
  obtain ⟨rfl, name, rfl⟩ : slashed = false ∧ ∃ last, name = some last := by
    simpa [Option.ne_none_iff_exists', and_comm] using named
  obtain ⟨found, looked, written⟩ := bind_eq_ok.1 written
  change files.look (folder ++ [name]) = _ at looked
  refine ⟨folder, name, located, look_again looked files, ?_⟩
  rw [Free, entry?_of_look looked]
  split at written
  · cases written
  · rename_i free
    exact ⟨free, (Except.ok.inj written).symm⟩

/-- A text that was written is what is read there. -/
theorem read_of_write {path text : String} (written : files.write path text = .ok files') :
    files'.read path = .ok text := by
  obtain ⟨folder, name, located, looked, free, rfl⟩ := write_eq_ok written
  have located' := (free.keeps (.file text)).locate located
  have looked' : (files.put (folder ++ [name]) (.file text)).look (folder ++ [name]) =
      .ok (some (.file text)) := by
    rw [look_again looked, free.entry?_put]
  have found : (files.put (folder ++ [name]) (.file text)).find path = .ok (.file text) := by
    simp [find, located', Target.place, looked', bind, Except.bind]
  simp [read, found, bind, Except.bind]

end Files

end Multipath
