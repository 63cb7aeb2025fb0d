import LineShell.FileSystem
import LineShell.Proofs.Path.Canonical

/-!
# Lookup

Every operation of a file system resolves its path by the text alone and then walks the tree along
the names. The lemmas say when an operation succeeds and with what, in terms of the walk, so that
later proofs unfold neither `locate` nor `changeDirectory`.
-/

namespace LineShell.FileSystem

variable {fs moved : FileSystem} {path : Option String} {text : String} {node : Node} {full : Path}

/-- Every lookup goes through the names of the resolved path. -/
theorem locate_eq_ok_iff : fs.locate path = .ok (node, full) ↔
    full = fs.resolve path ∧ fs.tree.descend? full.names = some node := by
  unfold locate
  dsimp only
  constructor
  · intro h
    split at h
    · next found hfound =>
      injection h with h
      injection h with hnode hfull
      subst hnode hfull
      exact ⟨rfl, hfound⟩
    · cases h
  · rintro ⟨rfl, hfound⟩
    simp only [hfound]

/-- A listing has an entry for each child, in their order. -/
theorem list_eq_ok_iff {entries : List Node.Entry} : fs.list path = .ok entries ↔
    ∃ children full, fs.locate path = .ok (.directory children, full) ∧
      entries = children.map fun c => Node.entry c.1 c.2 := by
  unfold list
  constructor
  · intro h
    split at h
    · next children full hlocate =>
      injection h with h
      exact ⟨children, full, hlocate, h.symm⟩
    · cases h
    · cases h
  · rintro ⟨children, full, hlocate, rfl⟩
    rw [hlocate]

/-- A move succeeds where the path leads to a directory, and only the working directory moves. -/
theorem changeDirectory_eq_ok_iff : fs.changeDirectory text = .ok moved ↔
    (∃ children, fs.tree.descend? (fs.resolve (some text)).names = some (.directory children)) ∧
      moved = { fs with cwd := fs.resolve (some text) } := by
  unfold changeDirectory
  constructor
  · intro h
    split at h
    · next children full hlocate =>
      obtain ⟨rfl, hfound⟩ := locate_eq_ok_iff.mp hlocate
      injection h with h
      exact ⟨⟨children, hfound⟩, h.symm⟩
    · cases h
    · cases h
  · rintro ⟨⟨children, hfound⟩, rfl⟩
    rw [locate_eq_ok_iff.mpr ⟨rfl, hfound⟩]

/-! ### By what was found -/

section

variable {children : List (String × Node)} {content : String} {e : FileError}

theorem changeDirectory_of_directory
    (h : fs.locate (some text) = .ok (.directory children, full)) :
    fs.changeDirectory text = .ok { fs with cwd := full } := by
  simp only [changeDirectory, h]

theorem changeDirectory_of_file (h : fs.locate (some text) = .ok (.file content, full)) :
    fs.changeDirectory text = .error (.notADirectory full) := by
  simp only [changeDirectory, h]

theorem changeDirectory_of_error (h : fs.locate (some text) = .error e) :
    fs.changeDirectory text = .error e := by
  simp only [changeDirectory, h]

theorem read_of_directory (h : fs.locate path = .ok (.directory children, full)) :
    fs.read path = .error (.notAFile full) := by
  simp only [read, h]

theorem read_of_file (h : fs.locate path = .ok (.file content, full)) :
    fs.read path = .ok content := by
  simp only [read, h]

theorem read_of_error (h : fs.locate path = .error e) : fs.read path = .error e := by
  simp only [read, h]

end

/-! ### The way home -/

/-- The path of the home directory is absolute, so it leads home from everywhere. -/
theorem resolve_home : fs.resolve (some home) = homePath := Path.resolve_toString fs.cwd homePath

end LineShell.FileSystem
