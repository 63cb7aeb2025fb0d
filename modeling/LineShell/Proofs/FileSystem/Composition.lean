import LineShell.Proofs.FileSystem.WorkingDirectory

/-!
# One move for two

A path that is typed in two parts can be followed in two moves. Resolving looks at text only, so
the second part, typed from the new working directory, names the same path as both parts with a
slash between them, typed from the old one (`Path.resolve_join`); and the tree is the same.

    fs ──first──▶ moved ──rest──▶ last
    fs ──────first/rest────────▶ last

Lookups that agree in tree and path agree in all they answer (`locate_congr`,
`changeDirectory_congr`), so two moves and one move find the same node, or fail with the same
error. Main statement: `changeDirectory_join`.
-/

namespace LineShell.FileSystem

/-! ### Lookups that agree -/

section

variable {fs other : FileSystem}

/-- A lookup depends on the tree and on the path that the argument names. -/
theorem locate_congr {path path' : Option String} (htree : fs.tree = other.tree)
    (hpath : fs.resolve path = other.resolve path') : fs.locate path = other.locate path' := by
  unfold locate
  rw [htree, hpath]

/-- A move forgets where it began. -/
theorem changeDirectory_congr {text text' : String} (htree : fs.tree = other.tree)
    (hpath : fs.resolve (some text) = other.resolve (some text')) :
    fs.changeDirectory text = other.changeDirectory text' := by
  unfold changeDirectory
  rw [locate_congr htree hpath, htree]

end

/-! ### What a move leaves -/

variable {fs moved : FileSystem} {first rest : String}

theorem cwd_eq_of_changeDirectory (h : fs.changeDirectory first = .ok moved) :
    moved.cwd = fs.resolve (some first) := by
  obtain ⟨-, rfl⟩ := changeDirectory_eq_ok_iff.mp h
  rfl

/-- After a move, the working directory is what the path of the move named before. -/
theorem locate_none_of_changeDirectory (h : fs.changeDirectory first = .ok moved) :
    moved.locate none = fs.locate (some first) :=
  locate_congr (Moves.move h .stay).tree_eq (cwd_eq_of_changeDirectory h)

/-- What a path names after a move, the joined path names before it. -/
theorem resolve_join (h : fs.changeDirectory first = .ok moved) (hfirst : first ≠ "")
    (hrest : Text.begins "/" rest = false) :
    fs.resolve (some (first ++ "/" ++ rest)) = moved.resolve (some rest) := by
  show fs.cwd.resolve (first ++ "/" ++ rest) = moved.cwd.resolve rest
  rw [cwd_eq_of_changeDirectory h, Path.resolve_join fs.cwd hfirst hrest]
  rfl

/-! ### Two moves -/

theorem perform_of_changeDirectory_ok (h : fs.changeDirectory first = .ok moved) :
    fs.perform (.changeDirectory first) = moved := by
  rw [perform, h]

theorem perform_of_changeDirectory_error {e : FileError} (h : fs.changeDirectory first = .error e) :
    fs.perform (.changeDirectory first) = fs := by
  rw [perform, h]

/-- **Two moves are one.** After a move the rest of a path finds what the whole path finds from
where the move began: the same node at the same path, or the same error. Moving on along the rest
and moving along the whole path either both succeed and leave equal file systems, or both fail for
the same reason and leave everything as it was. -/
theorem changeDirectory_join (hfirst : first ≠ "") (hrest : Text.begins "/" rest = false)
    (h : fs.changeDirectory first = .ok moved) :
    fs.locate (some (first ++ "/" ++ rest)) = moved.locate (some rest) ∧
    ((∃ last, fs.changeDirectory (first ++ "/" ++ rest) = .ok last ∧
        moved.changeDirectory rest = .ok last ∧
        fs.perform (.changeDirectory (first ++ "/" ++ rest)) = last ∧
        moved.perform (.changeDirectory rest) = last) ∨
      ∃ e, fs.changeDirectory (first ++ "/" ++ rest) = .error e ∧
        moved.changeDirectory rest = .error e ∧
        fs.perform (.changeDirectory (first ++ "/" ++ rest)) = fs ∧
        moved.perform (.changeDirectory rest) = moved) := by
  have htree : fs.tree = moved.tree := (Moves.move h .stay).tree_eq.symm
  have hpath := resolve_join h hfirst hrest
  have hmove : fs.changeDirectory (first ++ "/" ++ rest) = moved.changeDirectory rest :=
    changeDirectory_congr htree hpath
  refine ⟨locate_congr htree hpath, ?_⟩
  cases hlast : moved.changeDirectory rest with
  | ok last =>
    rw [hlast] at hmove
    exact .inl ⟨last, hmove, rfl, perform_of_changeDirectory_ok hmove,
      perform_of_changeDirectory_ok hlast⟩
  | error e =>
    rw [hlast] at hmove
    exact .inr ⟨e, hmove, rfl, perform_of_changeDirectory_error hmove,
      perform_of_changeDirectory_error hlast⟩

/-- Up past the first part and past the root, and then to a file, which is no place to move to. -/
theorem changeDirectory_join_climbing :
    seeded.changeDirectory "projects//" = .ok ⟨seededTree, ⟨["home", "dev", "projects"], by decide⟩⟩ ∧
    seeded.changeDirectory "projects///../../../..//home/dev/notes.md" =
      .error (.notADirectory ⟨["home", "dev", "notes.md"], by decide⟩) := by
  have hmove : seeded.changeDirectory "projects//" =
      .ok ⟨seededTree, ⟨["home", "dev", "projects"], by decide⟩⟩ := rfl
  have hrest : Text.begins "/" "../../../..//home/dev/notes.md" = false := by decide
  obtain ⟨-, hmoves⟩ := changeDirectory_join (by decide) hrest hmove
  refine ⟨hmove, ?_⟩
  rcases hmoves with ⟨last, -, hlast, -⟩ | ⟨e, hwhole, hafter, -⟩
  · cases hlast
  · show seeded.changeDirectory ("projects//" ++ "/" ++ "../../../..//home/dev/notes.md") = _
    rw [hwhole, ← hafter]
    rfl

end LineShell.FileSystem
