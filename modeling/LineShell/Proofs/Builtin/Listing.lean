import LineShell.Builtin
import LineShell.Proofs.FileSystem.Lookup

/-!
# What `ls` prints

`ls` picks its operand out of its arguments, looks it up and prints the children of a directory
straight from the tree. `FileSystem.list` lists them as entries. What `ls` prints depends on the
entries alone (`ls_of_directory`):

    printed : long or not, entries ──▶ a row for each, or the names in one line

A file is named as it was typed (`ls_of_file`), and anything else is an error (`ls_of_error`).
-/

namespace LineShell

/-- The call of a command in a file system, with these arguments. The word that the command was
called by, the pages and the time are left open: `cd`, `cat` and `ls` do not look at them. -/
structure Call.On (c : Call) (files : FileSystem) (arguments : List String) : Prop where
  files_eq : c.files = files
  arguments_eq : c.arguments = arguments

namespace Builtin

/-! ### Entries in text -/

/-- What stands in every row between the letter and the size. -/
def rights : String := "rwxr-xr-x  dev  dev  "

def row (e : Node.Entry) : String :=
  e.kind.letter.toString ++ rights ++ Text.padLeft 5 (toString e.size) ++ "  " ++ e.name

def printed (long : Bool) (entries : List Node.Entry) : String :=
  if long then String.intercalate "\n" (entries.map row)
  else String.intercalate "  " (entries.map (·.name))

def entriesOf (children : List (String × Node)) : List Node.Entry :=
  children.map fun c => Node.entry c.1 c.2

/-! ### The operand -/

def operand? (arguments : List String) : Option String := arguments.find? (· ≠ "-l")

section

variable {p : String} {flags : List String} (hflags : ∀ a ∈ flags, a = "-l")

include hflags

theorem operand?_flags : operand? flags = none := by
  rw [operand?, List.find?_eq_none]
  intro a ha
  simp [hflags a ha]

theorem operand?_append (hp : p ≠ "-l") (rest : List String) :
    operand? (flags ++ p :: rest) = some p := by
  have hnone := operand?_flags hflags
  rw [operand?] at hnone ⊢
  rw [List.find?_append, hnone, Option.none_or, List.find?_cons_of_pos (by simp [hp])]

end

/-- An operand does not make a listing a long one. -/
theorem long_append {p : String} (hp : p ≠ "-l") (flags : List String) :
    (flags ++ [p]).contains "-l" = flags.contains "-l" := by
  simp [Ne.symm hp]

theorem operand?_singleton {p : String} (hp : p ≠ "-l") : operand? [p] = some p :=
  operand?_append (List.forall_mem_nil _) hp []

theorem long_singleton {p : String} (hp : p ≠ "-l") : [p].contains "-l" = false :=
  long_append hp []

/-! ### The three replies -/

variable {c : Call} {files : FileSystem} {arguments : List String} {full : Path}

/-- A directory: its entries are printed, in rows if the flag is there. -/
theorem ls_of_directory {children : List (String × Node)} (h : c.On files arguments)
    (hlocate : files.locate (operand? arguments) = .ok (.directory children, full)) :
    ls c = c.answer (.success (printed (arguments.contains "-l") (entriesOf children))) := by
  obtain ⟨rfl, rfl⟩ := h
  rw [operand?] at hlocate
  rw [ls, hlocate, printed, entriesOf, List.map_map, List.map_map]
  rfl

/-- A file is named as it was typed. -/
theorem ls_of_file {content : String} (h : c.On files arguments)
    (hlocate : files.locate (operand? arguments) = .ok (.file content, full)) :
    ls c = c.answer (.success ((operand? arguments).getD full.toString)) := by
  obtain ⟨rfl, rfl⟩ := h
  rw [operand?] at hlocate
  rw [ls, hlocate]
  rfl

/-- An argument that names nothing is repeated in the error. -/
theorem ls_of_error {e : FileError} (h : c.On files arguments)
    (hlocate : files.locate (operand? arguments) = .error e) :
    ls c = c.answer (.failure ("ls: cannot access '" ++ (operand? arguments).getD "" ++
      "': No such file or directory")) := by
  obtain ⟨rfl, rfl⟩ := h
  rw [operand?] at hlocate
  rw [ls, hlocate]
  rfl

end Builtin

end LineShell
