import LineShell.Registry
import Mathlib.Data.List.Nodup

/-!
# Looking commands up

Names are distinct, so the command that `find?` stops at is the only one of that name:
`find?_eq_some_iff` reads a lookup off the list of commands.
-/

namespace LineShell.Registry

variable {r : Registry} {name : String} {command : Command}

/-- Two commands of a registry with one name are one command. -/
theorem eq_of_name_eq {other : Command} (h : command ∈ r.commands) (hother : other ∈ r.commands)
    (hname : command.name = other.name) : command = other :=
  List.inj_on_of_nodup_map r.distinct h hother hname

/-- A name finds the command that has it, and there is no other. -/
theorem find?_eq_some_iff : r.find? name = some command ↔
    command ∈ r.commands ∧ command.name = name := by
  constructor
  · intro h
    refine ⟨List.mem_of_find?_eq_some h, ?_⟩
    simpa using List.find?_some h
  · rintro ⟨hmem, rfl⟩
    cases hfind : r.find? command.name with
    | none =>
      rw [find?, List.find?_eq_none] at hfind
      exact absurd (hfind command hmem) (by simp)
    | some other =>
      have hother : other ∈ r.commands := List.mem_of_find?_eq_some hfind
      have hname : other.name = command.name := by simpa using List.find?_some hfind
      rw [eq_of_name_eq hother hmem hname]

end LineShell.Registry
