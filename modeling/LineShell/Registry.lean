import LineShell.Command

/-!
# The registry of commands

The commands of a shell in the order of their registration. No two have one name, so looking a
command up by name has one answer.
-/

namespace LineShell

/-- Commands with names of their own, in order. -/
structure Registry where
  commands : List Command
  distinct : (commands.map fun c => c.name).Nodup

namespace Registry

/-- The first name that occurs earlier in a list; `seen` are the names before it. -/
def firstRepeat? (seen : List String) : List String → Option String
  | [] => none
  | name :: rest => if seen.contains name then some name else firstRepeat? (name :: seen) rest

/-- Without a repeat the names are distinct, also from the ones seen before. -/
theorem nodup_of_firstRepeat?_eq_none {seen names : List String}
    (h : firstRepeat? seen names = none) : names.Nodup ∧ ∀ n ∈ names, n ∉ seen := by
  induction names generalizing seen with
  | nil => simp
  | cons name rest ih =>
    rw [firstRepeat?] at h
    split at h
    · simp at h
    · next hseen =>
      obtain ⟨hnodup, hfresh⟩ := ih h
      refine ⟨List.nodup_cons.mpr ⟨fun hm => hfresh name hm (by simp), hnodup⟩, ?_⟩
      intro n hn
      rcases List.mem_cons.mp hn with rfl | hn
      · simpa using hseen
      · exact fun hs => hfresh n hn (by simp [hs])

inductive Error where
  | duplicateName (name : String)
deriving DecidableEq, Repr

def Error.message : Error → String
  | duplicateName name => "duplicate command name: " ++ name

def ofList (commands : List Command) : Except Error Registry :=
  match h : firstRepeat? [] (commands.map fun c => c.name) with
  | some name => .error (.duplicateName name)
  | none => .ok ⟨commands, (nodup_of_firstRepeat?_eq_none h).1⟩

def find? (r : Registry) (name : String) : Option Command :=
  r.commands.find? fun c => c.name == name

def names (r : Registry) : List String := r.commands.map fun c => c.name

def pages (r : Registry) : List Page := r.commands.map (·.toPage)

end Registry

end LineShell
