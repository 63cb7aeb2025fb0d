import LineShell.Proofs.Registry.Lookup

/-!
# Making a registry

`ofList` goes through the commands once and keeps the names it has seen. What it finds is said here
of the places of the list, without the names that were seen:

    FirstRepeat commands i c : `c` stands in place `i`, the first whose name an earlier place has
    Only commands name i c   : `c` stands in place `i`, the only one with that name

Main statement: a registry is made exactly when the names are distinct, and then every command is
the one that its name finds; otherwise the first command that repeats a name is to blame
(`ofList_distinct`).
-/

namespace LineShell.Registry

/-! ### Places in the list -/

/-- The command stands in the first place whose name an earlier place has. -/
structure FirstRepeat (commands : List Command) (i : Nat) (command : Command) : Prop where
  here : commands[i]? = some command
  repeated : ∃ earlier ∈ commands.take i, earlier.name = command.name
  first : ∀ j < i, ∀ other ∈ commands[j]?, ∀ earlier ∈ commands.take j,
    earlier.name ≠ other.name

structure Only (commands : List Command) (name : String) (i : Nat) (command : Command) :
    Prop where
  here : commands[i]? = some command
  name_iff : ∀ j, ∀ other ∈ commands[j]?, (other.name = name ↔ j = i)

variable {commands : List Command} {command : Command} {name : String} {i : Nat}

/-- There is one first place. -/
theorem FirstRepeat.unique {j : Nat} {other : Command} (h : FirstRepeat commands i command)
    (hother : FirstRepeat commands j other) : command = other := by
  have hplace : i = j := by
    rcases Nat.lt_trichotomy i j with hlt | heq | hgt
    · obtain ⟨earlier, hmem, hname⟩ := h.repeated
      exact absurd hname (hother.first i hlt command h.here earlier hmem)
    · exact heq
    · obtain ⟨earlier, hmem, hname⟩ := hother.repeated
      exact absurd hname (h.first j hgt other hother.here earlier hmem)
  subst hplace
  exact Option.some.inj (h.here.symm.trans hother.here)

theorem FirstRepeat.not_nodup (h : FirstRepeat commands i command) :
    ¬ (commands.map fun c => c.name).Nodup := by
  intro hnodup
  obtain ⟨earlier, hmem, hname⟩ := h.repeated
  have hlater : command ∈ commands.drop i := by
    apply List.mem_iff_getElem?.mpr
    refine ⟨0, ?_⟩
    rw [List.getElem?_drop]
    exact h.here
  rw [← List.take_append_drop i commands, List.map_append, List.nodup_append] at hnodup
  exact hnodup.2.2 _ (List.mem_map_of_mem hmem) _ (List.mem_map_of_mem hlater) hname

/-! ### What goes through the list finds -/

/-- The name that is found stands in the first place whose name was seen or stands before it. -/
theorem firstRepeat?_eq_some {seen names : List String} (h : firstRepeat? seen names = some name) :
    ∃ i, names[i]? = some name ∧ name ∈ seen ++ names.take i ∧
      ∀ j < i, ∀ n ∈ names[j]?, n ∉ seen ++ names.take j := by
  induction names generalizing seen with
  | nil => cases h
  | cons first rest ih =>
    rw [firstRepeat?] at h
    split at h
    · next hseen =>
      cases h
      refine ⟨0, rfl, ?_, fun j hj => absurd hj (Nat.not_lt_zero j)⟩
      simpa using hseen
    · next hseen =>
      -- one place further, the first name counts as one that stands before
      obtain ⟨i, hname, hmem, hfirst⟩ := ih h
      refine ⟨i + 1, hname, ?_, ?_⟩
      · simp only [List.mem_append, List.mem_cons, List.take_succ_cons] at hmem ⊢
        tauto
      · intro j hj n hn
        cases j with
        | zero =>
          cases hn
          simpa using hseen
        | succ j =>
          have hnot := hfirst j (Nat.lt_of_succ_lt_succ hj) n hn
          simp only [List.mem_append, List.mem_cons, List.take_succ_cons] at hnot ⊢
          tauto

/-- The names of commands are theirs place by place. -/
theorem exists_firstRepeat (h : firstRepeat? [] (commands.map fun c => c.name) = some name) :
    ∃ i command, FirstRepeat commands i command ∧ command.name = name := by
  obtain ⟨i, hplace, hmem, hfirst⟩ := firstRepeat?_eq_some h
  rw [List.getElem?_map, Option.map_eq_some_iff] at hplace
  obtain ⟨command, hhere, rfl⟩ := hplace
  rw [List.nil_append, ← List.map_take, List.mem_map] at hmem
  refine ⟨i, command, ⟨hhere, hmem, ?_⟩, rfl⟩
  intro j hj other hother earlier hearlier hname
  have hplace : other.name ∈ (commands.map fun c => c.name)[j]? := by
    rw [List.getElem?_map]
    exact Option.mem_map_of_mem _ hother
  apply hfirst j hj other.name hplace
  rw [List.nil_append, ← List.map_take, ← hname]
  exact List.mem_map_of_mem hearlier

theorem firstRepeat?_eq_none {seen names : List String} (hnodup : names.Nodup)
    (hfresh : ∀ n ∈ names, n ∉ seen) : firstRepeat? seen names = none := by
  induction names generalizing seen with
  | nil => rfl
  | cons name rest ih =>
    obtain ⟨hname, hrest⟩ := List.nodup_cons.mp hnodup
    obtain ⟨hseen, hlater⟩ := List.forall_mem_cons.mp hfresh
    rw [firstRepeat?, if_neg (by simpa using hseen)]
    apply ih hrest
    intro n hn
    rw [List.mem_cons, not_or]
    exact ⟨ne_of_mem_of_not_mem hn hname, hlater n hn⟩

/-! ### The registry that is made -/

/-- A registry is made of its own commands and of no others. -/
theorem ofList_eq_ok_iff {r : Registry} : ofList commands = .ok r ↔ r.commands = commands := by
  constructor
  · intro h
    unfold ofList at h
    split at h
    · cases h
    · cases h
      rfl
  · rintro rfl
    have hnone := firstRepeat?_eq_none r.distinct fun n _ => List.not_mem_nil
    unfold ofList
    split
    · next name hsome =>
      rw [hnone] at hsome
      cases hsome
    · rfl

/-- Commands make a registry just when their names are distinct. -/
theorem exists_ofList_eq_ok_iff :
    (∃ r, ofList commands = .ok r) ↔ (commands.map fun c => c.name).Nodup := by
  constructor
  · rintro ⟨r, h⟩
    rw [← ofList_eq_ok_iff.mp h]
    exact r.distinct
  · intro hnodup
    exact ⟨⟨commands, hnodup⟩, ofList_eq_ok_iff.mpr rfl⟩

/-- The error names the first command, in the order of the list, whose name occurs before it. -/
theorem ofList_eq_error_iff {e : Error} : ofList commands = .error e ↔
    ∃ i command, FirstRepeat commands i command ∧ e = .duplicateName command.name := by
  constructor
  · intro h
    unfold ofList at h
    split at h
    · next name hsome =>
      cases h
      obtain ⟨i, command, hfirst, rfl⟩ := exists_firstRepeat hsome
      exact ⟨i, command, hfirst, rfl⟩
    · cases h
  · rintro ⟨i, command, hfirst, rfl⟩
    unfold ofList
    split
    · next name hsome =>
      obtain ⟨j, other, hother, rfl⟩ := exists_firstRepeat hsome
      rw [hfirst.unique hother]
    · next hnone =>
      exact absurd (nodup_of_firstRepeat?_eq_none hnone).1 hfirst.not_nodup

/-! ### Lookups in it -/

variable {r : Registry}

/-- What a name finds stands in the only place that has it. -/
theorem find?_eq_some_iff_only :
    r.find? name = some command ↔ ∃ i, Only r.commands name i command := by
  rw [find?_eq_some_iff]
  constructor
  · rintro ⟨hmem, rfl⟩
    obtain ⟨i, hhere⟩ := List.mem_iff_getElem?.mp hmem
    refine ⟨i, hhere, fun j other hother => ⟨fun hname => ?_, ?_⟩⟩
    · -- distinct names are in distinct places
      have hplace : (r.commands.map fun c => c.name)[j]? =
          (r.commands.map fun c => c.name)[i]? := by
        rw [List.getElem?_map, List.getElem?_map, hother, hhere, Option.map_some, Option.map_some,
          hname]
      have hlt : j < (r.commands.map fun c => c.name).length := by
        rw [List.length_map]
        exact (List.getElem?_eq_some_iff.mp hother).1
      exact (List.getElem?_inj hlt r.distinct).mp hplace
    · rintro rfl
      rw [Option.some.inj (hother.symm.trans hhere)]
  · rintro ⟨i, hhere, hname⟩
    exact ⟨List.mem_of_getElem? hhere, (hname i command hhere).mpr rfl⟩

/-- **A registry has every command under a name of its own.** It is made of commands with distinct
names as they are, in their order; a name finds the command in the only place that has it, so the
name of each command finds that command. When names repeat, the error has the name of the first
command that repeats one. -/
theorem ofList_distinct (commands : List Command) :
    ((∃ r, ofList commands = .ok r) ↔ (commands.map fun c => c.name).Nodup) ∧
    (∀ e, ofList commands = .error e ↔
      ∃ i command, FirstRepeat commands i command ∧ e = .duplicateName command.name) ∧
    ∀ r, ofList commands = .ok r →
      r.commands = commands ∧ r.names = commands.map (fun c => c.name) ∧
      (∀ name command, r.find? name = some command ↔ ∃ i, Only commands name i command) ∧
      ∀ i : Nat, ∀ command ∈ commands[i]?, r.find? command.name = some command := by
  refine ⟨exists_ofList_eq_ok_iff, fun e => ofList_eq_error_iff, ?_⟩
  intro r hr
  obtain rfl : r.commands = commands := ofList_eq_ok_iff.mp hr
  refine ⟨rfl, rfl, fun name command => find?_eq_some_iff_only, ?_⟩
  intro i command hhere
  exact find?_eq_some_iff.mpr ⟨List.mem_of_getElem? hhere, rfl⟩

def idleCommand (name : String) : Command :=
  { name := name, summary := "", usage := none, switches := [], parameters := [],
    handler := ⟨.immediate, fun call => call.answer .silent⟩ }

/-- Of two names that repeat, the one that repeats first is reported; without the repeats the
commands make a registry. -/
theorem ofList_distinct_twoRepeats :
    ofList (["up", "down", "down", "up"].map idleCommand) = .error (.duplicateName "down") ∧
    ∃ r, ofList (["up", "down"].map idleCommand) = .ok r ∧
      r.find? "down" = some (idleCommand "down") := by
  constructor
  · have hrepeat : FirstRepeat (["up", "down", "down", "up"].map idleCommand) 2
        (idleCommand "down") := by
      refine ⟨rfl, ⟨idleCommand "down", by simp, rfl⟩, ?_⟩
      intro j hj other hother earlier hearlier
      cases j with
      | zero => cases hearlier
      | succ j =>
        obtain rfl : j = 0 := by omega
        cases hother
        rw [List.mem_singleton.mp hearlier]
        decide
    exact ((ofList_distinct _).2.1 _).mpr ⟨2, idleCommand "down", hrepeat, rfl⟩
  · have hnames : ((["up", "down"].map idleCommand).map fun c => c.name).Nodup := by decide
    obtain ⟨hmade, -, hlookup⟩ := ofList_distinct (["up", "down"].map idleCommand)
    obtain ⟨r, hr⟩ := hmade.mpr hnames
    obtain ⟨-, -, -, hfind⟩ := hlookup r hr
    exact ⟨r, hr, hfind 1 (idleCommand "down") rfl⟩

end LineShell.Registry
