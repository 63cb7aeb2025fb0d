import LineShell.Proofs.Completion.Arguments
import LineShell.Proofs.Registry.Lookup
import LineShell.Proofs.Token.Separator
import LineShell.Proofs.Unicode.Lowering

/-!
# Completing the name of a command

While the first word is typed, the suggestions are the first eight commands whose name begins with
it, both in lower case. So a command should be found by every beginning of its name, as far as
there is room. It is, with one exception: lower case sees a capital sigma at the end of a word, and
a beginning can end where the name goes on:

    name ΑΣΑΝΣΕΡ, typed Α     found
    name ΑΣΑΝΣΕΡ, typed ΑΣ    not found, since `ας` does not begin `ασανσερ`

Main statement: `suggest_beginning`.
-/

namespace LineShell.Completion

open Text (isBlank)
open Token (Literal isQuote tokenize endsWithSeparator)
open Unicode (CutsSigma toLower)

variable {files : FileSystem} {registry : Registry} {command : Command} {line typed rest : String}
  {s : Suggestion}

/-! ### The suggestions -/

def commandSuggestion (c : Command) : Suggestion := ⟨.command, c.name, some c.summary⟩

/-- Whether a name begins as typed, regardless of case. -/
def Matches (typed : String) (c : Command) : Bool := Text.begins (toLower typed) (toLower c.name)

/-- The candidates are the commands that match, in the order of the registry. -/
theorem commandCandidates_eq (registry : Registry) (typed : String) :
    commandCandidates registry typed =
      (registry.commands.filter (Matches typed)).map commandSuggestion :=
  rfl

/-- In a command position the first eight commands that match are suggested. -/
theorem suggest_of_inCommand (h : inCommand line = true) :
    suggest files registry line =
      ((registry.commands.filter (Matches ((tokenize line).headD ""))).take 8).map
        commandSuggestion := by
  rw [suggest, if_pos h, commandCandidates_eq, List.map_take]
  rfl

/-- In command position every suggestion is that of a registered command. -/
theorem exists_command_of_mem_suggest (h : inCommand line = true)
    (hs : s ∈ suggest files registry line) :
    ∃ command ∈ registry.commands, s = commandSuggestion command := by
  rw [suggest_of_inCommand h] at hs
  obtain ⟨command, hcommand, rfl⟩ := List.mem_map.mp hs
  exact ⟨command, (List.mem_filter.mp (List.mem_of_mem_take hcommand)).1, rfl⟩

/-! ### A word that is typed as it is -/

/-- A text without blanks, quotes and backslashes: a word that is read as it is typed, or
nothing. -/
def Verbatim (typed : String) : Prop :=
  ∀ c ∈ typed.toList, isBlank c = false ∧ isQuote c = false ∧ c ≠ '\\'

instance (typed : String) : Decidable (Verbatim typed) :=
  List.decidableBAll (fun c => isBlank c = false ∧ isQuote c = false ∧ c ≠ '\\') typed.toList

theorem Verbatim.literal (h : Verbatim typed) (hne : typed ≠ "") : Literal typed.toList where
  ne_nil := fun hnil => hne (String.toList_eq_nil_iff.mp hnil)
  not_isBlank := fun c hc => (h c hc).1
  unquoted := fun c hc => (h c hc).2

theorem Verbatim.tokenize_eq (h : Verbatim typed) (hne : typed ≠ "") : tokenize typed = [typed] :=
  Token.tokenize_eq_self_iff.mpr (h.literal hne).plain

theorem Verbatim.headD_tokenize (h : Verbatim typed) : (tokenize typed).headD "" = typed := by
  by_cases hne : typed = ""
  · subst hne
    decide +kernel
  · rw [h.tokenize_eq hne]
    rfl

/-- A text without blanks is the first word, or none. -/
theorem Verbatim.inCommand (h : Verbatim typed) : inCommand typed = true := by
  by_cases hne : typed = ""
  · subst hne
    decide +kernel
  · have hsep : endsWithSeparator typed = false := by
      rw [endsWithSeparator, Option.any_eq_false]
      intro c hc
      simp [(h c (List.mem_of_getLast? hc)).1]
    rw [Completion.inCommand, h.tokenize_eq hne, hsep]
    rfl

/-! ### Room for the name -/

/-- What is wanted is among the first `n`, unless these stand in front of it. -/
theorem mem_take_filter_or {α : Type} {p : α → Bool} {a : α} (ha : p a = true)
    (before after : List α) (n : Nat) :
    a ∈ ((before ++ a :: after).filter p).take n ∨
      ((before ++ a :: after).filter p).take n = (before.filter p).take n ∧
        n ≤ (before.filter p).length := by
  rw [List.filter_append, List.filter_cons_of_pos ha]
  by_cases hroom : (before.filter p).length < n
  · left
    obtain ⟨m, hm⟩ := Nat.exists_eq_add_of_lt hroom
    rw [hm, Nat.add_assoc, List.take_length_add_append]
    simp
  · right
    have hfull : n ≤ (before.filter p).length := Nat.le_of_not_lt hroom
    exact ⟨List.take_append_of_le_length hfull, hfull⟩

/-! ### Beginnings of a name -/

/-- A beginning of a name matches it unless it cuts a sigma from the letters after it. -/
theorem matches_iff (hname : command.name = typed ++ rest) :
    Matches typed command = true ↔ ¬ CutsSigma [] typed.toList rest.toList := by
  rw [Matches, Text.begins_iff, hname, Unicode.toLower_prefix_iff]

/-- Names are distinct, so a command is suggested only if its own name begins as typed. -/
theorem matches_of_mem_suggest (h : inCommand line = true) (hcommand : command ∈ registry.commands)
    (hs : commandSuggestion command ∈ suggest files registry line) :
    Matches ((tokenize line).headD "") command = true := by
  rw [suggest_of_inCommand h] at hs
  obtain ⟨other, hother, heq⟩ := List.mem_map.mp hs
  obtain ⟨hmem, hmatches⟩ := List.mem_filter.mp (List.mem_of_mem_take hother)
  have hname : other.name = command.name := congrArg Suggestion.label heq
  rw [← Registry.eq_of_name_eq hmem hcommand hname]
  exact hmatches

/-- A command is not suggested for such a beginning of its own name. -/
theorem notMem_suggest_of_cutsSigma (hcommand : command ∈ registry.commands)
    (hname : command.name = typed ++ rest) (htyped : Verbatim typed)
    (hcut : CutsSigma [] typed.toList rest.toList) :
    commandSuggestion command ∉ suggest files registry typed := by
  intro hs
  have hmatches := matches_of_mem_suggest htyped.inCommand hcommand hs
  rw [htyped.headD_tokenize] at hmatches
  exact (matches_iff hname).mp hmatches hcut

/-- **A command is found by the beginnings of its name**, unless eight commands that were registered
before it take all the room. The beginnings that are cut behind a capital sigma in the middle of a
word are the exception: by these the command is never found. -/
theorem suggest_beginning {before after : List Command}
    (hcommands : registry.commands = before ++ command :: after)
    (hname : command.name = typed ++ rest) (htyped : Verbatim typed) :
    (¬ CutsSigma [] typed.toList rest.toList →
      commandSuggestion command ∈ suggest files registry typed ∨
        (suggest files registry typed).length = 8 ∧
        (suggest files registry typed).Sublist (before.map commandSuggestion)) ∧
    (CutsSigma [] typed.toList rest.toList →
      commandSuggestion command ∉ suggest files registry typed) := by
  refine ⟨fun hcut => ?_, fun hcut => ?_⟩
  · rw [suggest_of_inCommand htyped.inCommand, htyped.headD_tokenize, hcommands]
    have hmatches := (matches_iff hname).mpr hcut
    rcases mem_take_filter_or hmatches before after 8 with hmem | ⟨htake, hfull⟩
    · exact .inl (List.mem_map_of_mem hmem)
    · right
      rw [htake, List.length_map, List.length_take]
      refine ⟨Nat.min_eq_left hfull, List.Sublist.map _ ?_⟩
      exact (List.take_sublist _ _).trans List.filter_sublist
  · have hcommand : command ∈ registry.commands := by simp [hcommands]
    exact notMem_suggest_of_cutsSigma hcommand hname htyped hcut

/-- A command whose name has a capital sigma in the middle. -/
def liftCommand : Command :=
  Builtin.command "ΑΣΑΝΣΕΡ" "Call the lift" "ΑΣΑΝΣΕΡ" [] [] Builtin.pwd

def liftRegistry : Registry := ⟨[liftCommand], List.nodup_singleton _⟩

/-- The command is found by the first letter of its name and lost with the second. -/
theorem suggest_beginning_lift :
    commandSuggestion liftCommand ∈ suggest .seeded liftRegistry "Α" ∧
    commandSuggestion liftCommand ∉ suggest .seeded liftRegistry "ΑΣ" := by
  have hcommands : liftRegistry.commands = [] ++ liftCommand :: [] := rfl
  have hwhole : ¬ CutsSigma [] "Α".toList "ΣΑΝΣΕΡ".toList := by
    rintro ⟨word, marks, hfront, -⟩
    have hsigma : 'Σ' ∈ "Α".toList := hfront ▸ List.mem_append_right word (List.mem_cons_self ..)
    exact absurd hsigma (by decide)
  constructor
  · rcases (suggest_beginning hcommands rfl (by decide)).1 hwhole with hmem | ⟨hfull, hsublist⟩
    · exact hmem
    · -- eight suggestions of earlier commands would need as many earlier commands
      have hshort := hsublist.length_le
      rw [hfull] at hshort
      exact absurd hshort (by decide)
  · exact (suggest_beginning hcommands rfl (by decide)).2 Unicode.cutsSigma_alpha

/-- There is room for the command, but `ΑΣ` does not find it. -/
theorem not_forall_suggest_beginning :
    ¬ ∀ (files : FileSystem) (registry : Registry) (before after : List Command)
        (command : Command) (typed rest : String),
      registry.commands = before ++ command :: after → command.name = typed ++ rest →
      Verbatim typed →
      commandSuggestion command ∈ suggest files registry typed ∨
        (suggest files registry typed).length = 8 ∧
        suggest files registry typed ⊆ before.map commandSuggestion := by
  intro h
  rcases h .seeded liftRegistry [] [] liftCommand "ΑΣ" "ΑΝΣΕΡ" rfl rfl (by decide) with
    hmem | ⟨hfull, hsubset⟩
  · have hcommand : liftCommand ∈ liftRegistry.commands := List.mem_singleton_self _
    exact notMem_suggest_of_cutsSigma hcommand rfl (by decide) Unicode.cutsSigma_alpha hmem
  · rw [List.eq_nil_of_subset_nil hsubset] at hfull
    cases hfull

end LineShell.Completion
