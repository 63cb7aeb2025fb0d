import LineShell.Proofs.Completion.CommandNames
import LineShell.Proofs.Token.Writing
import Mathlib.Data.List.Infix

/-!
# Accepting the name of a command

An accepted name of a command is followed by a space, so what is typed next is an argument of the
command. Suggestions, help and dispatch cut the new line into words again, each on its own:

    line               ──▶ suggestions, one of them accepted
    accept line name   ──▶ suggestions, help, result

Main statement: for a name that needs no quotes they all take the new line for the command without
arguments, however the first word was typed (`accept_command`).
-/

namespace LineShell.Completion

open Token (Plain tokenize endsWithSeparator)

variable {files : FileSystem} {registry : Registry} {command : Command} {page : Page}
  {line typed : String} {s : Suggestion}

/-! ### Nothing typed of an argument -/

/-- No argument is suggested as a command. -/
theorem Completes.kind_ne_command (h : Completes files page typed s) : s.kind ≠ .command := by
  cases h with
  | switch => exact SuggestionKind.noConfusion
  | @path _ _ _ node => cases node <;> exact SuggestionKind.noConfusion

/-- Every flag begins with nothing. -/
theorem switchCandidates_empty (page : Page) :
    switchCandidates page "" = page.flags.map switchSuggestion := by
  rw [switchCandidates_eq, List.filter_eq_self]
  intro s _
  exact Text.begins_iff.mpr List.nil_prefix

/-- In front stand the declared flags, each once. -/
theorem flags_prefix_argumentCandidates (files : FileSystem) (page : Page) :
    page.flags.eraseDups.map switchSuggestion <+: argumentCandidates files page "" := by
  have hinj : ∀ a b, (switchSuggestion a).key = (switchSuggestion b).key → a = b :=
    fun _ _ hkey => congrArg Prod.snd hkey
  rw [argumentCandidates_eq, switchCandidates_empty, ← distinct_map hinj]
  exact distinct_prefix_append _

/-! ### The command without arguments -/

/-- The line is taken for the command without arguments: by the tokenizer, by the suggestions, which
are for an argument and begin with the first ten flags, by the help, and when it is run. -/
structure AwaitsArgument (files : FileSystem) (registry : Registry) (command : Command)
    (line : String) : Prop where
  words : tokenize line = [command.name]
  argument : inCommand line = false
  no_command : ∀ s ∈ suggest files registry line, s.kind ≠ .command
  flags : (command.toPage.flags.eraseDups.take 10).map switchSuggestion <+:
    suggest files registry line
  help : inlineHelp registry line = command.usage.getD command.name
  runs : ∀ watch fs, registry.dispatch watch fs line = some (Registry.finish watch
    (command.handler.run ⟨[command.name], fs, registry.pages, watch.began⟩))

/-- All views of a line follow from its words and the blank at its end. -/
theorem awaitsArgument_of_tokenize (hcommand : command ∈ registry.commands)
    (hwords : tokenize line = [command.name]) (hsep : endsWithSeparator line = true) :
    AwaitsArgument files registry command line := by
  have hargument : inCommand line = false := by
    rw [inCommand, hwords, hsep]
    rfl
  have hfind : registry.find? command.name = some command :=
    Registry.find?_eq_some_iff.mpr ⟨hcommand, rfl⟩
  have hfirst : registry.find? ((tokenize line).headD "") = some command := by
    rw [hwords]
    exact hfind
  have hcurrent : current line = "" := if_pos hsep
  exact {
    words := hwords
    argument := hargument
    no_command := by
      intro s hs
      obtain ⟨other, hcompletes⟩ := completes_of_mem_suggest hargument hs
      exact hcompletes.kind_ne_command
    flags := by
      rw [suggest_of_find hargument hfirst, hcurrent, List.map_take]
      exact List.IsPrefix.take (flags_prefix_argumentCandidates files command.toPage) 10
    help := by simp only [inlineHelp, hwords, hfind]
    runs := by
      intro watch fs
      rw [Registry.dispatch_of_tokenize hwords, Registry.run_of_mem hcommand] }

/-- **Accepting a command moves on to its arguments.** Whatever was typed of the first word, a
suggestion is that of a registered command, and if its name is plain and has no backslash, the
accepted line is taken for this command without arguments. -/
theorem accept_command (hposition : inCommand line = true)
    (hs : s ∈ suggest files registry line) (hplain : Plain s.label.toList)
    (hescape : '\\' ∉ s.label.toList) :
    ∃ command ∈ registry.commands, s = commandSuggestion command ∧
      AwaitsArgument files registry command (accept line s.label) := by
  obtain ⟨command, hcommand, rfl⟩ := exists_command_of_mem_suggest hposition hs
  have haccept : accept line command.name = command.name ++ " " := if_pos hposition
  refine ⟨command, hcommand, rfl, ?_⟩
  show AwaitsArgument files registry command (accept line command.name)
  rw [haccept]
  exact awaitsArgument_of_tokenize hcommand (Token.tokenize_append_space hplain hescape)
    (Token.endsWithSeparator_append_space _)

/-- The beginning of a name in an open quote, accepted for a command that declares one flag
twice. -/
theorem accept_command_pack : accept "'pa" "pack" = "pack " ∧
    [switchSuggestion "-a", switchSuggestion "-b"] <+: packSuggestions := by
  have hposition : inCommand "'pa" = true := by decide +kernel
  have hs : commandSuggestion packCommand ∈
      suggest fullDirectory ⟨[packCommand], by decide⟩ "'pa" := by decide +kernel
  have hplain : Plain "pack".toList := Token.tokenize_eq_self_iff.mp (by decide +kernel)
  have haccept : accept "'pa" "pack" = "pack " := by decide +kernel
  obtain ⟨command, hcommand, -, hawaits⟩ := accept_command hposition hs hplain (by decide)
  obtain rfl : command = packCommand := List.mem_singleton.mp hcommand
  have hflags := hawaits.flags
  refine ⟨haccept, ?_⟩
  have hlabel : (commandSuggestion packCommand).label = "pack" := rfl
  rw [hlabel, haccept] at hflags
  exact hflags

end LineShell.Completion
