import LineShell.Builtin
import LineShell.Pattern
import LineShell.Proofs.Token.Writing

/-!
# Flags anywhere among the arguments

Three commands go through their arguments twice, once for a flag and once for their operands:

            flag   operands
    ls      -l     all other arguments, and it takes the first
    echo    -n     all other arguments
    grep    -i     all arguments without a hyphen in front, and it takes two

Neither search depends on where the other has been. Two lists of arguments that give the same
answers to both (`SameBut`) are therefore the same to the command, and a line for one does what a
line for the other does (`run_sameBut`). Each list is the same as one with the flag in front, once
(`sameBut_front`).
-/

namespace LineShell.Builtin

open Token (IsGap Bare Quoted Written isGap_nil isGap_singleton)

/-! ### Lists that differ in a flag -/

/-- Two lists of arguments both have the flag or both do not, and their operands are the same ones
in the same order. -/
structure SameBut (flag : String) (operand : String → Bool) (args args' : List String) : Prop where
  flag_mem : flag ∈ args ↔ flag ∈ args'
  operands_eq : args.filter operand = args'.filter operand

/-- However often and wherever a flag is given, it could stand in front. -/
theorem sameBut_front {flag : String} {operand : String → Bool} {args : List String}
    (hoperand : operand flag = false) (hflag : flag ∈ args) :
    SameBut flag operand args (flag :: args.filter operand) where
  flag_mem := iff_of_true hflag (List.mem_cons_self ..)
  operands_eq := by
    rw [List.filter_cons_of_neg (by simp [hoperand]), List.filter_filter]
    simp only [Bool.and_self]

section

variable {flag : String} {operand : String → Bool} {c c' : Call}
  (h : SameBut flag operand c.arguments c'.arguments)

include h

theorem SameBut.hasFlag_eq : c.hasFlag flag = c'.hasFlag flag := by
  rw [Bool.eq_iff_iff, Call.hasFlag, Call.hasFlag, List.contains_iff_mem, List.contains_iff_mem]
  exact h.flag_mem

/-- The first operand is the first one of those that are the same. -/
theorem SameBut.find?_eq : c.arguments.find? operand = c'.arguments.find? operand := by
  rw [← List.head?_filter, ← List.head?_filter, h.operands_eq]

end

/-! ### Commands with a flag -/

/-- A handler with the flag that it knows, and what it takes for an operand. -/
inductive Flagged [Engine] : (Call → Reply) → String → (String → Bool) → Prop
  | ls : Flagged ls "-l" (· ≠ "-l")
  | echo : Flagged echo "-n" (· ≠ "-n")
  | grep : Flagged grep "-i" fun a => !Text.begins "-" a

/-- These are all the switches that built-in commands declare. -/
theorem flagged_of_switch [Engine] {command : Command} {switch : Switch} (hmem : command ∈ commands)
    (hswitch : switch ∈ command.switches) :
    ∃ operand, Flagged command.handler.run switch.flag operand := by
  simp only [commands, List.mem_cons, List.not_mem_nil, or_false] at hmem
  rcases hmem with rfl | rfl | rfl | rfl | rfl | rfl | rfl | rfl | rfl | rfl
  -- seven of them declare none
  all_goals try exact absurd hswitch List.not_mem_nil
  all_goals obtain rfl := List.mem_singleton.mp hswitch
  · exact ⟨_, .echo⟩
  · exact ⟨_, .ls⟩
  · exact ⟨_, .grep⟩

section

variable {c c' : Call} (hfiles : c.files = c'.files)

include hfiles

/-- `ls` looks at its flag and at the first operand. -/
theorem ls_congr (h : SameBut "-l" (· ≠ "-l") c.arguments c'.arguments) : ls c = ls c' := by
  simp only [ls, Call.answer, h.find?_eq, h.hasFlag_eq, hfiles]

/-- `echo` prints its operands; the flag only keeps the newline back. -/
theorem echo_congr (h : SameBut "-n" (· ≠ "-n") c.arguments c'.arguments) : echo c = echo c' := by
  simp only [echo, Call.answer, h.operands_eq, h.hasFlag_eq, hfiles]

/-- Of the arguments with a hyphen in front `grep` looks for `-i` only, and takes none for an
operand. -/
theorem grep_congr [Engine]
    (h : SameBut "-i" (fun a => !Text.begins "-" a) c.arguments c'.arguments) :
    grep c = grep c' := by
  simp only [grep, Call.answer, Call.refuse, h.operands_eq, h.hasFlag_eq, hfiles]

/-- Each of the three commands answers two such calls alike. -/
theorem Flagged.congr [Engine] {run : Call → Reply} {flag : String} {operand : String → Bool}
    (hrun : Flagged run flag operand) (h : SameBut flag operand c.arguments c'.arguments) :
    run c = run c' := by
  cases hrun with
  | ls => exact ls_congr hfiles h
  | echo => exact echo_congr hfiles h
  | grep => exact grep_congr hfiles h

end

/-! ### Calls and lines -/

/-- **Flags may stand anywhere and be repeated.** Two calls of `ls`, `echo` or `grep` in one file
system, whose arguments both have the flag or both do not and have the same operands in the same
order, have one reply. Two lines for such calls, with every word written in one way or another,
have one result. These three are all built-in commands that declare a switch. -/
theorem run_sameBut [Engine] {run : Call → Reply} {flag : String} {operand : String → Bool}
    (hrun : Flagged run flag operand) {args args' : List String}
    (hsame : SameBut flag operand args args') :
    (∀ c c' : Call, c.files = c'.files → c.arguments = args → c'.arguments = args' →
      run c = run c') ∧
    (∀ (r : Registry) (watch : Stopwatch) (files : FileSystem) (command : Command),
      command ∈ r.commands → command.handler.run = run → ∀ line line' : String,
        Written (command.name :: args) line → Written (command.name :: args') line' →
          r.dispatch watch files line = r.dispatch watch files line') ∧
    ∀ command ∈ commands, ∀ switch ∈ command.switches,
      ∃ operand, Flagged command.handler.run switch.flag operand := by
  refine ⟨?_, ?_, fun command hmem switch => flagged_of_switch hmem⟩
  · rintro c c' hfiles rfl rfl
    exact hrun.congr hfiles hsame
  · rintro r watch files command hmem rfl line line' hline hline'
    have hreply : command.handler.run ⟨command.name :: args, files, r.pages, watch.began⟩ =
        command.handler.run ⟨command.name :: args', files, r.pages, watch.began⟩ := by
      apply hrun.congr
      · rfl
      · exact hsame
    rw [Registry.dispatch_of_tokenize (Token.tokenize_of_written hline),
      Registry.dispatch_of_tokenize (Token.tokenize_of_written hline'),
      Registry.run_of_mem hmem, Registry.run_of_mem hmem, hreply]

/-- The flag twice behind the operand, quoted and bare, and once in front of it, quoted and with a
backslash. -/
theorem run_sameBut_ls :
    Written ["ls", ".", "-l", "-l"] "ls . '-l' -l" ∧
    Written ["ls", "-l", "."] "ls \"\\-l\" ." ∧
    ∀ watch, registry.dispatch watch .seeded "ls . '-l' -l" =
      registry.dispatch watch .seeded "ls \"\\-l\" ." := by
  have hspace : IsGap [' '] := isGap_singleton rfl
  have hls : Bare "ls".toList "ls".toList :=
    .plain rfl rfl (by decide) (.plain rfl (by decide) .nil)
  have hdot : Bare ".".toList ".".toList := .plain rfl rfl (by decide) .nil
  have hbare : Bare "-l".toList "-l".toList :=
    .plain rfl rfl (by decide) (.plain rfl (by decide) .nil)
  have hquoted : Quoted "-l".toList "'-l'".toList :=
    @Quoted.intro '\'' _ "-l".toList rfl (.plain rfl (by decide) (.plain rfl (by decide) .nil))
  have hescaped : Quoted "-l".toList "\"\\-l\"".toList :=
    @Quoted.intro '"' _ "\\-l".toList rfl (.escape (.plain rfl (by decide) .nil))
  have hline : Written ["ls", ".", "-l", "-l"] "ls . '-l' -l" :=
    ⟨[], _, isGap_nil, .bare hls hspace (by simp) (.bare hdot hspace (by simp)
      (.quoted hquoted hspace (.bare hbare isGap_nil (by simp) .nil))), rfl⟩
  have hline' : Written ["ls", "-l", "."] "ls \"\\-l\" ." :=
    ⟨[], _, isGap_nil, .bare hls hspace (by simp)
      (.quoted hescaped hspace (.bare hdot isGap_nil (by simp) .nil)), rfl⟩
  have hsame : SameBut "-l" (· ≠ "-l") [".", "-l", "-l"] ["-l", "."] :=
    sameBut_front (by decide) (by decide)
  have hmem : command "ls" "List directory contents" "ls [path]" [⟨"-l", "long format"⟩]
      [⟨"path", .optional⟩] ls ∈ registry.commands := by simp [registry, commands]
  refine ⟨hline, hline', fun watch => ?_⟩
  exact (run_sameBut .ls hsame).2.1 registry watch .seeded _ hmem rfl _ _ hline hline'

end LineShell.Builtin
