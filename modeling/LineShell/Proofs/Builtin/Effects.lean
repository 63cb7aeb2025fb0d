import LineShell.Proofs.Dispatch
import LineShell.Proofs.FileSystem.Lookup
import LineShell.Builtin

/-!
# What the built-in commands change

Eight of the ten commands only answer: they leave the file system and the screen alone
(`AnswersOnly`). `clear` clears the screen once, `cd` moves or fails without moving. Main
statement: a line that fails has changed nothing, and a line that changed something says so by
its first word and its exit code (`dispatch_effects`).
-/

namespace LineShell

/-! ### Replies that only answer -/

theorem ExitCode.success_or_failure {e : ExitCode} (h : e ≠ .interrupted) :
    e = .success ∨ e = .failure := by
  cases e with
  | success => exact .inl rfl
  | failure => exact .inr rfl
  | interrupted => exact absurd rfl h

/-- A reply to a call with `files` that changes nothing, and whose shown result is a success or a
failure. -/
structure Reply.AnswersOnly (files : FileSystem) (r : Reply) : Prop where
  files_eq : r.files = files
  clears_eq : r.clears = 0
  exit_ne : (shownOutput r.result).exit ≠ .interrupted

namespace Call

theorem answersOnly_success (c : Call) (text : String) :
    (c.answer (.success text)).AnswersOnly c.files :=
  ⟨rfl, rfl, ExitCode.noConfusion⟩

theorem answersOnly_failure (c : Call) (text : String) :
    (c.answer (.failure text)).AnswersOnly c.files :=
  ⟨rfl, rfl, ExitCode.noConfusion⟩

/-- An error is shown as a failure. -/
theorem answersOnly_refuse (c : Call) (e : CommandError) : (c.refuse e).AnswersOnly c.files :=
  ⟨rfl, rfl, ExitCode.noConfusion⟩

end Call

namespace Builtin

/-! ### The commands one by one -/

theorem answersOnly_help (c : Call) : (help c).AnswersOnly c.files := by
  unfold help
  split
  · exact c.answersOnly_success _
  · split <;> exact c.answersOnly_success _

theorem answersOnly_man (c : Call) : (man c).AnswersOnly c.files := by
  unfold man
  split
  · exact c.answersOnly_success _
  · split <;> exact c.answersOnly_success _

theorem answersOnly_echo (c : Call) : (echo c).AnswersOnly c.files := c.answersOnly_success _

theorem answersOnly_date (c : Call) : (date c).AnswersOnly c.files := c.answersOnly_success _

theorem answersOnly_pwd (c : Call) : (pwd c).AnswersOnly c.files := c.answersOnly_success _

/-- Whatever `ls` finds or fails to find, it reports it. -/
theorem answersOnly_ls (c : Call) : (ls c).AnswersOnly c.files := by
  unfold ls
  dsimp only
  split
  · exact c.answersOnly_failure _
  · exact c.answersOnly_success _
  · exact c.answersOnly_success _

theorem answersOnly_cat (c : Call) : (cat c).AnswersOnly c.files := by
  unfold cat
  split
  · exact c.answersOnly_failure _
  · split
    · exact c.answersOnly_success _
    · exact c.answersOnly_failure _

theorem answersOnly_grep [Engine] (c : Call) : (grep c).AnswersOnly c.files := by
  unfold grep
  split
  · split
    · exact c.answersOnly_failure _
    · split
      · exact c.answersOnly_refuse _
      · exact c.answersOnly_success _
  · exact c.answersOnly_failure _

/-! ### Moving -/

/-- Where `cd` leads: home without an argument or with an empty one. -/
def cdTarget (files : FileSystem) : List String → Path
  | [] => FileSystem.homePath
  | path :: _ => if path = "" then FileSystem.homePath else files.resolve (some path)

/-- The argument that `cd` looks up leads to its target; the home directory is named by an absolute
path. -/
theorem resolve_cd_argument (files : FileSystem) (arguments : List String) :
    files.resolve (some ((arguments.head?.filter (· ≠ "")).getD FileSystem.home)) =
      cdTarget files arguments := by
  cases arguments with
  | nil => exact FileSystem.resolve_home
  | cons path rest =>
    rw [List.head?_cons, cdTarget]
    by_cases hpath : path = ""
    · rw [if_pos hpath, Option.filter_some_neg (by simp [hpath])]
      exact FileSystem.resolve_home
    · rw [if_neg hpath, Option.filter_some_pos (by simp [hpath])]
      rfl

/-- `cd` moves and prints nothing, or fails and stays. -/
theorem cd_cases (c : Call) :
    cd c = { c.answer .silent with
      files := { c.files with cwd := cdTarget c.files c.arguments } } ∨
    ∃ text, cd c = c.answer (.failure text) := by
  unfold cd
  dsimp only
  split
  · next files hmove =>
    obtain ⟨-, rfl⟩ := FileSystem.changeDirectory_eq_ok_iff.mp hmove
    left
    rw [resolve_cd_argument]
  · exact .inr ⟨_, rfl⟩

/-! ### All of them -/

/-- Of the built-in commands only `clear` and `cd` do more than answer. -/
theorem handler_cases [Engine] {command : Command} (h : command ∈ commands) :
    command.name = "clear" ∧ command.handler.run = clear ∨
    command.name = "cd" ∧ command.handler.run = cd ∨
    command.name ≠ "clear" ∧ command.name ≠ "cd" ∧
      ∀ c, (command.handler.run c).AnswersOnly c.files := by
  simp only [commands, List.mem_cons, List.not_mem_nil, or_false] at h
  rcases h with rfl | rfl | rfl | rfl | rfl | rfl | rfl | rfl | rfl | rfl
  · exact .inr (.inr ⟨by decide, by decide, answersOnly_help⟩)
  · exact .inl ⟨rfl, rfl⟩
  · exact .inr (.inr ⟨by decide, by decide, answersOnly_echo⟩)
  · exact .inr (.inr ⟨by decide, by decide, answersOnly_date⟩)
  · exact .inr (.inr ⟨by decide, by decide, answersOnly_pwd⟩)
  · exact .inr (.inr ⟨by decide, by decide, answersOnly_ls⟩)
  · exact .inr (.inl ⟨rfl, rfl⟩)
  · exact .inr (.inr ⟨by decide, by decide, answersOnly_cat⟩)
  · exact .inr (.inr ⟨by simp [command], by simp [command], answersOnly_grep⟩)
  · exact .inr (.inr ⟨by decide, by decide, answersOnly_man⟩)

/-- The reply to a line whose first word is `name`. -/
theorem run_cases [Engine] (now : Calendar.Moment) (files : FileSystem) (name : String)
    (rest : List String) :
    let call : Call := ⟨name :: rest, files, registry.pages, now⟩
    let reply := registry.run now files name (name :: rest)
    name = "clear" ∧ reply = clear call ∨ name = "cd" ∧ reply = cd call ∨
      name ≠ "clear" ∧ name ≠ "cd" ∧ reply.AnswersOnly files := by
  intro call reply
  cases hfind : registry.find? name with
  | none =>
    have hreply : reply = call.answer (.failure (name ++ ": command not found")) := by
      simp only [reply, Registry.run, hfind]
      rfl
    -- `clear` and `cd` are found, so a name that is not found is neither
    right; right
    refine ⟨?_, ?_, hreply ▸ call.answersOnly_failure _⟩
    · rintro rfl
      simp [Registry.find?, registry, commands, command] at hfind
    · rintro rfl
      simp [Registry.find?, registry, commands, command] at hfind
  | some command =>
    obtain ⟨hmem, rfl⟩ := Registry.find?_eq_some_iff.mp hfind
    have hreply : reply = command.handler.run call := Registry.run_of_mem hmem
    rw [hreply]
    rcases handler_cases hmem with ⟨hname, hrun⟩ | ⟨hname, hrun⟩ | ⟨hclear, hcd, hrun⟩
    · exact .inl ⟨hname, by rw [hrun]⟩
    · exact .inr (.inl ⟨hname, by rw [hrun]⟩)
    · exact .inr (.inr ⟨hclear, hcd, hrun call⟩)

end Builtin

/-! ### A line -/

/-- What a line with the words `name` and `rest` may have done to `files` and the screen. -/
structure Dispatched.Accounted (files : FileSystem) (name : String) (rest : List String)
    (d : Dispatched) : Prop where
  ends : d.execution.exit = .success ∨ d.execution.exit = .failure
  atomic : d.execution.exit = .failure → d.files = files ∧ d.clears = 0
  changed : d.files ≠ files → name = "cd" ∧ d.execution.exit = .success
  moved : name = "cd" → d.execution.exit = .success →
    d.execution.output = "" ∧ d.files = { files with cwd := Builtin.cdTarget files rest }
  clears : d.clears = if name = "clear" then 1 else 0

namespace Builtin

open Registry (finish)

variable {watch : Stopwatch} {files : FileSystem} {name : String} {rest : List String}

/-- Most commands only answer, so all that a line with them leaves is its result. -/
theorem accounted_of_answersOnly {reply : Reply} (h : reply.AnswersOnly files)
    (hclear : name ≠ "clear") (hcd : name ≠ "cd") :
    (finish watch reply).Accounted files name rest where
  ends := ExitCode.success_or_failure h.exit_ne
  atomic _ := ⟨h.files_eq, h.clears_eq⟩
  changed hne := absurd h.files_eq hne
  moved hname := absurd hname hcd
  clears := by rw [if_neg hclear]; exact h.clears_eq

theorem accounted_clear {c : Call} (hfiles : c.files = files) :
    (finish watch (clear c)).Accounted files "clear" rest where
  ends := .inl rfl
  atomic hexit := nomatch hexit
  changed hne := absurd hfiles hne
  moved hname := absurd hname (by decide)
  clears := rfl

/-- A `cd` that fails has not moved. -/
theorem accounted_cd {now : Calendar.Moment} {pages : List Page} :
    (finish watch (cd ⟨name :: rest, files, pages, now⟩)).Accounted files "cd" rest := by
  rcases cd_cases ⟨name :: rest, files, pages, now⟩ with hmove | ⟨text, hfail⟩
  · rw [hmove]
    exact {
      ends := .inl rfl
      atomic := fun hexit => nomatch hexit
      changed := fun _ => ⟨rfl, rfl⟩
      moved := fun _ _ => ⟨rfl, rfl⟩
      clears := rfl }
  · rw [hfail]
    exact {
      ends := .inr rfl
      atomic := fun _ => ⟨rfl, rfl⟩
      changed := fun hne => absurd rfl hne
      moved := fun _ hexit => nomatch hexit
      clears := rfl }

/-- **Built-in lines are atomic.** A line has no result exactly when it is blank, and then there is
nothing it could have changed. Any other line succeeds or fails; a failure leaves the file system
and the screen as they were, only a `cd` that succeeds moves, and only `clear` clears. -/
theorem dispatch_effects [Engine] (watch : Stopwatch) (files : FileSystem) (line : String) :
    match registry.dispatch watch files line with
    | none => Text.isBlankLine line = true
    | some d => Text.isBlankLine line = false ∧
        ∃ name rest, Token.tokenize line = name :: rest ∧ d.Accounted files name rest := by
  cases hdispatch : registry.dispatch watch files line with
  | none => exact Registry.dispatch_eq_none_iff.mp hdispatch
  | some d =>
    have hblank : ¬ Text.isBlankLine line = true := fun h => by
      rw [Registry.dispatch_eq_none_iff.mpr h] at hdispatch
      cases hdispatch
    obtain ⟨name, rest, htokens, rfl⟩ := Registry.dispatch_eq_some hdispatch
    refine ⟨Bool.eq_false_iff.mpr hblank, name, rest, htokens, ?_⟩
    rcases run_cases watch.began files name rest with
      ⟨rfl, hreply⟩ | ⟨rfl, hreply⟩ | ⟨hclear, hcd, hanswers⟩
    · rw [hreply]
      exact accounted_clear rfl
    · rw [hreply]
      exact accounted_cd
    · exact accounted_of_answersOnly hanswers hclear hcd

end Builtin

end LineShell
