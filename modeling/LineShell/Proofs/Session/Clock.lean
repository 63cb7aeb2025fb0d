import LineShell.Proofs.Session.History
import Mathlib.Data.List.Forall2

/-!
# What the clock decides

Only `date` looks at the clock, and what it prints is all that the clock has a say in: where a
session is, which lines it has recorded and how they ended do not depend on it. So two sessions to
which the same was done at different times are alike: their histories differ in the recorded times,
and in the outputs of lines that ask for the time.

    handler_now    : a command  ──▶ it is `date`, or the time makes no difference to it
    dispatch_alike : a line     ──▶ its results at two times
    alike_step, alike_run       ──▶ the sessions after one event, and after any number
-/

namespace LineShell

def AsksTime (line : String) : Prop := (Token.tokenize line).head? = some "date"

/-! ### Results of a line -/

structure Dispatched.Alike (line : String) (d e : Dispatched) : Prop where
  files_eq : d.files = e.files
  clears_eq : d.clears = e.clears
  exit_eq : d.execution.exit = e.execution.exit
  output_eq : ¬ AsksTime line → d.execution.output = e.execution.output

namespace Builtin

open Registry (finish)

/-- Of the built-in commands only `date` looks at the time. -/
theorem handler_now [Engine] {command : Command} (h : command ∈ commands) :
    command.name = "date" ∧ command.handler.run = date ∨
      ∀ argv files pages now later,
        command.handler.run ⟨argv, files, pages, now⟩ =
          command.handler.run ⟨argv, files, pages, later⟩ := by
  simp only [commands, List.mem_cons, List.not_mem_nil, or_false] at h
  rcases h with rfl | rfl | rfl | rfl | rfl | rfl | rfl | rfl | rfl | rfl
  case inr.inr.inr.inl => exact .inl ⟨rfl, rfl⟩
  all_goals exact .inr fun argv files pages now later => rfl

/-- A command run at two times: unless it is `date`, the replies are the same. -/
theorem run_now [Engine] (now later : Calendar.Moment) (files : FileSystem) (name : String)
    (argv : List String) :
    registry.run now files name argv = registry.run later files name argv ∨
      name = "date" ∧ ∀ moment, registry.run moment files name argv =
        date ⟨argv, files, registry.pages, moment⟩ := by
  cases hfind : registry.find? name with
  | none =>
    left
    rw [Registry.run, Registry.run, hfind]
  | some command =>
    obtain ⟨hmem, rfl⟩ := Registry.find?_eq_some_iff.mp hfind
    rcases handler_now hmem with ⟨hname, hrun⟩ | hsame
    · right
      refine ⟨hname, fun moment => ?_⟩
      rw [Registry.run_of_mem hmem, hrun]
    · left
      rw [Registry.run_of_mem hmem, Registry.run_of_mem hmem]
      exact hsame _ _ _ _ _

theorem finish_success (watch : Stopwatch) (c : Call) (text : String) :
    finish watch (c.answer (.success text)) = ⟨⟨text, .success, watch.elapsed⟩, c.files, 0⟩ := rfl

theorem dispatch_alike [Engine] (watch other : Stopwatch) (files : FileSystem) (line : String) :
    Option.Rel (Dispatched.Alike line) (registry.dispatch watch files line)
      (registry.dispatch other files line) := by
  cases htokens : Token.tokenize line with
  | nil =>
    rw [Registry.dispatch, Registry.dispatch, htokens]
    exact .none
  | cons name rest =>
    rw [Registry.dispatch_of_tokenize htokens, Registry.dispatch_of_tokenize htokens]
    refine .some ?_
    rcases run_now watch.began other.began files name (name :: rest) with hsame | ⟨rfl, hdate⟩
    · rw [hsame]
      exact ⟨rfl, rfl, rfl, fun _ => rfl⟩
    · have hasks : AsksTime line := by rw [AsksTime, htokens]; rfl
      rw [hdate, hdate, date, date, finish_success, finish_success]
      exact ⟨rfl, rfl, rfl, fun hnot => absurd hasks hnot⟩

end Builtin

/-! ### Sessions -/

structure HistoryEntry.Alike (e f : HistoryEntry) : Prop where
  command_eq : e.command = f.command
  exit_eq : e.exit = f.exit
  output_eq : ¬ AsksTime e.command → e.output = f.output

namespace Session

structure Alike (s t : Session) : Prop where
  files_eq : s.files = t.files
  capacity_eq : s.capacity = t.capacity
  lastExit_eq : s.lastExit = t.lastExit
  history : List.Forall₂ HistoryEntry.Alike s.history t.history

inductive Event.Alike : Event → Event → Prop
  | execute {watch other line} : Alike (.execute watch line) (.execute other line)
  | interrupt {now later line} : Alike (.interrupt now line) (.interrupt later line)

variable {s t : Session}

theorem Alike.refl (s : Session) : Alike s s :=
  ⟨rfl, rfl, rfl, List.forall₂_same.mpr fun _ _ => ⟨rfl, rfl, fun _ => rfl⟩⟩

theorem alike_record (h : Alike s t) {e f : Execution} (hexit : e.exit = f.exit) {line : String}
    (houtput : ¬ AsksTime line → e.output = f.output) (now later : Calendar.Moment) :
    Alike (s.record now line e) (t.record later line f) where
  files_eq := h.files_eq
  capacity_eq := h.capacity_eq
  lastExit_eq := hexit
  history := by
    have hlast : HistoryEntry.Alike ⟨line, e.output, now, e.exit, e.elapsed⟩
        ⟨line, f.output, later, f.exit, f.elapsed⟩ := ⟨rfl, hexit, houtput⟩
    -- both histories are full, or neither is
    rw [record, record, h.history.length_eq, h.capacity_eq]
    refine List.rel_append ?_ (.cons hlast .nil)
    split
    · rw [← List.drop_one, ← List.drop_one]
      exact List.forall₂_drop 1 h.history
    · exact h.history

theorem alike_step [Engine] (h : Alike s t) {a b : Event} (hab : a.Alike b) :
    Alike (s.step a) (t.step b) := by
  cases hab with
  | @execute watch other line =>
    have hresults := Builtin.dispatch_alike watch other t.files line
    rw [step, step, execute, execute, h.files_eq]
    generalize Builtin.registry.dispatch watch t.files line = result at hresults ⊢
    generalize Builtin.registry.dispatch other t.files line = result' at hresults ⊢
    cases hresults with
    | none => exact h
    | @some d e hd =>
      refine alike_record ?_ hd.exit_eq hd.output_eq watch.recorded other.recorded
      refine ⟨hd.files_eq, h.capacity_eq, h.lastExit_eq, ?_⟩
      -- both clear the screen, or neither does
      rw [hd.clears_eq]
      by_cases hclears : e.clears = 0
      · simpa [hclears] using h.history
      · simp [hclears]
  | @interrupt now later line =>
    rw [step, step, interrupt, interrupt]
    by_cases hblank : Text.isBlankLine line = true
    · rw [if_pos hblank, if_pos hblank]
      exact h
    · rw [if_neg hblank, if_neg hblank]
      exact alike_record h rfl (fun _ => rfl) now later

/-- Sessions that are alike stay so over a whole run. -/
theorem alike_run [Engine] (h : Alike s t) {as bs : List Event}
    (hab : List.Forall₂ Event.Alike as bs) : Alike (s.run as) (t.run bs) := by
  induction hab generalizing s t with
  | nil => exact h
  | cons hevent _ ih => exact ih (alike_step h hevent)

end Session

end LineShell
