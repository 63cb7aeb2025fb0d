import LineShell.Dispatch
import LineShell.Proofs.Registry.Lookup
import LineShell.Proofs.Token.Scan

/-!
# Dispatch, by the words of the line

What a line does is decided by its tokens: without any it does nothing, otherwise the first names
the command. The lemmas say so without unfolding `dispatch` and `run`.
-/

namespace LineShell.Registry

variable {r : Registry} {watch : Stopwatch} {files : FileSystem} {line name : String}
  {rest : List String}

/-- Blank lines, and no others, have no result. -/
theorem dispatch_eq_none_iff :
    r.dispatch watch files line = none ↔ Text.isBlankLine line = true := by
  rw [← Token.tokenize_eq_nil_iff, dispatch]
  cases Token.tokenize line <;> simp

/-- What a reply of the named command, or the report that there is none, makes of a line. -/
def finish (watch : Stopwatch) (reply : Reply) : Dispatched :=
  let output := shownOutput reply.result
  ⟨⟨output.text, output.exit, watch.elapsed⟩, reply.files, reply.clears⟩

theorem dispatch_of_tokenize (h : Token.tokenize line = name :: rest) :
    r.dispatch watch files line =
      some (finish watch (r.run watch.began files name (name :: rest))) := by
  rw [dispatch, h]
  rfl

/-- A line that has a result has a first word, and the result is that of running it. -/
theorem dispatch_eq_some {d : Dispatched} (h : r.dispatch watch files line = some d) :
    ∃ name rest, Token.tokenize line = name :: rest ∧
      d = finish watch (r.run watch.began files name (name :: rest)) := by
  cases htokens : Token.tokenize line with
  | nil =>
    rw [dispatch, htokens] at h
    cases h
  | cons name rest =>
    rw [dispatch_of_tokenize htokens] at h
    exact ⟨name, rest, rfl, (Option.some.inj h).symm⟩

/-- Names are distinct, so a command of the registry is found under its own. -/
theorem run_of_mem {now : Calendar.Moment} {argv : List String} {command : Command}
    (h : command ∈ r.commands) :
    r.run now files command.name argv = command.handler.run ⟨argv, files, r.pages, now⟩ := by
  rw [run, find?_eq_some_iff.mpr ⟨h, rfl⟩]

end LineShell.Registry
