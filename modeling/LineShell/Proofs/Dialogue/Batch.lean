import LineShell.Proofs.Dialogue.Moments

/-!
# Batches

A batch without its loop: every line is executed, in order, and for each the batch shows the text of
its outcome in the session that has executed it.

    afterBatch   : a session, lines ──▶ the session that has executed them
    batchMoments : a session, lines ──▶ what is shown for them

Main statement: on every screen a batch plays these moments (`batch_eq_play`), and on one that takes
everything it shows all of them (`batch_unlimited`).
-/

namespace LineShell

namespace Session

/-! ### Lines that are executed -/

def batchEvents (clock : Clock) (lines : List String) : List Event :=
  lines.zipIdx.map fun (line, i) => .execute (clock i) line

theorem batchEvents_concat (clock : Clock) (lines : List String) (line : String) :
    batchEvents clock (lines ++ [line]) =
      batchEvents clock lines ++ [.execute (clock lines.length) line] := by
  rw [batchEvents, List.zipIdx_append, List.map_append, List.zipIdx_singleton, Nat.zero_add]
  rfl

variable [Engine]

def afterBatch (s : Session) (clock : Clock) (lines : List String) : Session :=
  s.run (batchEvents clock lines)

/-- What a batch shows for a line; nothing when it is blank. -/
def batchAnswer (s : Session) (json : Bool) (watch : Stopwatch) (line : String) : String :=
  match s.execute watch line with
  | none => ""
  | some (outcome, _) => outcome.batchText json

/-- What a batch writes: after each line its answer, in the session that the line leaves. -/
def batchMoments (s : Session) (clock : Clock) (json : Bool) (lines : List String) : List Moment :=
  mapBefore (fun before line => ⟨s.afterBatch clock (before ++ [line]),
    (s.afterBatch clock before).batchAnswer json (clock before.length) line⟩) lines

theorem afterBatch_concat (s : Session) (clock : Clock) (lines : List String) (line : String) :
    s.afterBatch clock (lines ++ [line]) =
      (s.afterBatch clock lines).step (.execute (clock lines.length) line) := by
  rw [afterBatch, batchEvents_concat, run, List.foldl_append]
  rfl

/-- One more line, one more moment: the session has executed it when its answer is written. -/
theorem batchMoments_concat (s : Session) (clock : Clock) (json : Bool) (lines : List String)
    (line : String) :
    s.batchMoments clock json (lines ++ [line]) = s.batchMoments clock json lines ++
      [⟨(s.afterBatch clock lines).step (.execute (clock lines.length) line),
        (s.afterBatch clock lines).batchAnswer json (clock lines.length) line⟩] := by
  rw [batchMoments, mapBefore_concat, afterBatch_concat]
  rfl

theorem step_of_execute {s next : Session} {watch : Stopwatch} {line : String} {outcome : Outcome}
    (h : s.execute watch line = some (outcome, next)) : s.step (.execute watch line) = next := by
  rw [step, h]

theorem execute_eq_none_iff_isBlankLine {s : Session} {watch : Stopwatch} {line : String} :
    s.execute watch line = none ↔ Text.isBlankLine line = true := by
  rw [execute_eq_none_iff, Text.isBlankLine, List.all_eq_true]

/-- Blank lines leave no trace. -/
theorem step_of_blank {s : Session} {watch : Stopwatch} {line : String}
    (h : s.execute watch line = none) : s.step (.execute watch line) = s := by
  rw [step, h]

end Session

/-! ### The loop -/

variable [Engine] {clock : Clock} {json : Bool} {s : Session} {line : String}
  {rest lines : List String}

/-- A line takes the loop one step on. -/
theorem batchFrom_cons (n : Nat) (screen : Screen) :
    batchFrom clock json n s screen (line :: rest) =
      play screen
        (fun after => batchFrom clock json (n + 1) (s.step (.execute (clock n) line)) after rest)
        [⟨s.step (.execute (clock n) line), s.batchAnswer json (clock n) line⟩] := by
  rw [batchFrom, play_cons, Session.batchAnswer]
  cases h : s.execute (clock n) line with
  | none =>
    rw [Session.step_of_blank h, Screen.write_empty, if_pos rfl]
    rfl
  | some result =>
    obtain ⟨outcome, next⟩ := result
    rw [Session.step_of_execute h]
    dsimp only
    rcases screen.write (outcome.batchText json) with ⟨after, _ | _⟩ <;> rfl

theorem batchFrom_append (screen : Screen) (lines rest : List String) :
    batchFrom clock json 0 s screen (lines ++ rest) =
      play screen
        (fun after => batchFrom clock json lines.length (s.afterBatch clock lines) after rest)
        (s.batchMoments clock json lines) := by
  -- from the last line, so that the place on the clock is the number of lines before it
  induction lines using List.reverseRecOn generalizing rest with
  | nil => rfl
  | append_singleton lines line ih =>
    rw [List.append_assoc, List.singleton_append, ih, Session.batchMoments_concat, play_append,
      Session.afterBatch_concat, List.length_append, List.length_singleton]
    exact congrArg (play screen · _) (funext fun after => batchFrom_cons lines.length after)

/-- The run of a batch, on every screen. -/
theorem batch_eq_play (clock : Clock) (json : Bool) (s : Session) (screen : Screen)
    (lines : List String) :
    batch clock json s screen lines =
      play screen
        (fun after => ⟨s.afterBatch clock lines, after, .ok (s.afterBatch clock lines).lastExit⟩)
        (s.batchMoments clock json lines) := by
  rw [batch, ← List.append_nil lines, batchFrom_append, List.append_nil]
  rfl

theorem batch_unlimited (clock : Clock) (json : Bool) (s : Session) (shown : List UInt8)
    (lines : List String) :
    batch clock json s ⟨shown, none⟩ lines =
      ⟨s.afterBatch clock lines, ⟨shown ++ written (s.batchMoments clock json lines), none⟩,
        .ok (s.afterBatch clock lines).lastExit⟩ := by
  rw [batch_eq_play, play_unlimited]

end LineShell
