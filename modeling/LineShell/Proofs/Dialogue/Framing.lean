import LineShell.Proofs.Dialogue.Batch
import LineShell.Proofs.Json.Results
import Mathlib.Data.List.ReduceOption

/-!
# The lines of a batch

What a batch shows can be taken apart again. Only the lines that are not blank have outcomes, and
each shows a text of its own: a JSON object in one line, or the output with the newline it lacks.

    outcomes    : a session, lines ──▶ the lines that are not blank, with their outcomes
    AtLineStart : a text           ──▶ what is shown after it begins a line

Main statement: `batch_frames`.
-/

namespace LineShell

/-! ### Outcomes -/

namespace Session

variable [Engine]

/-- The lines that are not blank, each with its outcome in the session that the lines before it have
left. -/
def outcomes (s : Session) (clock : Clock) (lines : List String) : List (String × Outcome) :=
  (mapBefore (fun before line =>
    ((s.afterBatch clock before).execute (clock before.length) line).map fun result =>
      (line, result.1)) lines).reduceOption

variable {s : Session} {clock : Clock} {lines : List String} {line : String}

theorem outcomes_concat_of_none
    (h : (s.afterBatch clock lines).execute (clock lines.length) line = none) :
    s.outcomes clock (lines ++ [line]) = s.outcomes clock lines := by
  rw [outcomes, mapBefore_concat, h, List.reduceOption_append]
  exact List.append_nil _

theorem outcomes_concat_of_some {outcome : Outcome} {next : Session}
    (h : (s.afterBatch clock lines).execute (clock lines.length) line = some (outcome, next)) :
    s.outcomes clock (lines ++ [line]) = s.outcomes clock lines ++ [(line, outcome)] := by
  rw [outcomes, mapBefore_concat, h, List.reduceOption_append]
  rfl

/-- Every line that is not blank has an outcome, and no other. -/
theorem map_fst_outcomes (s : Session) (clock : Clock) (lines : List String) :
    (s.outcomes clock lines).map Prod.fst = lines.filter fun line => !Text.isBlankLine line := by
  induction lines using List.reverseRecOn with
  | nil => rfl
  | append_singleton lines line ih =>
    rw [List.filter_append, ← ih]
    cases h : (s.afterBatch clock lines).execute (clock lines.length) line with
    | none =>
      have hblank := execute_eq_none_iff_isBlankLine.mp h
      rw [outcomes_concat_of_none h, List.filter_cons_of_neg (by simp [hblank]), List.filter_nil,
        List.append_nil]
    | some result =>
      have hblank : Text.isBlankLine line ≠ true := by
        rw [Ne, ← execute_eq_none_iff_isBlankLine, h]
        exact Option.some_ne_none _
      rw [outcomes_concat_of_some h, List.filter_cons_of_pos (by simp [hblank]), List.filter_nil,
        List.map_append, List.map_singleton]

/-- Nothing else is written than the texts of the outcomes. -/
theorem written_batchMoments (s : Session) (clock : Clock) (json : Bool) (lines : List String) :
    written (s.batchMoments clock json lines) =
      textBytes (String.join ((s.outcomes clock lines).map fun e => e.2.batchText json)) := by
  induction lines using List.reverseRecOn with
  | nil => rfl
  | append_singleton lines line ih =>
    rw [batchMoments_concat, written_append, ih, batchAnswer]
    cases h : (s.afterBatch clock lines).execute (clock lines.length) line with
    | none =>
      rw [outcomes_concat_of_none h]
      exact List.append_nil _
    | some result =>
      rw [outcomes_concat_of_some h, List.map_append, String.join_append, textBytes_append,
        List.map_singleton, String.join_cons, String.join_nil, String.append_empty]
      exact congrArg _ (List.append_nil _)

end Session

/-! ### Objects -/

/-- The text is a JSON object without control characters, and is read as the result. -/
structure Encodes (e : Execution) (text : String) : Prop where
  printable : Json.Printable text.toList
  decoded : Json.decode text = some (.object [("output", .string e.output),
    ("exitCode", .number e.exit.number),
    ("durationMs", .number e.elapsed.milliseconds.writtenValue)])

/-- The text of a result is one line, and is read back. -/
theorem encodes_execution (e : Execution) : Encodes e (Json.execution e) :=
  ⟨Json.printable_execution e, Json.decode_execution e⟩

theorem Encodes.newline {e : Execution} {text : String} (h : Encodes e text) :
    '\n' ∉ text.toList :=
  fun hnewline => absurd (h.printable _ hnewline) (by decide)

/-! ### Outputs -/

/-- A text after which a line begins: it is empty, or a newline is its last character. -/
def AtLineStart (text : String) : Prop := text = "" ∨ text.toList.getLast? = some '\n'

/-- Texts that leave the cursor at the start of a line do so together. -/
theorem AtLineStart.append {a b : String} (ha : AtLineStart a) (hb : AtLineStart b) :
    AtLineStart (a ++ b) := by
  rcases hb with rfl | hb
  · rwa [String.append_empty]
  · right
    rw [String.toList_append, List.getLast?_append, hb]
    rfl

/-- Output is closed, so that the status line begins a line. -/
theorem Text.Closed.atLineStart {output text : String} (h : Closed output text) :
    AtLineStart text := by
  cases h with
  | nothing => exact .inl rfl
  | ended h => exact .inr h
  | lacking => right; simp

theorem atLineStart_join {texts : List String} (h : ∀ text ∈ texts, AtLineStart text) :
    AtLineStart (String.join texts) := by
  induction texts with
  | nil => exact .inl rfl
  | cons text texts ih =>
    rw [List.forall_mem_cons] at h
    rw [String.join_cons]
    exact h.1.append (ih h.2)

/-! ### Batches -/

variable [Engine] (clock : Clock) (s : Session) (shown : List UInt8) (lines : List String)

/-- The screen after a batch, in terms of the outcomes. -/
theorem screen_batch (json : Bool) :
    (batch clock json s ⟨shown, none⟩ lines).screen = ⟨shown ++ textBytes (String.join
      ((s.outcomes clock lines).map fun e => e.2.batchText json)), none⟩ := by
  rw [batch_unlimited, Session.written_batchMoments]

/-- **What a batch shows**, on a screen that takes everything. The outcomes are those of the lines
that are not blank. As JSON, the text is cut at its newlines into one object for each of them and
nothing after the last. As text, it is made of their outputs, each with the newline it lacks, so
that a line begins before each of them and after the last. -/
theorem batch_frames :
    (s.outcomes clock lines).map Prod.fst = (lines.filter fun line => !Text.isBlankLine line) ∧
    (∃ text objects,
      (batch clock true s ⟨shown, none⟩ lines).screen = ⟨shown ++ textBytes text, none⟩ ∧
      Text.pieces '\n' text = objects ++ [""] ∧
      List.Forall₂ (fun e object => Encodes e.2.execution object) (s.outcomes clock lines)
        objects) ∧
    (∃ texts,
      (batch clock false s ⟨shown, none⟩ lines).screen =
        ⟨shown ++ textBytes (String.join texts), none⟩ ∧
      List.Forall₂ (fun e text => Text.Closed e.2.execution.output text) (s.outcomes clock lines)
        texts ∧
      ∀ n, AtLineStart (String.join (texts.take n))) := by
  refine ⟨s.map_fst_outcomes clock lines, ?json, ?text⟩
  case json =>
    have hobjects : List.Forall₂ (fun e object => Encodes e.2.execution object)
        (s.outcomes clock lines)
        ((s.outcomes clock lines).map fun e => Json.execution e.2.execution) := by
      rw [List.forall₂_map_right_iff, List.forall₂_same]
      exact fun e _ => encodes_execution e.2.execution
    refine ⟨_, _, screen_batch clock s shown lines true, ?_, hobjects⟩
    rw [← Text.pieces_join_append, List.map_map]
    · rfl
    · intro object hobject
      obtain ⟨e, -, rfl⟩ := List.mem_map.mp hobject
      exact (encodes_execution e.2.execution).newline
  case text =>
    have htexts : List.Forall₂ (fun e text => Text.Closed e.2.execution.output text)
        (s.outcomes clock lines) ((s.outcomes clock lines).map fun e => e.2.batchText false) := by
      rw [List.forall₂_map_right_iff, List.forall₂_same]
      exact fun e _ => Text.closed_closeLine e.2.execution.output
    refine ⟨_, screen_batch clock s shown lines false, htexts, ?_⟩
    refine fun n => atLineStart_join fun text htext => ?_
    obtain ⟨e, -, rfl⟩ := List.mem_map.mp (List.mem_of_mem_take htext)
    exact (Text.closed_closeLine e.2.execution.output).atLineStart

end LineShell
