import LineShell.Proofs.Dialogue.Batch
import LineShell.Proofs.Session.Clock

/-!
# Dialogues and batches agree

The lines of a batch can also be typed, each with a line end after it. A dialogue that reads them
does what the batch does: it comes to the same session and ends with the same exit code, whatever
the batch shows. When the two run at different times their sessions are alike.

    Typed    : a line        ──▶ typed with a line end, it is read back and run
    TypedOut : lines, a text ──▶ the text is the lines, each with a line end

Main statement: `dialogue_agrees_batch`.
-/

namespace LineShell

/-! ### Typed lines -/

/-- A line as it can be typed: it has no newline, it does not end in a carriage return, which would
be taken for a part of its line end, and it asks for nothing. -/
structure Typed (line : String) : Prop where
  newline : '\n' ∉ line.toList
  last : line.toList.getLast? ≠ some '\r'
  asks : ∀ r, ¬ Asks line r

theorem typed_iff {line : String} : Typed line ↔
    '\n' ∉ line.toList ∧ line.toList.getLast? ≠ some '\r' ∧ Request.ofLine line = .run line := by
  rw [ofLine_eq_run_iff]
  constructor
  · exact fun h => ⟨h.newline, h.last, rfl, h.asks⟩
  · rintro ⟨hnewline, hlast, -, hasks⟩
    exact ⟨hnewline, hlast, hasks⟩

instance (line : String) : Decidable (Typed line) := decidable_of_iff' _ typed_iff

/-- The text is the lines, each with a line end of its own; the last may lack it unless it is
empty. -/
inductive TypedOut : List String → String → Prop
  | nothing : TypedOut [] ""
  | rest {line} : line ≠ "" → TypedOut [line] line
  | line {line lines text ending} : ending = "\n" ∨ ending = "\r\n" → TypedOut lines text →
      TypedOut (line :: lines) (line ++ ending ++ text)

/-- Whatever line end is typed, it is taken off and nothing else is. -/
theorem stripLineEnd_append {line ends : String} (h : Typed line)
    (hends : ∀ c ∈ ends.toList, c = '\n' ∨ c = '\r') : stripLineEnd (line ++ ends) = line := by
  have hdrop : ∀ c ∈ ends.toList.reverse, (c == '\n' || c == '\r') = true := by
    intro c hc
    simpa using hends c (List.mem_reverse.mp hc)
  have hkeep : line.toList.reverse.dropWhile (fun c => c == '\n' || c == '\r') =
      line.toList.reverse := by
    rcases List.eq_nil_or_concat line.toList with hline | ⟨front, last, hline⟩
    · rw [hline]
      rfl
    · have hnewline : last ≠ '\n' := by
        rintro rfl
        exact h.newline (by simp [hline])
      have hreturn : last ≠ '\r' := by
        rintro rfl
        exact h.last (by simp [hline])
      rw [hline, List.concat_eq_append, List.reverse_concat,
        List.dropWhile_cons_of_neg (by simp [hnewline, hreturn])]
  rw [stripLineEnd, String.toList_append, List.reverse_append, List.dropWhile_append_of_pos hdrop,
    hkeep, List.reverse_reverse, String.ofList_toList]

theorem requestOf_typed {line : String} (h : Typed line) (ends : String)
    (hends : ∀ c ∈ ends.toList, c = '\n' ∨ c = '\r') :
    requestOf (textBytes (line ++ ends)) = some (.run line) := by
  obtain ⟨-, -, hrun⟩ := typed_iff.mp h
  rw [requestOf, decodeLine_textBytes, Option.map_some, stripLineEnd_append h hends, hrun]

/-- What is typed is read back, line by line. -/
theorem inputLines_typedOut {lines : List String} {text : String}
    (hlines : ∀ line ∈ lines, Typed line) (htext : TypedOut lines text) :
    List.Forall₂ (fun bytes line => requestOf bytes = some (.run line))
      (inputLines (textBytes text)) lines := by
  induction htext with
  | nothing => exact .nil
  | @rest line hne =>
    have hline : Typed line := hlines line (by simp)
    have hbytes : textBytes line ≠ [] := fun h => hne (textBytes_inj.mp h)
    rw [inputLines_rest hbytes (mt newline_mem_textBytes.mp hline.newline)]
    have hrequest := requestOf_typed hline "" (by simp)
    rw [String.append_empty] at hrequest
    exact .cons hrequest .nil
  | @line line lines text ending hending htext ih =>
    have hline : Typed line := hlines line (by simp)
    have hends : ∀ c ∈ ending.toList, c = '\n' ∨ c = '\r' := by
      rcases hending with rfl | rfl <;> simp
    -- a carriage return is part of the bytes before the newline
    obtain ⟨body, hbody, hnewline⟩ :
        ∃ body, line ++ ending = body ++ "\n" ∧ '\n' ∉ body.toList := by
      rcases hending with rfl | rfl
      · exact ⟨line, rfl, hline.newline⟩
      · refine ⟨line ++ "\r", ?_, by simpa using hline.newline⟩
        rw [String.append_assoc]
        rfl
    have hbytes : textBytes (body ++ "\n") = textBytes body ++ [10] := textBytes_append body "\n"
    have hrequest := requestOf_typed hline ending hends
    rw [hbody, hbytes] at hrequest
    rw [hbody, textBytes_append, hbytes, List.append_assoc, List.singleton_append,
      inputLines_line (mt newline_mem_textBytes.mp hnewline)]
    exact .cons hrequest (ih fun other hother => hlines other (List.mem_cons_of_mem _ hother))

/-! ### The same events -/

theorem stops_of_requests {bytes : List (List UInt8)} {lines : List String}
    (h : List.Forall₂ (fun bytes line => requestOf bytes = some (.run line)) bytes lines) :
    ∀ line ∈ bytes, stops line = false := by
  induction h with
  | nil => simp
  | @cons first line bytes lines hfirst _ ih =>
    rw [List.forall_mem_cons]
    exact ⟨stops_eq_false_iff.mpr ⟨_, hfirst, nofun⟩, ih⟩

/-- Typed lines are the same events as the lines of a batch. -/
theorem events_of_requests {bytes : List (List UInt8)} {lines : List String} (clock : Clock)
    (h : List.Forall₂ (fun bytes line => requestOf bytes = some (.run line)) bytes lines) :
    Session.events clock bytes = Session.batchEvents clock lines := by
  rw [Session.events, Session.batchEvents]
  -- from any place on the clock
  generalize 0 = n
  induction h generalizing n with
  | nil => rfl
  | @cons first line bytes lines hfirst _ ih =>
    rw [List.zipIdx_cons, List.zipIdx_cons, List.map_cons, ← ih (n + 1)]
    simp [Session.event?, hfirst]

theorem alike_batchEvents (clock other : Clock) (lines : List String) :
    List.Forall₂ Session.Event.Alike (Session.batchEvents clock lines)
      (Session.batchEvents other lines) := by
  rw [Session.batchEvents, Session.batchEvents, List.forall₂_map_left_iff,
    List.forall₂_map_right_iff, List.forall₂_same]
  exact fun _ _ => .execute

/-! ### The exit code -/

/-- The exit code that lines leave: that of the last one that is not blank, or without one that of
the session before them. -/
structure LeavesExit [Engine] (clock : Clock) (s : Session) (lines : List String)
    (code : ExitCode) : Prop where
  unchanged : (∀ line ∈ lines, Text.isBlankLine line = true) → code = s.lastExit
  last : ∀ before line after, lines = before ++ line :: after → Text.isBlankLine line = false →
    (∀ other ∈ after, Text.isBlankLine other = true) →
    ∃ outcome next, (s.afterBatch clock before).execute (clock before.length) line =
      some (outcome, next) ∧ code = outcome.execution.exit

namespace Session

variable [Engine] {s : Session} {clock : Clock}

theorem afterBatch_append_blank (before : List String) {after : List String}
    (h : ∀ line ∈ after, Text.isBlankLine line = true) :
    s.afterBatch clock (before ++ after) = s.afterBatch clock before := by
  induction after using List.reverseRecOn with
  | nil => rw [List.append_nil]
  | append_singleton after line ih =>
    have hline : Text.isBlankLine line = true := h line (by simp)
    rw [← List.append_assoc, afterBatch_concat,
      step_of_blank (execute_eq_none_iff_isBlankLine.mpr hline)]
    exact ih fun other hother => h other (List.mem_append_left _ hother)

/-- The session remembers the exit code that its lines leave. -/
theorem leavesExit_afterBatch (clock : Clock) (s : Session) (lines : List String) :
    LeavesExit clock s lines (s.afterBatch clock lines).lastExit where
  unchanged hblank := by
    rw [← List.nil_append lines, afterBatch_append_blank [] hblank]
    rfl
  last := by
    rintro before line after rfl hline hafter
    cases h : (s.afterBatch clock before).execute (clock before.length) line with
    | none =>
      rw [execute_eq_none_iff_isBlankLine, hline] at h
      cases h
    | some result =>
      obtain ⟨outcome, next⟩ := result
      refine ⟨outcome, next, rfl, ?_⟩
      have hsplit : before ++ line :: after = before ++ [line] ++ after := by simp
      rw [hsplit, afterBatch_append_blank _ hafter, afterBatch_concat, step_of_execute h]
      exact (records_execute h).lastExit_eq

end Session

/-! ### Both runs -/

/-- A dialogue over typed lines executes all of them, and ends with the input. -/
theorem dialogue_typedOut [Engine] {lines : List String} {text : String}
    (hlines : ∀ line ∈ lines, Typed line) (htext : TypedOut lines text) (clock : Clock)
    (s : Session) (shown : List UInt8) :
    (dialogue clock s ⟨shown, none⟩ (textBytes text)).session = s.afterBatch clock lines ∧
      (dialogue clock s ⟨shown, none⟩ (textBytes text)).ending =
        .ok (s.afterBatch clock lines).lastExit := by
  have hread := inputLines_typedOut hlines htext
  have hruns := stops_of_requests hread
  have hhandled : handled (inputLines (textBytes text)) = inputLines (textBytes text) := by
    rw [handled, List.takeWhile_eq_self_iff]
    exact fun bytes hbytes => by simp [hruns bytes hbytes]
  have hunhandled : unhandled (inputLines (textBytes text)) = [] := by
    rw [unhandled, List.dropWhile_eq_nil_iff]
    exact fun bytes hbytes => by simp [hruns bytes hbytes]
  have hrun := transcribes_dialogueFrom clock s shown (inputLines (textBytes text))
  have hsession := hrun.session
  rw [hhandled, Session.after, events_of_requests clock hread, ← Session.afterBatch] at hsession
  have hending := hrun.ending
  rw [hunhandled, hsession] at hending
  exact ⟨hsession, hending⟩

/-- **A dialogue over typed lines agrees with the batch of the lines**, on screens that take
everything: both end with the exit code that the lines leave, in the same session. If their clocks
differ, so may the recorded times and the outputs that tell the time, and nothing else. -/
theorem dialogue_agrees_batch [Engine] {lines : List String} {text : String}
    (hlines : ∀ line ∈ lines, Typed line) (htext : TypedOut lines text) (clock other : Clock)
    (json : Bool) (s : Session) (shown shown' : List UInt8) :
    (∃ code, LeavesExit clock s lines code ∧
      (dialogue clock s ⟨shown, none⟩ (textBytes text)).ending = .ok code ∧
      (batch other json s ⟨shown', none⟩ lines).ending = .ok code) ∧
    Session.Alike (dialogue clock s ⟨shown, none⟩ (textBytes text)).session
      (batch other json s ⟨shown', none⟩ lines).session ∧
    (clock = other → (dialogue clock s ⟨shown, none⟩ (textBytes text)).session =
      (batch other json s ⟨shown', none⟩ lines).session) := by
  obtain ⟨hsession, hending⟩ := dialogue_typedOut hlines htext clock s shown
  have halike : Session.Alike (s.afterBatch clock lines) (s.afterBatch other lines) :=
    Session.alike_run (.refl s) (alike_batchEvents clock other lines)
  rw [hsession, hending, batch_unlimited]
  refine ⟨⟨_, Session.leavesExit_afterBatch clock s lines, rfl, ?_⟩, halike, ?_⟩
  · rw [halike.lastExit_eq]
  · rintro rfl
    rfl

/-- Lines that move, do nothing, tell the time and fail. -/
def mixedLines : List String := ["cd ..", "", "date", "cat nowhere", " "]

/-- The lines, typed with both kinds of line ends; the last has none. -/
def mixedText : String :=
  "cd .." ++ "\r\n" ++ ("" ++ "\n" ++ ("date" ++ "\n" ++ ("cat nowhere" ++ "\r\n" ++ " ")))

/-- The last line does not count, because it is blank. -/
theorem dialogue_agrees_batch_mixedText :
    (∀ line ∈ mixedLines, Typed line) ∧ TypedOut mixedLines mixedText ∧
    (dialogue stillClock .new ⟨[], none⟩ (textBytes mixedText)).ending = .ok .failure ∧
    (batch stillClock true .new ⟨[], none⟩ mixedLines).ending = .ok .failure := by
  have hlines : ∀ line ∈ mixedLines, Typed line := by decide +kernel
  have htext : TypedOut mixedLines mixedText :=
    .line (.inr rfl) (.line (.inl rfl) (.line (.inl rfl) (.line (.inr rfl) (.rest (by decide)))))
  obtain ⟨⟨code, -, hdialogue, hbatch⟩, -, -⟩ :=
    dialogue_agrees_batch hlines htext stillClock stillClock true .new [] []
  have hfailure : (batch stillClock true .new ⟨[], none⟩ mixedLines).ending = .ok .failure := by
    decide +kernel
  refine ⟨hlines, htext, ?_, hfailure⟩
  rw [hdialogue, ← hbatch, hfailure]

end LineShell
