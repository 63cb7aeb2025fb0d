import LineShell.Pattern
import LineShell.Proofs.Dialogue.Input
import LineShell.Proofs.Session.History

/-!
# The transcript of a dialogue

A dialogue is a loop over bytes; what it comes to can be said without the loop. The lines that are
handled are those before the first that stops it. The session has executed those of them that are
run, and the screen shows, for each, the prompt of the session before it and the answer to it.

    handled    : lines ──▶ the lines before the first that stops the dialogue
    after      : a session, lines ──▶ the session that has executed those that are run
    transcript : a session, lines ──▶ the prompts and answers

A line that is handled takes the loop one step on (`dialogueFrom_cons`), so the lines that are
handled take it as far as they go (`dialogueFrom_append`), and there it ends. Main statement, for a
screen that takes everything: `transcribes_dialogue`.
-/

namespace LineShell

/-! ### What stops a dialogue -/

def requestOf (line : List UInt8) : Option Request :=
  (decodeLine line).map fun text => Request.ofLine (stripLineEnd text)

/-- A line stops the dialogue if it is no text, or asks to quit. -/
def stops (line : List UInt8) : Bool := requestOf line = none ∨ requestOf line = some .quit

/-- The lines that the dialogue answers. -/
def handled (lines : List (List UInt8)) : List (List UInt8) := lines.takeWhile fun l => !stops l

/-- The line that stops the dialogue and those after it. -/
def unhandled (lines : List (List UInt8)) : List (List UInt8) := lines.dropWhile fun l => !stops l

variable {lines rest : List (List UInt8)} {line : List UInt8}

theorem stops_eq_false_iff : stops line = false ↔ ∃ r, requestOf line = some r ∧ r ≠ .quit := by
  rw [stops]
  cases requestOf line <;> simp

/-- In terms of what is typed. -/
theorem stops_iff : stops line = true ↔ decodeLine line = none ∨
    ∃ text, decodeLine line = some text ∧ Asks (stripLineEnd text) .quit := by
  have hquit (text : String) :
      Asks (stripLineEnd text) .quit ↔ Request.ofLine (stripLineEnd text) = .quit := by
    rw [asks_iff]
    simp
  rw [stops, requestOf]
  cases decodeLine line <;> simp [hquit]

theorem handled_append_unhandled (lines : List (List UInt8)) :
    handled lines ++ unhandled lines = lines :=
  List.takeWhile_append_dropWhile

theorem stops_handled (lines : List (List UInt8)) :
    ∀ line ∈ handled lines, stops line = false := by
  intro line hline
  simpa using List.mem_takeWhile_imp hline

theorem stops_of_unhandled_eq_cons (h : unhandled lines = line :: rest) : stops line = true := by
  have hfind : lines.find? stops = some line := by
    rw [List.find?_eq_head?_dropWhile_not]
    exact congrArg List.head? h
  exact List.find?_some hfind

/-! ### Closed texts -/

/-- The text with the newline it lacks; nothing stays nothing. -/
inductive Text.Closed (text : String) : String → Prop
  | nothing : text = "" → Closed text ""
  | ended : text.toList.getLast? = some '\n' → Closed text text
  | lacking : text ≠ "" → text.toList.getLast? ≠ some '\n' → Closed text (text ++ "\n")

theorem Text.closed_closeLine (text : String) : Closed text (closeLine text) := by
  rw [closeLine]
  split
  · next hlast =>
    have hempty : text = "" := String.toList_eq_nil_iff.mp (List.getLast?_eq_none_iff.mp hlast)
    rw [hempty]
    exact .nothing rfl
  · next c hlast =>
    split
    · next hc => exact .ended (hc ▸ hlast)
    · next hc =>
      refine .lacking ?_ ?_
      · rintro rfl
        cases hlast
      · rw [hlast]
        exact fun h => hc (Option.some.inj h)

namespace Session

/-! ### Handled lines -/

/-- The event that a line of input is for the session: the line is executed, or it is none. -/
def event? (watch : Stopwatch) (line : List UInt8) : Option Event :=
  match requestOf line with
  | some (.run text) => some (.execute watch text)
  | _ => none

def events (clock : Clock) (lines : List (List UInt8)) : List Event :=
  lines.zipIdx.filterMap fun (line, i) => event? (clock i) line

/-- A line of input is executed if it is a text that asks for nothing, and then without its line
end. -/
theorem event?_eq_some_iff {watch : Stopwatch} {event : Event} :
    event? watch line = some event ↔ ∃ text, decodeLine line = some text ∧
      (∀ r, ¬ Asks (stripLineEnd text) r) ∧ event = .execute watch (stripLineEnd text) := by
  have hrun (text : String) : (∀ r, ¬ Asks (stripLineEnd text) r) ↔
      Request.ofLine (stripLineEnd text) = .run (stripLineEnd text) := by
    rw [ofLine_eq_run_iff]
    exact (and_iff_right rfl).symm
  rw [event?, requestOf]
  cases decodeLine line with
  | none => simp
  | some text =>
    simp only [Option.map_some, Option.some.injEq, exists_eq_left', hrun]
    split
    · next run hof =>
      obtain rfl := eq_of_ofLine_eq_run (Option.some.inj hof)
      rw [Option.some.injEq] at hof
      rw [Option.some.injEq, eq_comm]
      exact (and_iff_right hof).symm
    · next hof =>
      constructor
      · rintro ⟨⟩
      · rintro ⟨hrun, -⟩
        exact absurd (congrArg some hrun) (hof _)

theorem events_concat (clock : Clock) (lines : List (List UInt8)) (line : List UInt8) :
    events clock (lines ++ [line]) =
      events clock lines ++ (event? (clock lines.length) line).toList := by
  rw [events, List.zipIdx_append, List.filterMap_append, events]
  congr 1
  rw [List.zipIdx_singleton, Nat.zero_add]
  cases h : event? (clock lines.length) line <;> simp [h]

variable [Engine]

def after (s : Session) (clock : Clock) (lines : List (List UInt8)) : Session :=
  s.run (events clock lines)

def exchange (s : Session) (watch : Stopwatch) (line : List UInt8) : String :=
  match requestOf line with
  | some r => s.prompt ++ (s.respond watch r).2
  | none => s.prompt

/-- What is shown for lines that are all handled, each in the session that the lines before it have
left. -/
def transcript (s : Session) (clock : Clock) (lines : List (List UInt8)) : String :=
  String.join (lines.zipIdx.map fun e =>
    (s.after clock (lines.take e.2)).exchange (clock e.2) e.1)

theorem after_nil (s : Session) (clock : Clock) : s.after clock [] = s := rfl

theorem transcript_nil (s : Session) (clock : Clock) : s.transcript clock [] = "" := rfl

/-- Only a line that is run makes another session. -/
theorem respond_fst (s : Session) (watch : Stopwatch) {r : Request} (h : requestOf line = some r) :
    (s.respond watch r).1 = s.run (event? watch line).toList := by
  rw [event?, h]
  cases r with
  | run text =>
    change _ = s.step (.execute watch text)
    rw [respond, step]
    cases s.execute watch text <;> rfl
  | suggest | hint | history | quit => rfl

theorem after_concat (s : Session) (clock : Clock) (lines : List (List UInt8)) {r : Request}
    (h : requestOf line = some r) :
    s.after clock (lines ++ [line]) =
      ((s.after clock lines).respond (clock lines.length) r).1 := by
  rw [respond_fst _ _ h, after, events_concat, run, List.foldl_append]
  rfl

theorem transcript_concat (s : Session) (clock : Clock) (lines : List (List UInt8))
    (line : List UInt8) :
    s.transcript clock (lines ++ [line]) = s.transcript clock lines ++
      (s.after clock lines).exchange (clock lines.length) line := by
  have hsame : ∀ e ∈ lines.zipIdx, (lines ++ [line]).take e.2 = lines.take e.2 := by
    rintro ⟨other, i⟩ he
    obtain ⟨-, hi, -⟩ := List.mem_zipIdx he
    exact List.take_append_of_le_length (by omega)
  have hbefore : (lines.zipIdx.map fun e =>
      (s.after clock ((lines ++ [line]).take e.2)).exchange (clock e.2) e.1) =
      lines.zipIdx.map fun e => (s.after clock (lines.take e.2)).exchange (clock e.2) e.1 := by
    refine List.map_congr_left fun e he => ?_
    rw [hsame e he]
  rw [transcript, List.zipIdx_append, List.map_append, String.join_append, hbefore, transcript,
    List.zipIdx_singleton, Nat.zero_add, List.map_singleton, List.take_left]
  rfl

end Session

/-! ### The loop -/

section

variable [Engine] {clock : Clock} {s : Session}

theorem turn_eq (s : Session) (watch : Stopwatch) (line : List UInt8) :
    s.turn watch line =
      match requestOf line with
      | none => .unreadable
      | some .quit => .leave
      | some r => .answer (s.respond watch r).1 (s.respond watch r).2 := by
  rw [Session.turn, requestOf]
  cases decodeLine line with
  | none => rfl
  | some text =>
    dsimp only [Option.map_some]
    cases Request.ofLine (stripLineEnd text) <;> rfl

theorem turn_of_request {watch : Stopwatch} {r : Request} (h : requestOf line = some r)
    (hquit : r ≠ .quit) :
    s.turn watch line = .answer (s.respond watch r).1 (s.respond watch r).2 := by
  rw [turn_eq, h]
  cases r with
  | quit => exact absurd rfl hquit
  | run | suggest | hint | history => rfl

theorem stops_of_turn_eq_answer {watch : Stopwatch} {next : Session} {text : String}
    (h : s.turn watch line = .answer next text) : stops line = false := by
  rw [turn_eq] at h
  rw [stops_eq_false_iff]
  split at h
  · cases h
  · cases h
  · next r hquit hr => exact ⟨r, hr, hquit⟩

/-- A line that is handled takes the loop one step on. -/
theorem dialogueFrom_cons (n : Nat) (shown : List UInt8) {r : Request}
    (h : requestOf line = some r) (hquit : r ≠ .quit) :
    dialogueFrom clock n s ⟨shown, none⟩ (line :: rest) =
      dialogueFrom clock (n + 1) (s.respond (clock n) r).1
        ⟨shown ++ textBytes (s.exchange (clock n) line), none⟩ rest := by
  rw [dialogueFrom, turn_of_request h hquit, Session.exchange, h, textBytes_append,
    ← List.append_assoc]
  rfl

/-- Lines that are handled take it as far as they go. -/
theorem dialogueFrom_append (clock : Clock) (s : Session) (shown : List UInt8)
    (h : ∀ line ∈ lines, stops line = false) (rest : List (List UInt8)) :
    dialogueFrom clock 0 s ⟨shown, none⟩ (lines ++ rest) =
      dialogueFrom clock lines.length (s.after clock lines)
        ⟨shown ++ textBytes (s.transcript clock lines), none⟩ rest := by
  -- from the last line, so that the place on the clock is the number of lines before it
  induction lines using List.reverseRecOn generalizing rest with
  | nil =>
    rw [Session.transcript_nil, Session.after_nil]
    simp [textBytes]
  | append_singleton lines line ih =>
    obtain ⟨r, hr, hquit⟩ := stops_eq_false_iff.mp (h line (by simp))
    have hlines : ∀ other ∈ lines, stops other = false := fun other hother =>
      h other (List.mem_append_left _ hother)
    rw [List.append_assoc, List.singleton_append, ih hlines, dialogueFrom_cons _ _ hr hquit,
      Session.after_concat s clock lines hr, Session.transcript_concat, textBytes_append,
      List.append_assoc, List.length_append, List.length_singleton]

/-! ### Answers -/

/-- What a session answers to a request, and the session after it. -/
inductive Answers (s : Session) (watch : Stopwatch) : Request → Session → String → Prop
  | blank {text : String} : (∀ c ∈ text.toList, Text.isBlank c = true) →
      Answers s watch (.run text) s ""
  | command {text : String} {outcome next output} : s.execute watch text = some (outcome, next) →
      Text.Closed outcome.execution.output output →
      Answers s watch (.run text) next
        ((if outcome.cleared then clearSequence else "") ++ output ++ outcome.execution.statusLine)
  | suggest {text : String} : Answers s watch (.suggest text) s (suggestionRows (s.suggest text))
  | hint {text : String} : Answers s watch (.hint text) s (s.hint text ++ "\n")
  | history : Answers s watch .history s s.historyRows
  | quit : Answers s watch .quit s ""

theorem answers_respond (s : Session) (watch : Stopwatch) (r : Request) :
    Answers s watch r (s.respond watch r).1 (s.respond watch r).2 := by
  cases r with
  | run line =>
    rw [Session.respond]
    cases h : s.execute watch line with
    | none => exact .blank (Session.execute_eq_none_iff.mp h)
    | some result => exact .command h (Text.closed_closeLine _)
  | suggest line => exact .suggest
  | hint line => exact .hint
  | history => exact .history
  | quit => exact .quit

/-- The texts that a dialogue is put together from: the prompt shows the working directory, and the
status line shows how a command ended and how long it ran. -/
structure Wording : Prop where
  prompt : ∀ s : Session, s.prompt = s.files.cwd.toString ++ " $ "
  statusLine : ∀ e : Execution,
    e.statusLine = "[exit " ++ toString e.exit.number ++ " | " ++ e.elapsed.text ++ "]\n"
  clearSequence : clearSequence = "\x1b[2J\x1b[H"
  suggestion : ∀ x : Suggestion, x.row =
    (match x.hint with
      | some hint => Text.padRight 24 x.label ++ " " ++ hint
      | none => x.label) ++ "\n"
  suggestionRows : ∀ list, suggestionRows list = String.join (list.map Suggestion.row)

omit [Engine] in
theorem wording : Wording where
  prompt _ := rfl
  statusLine _ := rfl
  clearSequence := rfl
  suggestion x := by
    rw [Suggestion.row]
    cases x.hint <;> rfl
  suggestionRows _ := rfl

/-! ### Whole dialogues -/

/-- How a dialogue ends that has come to the lines in the session. -/
def ending (s : Session) : List (List UInt8) → Except RunError ExitCode
  | [] => .ok s.lastExit
  | line :: _ => if decodeLine line = none then .error .invalidText else .ok s.lastExit

/-- What a dialogue over the lines comes to, on a screen that takes everything. The prompt is shown
once more for what ends it, and a newline when the input does. -/
structure Transcribes (clock : Clock) (s : Session) (shown : List UInt8)
    (lines : List (List UInt8)) (run : Run) : Prop where
  session : run.session = s.after clock (handled lines)
  screen : run.screen = ⟨shown ++ textBytes (s.transcript clock (handled lines) ++
    run.session.prompt ++ if unhandled lines = [] then "\n" else ""), none⟩
  ending : run.ending = ending run.session (unhandled lines)

/-- At the end of the input a prompt has no answer, and a newline stands after it. -/
theorem dialogueFrom_nil (n : Nat) (shown : List UInt8) :
    dialogueFrom clock n s ⟨shown, none⟩ [] =
      ⟨s, ⟨shown ++ textBytes (s.prompt ++ "\n"), none⟩, .ok s.lastExit⟩ := by
  rw [textBytes_append, ← List.append_assoc]
  rfl

/-- The prompt before a line that stops the dialogue is shown, and no answer. -/
theorem dialogueFrom_of_stops (n : Nat) (shown : List UInt8) (h : stops line = true) :
    dialogueFrom clock n s ⟨shown, none⟩ (line :: rest) =
      ⟨s, ⟨shown ++ textBytes s.prompt, none⟩, ending s (line :: rest)⟩ := by
  rw [dialogueFrom, turn_eq, ending]
  rw [stops, requestOf] at h
  rw [requestOf]
  cases hdecode : decodeLine line with
  | none => rfl
  | some text =>
    have hquit : Request.ofLine (stripLineEnd text) = .quit := by simpa [hdecode] using h
    simp only [Option.map_some, hquit]
    rfl

/-- The lines that are handled, then the one that stops the dialogue or none. -/
theorem transcribes_dialogueFrom (clock : Clock) (s : Session) (shown : List UInt8)
    (lines : List (List UInt8)) :
    Transcribes clock s shown lines (dialogueFrom clock 0 s ⟨shown, none⟩ lines) := by
  have hrun := dialogueFrom_append clock s shown (stops_handled lines) (unhandled lines)
  rw [handled_append_unhandled] at hrun
  rw [hrun]
  cases hrest : unhandled lines with
  | nil =>
    rw [dialogueFrom_nil]
    refine ⟨rfl, ?_, by rw [hrest]; rfl⟩
    rw [hrest, if_pos rfl, String.append_assoc, textBytes_append (s.transcript ..),
      List.append_assoc]
  | cons line rest =>
    rw [dialogueFrom_of_stops _ _ (stops_of_unhandled_eq_cons hrest)]
    refine ⟨rfl, ?_, by rw [hrest]⟩
    rw [hrest, if_neg (List.cons_ne_nil _ _), String.append_empty, textBytes_append,
      List.append_assoc]

/-- Nothing after a line that stops the dialogue matters, whatever the screen takes. -/
theorem dialogueFrom_append_of_stops (h : ∃ line ∈ lines, stops line = true) (n : Nat)
    (s : Session) (screen : Screen) (more : List (List UInt8)) :
    dialogueFrom clock n s screen (lines ++ more) = dialogueFrom clock n s screen lines := by
  induction lines generalizing n s screen with
  | nil => simp at h
  | cons line lines ih =>
    rw [List.cons_append, dialogueFrom, dialogueFrom]
    rcases screen.write s.prompt with ⟨screen, _ | _⟩
    · rfl
    · cases hturn : s.turn (clock n) line with
      | unreadable => rfl
      | leave => rfl
      | answer next text =>
        have hlines : ∃ line ∈ lines, stops line = true := by
          obtain ⟨other, hother, hstops⟩ := h
          rcases List.mem_cons.mp hother with rfl | hother
          · rw [stops_of_turn_eq_answer hturn] at hstops
            cases hstops
          · exact ⟨other, hother, hstops⟩
        dsimp only
        rcases screen.write text with ⟨screen, _ | _⟩
        · rfl
        · exact ih hlines (n + 1) next screen

/-- **The run of a dialogue**, on a screen that takes everything. The first statements say what is
read: the lines, their texts, which of them stop the dialogue and which are run. The next two say
what is written in answer, and with which words. Then the run is what its transcript says, and what
comes after a line that stops it does not matter. -/
theorem transcribes_dialogue (clock : Clock) (s : Session) (shown input : List UInt8) :
    (∀ lines, CutAtNewlines input lines ↔ lines = inputLines input) ∧
    (∀ text, Strips text (stripLineEnd text)) ∧
    (∀ line, stops line = true ↔ decodeLine line = none ∨
      ∃ text, decodeLine line = some text ∧ Asks (stripLineEnd text) .quit) ∧
    (∀ watch line event, Session.event? watch line = some event ↔
      ∃ text, decodeLine line = some text ∧ (∀ r, ¬ Asks (stripLineEnd text) r) ∧
        event = .execute watch (stripLineEnd text)) ∧
    (∀ (s : Session) watch r, Answers s watch r (s.respond watch r).1 (s.respond watch r).2) ∧
    Wording ∧
    Transcribes clock s shown (inputLines input) (dialogue clock s ⟨shown, none⟩ input) ∧
    ((input = [] ∨ input.getLast? = some 10) → (∃ line ∈ inputLines input, stops line = true) →
      ∀ more, dialogue clock s ⟨shown, none⟩ (input ++ more) =
        dialogue clock s ⟨shown, none⟩ input) := by
  refine ⟨fun lines => cutAtNewlines_iff, strips_stripLineEnd, fun line => stops_iff,
    fun watch line event => Session.event?_eq_some_iff, answers_respond, wording,
    transcribes_dialogueFrom clock s shown (inputLines input), ?_⟩
  intro hwhole hstops more
  rw [dialogue, inputLines_append hwhole]
  exact dialogueFrom_append_of_stops hstops 0 s ⟨shown, none⟩ (inputLines more)

end

def stillClock : Clock := fun _ => ⟨⟨0, 0, 0⟩, ⟨0, 0, 0⟩, .zero⟩

/-- Lines to move, to fail, to ask, to clear the screen and to leave; the first has a carriage
return. -/
def shortVisit : List UInt8 :=
  textBytes "cd ..\r\nls x\n:suggest ec\nclear\n\n:history\n:q \n"

def shortVisitText : String :=
  "/home/dev $ [exit 0 | 0 ms]\n" ++
  "/home $ ls: cannot access 'x': No such file or directory\n[exit 1 | 0 ms]\n" ++
  "/home $ echo                     Print arguments\n" ++
  "/home $ \x1b[2J\x1b[H[exit 0 | 0 ms]\n" ++
  "/home $ " ++
  "/home $    1  1/1/1970, 12:00:00 AM  [0]    0.00 ms  clear\n" ++
  "/home $ "

/-- After the visit comes a byte that is no text, and does not matter. -/
theorem transcribes_dialogue_shortVisit :
    (dialogue stillClock .new .unlimited (shortVisit ++ [0xff])).screen.shown =
      textBytes shortVisitText ∧
    (dialogue stillClock .new .unlimited (shortVisit ++ [0xff])).ending = .ok .success ∧
    (dialogue stillClock .new .unlimited shortVisit).session.files.cwd = ⟨["home"], by decide⟩ := by
  obtain ⟨-, -, -, -, -, -, hrun, hmore⟩ := transcribes_dialogue stillClock .new [] shortVisit
  have hwhole : shortVisit.getLast? = some 10 := by decide +kernel
  have hstops : ∃ line ∈ inputLines shortVisit, stops line = true := by decide +kernel
  have hlonger : dialogue stillClock .new .unlimited (shortVisit ++ [0xff]) =
      dialogue stillClock .new .unlimited shortVisit := hmore (.inr hwhole) hstops [0xff]
  have htext : Session.new.transcript stillClock (handled (inputLines shortVisit)) ++
      (Session.new.after stillClock (handled (inputLines shortVisit))).prompt = shortVisitText := by
    decide +kernel
  have hrest : unhandled (inputLines shortVisit) ≠ [] := by decide +kernel
  have hcwd : (Session.new.after stillClock (handled (inputLines shortVisit))).files.cwd =
      ⟨["home"], by decide⟩ := by
    decide +kernel
  rw [hlonger]
  refine ⟨?_, ?_, ?_⟩
  · refine (congrArg Screen.shown hrun.screen).trans ?_
    rw [hrun.session, htext, if_neg hrest, String.append_empty]
    rfl
  · refine hrun.ending.trans ?_
    rw [hrun.session]
    decide +kernel
  · exact (congrArg (·.files.cwd) hrun.session).trans hcwd

end LineShell
