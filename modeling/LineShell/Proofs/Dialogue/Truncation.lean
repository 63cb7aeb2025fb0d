import LineShell.Proofs.Dialogue.Batch

/-!
# Runs on a screen with limited room

A screen that refuses bytes stops a run; it does not make another run of it. A dialogue writes, for
each line that it handles, the prompt of the session before it and the answer of the session after
it, and then the prompt once more, with a newline when the input ends:

    dialogueMoments : a session, lines ──▶ what is written, and the session at each time

On every screen a dialogue plays these moments (`dialogue_eq_play`), and a batch those of
`batchMoments`. Main statement, for both: `truncates_run`.
-/

namespace LineShell

namespace Session

/-! ### The moments of a dialogue -/

variable [Engine]

def answer (s : Session) (watch : Stopwatch) (line : List UInt8) : String :=
  match requestOf line with
  | some r => (s.respond watch r).2
  | none => ""

/-- What is written for lines that are all handled: the prompt of the session that the lines before
have left, and the answer, which is not written before the line has been executed. -/
def exchanges (s : Session) (clock : Clock) (lines : List (List UInt8)) : List Moment :=
  (mapBefore (fun before line =>
    [⟨s.after clock before, (s.after clock before).prompt⟩,
      ⟨s.after clock (before ++ [line]),
        (s.after clock before).answer (clock before.length) line⟩]) lines).flatten

/-- What is written in a session that has handled all lines it will. -/
def farewell (s : Session) (rest : List (List UInt8)) : List Moment :=
  ⟨s, s.prompt⟩ :: if rest = [] then [⟨s, "\n"⟩] else []

def dialogueMoments (s : Session) (clock : Clock) (lines : List (List UInt8)) : List Moment :=
  s.exchanges clock (handled lines) ++ (s.after clock (handled lines)).farewell (unhandled lines)

theorem exchanges_concat (s : Session) (clock : Clock) (lines : List (List UInt8))
    {line : List UInt8} {r : Request} (h : requestOf line = some r) :
    s.exchanges clock (lines ++ [line]) = s.exchanges clock lines ++
      [⟨s.after clock lines, (s.after clock lines).prompt⟩,
        ⟨((s.after clock lines).respond (clock lines.length) r).1,
          ((s.after clock lines).respond (clock lines.length) r).2⟩] := by
  rw [exchanges, mapBefore_concat, List.flatten_concat, after_concat s clock lines h,
    answer, h]
  rfl

end Session

/-! ### The loop -/

/-- Neither the input nor a line closes the screen. -/
theorem ending_ne_screenClosed (s : Session) (rest : List (List UInt8)) :
    ending s rest ≠ .error .screenClosed := by
  intro h
  cases rest with
  | nil => cases h
  | cons line rest =>
    rw [ending] at h
    split at h <;> cases h

section

variable [Engine] {clock : Clock} {s : Session} {lines rest : List (List UInt8)} {line : List UInt8}

/-- A line that is handled, on every screen: the prompt, and then the answer. -/
theorem dialogueFrom_cons_eq_play (n : Nat) (screen : Screen) {r : Request}
    (h : requestOf line = some r) (hquit : r ≠ .quit) :
    dialogueFrom clock n s screen (line :: rest) =
      play screen
        (fun after => dialogueFrom clock (n + 1) (s.respond (clock n) r).1 after rest)
        [⟨s, s.prompt⟩, ⟨(s.respond (clock n) r).1, (s.respond (clock n) r).2⟩] := by
  rw [dialogueFrom, turn_of_request h hquit, play_cons]
  rcases screen.write s.prompt with ⟨screen, _ | _⟩
  · rfl
  · dsimp only
    rw [if_pos rfl, play_cons]
    rcases screen.write (s.respond (clock n) r).2 with ⟨screen, _ | _⟩ <;> rfl

theorem dialogueFrom_append_eq_play (screen : Screen) (h : ∀ line ∈ lines, stops line = false)
    (rest : List (List UInt8)) :
    dialogueFrom clock 0 s screen (lines ++ rest) =
      play screen
        (fun after => dialogueFrom clock lines.length (s.after clock lines) after rest)
        (s.exchanges clock lines) := by
  -- from the last line, so that the place on the clock is the number of lines before it
  induction lines using List.reverseRecOn generalizing rest with
  | nil => rfl
  | append_singleton lines line ih =>
    obtain ⟨r, hr, hquit⟩ := stops_eq_false_iff.mp (h line (by simp))
    have hlines : ∀ other ∈ lines, stops other = false := fun other hother =>
      h other (List.mem_append_left _ hother)
    rw [List.append_assoc, List.singleton_append, ih hlines,
      Session.exchanges_concat s clock lines hr, play_append, Session.after_concat s clock lines hr,
      List.length_append, List.length_singleton]
    exact congrArg (play screen · _)
      (funext fun after => dialogueFrom_cons_eq_play lines.length after hr hquit)

/-- What stops a dialogue is the line alone; the session plays no part. -/
theorem turn_of_stops {watch : Stopwatch} (h : stops line = true) :
    s.turn watch line = if decodeLine line = none then .unreadable else .leave := by
  rw [turn_eq]
  have hstops : requestOf line = none ∨ requestOf line = some .quit := by simpa [stops] using h
  rcases hstops with hnone | hquit
  · have hdecode : decodeLine line = none := Option.map_eq_none_iff.mp hnone
    rw [hnone, if_pos hdecode]
  · have hdecode : decodeLine line ≠ none := by
      intro hdecode
      rw [requestOf, hdecode] at hquit
      cases hquit
    rw [hquit, if_neg hdecode]

/-- Where a dialogue ends, because the input does or because a line stops it. -/
theorem dialogueFrom_eq_play_farewell (n : Nat) (screen : Screen)
    (h : ∀ line ∈ rest.head?, stops line = true) :
    dialogueFrom clock n s screen rest =
      play screen (fun after => ⟨s, after, ending s rest⟩) (s.farewell rest) := by
  rw [Session.farewell, play_cons]
  cases rest with
  | nil =>
    rw [dialogueFrom, if_pos rfl]
    rcases screen.write s.prompt with ⟨screen, _ | _⟩
    · rfl
    · dsimp only
      rw [if_pos rfl, play_cons]
      rcases screen.write "\n" with ⟨screen, _ | _⟩ <;> rfl
  | cons line rest =>
    rw [dialogueFrom, turn_of_stops (h line rfl), if_neg (List.cons_ne_nil line rest), ending]
    rcases screen.write s.prompt with ⟨screen, _ | _⟩
    · rfl
    · by_cases hdecode : decodeLine line = none
      · rw [if_pos hdecode, if_pos hdecode]
        rfl
      · rw [if_neg hdecode, if_neg hdecode]
        rfl

/-- The run of a dialogue, on every screen. -/
theorem dialogue_eq_play (clock : Clock) (s : Session) (screen : Screen) (input : List UInt8) :
    dialogue clock s screen input =
      let last := s.after clock (handled (inputLines input))
      play screen (fun after => ⟨last, after, ending last (unhandled (inputLines input))⟩)
        (s.dialogueMoments clock (inputLines input)) := by
  have hlines := handled_append_unhandled (inputLines input)
  have hrest : ∀ line ∈ (unhandled (inputLines input)).head?, stops line = true := by
    intro line hline
    obtain ⟨rest, hcons⟩ := List.head?_eq_some_iff.mp hline
    exact stops_of_unhandled_eq_cons hcons
  rw [dialogue, ← hlines, dialogueFrom_append_eq_play screen (stops_handled _), hlines,
    Session.dialogueMoments, play_append]
  exact congrArg (play screen · _)
    (funext fun after => dialogueFrom_eq_play_farewell _ after hrest)

/-- **A screen that refuses bytes cuts a run off and changes nothing before that**, with the same
readings of the clock. The first statement lets an answer be written in parts, and the last says
what a session has recorded of a line that it has executed: one entry. -/
theorem truncates_run (clock : Clock) (s : Session) (n : Nat) :
    (∀ (screen : Screen) a b,
      screen.write (a ++ b) = if (screen.write a).2 then (screen.write a).1.write b
        else screen.write a) ∧
    (∀ input, Truncates (s.dialogueMoments clock (inputLines input)) n
      (dialogue clock s .unlimited input) (dialogue clock s (.limited n) input)) ∧
    (∀ json lines, Truncates (s.batchMoments clock json lines) n
      (batch clock json s .unlimited lines) (batch clock json s (.limited n) lines)) ∧
    ∀ (before : Session) watch line outcome next,
      before.execute watch line = some (outcome, next) →
      before.Records (outcome.execution.entry watch.recorded line) outcome.cleared next := by
  refine ⟨Screen.write_append, ?_, ?_, fun _ _ _ _ _ => Session.records_execute⟩
  · intro input
    rw [dialogue_eq_play, dialogue_eq_play]
    exact truncates_play _ n _ (ending_ne_screenClosed _ _)
  · intro json lines
    rw [batch_eq_play, batch_eq_play]
    exact truncates_play _ n _ nofun

end

/-- The screen takes the first letter of the first answer. The line that is answered has been
executed, and is in the history once; the line after it has not been read. -/
theorem truncates_run_insideAnswer :
    let cut := dialogue stillClock .new (.limited 13) (textBytes "echo ab\npwd\n")
    cut.screen.shown = textBytes "/home/dev $ a" ∧ cut.ending = .error .screenClosed ∧
      cut.session.history.map (·.command) = ["echo ab"] := by
  intro cut
  obtain ⟨-, hdialogue, -, hrecords⟩ := truncates_run stillClock .new 13
  have hcut := hdialogue (textBytes "echo ab\npwd\n")
  have hfull : (dialogue stillClock .new .unlimited (textBytes "echo ab\npwd\n")).screen.shown =
      textBytes ("/home/dev $ ab\n[exit 0 | 0 ms]\n" ++
        "/home/dev $ /home/dev\n[exit 0 | 0 ms]\n/home/dev $ \n") := by
    decide +kernel
  obtain ⟨⟨outcome, next⟩, hexecute⟩ :
      ∃ result, Session.new.execute (stillClock 0) "echo ab" = some result :=
    Option.isSome_iff_exists.mp (by decide +kernel)
  obtain ⟨⟨kept, hkept, hhistory, -⟩, -⟩ :=
    hrecords .new (stillClock 0) "echo ab" outcome next hexecute
  refine ⟨?_, ?_, ?_⟩
  · rw [hcut.shown, hfull]
    decide +kernel
  · rw [hcut.refused, hfull]
    decide +kernel
  · have hsession : (Session.new.execute (stillClock 0) "echo ab").map (·.2.history) =
        some cut.session.history := by
      decide +kernel
    rw [hexecute, Option.map_some, Option.some.injEq] at hsession
    rw [← hsession, hhistory, List.suffix_nil.mp hkept]
    rfl

end LineShell
