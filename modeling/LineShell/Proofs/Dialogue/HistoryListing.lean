import LineShell.Proofs.Calendar.Timestamp
import LineShell.Proofs.Dialogue.Truncation

/-!
# The listing of the history

A dialogue that is asked for the history writes a row for each entry, the oldest first. A command may
look like the columns of a row; still a row is read back, because what stands in front of the command
has no mark but its own.

    HistoryRow.ofText? : a row ──▶ the number, the exit code and the command
    RowOf              : a number, an entry, a row ──▶ the row shows the entry under the number
    Lists              : entries, a text ──▶ the text is the rows of the entries

A command that held a newline would be two rows. No line of input can bring one into the history
(`oneLine_respond`), so none is ever there (`oneLine_dialogueFrom`). Main statement: `lists_history`.
-/

namespace LineShell

open Text (readField skipField IsMark isMark_cons readField_toString skipField_append)

/-! ### Rows -/

structure HistoryRow where
  number : Nat
  exit : Nat
  command : String
deriving DecidableEq, Repr

/-- Read a row: the number, what the first brackets hold, and what follows the milliseconds. -/
def HistoryRow.ofText? (text : String) : Option HistoryRow := do
  let (number, cs) ← readField [' ', ' '] (text.toList.dropWhile (· = ' '))
  let cs ← skipField '[' [] cs
  let (exit, cs) ← readField [']'] cs
  let command ← skipField 'm' ['s', ' ', ' '] cs
  some ⟨number, exit, String.ofList command⟩

/-- The row shows the entry under the number: this stands in front, flush right in four columns, the
first brackets hold the exit code, and the command is the end of the row. -/
structure RowOf (number : Nat) (e : HistoryEntry) (row : String) : Prop where
  columns : ∃ recorded elapsed, row = Text.padLeft 4 (toString number) ++ "  " ++ recorded ++
    "  [" ++ toString e.exit.number ++ "]  " ++ elapsed ++ "  " ++ e.command ∧
    '[' ∉ recorded.toList
  read : HistoryRow.ofText? row = some ⟨number, e.exit.number, e.command⟩

/-- The text is rows that end in newlines, one for each entry, numbered from one. -/
def Lists (history : List HistoryEntry) (text : String) : Prop :=
  ∃ rows, Text.pieces '\n' text = rows ++ [""] ∧
    List.Forall₂ (fun e row => RowOf (e.2 + 1) e.1 row) history.zipIdx rows

namespace HistoryEntry

def line (number : Nat) (e : HistoryEntry) : String :=
  Text.padLeft 4 (toString number) ++ "  " ++ e.recorded.text ++ "  [" ++
    toString e.exit.number ++ "]  " ++ Text.padLeft 9 (e.elapsed.millisecondsText 2) ++ "  " ++
    e.command

end HistoryEntry

/-! ### Columns -/

theorem Numeric.Binary.isDigit_or_point_of_mem_fixed {places : Nat} {b : Binary} {c : Char}
    (h : c ∈ (b.fixed places).toList) : c.isDigit = true ∨ c = '.' := by
  rw [fixed, placed] at h
  split at h
  · exact .inl (Text.isDigit_of_mem_toString h)
  · rw [String.toList_append, String.toList_append, List.mem_append, List.mem_append] at h
    rcases h with (h | h) | h
    · exact .inl (Text.isDigit_of_mem_toString h)
    · exact .inr (List.mem_singleton.mp h)
    · exact .inl (Text.isDigit_of_mem_padZeros h)

/-- The elapsed time is a number in front of its unit, flush right. -/
theorem Duration.exists_front_milliseconds (d : Duration) (width places : Nat) :
    ∃ front, (Text.padLeft width (d.millisecondsText places)).toList = front ++ ['m', 's'] ∧
      'm' ∉ front ∧ '\n' ∉ front := by
  -- blanks, the number, and the blank in front of the unit
  let front := (Text.spaces (width - (d.millisecondsText places).length)).toList ++
    (d.milliseconds.fixed places).toList ++ [' ']
  have hchars {c : Char} (h : c ∈ front) : c = ' ' ∨ c.isDigit = true ∨ c = '.' := by
    rw [List.mem_append, List.mem_append, Text.spaces, String.toList_ofList] at h
    rcases h with (h | h) | h
    · exact .inl (List.eq_of_mem_replicate h)
    · exact .inr (Numeric.Binary.isDigit_or_point_of_mem_fixed h)
    · exact .inl (List.mem_singleton.mp h)
  refine ⟨front, ?_, fun h => absurd (hchars h) (by decide), fun h => absurd (hchars h) (by decide)⟩
  simp [front, Text.padLeft, Duration.millisecondsText]

/-- The column with the time has digits and its own marks only. -/
theorem Calendar.Moment.notMem_text {c : Char} (hdigit : c.isDigit = false) (hmark : c ∉ marks)
    (m : Moment) : c ∉ m.text.toList := by
  intro h
  rcases isDigit_or_mark_of_mem_text h with h | h
  · rw [hdigit] at h
    cases h
  · exact hmark h

namespace HistoryEntry

variable (number : Nat) (e : HistoryEntry)

/-- A row, with every column in front of its mark. -/
theorem exists_toList_line : ∃ front, 'm' ∉ front ∧ '\n' ∉ front ∧
    (e.line number).toList = (Text.padLeft 4 (toString number)).toList ++ ([' ', ' '] ++
      ((e.recorded.text.toList ++ [' ', ' ']) ++ (['['] ++ ((toString e.exit.number).toList ++
        ([']'] ++ (front ++ (['m', 's', ' ', ' '] ++ e.command.toList))))))) := by
  obtain ⟨front, helapsed, hunit, hnewline⟩ := e.elapsed.exists_front_milliseconds 9 2
  refine ⟨[' ', ' '] ++ front, ?_, ?_, ?_⟩
  · rw [List.mem_append]
    exact not_or.mpr ⟨by decide, hunit⟩
  · rw [List.mem_append]
    exact not_or.mpr ⟨by decide, hnewline⟩
  · simp only [line, String.toList_append, helapsed]
    simp

/-- A row is read back, whatever the command looks like. -/
theorem ofText?_line :
    HistoryRow.ofText? (e.line number) = some ⟨number, e.exit.number, e.command⟩ := by
  obtain ⟨front, hunit, -, hline⟩ := exists_toList_line number e
  have hblanks : IsMark [' ', ' '] := isMark_cons (by decide) [' ']
  have hclosing : IsMark [']'] := isMark_cons (by decide) []
  have hopening : '[' ∉ e.recorded.text.toList ++ [' ', ' '] := by
    rw [List.mem_append]
    exact not_or.mpr ⟨e.recorded.notMem_text (by decide) (by decide), by decide⟩
  rw [HistoryRow.ofText?, hline, Text.dropWhile_padLeft]
  simp only [readField_toString hblanks, skipField_append hopening, readField_toString hclosing,
    skipField_append hunit, Option.bind_eq_bind, Option.bind_some, String.ofList_toList]

theorem rowOf_line : RowOf number e (e.line number) where
  columns := ⟨_, _, rfl, e.recorded.notMem_text (by decide) (by decide)⟩
  read := ofText?_line number e

/-- Only the command can bring a newline into a row. -/
theorem newline_notMem_line (h : '\n' ∉ e.command.toList) : '\n' ∉ (e.line number).toList := by
  obtain ⟨front, -, hfront, hline⟩ := exists_toList_line number e
  have hnumber : '\n' ∉ (Text.padLeft 4 (toString number)).toList :=
    Text.notMem_padLeft_toString (by decide) (by decide) 4 number
  have hexit : '\n' ∉ (toString e.exit.number).toList := Text.notMem_toString (by decide) _
  have hrecorded : '\n' ∉ e.recorded.text.toList := e.recorded.notMem_text (by decide) (by decide)
  rw [hline]
  simp only [List.mem_append, not_or]
  exact ⟨hnumber, by decide, ⟨hrecorded, by decide⟩, by decide, hexit, by decide, hfront,
    by decide, h⟩

end HistoryEntry

namespace Session

/-! ### Commands of one line -/

def OneLine (s : Session) : Prop := ∀ e ∈ s.history, '\n' ∉ e.command.toList

variable {s : Session}

theorem oneLine_withCapacity (capacity : Nat) : (withCapacity capacity).OneLine :=
  fun _ he => absurd he List.not_mem_nil

/-- The only entry that is new is the one for the line. -/
theorem oneLine_execute [Engine] (h : s.OneLine) {watch : Stopwatch} {line : String}
    {outcome : Outcome} {next : Session} (hline : '\n' ∉ line.toList)
    (hnext : s.execute watch line = some (outcome, next)) : next.OneLine := by
  obtain ⟨⟨kept, hkept, hhistory, -⟩, -⟩ := records_execute hnext
  intro e he
  rw [hhistory] at he
  rcases List.mem_append.mp he with hold | hnew
  · exact h e (hkept.subset hold)
  · obtain rfl := List.mem_singleton.mp hnew
    exact hline

/-- The line that a dialogue runs is what it has read without the line end, so it adds no command of
two lines. -/
theorem oneLine_respond [Engine] (h : s.OneLine) {line : List UInt8} (hline : 10 ∉ line.dropLast)
    {r : Request} (hr : requestOf line = some r) (watch : Stopwatch) :
    (s.respond watch r).1.OneLine := by
  cases r with
  | suggest | hint | history | quit => exact h
  | run command =>
    rw [respond]
    cases hexecute : s.execute watch command with
    | none => exact h
    | some result =>
      obtain ⟨text, htext, hrequest⟩ := Option.map_eq_some_iff.mp hr
      obtain rfl := eq_of_ofLine_eq_run hrequest
      exact oneLine_execute h (newline_notMem_stripLineEnd hline htext) hexecute

end Session

/-- Wherever the screen ends it, a dialogue leaves commands of one line. -/
theorem oneLine_dialogueFrom [Engine] {clock : Clock} {lines : List (List UInt8)}
    (hlines : ∀ line ∈ lines, 10 ∉ line.dropLast) {s : Session} (h : s.OneLine) (n : Nat)
    (screen : Screen) : (dialogueFrom clock n s screen lines).session.OneLine := by
  induction lines generalizing n s screen with
  | nil =>
    rw [dialogueFrom]
    dsimp only
    split <;> exact h
  | cons line rest ih =>
    rw [List.forall_mem_cons] at hlines
    rw [dialogueFrom, turn_eq]
    dsimp only
    split
    · exact h
    · cases hr : requestOf line with
      | none => exact h
      | some r =>
        -- the line is recorded before its answer is written, so this is the session from here on,
        -- also when the answer is refused
        have hnext := Session.oneLine_respond h hlines.1 hr (clock n)
        cases r with
        | quit => exact h
        | run | suggest | hint | history =>
          dsimp only
          split
          · exact hnext
          · exact ih hlines.2 hnext (n + 1) _

/-- The lines that are handled are a dialogue of their own. -/
theorem oneLine_after [Engine] {clock : Clock} {lines : List (List UInt8)}
    (hlines : ∀ line ∈ lines, 10 ∉ line.dropLast) (hstops : ∀ line ∈ lines, stops line = false)
    {s : Session} (h : s.OneLine) : (s.after clock lines).OneLine := by
  have hrun := dialogueFrom_append clock s [] hstops []
  rw [List.append_nil, dialogueFrom_nil] at hrun
  have hone : (dialogueFrom clock 0 s ⟨[], none⟩ lines).session.OneLine :=
    oneLine_dialogueFrom hlines h 0 ⟨[], none⟩
  rwa [hrun] at hone

/-! ### Listings -/

/-- Each row is one line because its command is. -/
theorem lists_historyRows {s : Session} (h : s.OneLine) : Lists s.history s.historyRows := by
  let rows := s.history.zipIdx.map fun e => e.1.line (e.2 + 1)
  have hrows : ∀ row ∈ rows, '\n' ∉ row.toList := by
    intro row hrow
    obtain ⟨e, he, rfl⟩ := List.mem_map.mp hrow
    exact e.1.newline_notMem_line (e.2 + 1) (h e.1 (List.fst_mem_of_mem_zipIdx he))
  have htext : s.historyRows = String.join (rows.map (· ++ "\n")) := by
    rw [Session.historyRows, List.map_map]
    rfl
  refine ⟨rows, ?_, ?_⟩
  · rw [htext]
    exact Text.pieces_join_append hrows
  · rw [List.forall₂_map_right_iff, List.forall₂_same]
    exact fun e _ => e.1.rowOf_line (e.2 + 1)

/-- A line that asks for the history changes nothing; the dialogue writes the listing and goes on. -/
theorem dialogueFrom_history_eq_play [Engine] {clock : Clock} {s now : Session}
    {before rest : List (List UInt8)} {line : List UInt8} (hnow : s.after clock before = now)
    (hbefore : ∀ other ∈ before, stops other = false) (hline : requestOf line = some .history)
    (screen : Screen) :
    dialogueFrom clock 0 s screen (before ++ line :: rest) =
      play screen (fun screen => dialogueFrom clock (before.length + 1) now screen rest)
        (s.exchanges clock before ++ [⟨now, now.prompt⟩, ⟨now, now.historyRows⟩]) := by
  have hanswer : now.respond (clock before.length) .history = (now, now.historyRows) := rfl
  have hnext (after : Screen) : dialogueFrom clock before.length now after (line :: rest) =
      play after (fun screen => dialogueFrom clock (before.length + 1) now screen rest)
        [⟨now, now.prompt⟩, ⟨now, now.historyRows⟩] := by
    rw [dialogueFrom_cons_eq_play before.length after hline nofun, hanswer]
  rw [dialogueFrom_append_eq_play screen hbefore, play_append, hnow]
  exact congrArg (play screen · _) (funext hnext)

/-- **The listing of the history**, in every dialogue of a new session and on every screen. At every
time each command in the history is one line, also where the screen ends the dialogue. A line that
asks for the history, after lines that do not stop the dialogue, is answered with the listing of the
entries that there are then: as many rows as entries. -/
theorem lists_history [Engine] (clock : Clock) (capacity : Nat) (screen : Screen)
    (input : List UInt8) :
    let start := Session.withCapacity capacity
    (dialogue clock start screen input).session.OneLine ∧
    ∀ before rest, inputLines input = before ++ rest → (∀ line ∈ before, stops line = false) →
      let now := start.after clock before
      now.OneLine ∧
      ∀ line text after, rest = line :: after → decodeLine line = some text →
        Asks (stripLineEnd text) .history → ∃ listing, Lists now.history listing ∧
          dialogue clock start screen input =
            play screen (fun screen => dialogueFrom clock (before.length + 1) now screen after)
              (start.exchanges clock before ++ [⟨now, now.prompt⟩, ⟨now, listing⟩]) := by
  intro start
  have hstart : start.OneLine := Session.oneLine_withCapacity capacity
  have hlines : ∀ line ∈ inputLines input, 10 ∉ line.dropLast := fun _ => newline_notMem_dropLast
  refine ⟨oneLine_dialogueFrom hlines hstart 0 screen, ?_⟩
  intro before rest hinput hbefore now
  have hnow : now.OneLine := by
    refine oneLine_after (fun line hline => hlines line ?_) hbefore hstart
    rw [hinput]
    exact List.mem_append_left rest hline
  refine ⟨hnow, ?_⟩
  rintro line text after rfl htext hasks
  have hrequest : requestOf line = some .history := by
    rw [requestOf, htext, Option.map_some, (asks_iff.mp hasks).1]
  refine ⟨now.historyRows, lists_historyRows hnow, ?_⟩
  rw [dialogue, hinput]
  exact dialogueFrom_history_eq_play rfl hbefore hrequest screen

def lookalike : String := "echo  9  1/1/1970, 12:00:00 AM  [7]    0.00 ms  x"

/-- Two lines, the second of which has the first forgotten in a history of one entry. -/
def lookalikeVisit : List (List UInt8) := [textBytes "pwd\n", textBytes (lookalike ++ "\n")]

/-- The only row is numbered one, and is not taken for the row that its command looks like. -/
theorem lists_history_lookalike : ∃ listing row,
    (dialogue stillClock (.withCapacity 1) .unlimited
      (textBytes ("pwd\n" ++ lookalike ++ "\n:history\n"))).screen.shown =
        textBytes ("/home/dev $ /home/dev\n[exit 0 | 0 ms]\n" ++
          "/home/dev $ 9 1/1/1970, 12:00:00 AM [7] 0.00 ms x\n[exit 0 | 0 ms]\n" ++
          "/home/dev $ " ++ listing ++ "/home/dev $ " ++ "\n") ∧
    Text.pieces '\n' listing = [row, ""] ∧
    HistoryRow.ofText? row = some ⟨1, 0, lookalike⟩ := by
  obtain ⟨-, htimes⟩ := lists_history stillClock 1 .unlimited
    (textBytes ("pwd\n" ++ lookalike ++ "\n:history\n"))
  obtain ⟨-, hask⟩ := htimes lookalikeVisit [textBytes ":history\n"] (by decide +kernel)
    (by decide +kernel)
  obtain ⟨listing, ⟨rows, hpieces, hrows⟩, hplay⟩ := hask (textBytes ":history\n") ":history\n" []
    rfl (decodeLine_textBytes _) (asks_iff.mpr ⟨by decide +kernel, nofun⟩)
  have hhistory : ((Session.withCapacity 1).after stillClock lookalikeVisit).history =
      [⟨lookalike, "9 1/1/1970, 12:00:00 AM [7] 0.00 ms x\n", ⟨0, 0, 0⟩, .success, .zero⟩] := by
    decide +kernel
  have hprompt : ((Session.withCapacity 1).after stillClock lookalikeVisit).prompt =
      "/home/dev $ " := by
    decide +kernel
  have hwritten : written ((Session.withCapacity 1).exchanges stillClock lookalikeVisit) =
      textBytes ("/home/dev $ /home/dev\n[exit 0 | 0 ms]\n" ++
        "/home/dev $ 9 1/1/1970, 12:00:00 AM [7] 0.00 ms x\n[exit 0 | 0 ms]\n") := by
    decide +kernel
  rw [hhistory] at hrows
  cases hrows with
  | @cons _ row _ _ hrow hnil =>
    cases hnil
    refine ⟨listing, row, ?_, hpieces, hrow.read⟩
    rw [hplay, Screen.unlimited, play_unlimited, dialogueFrom_nil, hprompt, written_append, hwritten]
    simp only [written, List.flatMap_cons, List.flatMap_nil, textBytes_append, List.append_assoc,
      List.nil_append]

end LineShell
