import LineShell.Proofs.Dispatch
import LineShell.Session
import Mathlib.Data.List.DropRight

/-!
# The history of a session

A session forgets. Beside it runs a journal that does not: its log is emptied when a line clears
the screen and grows by every line that is recorded, and `recorded` grows only.

    Session.step : a session, an event ──▶ the session after it
    Journal.step : a journal, an event ──▶ the journal after it

The history is a window on the end of the log. Recording an entry moves the window on
(`tracks_record`), so an event does (`tracks_step`) and a run does (`tracks_run`). Main statement:
`shows_run`. Of a single line it says less, and what a line adds is stated apart: one entry
(`records_execute`).
-/

namespace LineShell

namespace Session

/-! ### Windows on the end of a list -/

variable {α : Type*}

/-- A full window that gives up its oldest entry, and one that is not full, is the window that is
one entry shorter. -/
theorem rtake_dropOldest (l : List α) (n : Nat) :
    (if (l.rtake (n + 1)).length = n + 1 then (l.rtake (n + 1)).tail else l.rtake (n + 1)) =
      l.rtake n := by
  simp only [List.rtake, List.length_drop, List.tail_drop]
  split
  · next hfull =>
    -- the tail of the window begins one entry later
    have hstart : l.length - (n + 1) + 1 = l.length - n := by omega
    rw [hstart]
  · next hroom =>
    -- the list is no longer than the shorter window, so both begin at its start
    have hstart : l.length - (n + 1) = l.length - n := by omega
    rw [hstart]

theorem length_rtake_le (l : List α) (n : Nat) : (l.rtake n).length ≤ n := by
  rw [List.rtake, List.length_drop]
  omega

/-- A window that can hold an entry shows the last one. -/
theorem getLast?_rtake {l : List α} {n : Nat} (h : 0 < n) :
    (l.rtake n).getLast? = l.getLast? := by
  rw [List.rtake, List.getLast?_drop]
  split
  · next hshort =>
    have hempty : l = [] := List.length_eq_zero_iff.mp (by omega)
    rw [hempty, List.getLast?_nil]
  · rfl

/-! ### Events -/

/-- What is done with a session that its history can tell of. -/
inductive Event where
  | execute (watch : Stopwatch) (line : String)
  | interrupt (now : Calendar.Moment) (line : String)

variable [Engine]

/-- The session after an event; a line without a result leaves it as it was. -/
def step (s : Session) : Event → Session
  | .execute watch line =>
    match s.execute watch line with
    | none => s
    | some (_, next) => next
  | .interrupt now line =>
    match s.interrupt now line with
    | none => s
    | some next => next

/-- The session after events, the first of the list first. -/
def run (s : Session) (events : List Event) : Session := events.foldl step s

end Session

/-! ### The journal -/

def Execution.entry (e : Execution) (now : Calendar.Moment) (line : String) : HistoryEntry :=
  ⟨line, e.output, now, e.exit, e.elapsed⟩

/-- A shell that never forgets: the lines since the screen was last cleared, and all lines. -/
structure Journal where
  files : FileSystem
  log : List HistoryEntry
  recorded : List HistoryEntry

namespace Journal

def start : Journal := ⟨.seeded, [], []⟩

def write (j : Journal) (e : HistoryEntry) : Journal :=
  { j with log := j.log ++ [e], recorded := j.recorded ++ [e] }

variable [Engine]

/-- Run a line. One that clears the screen empties the log before it is written itself. -/
def execute (j : Journal) (watch : Stopwatch) (line : String) : Option (Outcome × Journal) :=
  (Builtin.registry.dispatch watch j.files line).map fun d =>
    let log := if d.clears = 0 then j.log else []
    (⟨d.execution, d.clears ≠ 0⟩,
      write ⟨d.files, log, j.recorded⟩ (d.execution.entry watch.recorded line))

/-- Write down a line that was cancelled: without output, and with the exit code 130. -/
def interrupt (j : Journal) (now : Calendar.Moment) (line : String) : Option Journal :=
  if Text.isBlankLine line then none else some (j.write ⟨line, "", now, .interrupted, .zero⟩)

def step (j : Journal) : Session.Event → Journal
  | .execute watch line =>
    match j.execute watch line with
    | none => j
    | some (_, next) => next
  | .interrupt now line =>
    match j.interrupt now line with
    | none => j
    | some next => next

def run (j : Journal) (events : List Session.Event) : Journal := events.foldl step j

/-- The exit code of the entry that was recorded last, whether or not it is still in the log. -/
def lastExit (j : Journal) : ExitCode := (j.recorded.getLast?.map (·.exit)).getD .success

end Journal

namespace Session

/-! ### The invariant -/

/-- The session is what its window on the journal shows. The last fields are what clearing cannot
break, because the line that clears is recorded after it. -/
structure Tracks (capacity : Nat) (s : Session) (j : Journal) : Prop where
  files_eq : s.files = j.files
  capacity_eq : s.capacity = capacity
  history_eq : s.history = j.log.rtake capacity
  lastExit_eq : s.lastExit = j.lastExit
  last_eq : j.log.getLast? = j.recorded.getLast?

variable {capacity : Nat} {s : Session} {j : Journal}

theorem tracks_start (capacity : Nat) :
    Tracks (max capacity 1) (withCapacity capacity) .start where
  files_eq := rfl
  capacity_eq := rfl
  history_eq := (List.rtake_nil _).symm
  lastExit_eq := rfl
  last_eq := rfl

/-- Recording moves the window on. It needs less than it gives: what was recorded last does not
matter any more. -/
theorem tracks_record (hpos : 0 < capacity) (hfiles : s.files = j.files)
    (hcapacity : s.capacity = capacity) (hhistory : s.history = j.log.rtake capacity)
    (now : Calendar.Moment) (line : String) (e : Execution) :
    Tracks capacity (s.record now line e) (j.write (e.entry now line)) where
  files_eq := hfiles
  capacity_eq := hcapacity
  history_eq := by
    obtain ⟨n, rfl⟩ : ∃ n, capacity = n + 1 := ⟨capacity - 1, by omega⟩
    rw [Journal.write, List.rtake_concat_succ, record, hcapacity, hhistory, rtake_dropOldest]
    rfl
  lastExit_eq := by
    rw [Journal.lastExit, Journal.write, List.getLast?_concat]
    rfl
  last_eq := by rw [Journal.write, List.getLast?_concat, List.getLast?_concat]

variable [Engine]

/-- An event that the session records is written into the journal, any other changes neither. -/
theorem tracks_step (hpos : 0 < capacity) (h : Tracks capacity s j) (event : Event) :
    Tracks capacity (s.step event) (j.step event) := by
  cases event with
  | execute watch line =>
    rw [step, execute, Journal.step, Journal.execute, h.files_eq]
    cases Builtin.registry.dispatch watch j.files line with
    | none => exact h
    | some d =>
      refine tracks_record hpos ?_ ?_ ?_ watch.recorded line d.execution
      · rfl
      · exact h.capacity_eq
      · -- a clearing line empties both sides, and the window on an empty log is empty
        by_cases hclears : d.clears = 0
        · simp [hclears, h.history_eq]
        · simp [hclears]
  | interrupt now line =>
    rw [step, interrupt, Journal.step, Journal.interrupt]
    by_cases hblank : Text.isBlankLine line = true
    · rw [if_pos hblank, if_pos hblank]
      exact h
    · rw [if_neg hblank, if_neg hblank]
      exact tracks_record hpos h.files_eq h.capacity_eq h.history_eq now line .interrupted

/-- The window shows the end of the log after every run. -/
theorem tracks_run (hpos : 0 < capacity) (h : Tracks capacity s j) (events : List Event) :
    Tracks capacity (s.run events) (j.run events) := by
  induction events generalizing s j with
  | nil => exact h
  | cons event events ih => exact ih (tracks_step hpos h event)

/-! ### What a line adds -/

/-- The second session is the first with one entry more, which is the newest. In front of it is the
end of what there was: all of that, where the screen was not cleared and the history not full. -/
structure Records (s : Session) (e : HistoryEntry) (cleared : Bool) (next : Session) : Prop where
  history_eq : ∃ kept, kept <:+ s.history ∧ next.history = kept ++ [e] ∧
    (cleared = false → s.history.length ≠ s.capacity → kept = s.history)
  lastExit_eq : next.lastExit = e.exit

omit [Engine] in
theorem records_record (s : Session) (now : Calendar.Moment) (line : String) (e : Execution) :
    Records s (e.entry now line) false (s.record now line e) where
  history_eq := by
    refine ⟨_, ?_, rfl, fun _ hroom => if_neg hroom⟩
    split
    · exact List.tail_suffix s.history
    · exact List.suffix_refl s.history
  lastExit_eq := rfl

/-- A line that is not blank is recorded once. -/
theorem records_execute {watch : Stopwatch} {line : String} {outcome : Outcome} {next : Session}
    (h : s.execute watch line = some (outcome, next)) :
    Records s (outcome.execution.entry watch.recorded line) outcome.cleared next := by
  obtain ⟨d, -, hd⟩ := Option.map_eq_some_iff.mp h
  obtain ⟨rfl, rfl⟩ := Prod.mk.inj hd
  obtain ⟨⟨kept, hkept, hnext, hroom⟩, hexit⟩ :=
    records_record { s with files := d.files, history := if d.clears ≠ 0 then [] else s.history }
      watch.recorded line d.execution
  refine ⟨⟨kept, ?_, hnext, ?_⟩, hexit⟩
  · by_cases hclears : d.clears = 0
    · simpa [hclears] using hkept
    · have hnothing : kept <:+ [] := by simpa [hclears] using hkept
      exact hnothing.trans List.nil_suffix
  · intro hclears
    have hclears : d.clears = 0 := by simpa using hclears
    simpa [hclears] using hroom rfl

/-! ### Blank lines -/

theorem execute_eq_none_iff {watch : Stopwatch} {line : String} :
    s.execute watch line = none ↔ ∀ c ∈ line.toList, Text.isBlank c = true := by
  rw [execute, Option.map_eq_none_iff, Registry.dispatch_eq_none_iff, Text.isBlankLine,
    List.all_eq_true]

omit [Engine] in
theorem interrupt_eq_none_iff {now : Calendar.Moment} {line : String} :
    s.interrupt now line = none ↔ ∀ c ∈ line.toList, Text.isBlank c = true := by
  rw [interrupt, ← List.all_eq_true, ← Text.isBlankLine]
  cases Text.isBlankLine line <;> simp

/-- What a session shows of a journal: it answers every line as the journal does, its history is
the end of the log, and the exit code it remembers is that of the last line of all, which the
history ends with. -/
structure Shows (capacity : Nat) (s : Session) (j : Journal) : Prop where
  files_eq : s.files = j.files
  answers_eq : ∀ watch line,
    (s.execute watch line).map Prod.fst = (j.execute watch line).map Prod.fst
  history_eq : s.history = j.log.drop (j.log.length - capacity)
  length_le : s.history.length ≤ capacity
  lastExit_eq : s.lastExit = (j.recorded.getLast?.map HistoryEntry.exit).getD .success
  ends : j.recorded ≠ [] → ∃ e, s.history.getLast? = some e ∧ e.exit = s.lastExit

/-- All that a session shows can be read off its window. -/
theorem Tracks.shows (hpos : 0 < capacity) (h : Tracks capacity s j) : Shows capacity s j where
  files_eq := h.files_eq
  answers_eq := by
    intro watch line
    rw [execute, Journal.execute, h.files_eq, Option.map_map, Option.map_map]
    rfl
  history_eq := h.history_eq
  length_le := by
    rw [h.history_eq]
    exact length_rtake_le j.log capacity
  lastExit_eq := h.lastExit_eq
  ends := by
    intro hrecorded
    refine ⟨j.recorded.getLast hrecorded, ?_, ?_⟩
    · rw [h.history_eq, getLast?_rtake hpos, h.last_eq, List.getLast?_eq_some_getLast hrecorded]
    · rw [h.lastExit_eq, Journal.lastExit, List.getLast?_eq_some_getLast hrecorded]
      rfl

/-- After any events a session shows the journal of the same events through a window of its
capacity, which is at least one. Running and cancelling agree on which lines are blank, and such a
line changes nothing. -/
theorem shows_run (capacity : Nat) :
    (∀ events,
      Shows (max capacity 1) ((withCapacity capacity).run events) (Journal.start.run events)) ∧
    ∀ (s : Session) watch now line,
      (s.execute watch line = none ↔ ∀ c ∈ line.toList, Text.isBlank c = true) ∧
      (s.interrupt now line = none ↔ ∀ c ∈ line.toList, Text.isBlank c = true) ∧
      ((∀ c ∈ line.toList, Text.isBlank c = true) →
        s.step (.execute watch line) = s ∧ s.step (.interrupt now line) = s) := by
  have hpos : 0 < max capacity 1 := by omega
  refine ⟨fun events => (tracks_run hpos (tracks_start capacity) events).shows hpos, ?_⟩
  intro s watch now line
  refine ⟨execute_eq_none_iff, interrupt_eq_none_iff, ?_⟩
  intro hblank
  constructor
  · rw [step, execute_eq_none_iff.mpr hblank]
  · rw [step, interrupt_eq_none_iff.mpr hblank]

end Session

end LineShell
