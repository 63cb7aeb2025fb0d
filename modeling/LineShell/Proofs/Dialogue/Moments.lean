import LineShell.Proofs.Dialogue.Transcript

/-!
# Writing moment by moment

A run that is not stopped is a sequence of moments: at each a session writes a text. On a screen of
any room the same moments are written in order, and the first that is refused ends the run in the
session that it had then.

    write  : a screen, a text        ──▶ the screen after it, and whether all of it fitted
    play   : a screen, moments       ──▶ the run that writes them, and goes on with the screen
    AtByte : moments, a number, one  ──▶ the byte with that number belongs to that moment

How a text is divided into writes does not matter (`write_append`). Main statement: a run on a
screen with limited room is the run on an unlimited one, cut at a byte (`truncates_play`).
-/

namespace LineShell

/-! ### Screens -/

namespace Screen

theorem write_unlimited (shown : List UInt8) (text : String) :
    write ⟨shown, none⟩ text = (⟨shown ++ textBytes text, none⟩, true) := rfl

theorem write_fitting {text : String} {n : Nat} (h : (textBytes text).length ≤ n)
    (shown : List UInt8) : write ⟨shown, some n⟩ text =
      (⟨shown ++ textBytes text, some (n - (textBytes text).length)⟩, true) := by
  simp [write, h, List.take_of_length_le h]

/-- Of a text that does not fit, as many bytes are shown as there is room for. -/
theorem write_refused {text : String} {n : Nat} (h : n < (textBytes text).length)
    (shown : List UInt8) :
    write ⟨shown, some n⟩ text = (⟨shown ++ (textBytes text).take n, some 0⟩, false) := by
  have hroom : n - (textBytes text).length = 0 := by omega
  simp [write, hroom, h]

/-- A text is written as its parts are, one after the other. -/
theorem write_append (s : Screen) (a b : String) :
    s.write (a ++ b) = if (s.write a).2 then (s.write a).1.write b else s.write a := by
  obtain ⟨shown, _ | n⟩ := s
  · rw [write_unlimited, write_unlimited, if_pos rfl, write_unlimited, textBytes_append,
      List.append_assoc]
  by_cases ha : (textBytes a).length ≤ n
  · rw [write_fitting ha, if_pos rfl]
    by_cases hb : (textBytes b).length ≤ n - (textBytes a).length
    · have hboth : (textBytes (a ++ b)).length ≤ n := by
        rw [textBytes_append, List.length_append]
        omega
      rw [write_fitting hboth, write_fitting hb, textBytes_append, List.append_assoc,
        List.length_append, Nat.sub_add_eq]
    · have hboth : n < (textBytes (a ++ b)).length := by
        rw [textBytes_append, List.length_append]
        omega
      rw [write_refused hboth, write_refused (Nat.lt_of_not_le hb), textBytes_append,
        List.take_append, List.take_of_length_le ha, List.append_assoc]
  · have hboth : n < (textBytes (a ++ b)).length := by
      rw [textBytes_append, List.length_append]
      omega
    rw [write_refused (Nat.lt_of_not_le ha), write_refused hboth, if_neg Bool.false_ne_true,
      textBytes_append, List.take_append_of_le_length (by omega)]

/-- Writing nothing always succeeds, also on a screen without room. -/
theorem write_empty (s : Screen) : s.write "" = (s, true) := by
  obtain ⟨shown, _ | n⟩ := s <;> simp [write, textBytes]

end Screen

/-! ### Lines, one after the other -/

section

variable {α β : Type*}

/-- What is made of the elements of a list, each given with those before it. -/
def mapBefore (f : List α → α → β) (l : List α) : List β := l.zipIdx.map fun e => f (l.take e.2) e.1

theorem mapBefore_concat (f : List α → α → β) (l : List α) (a : α) :
    mapBefore f (l ++ [a]) = mapBefore f l ++ [f l a] := by
  have hbefore : (l.zipIdx.map fun e => f ((l ++ [a]).take e.2) e.1) = mapBefore f l := by
    refine List.map_congr_left ?_
    rintro ⟨b, i⟩ hb
    obtain ⟨-, hi, -⟩ := List.mem_zipIdx hb
    rw [List.take_append_of_le_length (by omega)]
  rw [mapBefore, List.zipIdx_append, List.map_append, hbefore, List.zipIdx_singleton,
    List.map_singleton, Nat.zero_add, List.take_left]

end

/-! ### Moments -/

/-- A text that is written, and the session while it is. -/
structure Moment where
  session : Session
  text : String

def written (moments : List Moment) : List UInt8 := moments.flatMap fun m => textBytes m.text

/-- Byte number `n`, counted from zero, is written at the moment. -/
def AtByte (moments : List Moment) (n : Nat) (m : Moment) : Prop :=
  ∃ before after, moments = before ++ m :: after ∧ (written before).length ≤ n ∧
    n < (written before).length + (textBytes m.text).length

theorem written_cons (m : Moment) (moments : List Moment) :
    written (m :: moments) = textBytes m.text ++ written moments := rfl

theorem written_append (a b : List Moment) : written (a ++ b) = written a ++ written b :=
  List.flatMap_append

theorem AtByte.cons {moments : List Moment} {n : Nat} {m : Moment} (first : Moment)
    (h : AtByte moments n m) : AtByte (first :: moments) ((textBytes first.text).length + n) m := by
  obtain ⟨before, after, rfl, hle, hlt⟩ := h
  refine ⟨first :: before, after, rfl, ?_, ?_⟩
  · rw [written_cons, List.length_append]
    omega
  · rw [written_cons, List.length_append]
    omega

/-! ### Playing -/

/-- Write the moments in order and go on with the screen after them. A moment that is refused ends
the run, in its session. -/
def play (screen : Screen) (next : Screen → Run) : List Moment → Run
  | [] => next screen
  | m :: rest =>
    let (screen, shown) := screen.write m.text
    if !shown then ⟨m.session, screen, .error .screenClosed⟩ else play screen next rest

variable {next : Screen → Run} {moments : List Moment} {n : Nat}

theorem play_cons (screen : Screen) (m : Moment) :
    play screen next (m :: moments) =
      if (screen.write m.text).2 then play (screen.write m.text).1 next moments
      else ⟨m.session, (screen.write m.text).1, .error .screenClosed⟩ := by
  rw [play]
  rcases screen.write m.text with ⟨after, _ | _⟩ <;> rfl

/-- Moments can be played in parts. -/
theorem play_append (screen : Screen) (a b : List Moment) :
    play screen next (a ++ b) = play screen (fun after => play after next b) a := by
  induction a generalizing screen with
  | nil => rfl
  | cons m a ih => rw [List.cons_append, play_cons, play_cons, ih]

/-- A screen that takes everything shows all moments. -/
theorem play_unlimited (shown : List UInt8) (moments : List Moment) :
    play ⟨shown, none⟩ next moments = next ⟨shown ++ written moments, none⟩ := by
  induction moments generalizing shown with
  | nil => rw [written, List.flatMap_nil, List.append_nil]; rfl
  | cons m moments ih =>
    rw [play_cons, Screen.write_unlimited, if_pos rfl, ih, written_cons, List.append_assoc]

/-- On a screen with room for all moments, all of them are written. -/
theorem play_fitting (shown : List UInt8) (h : (written moments).length ≤ n) :
    play ⟨shown, some n⟩ next moments =
      next ⟨shown ++ written moments, some (n - (written moments).length)⟩ := by
  induction moments generalizing shown n with
  | nil => rw [written, List.flatMap_nil, List.append_nil]; rfl
  | cons m moments ih =>
    rw [written_cons, List.length_append] at h
    have hfirst : (textBytes m.text).length ≤ n := by omega
    have hrest : (written moments).length ≤ n - (textBytes m.text).length := by omega
    rw [play_cons, Screen.write_fitting hfirst, if_pos rfl, ih _ hrest, written_cons,
      List.append_assoc, List.length_append, Nat.sub_add_eq]

/-- Where the room ends within a moment, the run ends in its session. -/
theorem play_refused (shown : List UInt8) (h : n < (written moments).length) :
    ∃ m, AtByte moments n m ∧ play ⟨shown, some n⟩ next moments =
      ⟨m.session, ⟨shown ++ (written moments).take n, some 0⟩, .error .screenClosed⟩ := by
  induction moments generalizing shown n with
  | nil => simp [written] at h
  | cons first moments ih =>
    by_cases hfirst : (textBytes first.text).length ≤ n
    · rw [written_cons, List.length_append] at h
      obtain ⟨room, rfl⟩ := Nat.exists_eq_add_of_le hfirst
      have hrest : room < (written moments).length := by omega
      obtain ⟨m, hm, hplay⟩ := ih (shown ++ textBytes first.text) hrest
      refine ⟨m, hm.cons first, ?_⟩
      rw [play_cons, Screen.write_fitting hfirst, if_pos rfl, Nat.add_sub_cancel_left, hplay,
        written_cons, List.take_length_add_append, List.append_assoc]
    · have hrefused : n < (textBytes first.text).length := Nat.lt_of_not_le hfirst
      refine ⟨first, ⟨[], moments, rfl, Nat.zero_le n, by simpa [written] using hrefused⟩, ?_⟩
      rw [play_cons, Screen.write_refused hrefused, if_neg Bool.false_ne_true, written_cons,
        List.take_append_of_le_length (Nat.le_of_lt hrefused)]

/-! ### Cutting a run -/

/-- The second run is the first, cut after `n` bytes. The first writes the moments; the second shows
the bytes there is room for. If there is room for all of them it ends as the first does, and
otherwise it ends because the screen is closed, in the session of the first at the byte that did not
fit. -/
structure Truncates (moments : List Moment) (n : Nat) (full cut : Run) : Prop where
  writes : full.screen.shown = written moments
  shown : cut.screen.shown = full.screen.shown.take n
  refused : cut.ending = .error .screenClosed ↔ n < full.screen.shown.length
  complete : full.screen.shown.length ≤ n →
    cut.session = full.session ∧ cut.ending = full.ending
  stopped : n < full.screen.shown.length →
    ∃ m, AtByte moments n m ∧ cut.session = m.session

/-- The same moments, on a screen that takes everything and on one with limited room. -/
theorem truncates_play (moments : List Moment) (n : Nat) (s : Session)
    {ending : Except RunError ExitCode} (h : ending ≠ .error .screenClosed) :
    Truncates moments n (play .unlimited (fun screen => ⟨s, screen, ending⟩) moments)
      (play (.limited n) (fun screen => ⟨s, screen, ending⟩) moments) := by
  rw [Screen.unlimited, Screen.limited, play_unlimited, List.nil_append]
  by_cases hroom : (written moments).length ≤ n
  · rw [play_fitting [] hroom, List.nil_append]
    exact {
      writes := rfl
      shown := (List.take_of_length_le hroom).symm
      refused := ⟨fun hending => absurd hending h, fun hlt => absurd hroom (Nat.not_le.mpr hlt)⟩
      complete := fun _ => ⟨rfl, rfl⟩
      stopped := fun hlt => absurd hroom (Nat.not_le.mpr hlt) }
  · have hlt : n < (written moments).length := Nat.lt_of_not_le hroom
    obtain ⟨m, hm, hcut⟩ := @play_refused (fun screen => ⟨s, screen, ending⟩) moments n [] hlt
    rw [hcut, List.nil_append]
    exact {
      writes := rfl
      shown := rfl
      refused := ⟨fun _ => hlt, fun _ => rfl⟩
      complete := fun hle => absurd hle hroom
      stopped := fun _ => ⟨m, hm, rfl⟩ }

end LineShell
