import LineShell.Proofs.Calendar.Gregorian
import LineShell.Proofs.Text.Fields

/-!
# Timestamps are read back

A moment is written as a date and a time on a clock of twelve hours. The day is not padded, the year
may have a sign and any number of digits, and midnight and noon are twelve o'clock; still the text
says which second it was on the clock of the place.

    Stamp         : what the text of a moment says
    Stamp.ofText? : a text ──▶ what it says, if it is the text of a moment
    localSeconds  : what a text says ──▶ the seconds that a clock there has counted since 1970

Every field ends in front of a mark that is no digit, so the text is read back (`ofText?_text`), and
the date gives the days (`localSeconds_stamp`). Main statement: in one place, moments of different
seconds have different texts (`text_unambiguous`).
-/

namespace LineShell.Calendar

open Text (readField IsMark isMark_cons readField_toString readField_padZeros)

/-! ### Reading -/

structure Stamp where
  date : Date
  hour : Nat
  minute : Nat
  second : Nat
  afternoon : Bool
deriving DecidableEq, Repr

/-- A year with or without a sign, and what is left after the mark. -/
def readYear (mark : List Char) : List Char → Option (Int × List Char)
  | '-' :: cs => (readField mark cs).map fun (n, cs) => (-(n : Int), cs)
  | '+' :: cs => (readField mark cs).map fun (n, cs) => ((n : Int), cs)
  | cs => (readField mark cs).map fun (n, cs) => ((n : Int), cs)

def readHalf (cs : List Char) : Option Bool :=
  if cs = ['A', 'M'] then some false else if cs = ['P', 'M'] then some true else none

/-- Read the date and the time; nothing else may be in the text. -/
def Stamp.ofText? (text : String) : Option Stamp := do
  let (month, cs) ← readField ['/'] text.toList
  let (day, cs) ← readField ['/'] cs
  let (year, cs) ← readYear [',', ' '] cs
  let (hour, cs) ← readField [':'] cs
  let (minute, cs) ← readField [':'] cs
  let (second, cs) ← readField [' '] cs
  let afternoon ← readHalf cs
  some ⟨⟨year, month, day⟩, hour, minute, second, afternoon⟩

namespace Stamp

/-- The date is in the calendar, and the time is one that a clock of twelve hours shows. -/
structure Valid (s : Stamp) : Prop where
  date : s.date.Valid
  hour : 1 ≤ s.hour ∧ s.hour ≤ 12
  minute : s.minute < 60
  second : s.second < 60

/-- The hour since midnight; twelve is the first hour of its half. -/
def hourOfDay (s : Stamp) : Nat := s.hour % 12 + if s.afternoon then 12 else 0

def localSeconds (s : Stamp) : Int :=
  86400 * s.date.days + (3600 * s.hourOfDay + 60 * s.minute + s.second : Nat)

end Stamp

/-! ### The text is read back -/

theorem readHalf_hour (hour : Nat) :
    readHalf (if hour < 12 then ['A', 'M'] else ['P', 'M']) = some (decide (12 ≤ hour)) := by
  by_cases h : hour < 12
  · rw [if_pos h, decide_eq_false (Nat.not_le.mpr h)]
    rfl
  · rw [if_neg h, decide_eq_true (Nat.le_of_not_lt h)]
    rfl

/-- Digits are no sign. -/
theorem readYear_of_isDigit {cs : List Char} (h : ∀ c ∈ cs.head?, c.isDigit = true)
    (mark : List Char) :
    readYear mark cs = (readField mark cs).map fun (n, cs) => ((n : Int), cs) := by
  unfold readYear
  split
  · exact absurd (h '-' rfl) (by decide)
  · exact absurd (h '+' rfl) (by decide)
  · rfl

theorem readYear_yearText {mark : List Char} (h : IsMark mark) (year : Int) (rest : List Char) :
    readYear mark ((Moment.yearText year).toList ++ (mark ++ rest)) = some (year, rest) := by
  have hminus : "-".toList = ['-'] := by decide
  have hplus : "+".toList = ['+'] := by decide
  rw [Moment.yearText]
  by_cases hnegative : year < 0
  · have hvalue : -(year.natAbs : Int) = year := by omega
    rw [if_pos hnegative, String.toList_append, List.append_assoc, hminus, List.singleton_append,
      readYear, readField_padZeros h]
    exact congrArg (fun y => some (y, rest)) hvalue
  · have hvalue : (year.toNat : Int) = year := Int.toNat_of_nonneg (by omega)
    rw [if_neg hnegative]
    by_cases hfour : year ≤ 9999
    · have hdigit : ∀ c ∈ ((Text.padZeros 4 year.toNat).toList ++ (mark ++ rest)).head?,
          c.isDigit = true := by
        rw [List.head?_append_of_ne_nil _ (Text.toList_padZeros_ne_nil 4 year.toNat)]
        exact fun c hc => Text.isDigit_of_mem_padZeros (List.mem_of_mem_head? hc)
      rw [if_pos hfour, readYear_of_isDigit hdigit, readField_padZeros h]
      exact congrArg (fun y => some (y, rest)) hvalue
    · rw [if_neg hfour, String.toList_append, List.append_assoc, hplus, List.singleton_append,
        readYear, readField_toString h]
      exact congrArg (fun y => some (y, rest)) hvalue

namespace Moment

def stamp (m : Moment) : Stamp :=
  ⟨m.date, clockHour m.hour, m.minute, m.second, decide (12 ≤ m.hour)⟩

/-- The text of a moment, with every field in front of its mark. -/
theorem toList_text (m : Moment) : m.text.toList =
    (toString m.date.month).toList ++ (['/'] ++ ((toString m.date.day).toList ++ (['/'] ++
      ((yearText m.date.year).toList ++ ([',', ' '] ++ ((toString (clockHour m.hour)).toList ++
        ([':'] ++ ((Text.padZeros 2 m.minute).toList ++ ([':'] ++
          ((Text.padZeros 2 m.second).toList ++ ([' '] ++
            if m.hour < 12 then ['A', 'M'] else ['P', 'M']))))))))))) := by
  rw [text]
  split <;> simp

theorem isDigit_or_sign_of_mem_yearText {year : Int} {c : Char}
    (h : c ∈ (yearText year).toList) : c.isDigit = true ∨ c = '-' ∨ c = '+' := by
  unfold yearText at h
  split_ifs at h
  · rw [String.toList_append, List.mem_append] at h
    rcases h with h | h
    · exact .inr (.inl (List.mem_singleton.mp h))
    · exact .inl (Text.isDigit_of_mem_padZeros h)
  · exact .inl (Text.isDigit_of_mem_padZeros h)
  · rw [String.toList_append, List.mem_append] at h
    rcases h with h | h
    · exact .inr (.inr (List.mem_singleton.mp h))
    · exact .inl (Text.isDigit_of_mem_toString h)

def marks : List Char := ['/', ',', ' ', ':', '-', '+', 'A', 'P', 'M']

/-- Nothing but digits and marks is in the text. -/
theorem isDigit_or_mark_of_mem_text {m : Moment} {c : Char} (h : c ∈ m.text.toList) :
    c.isDigit = true ∨ c ∈ marks := by
  have hmark {mark : List Char} (hmark : mark ⊆ marks) (hc : c ∈ mark) :
      c.isDigit = true ∨ c ∈ marks := .inr (hmark hc)
  rw [toList_text] at h
  simp only [List.mem_append] at h
  rcases h with h | h | h | h | h | h | h | h | h | h | h | h | h
  · exact .inl (Text.isDigit_of_mem_toString h)
  · exact hmark (by decide) h
  · exact .inl (Text.isDigit_of_mem_toString h)
  · exact hmark (by decide) h
  · refine (isDigit_or_sign_of_mem_yearText h).imp_right fun hsign => ?_
    rcases hsign with rfl | rfl <;> decide
  · exact hmark (by decide) h
  · exact .inl (Text.isDigit_of_mem_toString h)
  · exact hmark (by decide) h
  · exact .inl (Text.isDigit_of_mem_padZeros h)
  · exact hmark (by decide) h
  · exact .inl (Text.isDigit_of_mem_padZeros h)
  · exact hmark (by decide) h
  · split at h
    · exact hmark (by decide) h
    · exact hmark (by decide) h

/-- The text of every moment is read back. -/
theorem ofText?_text (m : Moment) : Stamp.ofText? m.text = some m.stamp := by
  have hslash : IsMark ['/'] := isMark_cons (by decide) []
  have hcomma : IsMark [',', ' '] := isMark_cons (by decide) [' ']
  have hcolon : IsMark [':'] := isMark_cons (by decide) []
  have hspace : IsMark [' '] := isMark_cons (by decide) []
  rw [Stamp.ofText?, toList_text]
  simp only [readField_toString hslash, readYear_yearText hcomma, readField_toString hcolon,
    readField_padZeros hcolon, readField_padZeros hspace, readHalf_hour, Option.bind_eq_bind,
    Option.bind_some]
  rfl

/-! ### What is read says when -/

variable {m : Moment}

theorem hour_lt (m : Moment) : m.hour < 24 := by
  unfold hour secondOfDay
  omega

/-- On a clock of twelve hours, no hour is nought, and the half of the day tells hours apart. -/
theorem hourOfDay_stamp (m : Moment) : m.stamp.hourOfDay = m.hour := by
  have hlt := hour_lt m
  rw [Stamp.hourOfDay, stamp]
  dsimp only
  unfold clockHour
  split_ifs <;> simp_all <;> omega

/-- What is written is a date of the calendar and a time that a clock shows; a leap second is second
60. -/
theorem valid_stamp (h : m.nanos < 1_000_000_000) : m.stamp.Valid where
  date := (valid_days_ofDays _).1
  hour := by
    show 1 ≤ clockHour m.hour ∧ clockHour m.hour ≤ 12
    unfold clockHour
    split <;> omega
  minute := Nat.mod_lt _ (by decide)
  second := by
    show m.secondOfDay % 60 + m.nanos / 1_000_000_000 < 60
    omega

/-- Without a leap second, the parts of the time add up. -/
theorem localSeconds_stamp (h : m.nanos < 1_000_000_000) :
    m.stamp.localSeconds = m.localSeconds := by
  have hdays : m.stamp.date.days = m.localSeconds / 86400 := (valid_days_ofDays _).2
  have htime : 3600 * m.hour + 60 * m.minute + m.second = m.secondOfDay := by
    unfold hour minute second
    omega
  have hsecond : (m.secondOfDay : Int) = m.localSeconds % 86400 := by
    unfold secondOfDay
    omega
  rw [Stamp.localSeconds, hdays, hourOfDay_stamp]
  show 86400 * (m.localSeconds / 86400) +
    ((3600 * m.hour + 60 * m.minute + m.second : Nat) : Int) = m.localSeconds
  rw [htime, hsecond]
  omega

/-- **Timestamps are unambiguous.** Unless it is a leap second, the text of a moment is read back as
a date of the calendar and a time on a clock of twelve hours. They are the date and the time of the
place, which say how many seconds a clock there has counted. So two moments in one place that are
written alike lie in the same second. -/
theorem text_unambiguous :
    (∀ m : Moment, m.nanos < 1_000_000_000 →
      ∃ s, Stamp.ofText? m.text = some s ∧ s.Valid ∧ s.date = m.date ∧ s.hourOfDay = m.hour ∧
        s.minute = m.minute ∧ s.second = m.second ∧ s.localSeconds = m.localSeconds) ∧
    ∀ m n : Moment, m.nanos < 1_000_000_000 → n.nanos < 1_000_000_000 → m.offset = n.offset →
      m.text = n.text → m.seconds = n.seconds := by
  constructor
  · intro m hm
    exact ⟨m.stamp, ofText?_text m, valid_stamp hm, rfl, hourOfDay_stamp m, rfl, rfl,
      localSeconds_stamp hm⟩
  · intro m n hm hn hoffset htext
    have hstamp : m.stamp = n.stamp := by
      rw [← Option.some_inj, ← ofText?_text, ← ofText?_text, htext]
    have hlocal : m.localSeconds = n.localSeconds := by
      rw [← localSeconds_stamp hm, ← localSeconds_stamp hn, hstamp]
    unfold localSeconds at hlocal
    omega

/-- Half past noon on a leap day before year zero, five and a half hours east. The end of that
second is written alike. -/
theorem text_unambiguous_leapDay :
    (∃ s, Stamp.ofText? "2/29/-0004, 12:30:00 PM" = some s ∧ s.Valid ∧ s.date = ⟨-4, 2, 29⟩ ∧
      s.hourOfDay = 12 ∧ s.localSeconds = -62_288_307_000) ∧
    (Moment.mk (-62_288_326_800) 0 19_800).text =
      (Moment.mk (-62_288_326_800) 999_999_999 19_800).text ∧
    (Moment.mk (-62_288_326_800) 0 19_800).seconds =
      (Moment.mk (-62_288_326_800) 999_999_999 19_800).seconds := by
  have hfirst : (Moment.mk (-62_288_326_800) 0 19_800).text = "2/29/-0004, 12:30:00 PM" := by
    decide +kernel
  have hlast : (Moment.mk (-62_288_326_800) 999_999_999 19_800).text =
      "2/29/-0004, 12:30:00 PM" := by
    decide +kernel
  obtain ⟨s, hread, hvalid, hdate, hhour, -, -, hlocal⟩ :=
    text_unambiguous.1 ⟨-62_288_326_800, 0, 19_800⟩ (by decide)
  rw [hfirst] at hread
  refine ⟨⟨s, hread, hvalid, hdate.trans (by decide +kernel), hhour.trans (by decide +kernel),
    hlocal.trans (by decide +kernel)⟩, hfirst.trans hlast.symm, ?_⟩
  exact text_unambiguous.2 _ _ (by decide) (by decide) rfl (hfirst.trans hlast.symm)

end Moment

end LineShell.Calendar
