import LineShell.Proofs.Duration.Units
import LineShell.Proofs.Json.Numbers

/-!
# Durations in order

The text of a duration says how many seconds it took, more or less. A reader finds the form by the
unit, and the seconds by that form:

    `N ms`     `N / 1000`
    `X s`      `X`
    `Mm Ss`    `60 * M + S`

What is read back depends on the whole milliseconds only, and is a whole number of milliseconds
itself (`shown`). Main statement: no form is off by more than half its last place, and a longer
duration never shows a smaller number of seconds, also where the form changes or rounding is carried
(`text_ordered`).
-/

namespace LineShell.Duration

/-! ### Reading -/

inductive Form where
  | milliseconds
  | seconds
  | minutes
deriving DecidableEq, Repr

/-- How many seconds a text of the form may be off: half of its last place, and nothing where
nothing is rounded. -/
def Form.slack : Form → ℚ
  | milliseconds => 0
  | seconds => 1 / 20
  | minutes => 1 / 2

structure Reading where
  form : Form
  seconds : ℚ

/-- A number with a unit after it, or two of them; nothing else may be in the text. -/
def Reading.ofText? (text : String) : Option Reading := do
  let (first, rest) ← Json.readMagnitude text.toList
  if rest = [' ', 'm', 's'] then some ⟨.milliseconds, first / 1000⟩
  else if rest = [' ', 's'] then some ⟨.seconds, first⟩
  else
    let rest ← rest.dropPrefix? ['m', ' ']
    let (second, rest) ← Json.readMagnitude rest
    if rest = ['s'] then some ⟨.minutes, 60 * first + second⟩ else none

/-! ### The three forms are read back -/

theorem ofText?_milliseconds (n : Nat) :
    Reading.ofText? (toString n ++ " ms") = some ⟨.milliseconds, (n : ℚ) / 1000⟩ := by
  have hread := Json.readMagnitude_toString n (Json.ends_cons (c := ' ') (by decide) ['m', 's'])
  rw [Reading.ofText?, String.toList_append]
  show (Json.readMagnitude ((toString n).toList ++ [' ', 'm', 's']) >>= _) = _
  rw [hread]
  rfl

/-- A single digit after the point stands for tenths. -/
theorem partsValue_tenth (whole : Nat) {tenth : Nat} (h : tenth < 10) :
    Json.partsValue (toString whole).toList (toString tenth).toList 0 = whole + tenth / 10 := by
  have hlength : (toString tenth).toList.length = 1 := by
    rw [Nat.toString_eq_ofList_toDigits, String.toList_ofList, Nat.toDigits_of_lt_base h]
    rfl
  rw [Json.partsValue, Nat.ofDigitChars_append, Nat.ofDigitChars_eq_ofDigitChars_zero,
    Text.ofDigitChars_toString, Text.ofDigitChars_toString, hlength]
  push_cast
  ring

theorem ofText?_seconds (whole : Nat) {tenth : Nat} (h : tenth < 10) :
    Reading.ofText? (toString whole ++ "." ++ toString tenth ++ " s") =
      some ⟨.seconds, (whole : ℚ) + tenth / 10⟩ := by
  have hread := Json.readMagnitude_plain (Json.whole_toString whole) (Json.digits_toString tenth)
    (Json.ends_cons (c := ' ') (by decide) ['s'])
  have htext : (toString whole ++ "." ++ toString tenth ++ " s").toList =
      (toString whole).toList ++ '.' :: ((toString tenth).toList ++ [' ', 's']) := by
    simp
  rw [Reading.ofText?, htext, hread, partsValue_tenth whole h]
  rfl

theorem ofText?_minutes (m s : Nat) :
    Reading.ofText? (toString m ++ "m " ++ toString s ++ "s") =
      some ⟨.minutes, 60 * (m : ℚ) + s⟩ := by
  have hfirst := Json.readMagnitude_toString m
    (Json.ends_cons (c := 'm') (by decide) (' ' :: ((toString s).toList ++ ['s'])))
  have hsecond := Json.readMagnitude_toString s (Json.ends_cons (c := 's') (by decide) [])
  have htext : (toString m ++ "m " ++ toString s ++ "s").toList =
      (toString m).toList ++ 'm' :: ' ' :: ((toString s).toList ++ ['s']) := by
    simp
  have hunit : ('m' :: ' ' :: ((toString s).toList ++ ['s'])).dropPrefix? ['m', ' '] =
      some ((toString s).toList ++ ['s']) :=
    List.dropPrefix?_eq_some_iff.mpr ⟨['m', ' '], rfl, rfl⟩
  rw [Reading.ofText?, htext, hfirst]
  show (('m' :: ' ' :: ((toString s).toList ++ ['s'])).dropPrefix? ['m', ' '] >>= _) = _
  rw [hunit]
  show (Json.readMagnitude ((toString s).toList ++ ['s']) >>= _) = _
  rw [hsecond]
  rfl

/-! ### What is shown -/

def formOf (ms : Nat) : Form :=
  if ms < 1000 then .milliseconds else if ms < 60000 then .seconds else .minutes

/-- What is shown of a number of milliseconds, in milliseconds. -/
def shown (ms : Nat) : Nat :=
  if ms < 1000 then ms
  else if ms < 60000 then 100 * tenths ms
  else 1000 * ((ms + 500) / 1000)

theorem value_tenths (n : Nat) :
    ((n / 10 : Nat) : ℚ) + (n % 10 : Nat) / 10 = (100 * n : Nat) / 1000 := by
  have hsplit : (10 : ℚ) * (n / 10 : Nat) + (n % 10 : Nat) = n := by
    exact_mod_cast Nat.div_add_mod n 10
  push_cast
  linarith

/-- Minutes and the seconds beyond them add up, whatever was carried. -/
theorem value_minutes (ms : Nat) :
    60 * ((ms / 60000 : Nat) : ℚ) + ((ms % 60000 + 500) / 1000 : Nat) =
      (1000 * ((ms + 500) / 1000) : Nat) / 1000 := by
  have hsum : (ms + 500) / 1000 = 60 * (ms / 60000) + (ms % 60000 + 500) / 1000 := by omega
  rw [hsum]
  push_cast
  ring

/-- The text of a duration is read back, whatever its form. -/
theorem ofText?_text (d : Duration) : Reading.ofText? d.text =
    some ⟨formOf d.wholeMilliseconds, (shown d.wholeMilliseconds : ℚ) / 1000⟩ := by
  by_cases hsecond : d.wholeMilliseconds < 1000
  · rw [text_milliseconds hsecond, ofText?_milliseconds, formOf, if_pos hsecond, shown,
      if_pos hsecond]
  · have hlow : 1000 ≤ d.wholeMilliseconds := Nat.le_of_not_lt hsecond
    rw [formOf, if_neg hsecond, shown, if_neg hsecond]
    by_cases hminute : d.wholeMilliseconds < 60000
    · have hdigit : tenths d.wholeMilliseconds % 10 < 10 := Nat.mod_lt _ (by decide)
      rw [text_seconds hlow hminute, ofText?_seconds _ hdigit, value_tenths, if_pos hminute,
        if_pos hminute]
    · rw [text_minutes (Nat.le_of_not_lt hminute), ofText?_minutes, value_minutes,
        if_neg hminute, if_neg hminute]

/-! ### Precision and order -/

/-- How each form relates to the milliseconds. In the last one only the rounding matters, the
minutes are gone from it. -/
theorem shown_cases (ms : Nat) :
    ms < 1000 ∧ formOf ms = .milliseconds ∧ shown ms = ms ∨
    (1000 ≤ ms ∧ ms < 60000) ∧ formOf ms = .seconds ∧
      shown ms = 100 * tenths ms ∧ shown ms ≤ ms + 50 ∧ ms ≤ shown ms + 50 ∨
    60000 ≤ ms ∧ formOf ms = .minutes ∧ shown ms = 1000 * ((ms + 500) / 1000) := by
  unfold formOf shown
  split_ifs with hsecond hminute
  · exact .inl ⟨hsecond, rfl, rfl⟩
  · have hnear := tenths_near (hminute.trans (by decide))
    exact .inr (.inl ⟨⟨Nat.le_of_not_lt hsecond, hminute⟩, rfl, rfl, hnear⟩)
  · exact .inr (.inr ⟨Nat.le_of_not_lt hminute, rfl, rfl⟩)

/-- No form is off by more than its slack. -/
theorem abs_shown_sub_le (ms : Nat) :
    |(shown ms : ℚ) / 1000 - (ms : ℚ) / 1000| ≤ (formOf ms).slack := by
  rw [abs_le]
  rcases shown_cases ms with ⟨-, hform, hshown⟩ | ⟨-, hform, -, hhigh, hlow⟩ | ⟨-, hform, hshown⟩
  · rw [hform, hshown, Form.slack]
    constructor <;> linarith
  · have hhigh' : (shown ms : ℚ) ≤ ms + 50 := by exact_mod_cast hhigh
    have hlow' : (ms : ℚ) ≤ shown ms + 50 := by exact_mod_cast hlow
    rw [hform, Form.slack]
    constructor <;> linarith
  · have hhigh : shown ms ≤ ms + 500 := by omega
    have hlow : ms ≤ shown ms + 500 := by omega
    have hhigh' : (shown ms : ℚ) ≤ ms + 500 := by exact_mod_cast hhigh
    have hlow' : (ms : ℚ) ≤ shown ms + 500 := by exact_mod_cast hlow
    rw [hform, Form.slack]
    constructor <;> linarith

/-- What is shown never goes down. In one form the multiples shown are at most half a step away
from different numbers, and the forms meet at a second and at a minute. -/
theorem shown_mono {a b : Nat} (h : a ≤ b) : shown a ≤ shown b := by
  obtain rfl | hlt := Nat.eq_or_lt_of_le h
  · exact Nat.le_refl _
  · rcases shown_cases a with ⟨ha, -, ha'⟩ | ⟨ha, -, ha'⟩ | ⟨ha, -, ha'⟩ <;>
      rcases shown_cases b with ⟨hb, -, hb'⟩ | ⟨hb, -, hb'⟩ | ⟨hb, -, hb'⟩ <;> omega

/-- **Durations are shown in their order.** The text of every duration is read back, and is off by
nothing in milliseconds, by at most 0.05 s in seconds and at most 0.5 s in minutes and seconds; and
a duration that is at least as long as another one does not show fewer seconds. -/
theorem text_ordered :
    (∀ d : Duration, ∃ r, Reading.ofText? d.text = some r ∧
      |r.seconds - (d.wholeMilliseconds : ℚ) / 1000| ≤ r.form.slack) ∧
    ∀ d₁ d₂ : Duration, d₁.nanos ≤ d₂.nanos →
      ∃ r₁ r₂, Reading.ofText? d₁.text = some r₁ ∧ Reading.ofText? d₂.text = some r₂ ∧
        r₁.seconds ≤ r₂.seconds := by
  constructor
  · intro d
    exact ⟨_, ofText?_text d, abs_shown_sub_le d.wholeMilliseconds⟩
  · intro d₁ d₂ h
    refine ⟨_, _, ofText?_text d₁, ofText?_text d₂, ?_⟩
    have hmono : shown d₁.wholeMilliseconds ≤ shown d₂.wholeMilliseconds :=
      shown_mono (Nat.div_le_div_right h)
    have hcast : (shown d₁.wholeMilliseconds : ℚ) ≤ shown d₂.wholeMilliseconds := by
      exact_mod_cast hmono
    show (shown d₁.wholeMilliseconds : ℚ) / 1000 ≤ shown d₂.wholeMilliseconds / 1000
    linarith

/-- Where seconds are carried to a full minute, the next minute still shows as many. -/
theorem text_ordered_fullMinute :
    (ofParts 119 500_000_000).nanos ≤ (ofParts 120 0).nanos ∧
    ∃ r₁ r₂, Reading.ofText? "1m 60s" = some r₁ ∧ Reading.ofText? "2m 0s" = some r₂ ∧
      r₁.seconds ≤ r₂.seconds := by
  have hle : (ofParts 119 500_000_000).nanos ≤ (ofParts 120 0).nanos := by decide
  have hfull : (ofParts 119 500_000_000).text = "1m 60s" := by decide +kernel
  have hnext : (ofParts 120 0).text = "2m 0s" := by decide +kernel
  have hordered := text_ordered.2 _ _ hle
  rw [hfull, hnext] at hordered
  exact ⟨hle, hordered⟩

end LineShell.Duration
