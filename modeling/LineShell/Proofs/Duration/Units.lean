import LineShell.Duration
import LineShell.Proofs.Numeric.Rounding
import LineShell.Proofs.Text.Digits

/-!
# The units of a duration

A duration is shown in milliseconds, in seconds, or in minutes and seconds. Which of the three is a
matter of its whole milliseconds, before anything is rounded:

    below 1 000     `N ms`     nothing is rounded
    below 60 000    `X s`      to tenths of a second
    from there on   `Mm Ss`    the seconds beyond the minutes, to whole ones

Rounding comes after the choice of the unit and is not carried over into the next one, so the
seconds can reach a full minute. Main statement: they do so exactly in the last half second of a
minute, or in the last twentieth of a second of the first one (`text_units`).
-/

namespace LineShell

namespace Text

/-- One digit is wide enough for any number. -/
theorem padZeros_one (n : Nat) : padZeros 1 n = toString n := by
  have hpos : 0 < (toString n).length := by
    rw [← String.length_toList]
    exact List.length_pos_of_ne_nil (toList_toString_ne_nil n)
  have hzeros : 1 - (toString n).length = 0 := by omega
  rw [padZeros, hzeros]
  exact String.empty_append

end Text

namespace Duration

open Numeric (Binary divEven)

variable {d : Duration} {ms : Nat}

/-! ### Tenths of a second -/

/-- The tenths of a second that are shown for milliseconds: these are divided by 1000 in 53-bit
arithmetic first, so a half may go either way. -/
def tenths (ms : Nat) : Nat :=
  divEven ((Binary.nearest ms 1000).num * Nat.pow 10 1) (Binary.nearest ms 1000).den

/-- Both roundings together are off by at most half a tenth: the first is too fine to move a
number of milliseconds across the middle between two tenths. -/
theorem tenths_near (h : ms < 2 ^ 53) :
    100 * tenths ms ≤ ms + 50 ∧ ms ≤ 100 * tenths ms + 50 := by
  have hplace : |(tenths ms : ℚ) - (Binary.nearest ms 1000).value * 10 ^ 1| ≤ 1 / 2 :=
    (Binary.nearest ms 1000).abs_places_sub_le 1
  have hquotient : |(Binary.nearest ms 1000).value - (ms : ℚ) / 1000| ≤ ms / 1000 / 2 ^ 53 :=
    Binary.abs_nearest_sub_le ms (by decide)
  have hfine : (ms : ℚ) / 2 ^ 53 < 1 := by
    rw [div_lt_one (by positivity)]
    exact_mod_cast h
  have hsmall : (ms : ℚ) / 1000 / 2 ^ 53 < 1 / 1000 := by
    rw [div_right_comm]
    linarith
  rw [abs_le] at hplace hquotient
  obtain ⟨hlow, hhigh⟩ := hplace
  obtain ⟨hquotientLow, hquotientHigh⟩ := hquotient
  constructor
  · have hlt : (100 * tenths ms : ℚ) < ms + 51 := by linarith
    have hlt' : 100 * tenths ms < ms + 51 := by exact_mod_cast hlt
    omega
  · have hlt : (ms : ℚ) < 100 * tenths ms + 51 := by linarith
    have hlt' : ms < 100 * tenths ms + 51 := by exact_mod_cast hlt
    omega

/-- The quotient in 53-bit arithmetic, shown with one decimal. -/
theorem fixed_nearest (ms : Nat) : (Binary.nearest ms 1000).fixed 1 =
    toString (tenths ms / 10) ++ "." ++ toString (tenths ms % 10) := by
  show Binary.placed 1 (tenths ms) = _
  rw [Binary.placed, if_neg one_ne_zero]
  show toString (tenths ms / 10) ++ "." ++ Text.padZeros 1 (tenths ms % 10) = _
  rw [Text.padZeros_one]

/-- Less than a full minute is shown exactly below 59.95 seconds. In 53-bit arithmetic that number
is a little more than it should be, so it is rounded up. -/
theorem tenths_lt_iff (h : ms < 60000) : tenths ms < 600 ↔ ms < 59950 := by
  obtain ⟨hlow, hhigh⟩ := tenths_near (h.trans (by decide))
  have hhalf : tenths 59950 = 600 := by decide +kernel
  constructor
  · intro hlt
    by_contra hge
    obtain heq | hgt := Nat.eq_or_lt_of_le (Nat.le_of_not_lt hge)
    · rw [← heq, hhalf] at hlt
      omega
    · omega
  · intro hlt
    omega

/-! ### The three forms -/

theorem text_milliseconds (h : d.wholeMilliseconds < 1000) :
    d.text = toString d.wholeMilliseconds ++ " ms" := if_pos h

theorem text_seconds (hlow : 1000 ≤ d.wholeMilliseconds) (hhigh : d.wholeMilliseconds < 60000) :
    d.text = toString (tenths d.wholeMilliseconds / 10) ++ "." ++
      toString (tenths d.wholeMilliseconds % 10) ++ " s" := by
  have hsecond : ¬ d.wholeMilliseconds < 1000 := Nat.not_lt.mpr hlow
  rw [text, if_neg hsecond, if_pos hhigh, fixed_nearest]

/-- The seconds beyond the minutes may round up to sixty and are not carried. -/
theorem text_minutes (h : 60000 ≤ d.wholeMilliseconds) :
    d.text = toString (d.wholeMilliseconds / 60000) ++ "m " ++
      toString ((d.wholeMilliseconds % 60000 + 500) / 1000) ++ "s" := by
  have hsecond : ¬ d.wholeMilliseconds < 1000 := by omega
  have hminute : ¬ d.wholeMilliseconds < 60000 := Nat.not_lt.mpr h
  rw [text, if_neg hsecond, if_neg hminute]

/-! ### Full minutes -/

/-- **The seconds stay below a minute, except at its very end.** From a minute on, minutes and
seconds make up the time rounded to seconds, and the seconds are below 60 exactly when less than
59.5 seconds are left beyond whole minutes. Below a minute, the seconds are below 60.0 exactly when
the time is below 59.95 seconds. -/
theorem text_units (d : Duration) :
    (60000 ≤ d.wholeMilliseconds → ∃ m s : Nat,
      d.text = toString m ++ "m " ++ toString s ++ "s" ∧
      60 * m + s = (d.wholeMilliseconds + 500) / 1000 ∧ s ≤ 60 ∧
      (s ≤ 59 ↔ d.wholeMilliseconds % 60000 < 59500)) ∧
    (1000 ≤ d.wholeMilliseconds → d.wholeMilliseconds ≤ 59999 → ∃ whole tenth : Nat,
      d.text = toString whole ++ "." ++ toString tenth ++ " s" ∧ tenth < 10 ∧ whole ≤ 60 ∧
      (whole < 60 ↔ d.wholeMilliseconds < 59950)) := by
  constructor
  · intro h
    refine ⟨_, _, text_minutes h, ?_, ?_, ?_⟩ <;> omega
  · intro hlow hhigh
    have hminute : d.wholeMilliseconds < 60000 := Nat.lt_succ_of_le hhigh
    have hnear := tenths_near (hminute.trans (by decide))
    refine ⟨_, _, text_seconds hlow hminute, Nat.mod_lt _ (by decide), by omega, ?_⟩
    rw [← tenths_lt_iff hminute]
    omega

/-- Two minutes less half a second, and one minute less a twentieth of a second. -/
theorem text_units_full :
    (∃ m s : Nat, (ofParts 119 500_000_000).text = toString m ++ "m " ++ toString s ++ "s" ∧
      60 * m + s = 120 ∧ ¬ s ≤ 59) ∧
    ∃ whole tenth : Nat, (ofParts 59 950_000_000).text =
      toString whole ++ "." ++ toString tenth ++ " s" ∧ ¬ whole < 60 := by
  constructor
  · obtain ⟨m, s, htext, hsum, -, hfull⟩ :=
      (text_units (ofParts 119 500_000_000)).1 (by decide +kernel)
    exact ⟨m, s, htext, hsum, fun hs => absurd (hfull.mp hs) (by decide +kernel)⟩
  · obtain ⟨whole, tenth, htext, -, -, hfull⟩ :=
      (text_units (ofParts 59 950_000_000)).2 (by decide +kernel) (by decide +kernel)
    exact ⟨whole, tenth, htext, fun hs => absurd (hfull.mp hs) (by decide +kernel)⟩

/-- Two minutes less half a second round to two minutes, and are shown as one minute and 60
seconds. -/
theorem not_forall_text_units :
    ¬ ∀ d : Duration,
      (60000 ≤ d.wholeMilliseconds → ∃ m s : Nat,
        d.text = toString m ++ "m " ++ toString s ++ "s" ∧ s ≤ 59 ∧
        60 * m + s = (d.wholeMilliseconds + 500) / 1000) ∧
      (1000 ≤ d.wholeMilliseconds → d.wholeMilliseconds ≤ 59999 → ∃ whole tenth : Nat,
        d.text = toString whole ++ "." ++ toString tenth ++ " s" ∧ tenth < 10 ∧ whole < 60) := by
  intro h
  obtain ⟨m, s, htext, hs, hsum⟩ := (h (ofParts 119 500_000_000)).1 (by decide +kernel)
  have htotal : 60 * m + s = 120 := hsum
  obtain rfl : m = 2 := by omega
  obtain rfl : s = 0 := by omega
  exact absurd htext (by decide +kernel)

end Duration

end LineShell
