import LineShell.Proofs.Json.Reading
import LineShell.Proofs.Text.Digits
import Mathlib.Data.List.Basic
import Mathlib.Tactic.Ring

/-!
# Numbers are read back

A number is written with the digits of a decimal, in plain or in exponent notation. Its whole part
has no zero in front that is not its only digit, because the decimal of a number is not zero.

    readMagnitude_parts      : the parts of a number ──▶ they are read one after the other
    partsValue_eq            : the digits of a decimal between zeros ──▶ what they stand for
    digits_pos_of_shortest?  : the decimal of a number ──▶ its digits are not all zero

Main statement: a number is read back as its decimal, whatever comes after it
(`readMagnitude_number`).
-/

namespace LineShell

namespace Numeric

def Decimal.value (d : Decimal) : ℚ := d.digits * 10 ^ d.scale

namespace Binary

def writtenValue (b : Binary) : ℚ := (b.shortest?.map Decimal.value).getD 0

/-! ### Decimals are positive -/

variable {b : Binary} {d : Decimal}

theorem digits_pos_of_covers (hb : b.mantissa ≠ 0) (h : b.covers d = true) : 0 < d.digits := by
  rw [covers, Bool.and_eq_true, Bool.and_eq_true, leDecimal, decide_eq_true_eq] at h
  obtain ⟨⟨hle, -⟩, -⟩ := h
  -- the lower end of the interval is positive
  by_contra hzero
  obtain hzero : d.digits = 0 := by omega
  rw [hzero, Nat.zero_mul, Nat.zero_mul, Nat.le_zero, Nat.mul_eq_zero, Nat.mul_eq_zero] at hle
  have htwo (n : Nat) : Nat.pow 2 n ≠ 0 := (Nat.pow_pos (by decide)).ne'
  have hten (n : Nat) : Nat.pow 10 n ≠ 0 := (Nat.pow_pos (by decide)).ne'
  rcases hle with (hlow | htwo') | hten'
  · split at hlow <;> omega
  · exact htwo _ htwo'
  · exact hten _ hten'

theorem digits_pos_of_candidate? {s : Int} (hb : b.mantissa ≠ 0) (h : b.candidate? s = some d) :
    0 < d.digits := by
  have habove : 0 < (⟨b.floorAt s + 1, s⟩ : Decimal).digits := Nat.succ_pos _
  unfold candidate? at h
  dsimp only at h
  split at h
  · cases h
  · next hbelow _ =>
    cases h
    exact digits_pos_of_covers hb hbelow
  · cases h
    exact habove
  · next hbelow _ =>
    have hpos := digits_pos_of_covers hb hbelow
    split_ifs at h <;> cases h
    · exact hpos
    · exact habove
    · exact hpos
    · exact habove

theorem digits_pos_trim (n : Nat) (h : 0 < d.digits) : 0 < (d.trim n).digits := by
  induction n generalizing d with
  | zero => exact h
  | succ n ih =>
    rw [Decimal.trim]
    split
    · next hzero =>
      have hten : 10 ≤ d.digits := Nat.le_of_dvd h (Nat.dvd_of_mod_eq_zero hzero)
      exact ih (Nat.div_pos hten (by decide))
    · exact h

theorem digits_pos_of_search {magnitude : Int} {fuel k : Nat} (hb : b.mantissa ≠ 0)
    (h : b.search magnitude fuel k = some d) : 0 < d.digits := by
  induction fuel generalizing k with
  | zero => cases h
  | succ fuel ih =>
    rw [search] at h
    split at h
    · next found hfound =>
      cases h
      exact digits_pos_trim k (digits_pos_of_candidate? hb hfound)
    · exact ih h

/-- The shortest decimal of a number is not zero. -/
theorem digits_pos_of_shortest? (h : b.shortest? = some d) : 0 < d.digits := by
  rw [shortest?] at h
  split at h
  · cases h
  · next hb => exact digits_pos_of_search hb h

end Binary

end Numeric

namespace Json

open Numeric (Binary Decimal)

/-! ### Runs of digits -/

structure Digits (cs : List Char) : Prop where
  ne_nil : cs ≠ []
  isDigit : ∀ c ∈ cs, c.isDigit = true

/-- Digits that a number may begin with. -/
structure Whole (cs : List Char) : Prop extends Digits cs where
  head : cs.head? = some '0' → cs = ['0']

/-- What comes after a number, and is not part of it. -/
def Ends (rest : List Char) : Prop :=
  ∀ c ∈ rest.head?, c.isDigit = false ∧ c ≠ '.' ∧ c ≠ 'e' ∧ c ≠ 'E'

/-- A number ends in front of any character that no number has. -/
theorem ends_cons {c : Char} (h : c.isDigit = false ∧ c ≠ '.' ∧ c ≠ 'e' ∧ c ≠ 'E')
    (rest : List Char) : Ends (c :: rest) := by
  intro d hd
  rw [List.head?_cons, Option.mem_some_iff] at hd
  rw [← hd]
  exact h

variable {digits whole fraction rest : List Char}

theorem readDigits_append (h : Digits digits) (hrest : ∀ c ∈ rest.head?, c.isDigit = false) :
    readDigits (digits ++ rest) = some (digits, rest) := by
  rw [readDigits, Text.takeWhile_append h.isDigit hrest, Text.dropWhile_append h.isDigit hrest]
  obtain ⟨c, cs, rfl⟩ := List.exists_cons_of_ne_nil h.ne_nil
  rfl

theorem readWhole_append (h : Whole whole) (hrest : ∀ c ∈ rest.head?, c.isDigit = false) :
    readWhole (whole ++ rest) = some (whole, rest) := by
  obtain ⟨c, cs, rfl⟩ := List.exists_cons_of_ne_nil h.ne_nil
  by_cases hzero : c = '0'
  · obtain ⟨-, rfl⟩ := List.cons.inj (h.head (congrArg some hzero))
    rw [hzero]
    rfl
  · rw [readWhole]
    · exact readDigits_append h.toDigits hrest
    · rintro other hcons
      exact hzero (List.cons.inj hcons).1

theorem readFraction_absent (h : ∀ c ∈ rest.head?, c ≠ '.') :
    readFraction rest = some ([], rest) := by
  rw [readFraction]
  rintro other rfl
  exact h '.' rfl rfl

/-- What ends a number is not taken for an exponent. -/
theorem readExponent_absent (h : Ends rest) : readExponent rest = some (0, rest) := by
  rw [readExponent]
  · rintro other rfl
    exact (h 'e' rfl).2.2.1 rfl
  · rintro other rfl
    exact (h 'E' rfl).2.2.2 rfl

theorem readExponent_signed (h : Digits digits) (hrest : Ends rest) (negative : Bool) :
    readExponent ('e' :: (if negative then '-' else '+') :: (digits ++ rest)) =
      some (if negative then -(Nat.ofDigitChars 10 digits 0 : Int)
        else Nat.ofDigitChars 10 digits 0, rest) := by
  have hread := readDigits_append h fun c hc => (hrest c hc).1
  cases negative with
  | false => rw [readExponent, if_neg Bool.false_ne_true, readSigned, hread]; rfl
  | true => rw [readExponent, if_pos rfl, readSigned, hread]; rfl

/-! ### Numbers in parts -/

def partsValue (whole fraction : List Char) (exponent : Int) : ℚ :=
  (Nat.ofDigitChars 10 (whole ++ fraction) 0 : ℚ) * 10 ^ (exponent - fraction.length)

/-- The parts are read one after the other. -/
theorem readMagnitude_parts {cs : List Char} {exponent : Int} (h : Whole whole)
    (hcs : ∀ c ∈ cs.head?, c.isDigit = false)
    (hfraction : ∃ left, readFraction cs = some (fraction, left) ∧
      readExponent left = some (exponent, rest)) :
    readMagnitude (whole ++ cs) = some (partsValue whole fraction exponent, rest) := by
  obtain ⟨left, hfraction, hexponent⟩ := hfraction
  simp [readMagnitude, readWhole_append h hcs, hfraction, hexponent, partsValue]

theorem readMagnitude_whole (h : Whole whole) (hrest : Ends rest) :
    readMagnitude (whole ++ rest) = some (partsValue whole [] 0, rest) := by
  refine readMagnitude_parts h (fun c hc => (hrest c hc).1) ⟨rest, ?_, readExponent_absent hrest⟩
  exact readFraction_absent fun c hc => (hrest c hc).2.1

theorem readMagnitude_plain (h : Whole whole) (hfraction : Digits fraction) (hrest : Ends rest) :
    readMagnitude (whole ++ '.' :: (fraction ++ rest)) =
      some (partsValue whole fraction 0, rest) := by
  refine readMagnitude_parts h (by simp) ⟨rest, ?_, readExponent_absent hrest⟩
  exact readDigits_append hfraction fun c hc => (hrest c hc).1

/-! ### The digits of a decimal -/

theorem digits_toString (n : Nat) : Digits (toString n).toList where
  ne_nil := Text.toList_toString_ne_nil n
  isDigit _ hc := Text.isDigit_of_mem_toString hc

theorem digitChar_ne_zero : ∀ n < 10, 0 < n → Nat.digitChar n ≠ '0' := by decide

theorem head?_toString_ne_zero {n : Nat} (h : 0 < n) : (toString n).toList.head? ≠ some '0' := by
  rw [Nat.toString_eq_ofList_toDigits, String.toList_ofList]
  induction n using Nat.strongRecOn with
  | ind n ih =>
    by_cases hsmall : n < 10
    · rw [Nat.toDigits_of_lt_base hsmall]
      exact fun hzero => digitChar_ne_zero n hsmall h (Option.some.inj hzero)
    · have hlarge : 10 ≤ n := Nat.le_of_not_lt hsmall
      have hpos : 0 < n / 10 := Nat.div_pos hlarge (by decide)
      rw [Nat.toDigits_of_base_le (by decide) hlarge,
        List.head?_append_of_ne_nil _ Nat.toDigits_ne_nil]
      exact ih (n / 10) (by omega) hpos

theorem whole_toString (n : Nat) : Whole (toString n).toList := by
  refine ⟨digits_toString n, fun hzero => ?_⟩
  by_cases hn : 0 < n
  · exact absurd hzero (head?_toString_ne_zero hn)
  · obtain rfl : n = 0 := by omega
    rfl

/-- A whole number ends where its digits do. -/
theorem readMagnitude_toString (n : Nat) (hrest : Ends rest) :
    readMagnitude ((toString n).toList ++ rest) = some ((n : ℚ), rest) := by
  have hvalue : partsValue (toString n).toList [] 0 = n := by
    rw [partsValue, List.append_nil, Text.ofDigitChars_toString]
    simp
  rw [readMagnitude_whole (whole_toString n) hrest, hvalue]

/-- Zeros in front of the digits do not count, and those after them count for the scale. -/
theorem partsValue_eq {d : Decimal} {exponent : Int} (j k : Nat)
    (hdigits : whole ++ fraction =
      List.replicate j '0' ++ ((toString d.digits).toList ++ List.replicate k '0'))
    (hscale : exponent - fraction.length + k = d.scale) :
    partsValue whole fraction exponent = d.value := by
  have hvalue : Nat.ofDigitChars 10 (whole ++ fraction) 0 = d.digits * 10 ^ k := by
    rw [hdigits, Nat.ofDigitChars_append, Nat.ofDigitChars_replicate_zero, Nat.mul_zero,
      Nat.ofDigitChars_append, Text.ofDigitChars_toString, Nat.ofDigitChars_replicate_zero,
      Nat.mul_comm]
  have hten : (10 : ℚ) ≠ 0 := by norm_num
  rw [partsValue, hvalue, Decimal.value, ← hscale, zpow_add₀ hten, zpow_natCast]
  push_cast
  ring

/-! ### Both notations -/

variable {d : Decimal}

theorem whole_zero : Whole ['0'] where
  ne_nil := List.cons_ne_nil _ _
  isDigit := List.forall_mem_singleton.mpr rfl
  head _ := rfl

/-- Digits that do not begin with a zero may begin a number. -/
theorem whole_of_head? (h : Digits digits) (hhead : digits.head? ≠ some '0') : Whole digits :=
  ⟨h, fun hzero => absurd hzero hhead⟩

theorem isDigit_of_mem_zeros {k : Nat} : ∀ c ∈ List.replicate k '0', c.isDigit = true := by
  intro c hc
  rw [List.eq_of_mem_replicate hc]
  rfl

theorem length_toString_pos (n : Nat) : 0 < (toString n).toList.length :=
  List.length_pos_of_ne_nil (digits_toString n).ne_nil

theorem whole_take (hd : 0 < d.digits) {k : Nat} (hpos : 0 < k) :
    Whole ((toString d.digits).toList.take k) := by
  have hdigits := digits_toString d.digits
  have hlength := length_toString_pos d.digits
  refine whole_of_head? ⟨?_, fun c hc => hdigits.isDigit c (List.mem_of_mem_take hc)⟩ ?_
  · exact List.ne_nil_of_length_pos (by rw [List.length_take]; omega)
  · rw [List.head?_take, if_neg hpos.ne']
    exact head?_toString_ne_zero hd

theorem digits_drop {k : Nat} (hlt : k < (toString d.digits).toList.length) :
    Digits ((toString d.digits).toList.drop k) where
  ne_nil := List.ne_nil_of_length_pos (by rw [List.length_drop]; omega)
  isDigit c hc := (digits_toString d.digits).isDigit c (List.mem_of_mem_drop hc)

/-- The digits in two parts, with nothing left out and nothing added. -/
theorem partsValue_take_drop {k : Nat} {exponent : Int}
    (h : exponent - ((toString d.digits).toList.length - k : Nat) = d.scale) :
    partsValue ((toString d.digits).toList.take k) ((toString d.digits).toList.drop k) exponent =
      d.value := by
  refine partsValue_eq 0 0 ?_ ?_
  · rw [List.take_append_drop, List.replicate_zero, List.nil_append, List.append_nil]
  · rw [List.length_drop, Int.natCast_zero, Int.add_zero, h]

/-- Below one: a zero, the point, more zeros, and the digits. -/
theorem readMagnitude_small (hrest : Ends rest) {k : Nat}
    (hk : (k : Int) = -((toString d.digits).toList.length + d.scale)) :
    readMagnitude ('0' :: '.' :: List.replicate k '0' ++ (toString d.digits).toList ++ rest) =
      some (d.value, rest) := by
  have hdigits := digits_toString d.digits
  have hfraction : Digits (List.replicate k '0' ++ (toString d.digits).toList) := by
    refine ⟨List.append_ne_nil_of_right_ne_nil _ hdigits.ne_nil, fun c hc => ?_⟩
    exact (List.mem_append.mp hc).elim (isDigit_of_mem_zeros c) (hdigits.isDigit c)
  have hvalue :
      partsValue ['0'] (List.replicate k '0' ++ (toString d.digits).toList) 0 = d.value := by
    refine partsValue_eq (k + 1) 0 (by simp [List.replicate_succ]) ?_
    rw [List.length_append, List.length_replicate]
    omega
  have hread := readMagnitude_plain whole_zero hfraction hrest
  rw [hvalue] at hread
  simpa using hread

/-- All digits before the point: the digits, zeros, the point, and a zero. -/
theorem readMagnitude_large (hd : 0 < d.digits) (hrest : Ends rest) {k : Nat}
    (hk : (k : Int) = d.scale) :
    readMagnitude ((toString d.digits).toList ++ List.replicate k '0' ++ ['.', '0'] ++ rest) =
      some (d.value, rest) := by
  have hdigits := digits_toString d.digits
  have hwhole : Whole ((toString d.digits).toList ++ List.replicate k '0') := by
    refine whole_of_head? ⟨List.append_ne_nil_of_left_ne_nil hdigits.ne_nil _, fun c hc => ?_⟩ ?_
    · exact (List.mem_append.mp hc).elim (hdigits.isDigit c) (isDigit_of_mem_zeros c)
    · rw [List.head?_append_of_ne_nil _ hdigits.ne_nil]
      exact head?_toString_ne_zero hd
  have hvalue :
      partsValue ((toString d.digits).toList ++ List.replicate k '0') ['0'] 0 = d.value := by
    refine partsValue_eq 0 (k + 1) (by simp [List.replicate_succ']) ?_
    rw [List.length_singleton]
    omega
  have hread := readMagnitude_plain hwhole whole_zero.toDigits hrest
  rw [hvalue] at hread
  simpa using hread

/-- The point stands among the digits. -/
theorem readMagnitude_middle (hd : 0 < d.digits) (hrest : Ends rest) {k : Nat} (hpos : 0 < k)
    (hlt : k < (toString d.digits).toList.length)
    (hk : (k : Int) = (toString d.digits).toList.length + d.scale) :
    readMagnitude ((toString d.digits).toList.take k ++ '.' :: (toString d.digits).toList.drop k ++
      rest) = some (d.value, rest) := by
  have hread := readMagnitude_plain (whole_take hd hpos) (digits_drop hlt) hrest
  rw [partsValue_take_drop (by omega)] at hread
  simpa using hread

/-- The plain notation is read back, wherever the point falls. -/
theorem readMagnitude_plainNotation (hd : 0 < d.digits) (hrest : Ends rest) {point : Int}
    (hpoint : point = (toString d.digits).toList.length + d.scale) :
    readMagnitude (plain (toString d.digits).toList point ++ rest) = some (d.value, rest) := by
  rw [plain]
  split
  · exact readMagnitude_small hrest (by omega)
  · dsimp only
    split
    · exact readMagnitude_large hd hrest (by omega)
    · exact readMagnitude_middle hd hrest (by omega) (by omega) (by omega)

theorem readExponent_toString (hrest : Ends rest) (e : Int) :
    readExponent ('e' :: (if e < 0 then '-' else '+') :: ((toString e.natAbs).toList ++ rest)) =
      some (e, rest) := by
  have hread := readExponent_signed (digits_toString e.natAbs) hrest (decide (e < 0))
  rw [Text.ofDigitChars_toString] at hread
  by_cases he : e < 0
  · rw [if_pos he]
    rw [decide_eq_true he, if_pos rfl, if_pos rfl] at hread
    rw [hread, Int.ofNat_natAbs_of_nonpos (Int.le_of_lt he), Int.neg_neg]
  · rw [if_neg he]
    rw [decide_eq_false he, if_neg Bool.false_ne_true, if_neg Bool.false_ne_true] at hread
    rw [hread, Int.natAbs_of_nonneg (Int.not_lt.mp he)]

/-- The exponent notation is read back. -/
theorem readMagnitude_exponential (hd : 0 < d.digits) (hrest : Ends rest) {point : Int}
    (hpoint : point = (toString d.digits).toList.length + d.scale) :
    readMagnitude (exponential (toString d.digits).toList point ++ rest) =
      some (d.value, rest) := by
  have hlength := length_toString_pos d.digits
  have hwhole : Whole ((toString d.digits).toList.take 1) := whole_take hd Nat.one_pos
  have hexponent := readExponent_toString hrest (point - 1)
  rw [← @partsValue_take_drop d 1 (point - 1) (by omega), exponential]
  split
  · -- a single digit has no point after it
    next hsingle =>
    have htake : (toString d.digits).toList.take 1 = (toString d.digits).toList :=
      List.take_of_length_le hsingle
    have hdrop : (toString d.digits).toList.drop 1 = [] := List.drop_eq_nil_of_le hsingle
    rw [htake] at hwhole ⊢
    rw [hdrop, List.append_assoc]
    exact readMagnitude_parts hwhole (by simp) ⟨_, readFraction_absent (by simp), hexponent⟩
  · next hmore =>
    rw [List.append_assoc, List.append_assoc]
    refine readMagnitude_parts hwhole (by simp) ⟨_, ?_, hexponent⟩
    exact readDigits_append (digits_drop (by omega)) (by simp)

/-- **A number is read back** as what was written for it. -/
theorem readMagnitude_number (b : Binary) (hrest : Ends rest) :
    readMagnitude ((number b).toList ++ rest) = some (b.writtenValue, rest) := by
  rw [number, Binary.writtenValue]
  cases hshortest : b.shortest? with
  | none =>
    have hread := readMagnitude_plain whole_zero whole_zero.toDigits hrest
    have hzero : partsValue ['0'] ['0'] 0 = 0 := by simp [partsValue, Nat.ofDigitChars_cons]
    rw [hzero] at hread
    exact hread
  | some d =>
    have hd := Binary.digits_pos_of_shortest? hshortest
    dsimp only
    rw [String.toList_ofList, Option.map_some, Option.getD_some]
    split
    · exact readMagnitude_plainNotation hd hrest rfl
    · exact readMagnitude_exponential hd hrest rfl

end Json

end LineShell
