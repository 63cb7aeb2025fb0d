import LineShell.Text.Layout

/-!
# Runs of characters, and the digits of a number

A reader that takes characters of one kind off the front of a text stops where another kind begins
(`takeWhile_append`, `dropWhile_append`). The decimal digits of a number are such a run, not an empty
one, and what they stand for is the number, also with zeros in front of them.
-/

namespace LineShell.Text

/-! ### Runs -/

section

variable {p : Char → Bool} {run rest : List Char}

theorem takeWhile_append (hrun : ∀ c ∈ run, p c = true) (hrest : ∀ c ∈ rest.head?, p c = false) :
    (run ++ rest).takeWhile p = run := by
  have hstop : rest.takeWhile p = [] := by
    cases rest with
    | nil => rfl
    | cons c rest => rw [List.takeWhile_cons_of_neg (by simp [hrest c rfl])]
  rw [List.takeWhile_append_of_pos hrun, hstop, List.append_nil]

theorem dropWhile_append (hrun : ∀ c ∈ run, p c = true) (hrest : ∀ c ∈ rest.head?, p c = false) :
    (run ++ rest).dropWhile p = rest := by
  rw [List.dropWhile_append_of_pos hrun]
  cases rest with
  | nil => rfl
  | cons c rest => rw [List.dropWhile_cons_of_neg (by simp [hrest c rfl])]

end

/-! ### Digits -/

theorem toList_toString_ne_nil (n : Nat) : (toString n).toList ≠ [] := by
  rw [Nat.toString_eq_ofList_toDigits, String.toList_ofList]
  exact Nat.toDigits_ne_nil

theorem isDigit_of_mem_toString {n : Nat} {c : Char} (h : c ∈ (toString n).toList) :
    c.isDigit = true := by
  rw [Nat.toString_eq_ofList_toDigits, String.toList_ofList] at h
  exact Nat.isDigit_of_mem_toDigits (by decide) (by decide) h

/-- The digits of a number stand for it. -/
theorem ofDigitChars_toString (n : Nat) : Nat.ofDigitChars 10 (toString n).toList 0 = n := by
  rw [Nat.toString_eq_ofList_toDigits, String.toList_ofList]
  exact Nat.ofDigitChars_toDigits (by decide) (by decide)

/-- The blanks in front of a number end at its first digit. -/
theorem dropWhile_padLeft (width n : Nat) (rest : List Char) :
    ((padLeft width (toString n)).toList ++ rest).dropWhile (· = ' ') =
      (toString n).toList ++ rest := by
  have hpad : ∀ c ∈ List.replicate (width - (toString n).length) ' ', decide (c = ' ') = true := by
    intro c hc
    rw [List.eq_of_mem_replicate hc]
    rfl
  have hfirst : ∀ c ∈ ((toString n).toList ++ rest).head?, decide (c = ' ') = false := by
    obtain ⟨first, more, hcons⟩ := List.exists_cons_of_ne_nil (toList_toString_ne_nil n)
    have hdigit : first.isDigit = true :=
      isDigit_of_mem_toString (n := n) (hcons ▸ List.mem_cons_self ..)
    intro c hc
    rw [hcons, List.cons_append, List.head?_cons, Option.mem_some_iff] at hc
    subst hc
    rw [decide_eq_false_iff_not]
    rintro rfl
    cases hdigit
  rw [padLeft, String.toList_append, spaces, String.toList_ofList, List.append_assoc,
    dropWhile_append hpad hfirst]

/-- A number is written with digits only. -/
theorem notMem_toString {c : Char} (h : c.isDigit = false) (n : Nat) : c ∉ (toString n).toList := by
  intro hc
  rw [isDigit_of_mem_toString hc] at h
  cases h

/-- Only blanks are put in front of a number. -/
theorem notMem_padLeft_toString {c : Char} (hblank : c ≠ ' ') (hdigit : c.isDigit = false)
    (width n : Nat) : c ∉ (padLeft width (toString n)).toList := by
  rw [padLeft, String.toList_append, spaces, String.toList_ofList, List.mem_append, not_or]
  exact ⟨fun hpad => hblank (List.eq_of_mem_replicate hpad), notMem_toString hdigit n⟩

theorem toList_padZeros (width n : Nat) : (padZeros width n).toList =
    List.replicate (width - (toString n).length) '0' ++ (toString n).toList := by
  rw [padZeros, String.toList_append, String.toList_ofList]

theorem toList_padZeros_ne_nil (width n : Nat) : (padZeros width n).toList ≠ [] := by
  rw [toList_padZeros]
  exact List.append_ne_nil_of_right_ne_nil _ (toList_toString_ne_nil n)

theorem isDigit_of_mem_padZeros {width n : Nat} {c : Char} (h : c ∈ (padZeros width n).toList) :
    c.isDigit = true := by
  rw [toList_padZeros, List.mem_append] at h
  rcases h with h | h
  · rw [List.eq_of_mem_replicate h]
    rfl
  · exact isDigit_of_mem_toString h

/-- Zeros in front of a number do not count. -/
theorem ofDigitChars_padZeros (width n : Nat) :
    Nat.ofDigitChars 10 (padZeros width n).toList 0 = n := by
  rw [toList_padZeros, Nat.ofDigitChars_append, Nat.ofDigitChars_replicate_zero, Nat.mul_zero,
    ofDigitChars_toString]

end LineShell.Text
