import LineShell.Proofs.Text.Digits
import LineShell.Proofs.Text.Pieces

/-!
# Fields of a text

A line that is laid out in fields is read from the left: a number ends where no digit follows, and
the mark after it is taken off with it. A field that is not looked into ends where its mark begins.

    readNumber : a text       ──▶ the number in front, and what is left
    readField  : a mark, text ──▶ the number in front of the mark, and what is left after it
    skipField  : a mark, text ──▶ what is left after the mark

A number is read back in either of the ways it is written (`readField_toString`,
`readField_padZeros`).
-/

namespace LineShell.Text

/-! ### Numbers -/

/-- The number that the digits in front of a text stand for, and what is left; there has to be a
digit. -/
def readNumber (cs : List Char) : Option (Nat × List Char) :=
  match cs.takeWhile Char.isDigit with
  | [] => none
  | digits => some (Nat.ofDigitChars 10 digits 0, cs.dropWhile Char.isDigit)

/-- The number in front of a mark, and what is left after the mark. -/
def readField (mark cs : List Char) : Option (Nat × List Char) := do
  let (n, cs) ← readNumber cs
  let cs ← cs.dropPrefix? mark
  some (n, cs)

/-- What is left after a mark, which is looked for where its first character stands first. -/
def skipField (first : Char) (more cs : List Char) : Option (List Char) :=
  (cs.dropWhile (· ≠ first)).dropPrefix? (first :: more)

theorem readNumber_append {digits rest : List Char} (hne : digits ≠ [])
    (hdigits : ∀ c ∈ digits, c.isDigit = true) (hrest : ∀ c ∈ rest.head?, c.isDigit = false) :
    readNumber (digits ++ rest) = some (Nat.ofDigitChars 10 digits 0, rest) := by
  rw [readNumber, takeWhile_append hdigits hrest, dropWhile_append hdigits hrest]
  cases digits with
  | nil => exact absurd rfl hne
  | cons c digits => rfl

/-! ### Numbers and marks -/

/-- A mark that cannot be taken for a part of the number before it. -/
def IsMark (mark : List Char) : Prop := ∃ c rest, mark = c :: rest ∧ c.isDigit = false

theorem isMark_cons {c : Char} (h : c.isDigit = false) (rest : List Char) : IsMark (c :: rest) :=
  ⟨c, rest, rfl, h⟩

section

variable {mark : List Char} (h : IsMark mark)

include h

theorem readField_append {digits : List Char} (hne : digits ≠ [])
    (hdigits : ∀ c ∈ digits, c.isDigit = true) (rest : List Char) :
    readField mark (digits ++ (mark ++ rest)) = some (Nat.ofDigitChars 10 digits 0, rest) := by
  have hmark : ∀ c ∈ (mark ++ rest).head?, c.isDigit = false := by
    obtain ⟨first, more, rfl, hfirst⟩ := h
    intro c hc
    obtain rfl := Option.some.inj hc
    exact hfirst
  rw [readField, readNumber_append hne hdigits hmark]
  show ((mark ++ rest).dropPrefix? mark >>= _) = _
  rw [dropPrefix?_append]
  rfl

/-- A number in front of its mark is read back. -/
theorem readField_toString (n : Nat) (rest : List Char) :
    readField mark ((toString n).toList ++ (mark ++ rest)) = some (n, rest) := by
  rw [readField_append h (toList_toString_ne_nil n) fun c hc => isDigit_of_mem_toString hc,
    ofDigitChars_toString]

theorem readField_padZeros (width n : Nat) (rest : List Char) :
    readField mark ((padZeros width n).toList ++ (mark ++ rest)) = some (n, rest) := by
  rw [readField_append h (toList_padZeros_ne_nil width n) fun c hc => isDigit_of_mem_padZeros hc,
    ofDigitChars_padZeros]

end

/-! ### Fields that are skipped -/

/-- A field is passed over up to the first character of the mark, which it does not have. -/
theorem skipField_append {first : Char} {field : List Char} (h : first ∉ field)
    (more rest : List Char) :
    skipField first more (field ++ ((first :: more) ++ rest)) = some rest := by
  have hfield : ∀ c ∈ field, decide (c ≠ first) = true := by
    intro c hc
    rw [decide_eq_true_iff]
    rintro rfl
    exact h hc
  rw [skipField, dropWhile_append hfield (by simp), dropPrefix?_append]

end LineShell.Text
