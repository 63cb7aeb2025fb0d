/-!
# Laying out text

Columns, lines and pieces: padding to a width counted in characters, cutting a text at a
separator, and ending a text with the newline it lacks. Cutting is stated on lists of
characters; main statement: joining the pieces with the separator gives the text back.
-/

namespace LineShell.Text

/-! ### Columns -/

def spaces (n : Nat) : String := String.ofList (List.replicate n ' ')

/-- The text followed by the spaces it lacks to be `width` characters wide. -/
def padRight (width : Nat) (s : String) : String := s ++ spaces (width - s.length)

/-- The text preceded by the spaces it lacks to be `width` characters wide. -/
def padLeft (width : Nat) (s : String) : String := spaces (width - s.length) ++ s

/-- The decimal digits of `n`, preceded by the zeros it lacks to be `width` digits wide. -/
def padZeros (width n : Nat) : String :=
  let digits := toString n
  String.ofList (List.replicate (width - digits.length) '0') ++ digits

/-! ### Pieces -/

/-- One step of cutting, from the right: a separator opens a new piece, any other character
goes in front of the piece at hand. -/
def cutStep (sep c : Char) : List (List Char) → List (List Char)
  | [] => [[c]]
  | piece :: rest => if c = sep then [] :: piece :: rest else (c :: piece) :: rest

/-- The pieces of a text between its separators: one more than there are separators. -/
def cut (sep : Char) (cs : List Char) : List (List Char) := cs.foldr (cutStep sep) [[]]

def pieces (sep : Char) (s : String) : List String := (cut sep s.toList).map String.ofList

@[simp] theorem cut_nil (sep : Char) : cut sep [] = [[]] := rfl

@[simp] theorem cut_cons (sep c : Char) (cs : List Char) :
    cut sep (c :: cs) = cutStep sep c (cut sep cs) := rfl

/-- There is always a piece. -/
theorem cut_ne_nil (sep : Char) (cs : List Char) : cut sep cs ≠ [] := by
  cases cs with
  | nil => simp
  | cons c cs =>
    rw [cut_cons]
    cases cut sep cs with
    | nil => simp [cutStep]
    | cons piece rest => by_cases h : c = sep <;> simp [cutStep, h]

/-- Joining the pieces with the separator gives the text back. -/
theorem intercalate_cut (sep : Char) (cs : List Char) : [sep].intercalate (cut sep cs) = cs := by
  induction cs with
  | nil => rfl
  | cons c cs ih =>
    rw [cut_cons]
    cases h : cut sep cs with
    | nil => exact absurd h (cut_ne_nil sep cs)
    | cons piece rest =>
      rw [h] at ih
      by_cases hc : c = sep
      · subst hc
        simp only [cutStep]
        rw [← ih]
        simp [List.intercalate]
      · simp only [cutStep, if_neg hc]
        rw [← ih]
        cases rest <;> simp [List.intercalate]

/-! ### Prefixes and endings -/

def begins (p s : String) : Bool := p.toList.isPrefixOf s.toList

/-- The text with the newline it lacks at its end; nothing stays nothing. -/
def closeLine (s : String) : String :=
  match s.toList.getLast? with
  | none => s
  | some c => if c = '\n' then s else s ++ "\n"

end LineShell.Text
