import LineShell.Json
import Mathlib.Algebra.Field.Rat

/-!
# Reading JSON

A reader for JSON texts, whatever wrote them: white space between the parts, all escapes and pairs
of surrogates in strings, and numbers in every notation. What a text stands for is what it is read
as.

    decode : a text ──▶ the value it stands for, if it is JSON

A reader takes its part off the front of a text and gives what is left. The parts are read back from
the texts of `Json` in the modules that follow.
-/

namespace LineShell.Json

inductive Value where
  | null
  | bool (b : Bool)
  | number (q : ℚ)
  | string (s : String)
  | array (items : List Value)
  | object (members : List (String × Value))

/-! ### Strings -/

def hexValue? (c : Char) : Option Nat :=
  if '0' ≤ c ∧ c ≤ '9' then some (c.toNat - '0'.toNat)
  else if 'a' ≤ c ∧ c ≤ 'f' then some (c.toNat - 'a'.toNat + 10)
  else if 'A' ≤ c ∧ c ≤ 'F' then some (c.toNat - 'A'.toNat + 10)
  else none

/-- The number that four hexadecimal digits stand for, and what is left. -/
def readCode : List Char → Option (Nat × List Char)
  | a :: b :: c :: d :: rest => do
    let a ← hexValue? a
    let b ← hexValue? b
    let c ← hexValue? c
    let d ← hexValue? d
    some (((a * 16 + b) * 16 + c) * 16 + d, rest)
  | _ => none

/-- The character that a letter after a backslash stands for. -/
def named? : Char → Option Char
  | '"' => some '"'
  | '\\' => some '\\'
  | '/' => some '/'
  | 'b' => some '\x08'
  | 'f' => some '\x0c'
  | 'n' => some '\n'
  | 'r' => some '\r'
  | 't' => some '\t'
  | _ => none

/-- Whether a code is a high surrogate, the first half of a pair. -/
def isHigh (code : Nat) : Bool := 0xD800 ≤ code && code < 0xDC00

/-- Whether a code is a low surrogate, the second half of a pair. -/
def isLow (code : Nat) : Bool := 0xDC00 ≤ code && code < 0xE000

/-- The character of a code; a high surrogate needs the code of a low one after it. -/
def readPair (code : Nat) (cs : List Char) : Option (Char × List Char) :=
  if isLow code then none
  else if isHigh code then
    match cs with
    | '\\' :: 'u' :: cs =>
      match readCode cs with
      | none => none
      | some (low, rest) =>
        if isLow low then
          some (Char.ofNat (0x10000 + (code - 0xD800) * 0x400 + (low - 0xDC00)), rest)
        else none
    | _ => none
  else some (Char.ofNat code, cs)

/-- A character of a string. Neither the quote nor a control character is one. -/
def readChar : List Char → Option (Char × List Char)
  | [] => none
  | '\\' :: 'u' :: cs =>
    match readCode cs with
    | none => none
    | some (code, rest) => readPair code rest
  | '\\' :: c :: rest => (named? c).map fun c => (c, rest)
  | c :: rest => if c = '"' ∨ c = '\\' ∨ c.toNat < 0x20 then none else some (c, rest)

theorem length_lt_of_readCode {cs rest : List Char} {code : Nat}
    (h : readCode cs = some (code, rest)) : rest.length < cs.length := by
  unfold readCode at h
  split at h
  · simp only [Option.bind_eq_bind, Option.bind_eq_some_iff, Option.some.injEq,
      Prod.mk.injEq] at h
    obtain ⟨-, -, -, -, -, -, -, -, -, rfl⟩ := h
    simp only [List.length_cons]
    omega
  · cases h

theorem length_le_of_readPair {cs rest : List Char} {code : Nat} {c : Char}
    (h : readPair code cs = some (c, rest)) : rest.length ≤ cs.length := by
  unfold readPair at h
  split at h
  · cases h
  split at h
  · split at h
    · split at h
      · cases h
      · next hcode =>
        have := length_lt_of_readCode hcode
        split at h
        · obtain ⟨-, rfl⟩ := Prod.mk.inj (Option.some.inj h)
          simp only [List.length_cons]
          omega
        · cases h
    · cases h
  · cases h
    exact Nat.le_refl _

/-- A character takes at least one off the text. -/
theorem length_lt_of_readChar {cs rest : List Char} {c : Char} (h : readChar cs = some (c, rest)) :
    rest.length < cs.length := by
  unfold readChar at h
  split at h
  · cases h
  · split at h
    · cases h
    · next hcode =>
      have := length_lt_of_readCode hcode
      have := length_le_of_readPair h
      simp only [List.length_cons]
      omega
  · simp only [Option.map_eq_some_iff, Prod.mk.injEq] at h
    obtain ⟨-, -, -, rfl⟩ := h
    simp only [List.length_cons]
    omega
  · split_ifs at h
    cases h
    simp only [List.length_cons]
    omega

def readChars (cs : List Char) : Option (List Char × List Char) :=
  if cs.head? = some '"' then some ([], cs.tail)
  else
    match _h : readChar cs with
    | none => none
    | some (c, rest) => (readChars rest).map fun (text, rest) => (c :: text, rest)
termination_by cs.length
decreasing_by exact length_lt_of_readChar _h

theorem readChars_quote (rest : List Char) : readChars ('"' :: rest) = some ([], rest) := by
  rw [readChars, if_pos List.head?_cons]
  rfl

/-- A string goes on after each of its characters. -/
theorem readChars_of_readChar {cs left : List Char} {c : Char} (hquote : cs.head? ≠ some '"')
    (h : readChar cs = some (c, left)) :
    readChars cs = (readChars left).map fun (text, rest) => (c :: text, rest) := by
  rw [readChars, if_neg hquote]
  split
  · next h' =>
    rw [h] at h'
    cases h'
  · next h' =>
    rw [h] at h'
    cases h'
    rfl

/-! ### Numbers -/

def readDigits (cs : List Char) : Option (List Char × List Char) :=
  match cs.takeWhile Char.isDigit with
  | [] => none
  | digits => some (digits, cs.dropWhile Char.isDigit)

/-- The digits before the point: a zero has none after it. -/
def readWhole : List Char → Option (List Char × List Char)
  | '0' :: rest => some (['0'], rest)
  | cs => readDigits cs

def readFraction : List Char → Option (List Char × List Char)
  | '.' :: rest => readDigits rest
  | cs => some ([], cs)

/-- A number of digits with a sign, which is optional. -/
def readSigned : List Char → Option (Int × List Char)
  | '-' :: rest => (readDigits rest).map fun (digits, rest) =>
    (-(Nat.ofDigitChars 10 digits 0 : Int), rest)
  | '+' :: rest => (readDigits rest).map fun (digits, rest) => (Nat.ofDigitChars 10 digits 0, rest)
  | rest => (readDigits rest).map fun (digits, rest) => (Nat.ofDigitChars 10 digits 0, rest)

def readExponent : List Char → Option (Int × List Char)
  | 'e' :: rest => readSigned rest
  | 'E' :: rest => readSigned rest
  | cs => some (0, cs)

def readMagnitude (cs : List Char) : Option (ℚ × List Char) := do
  let (whole, cs) ← readWhole cs
  let (fraction, cs) ← readFraction cs
  let (exponent, cs) ← readExponent cs
  some ((Nat.ofDigitChars 10 (whole ++ fraction) 0 : ℚ) * 10 ^ (exponent - fraction.length), cs)

def readNumber : List Char → Option (ℚ × List Char)
  | '-' :: cs => (readMagnitude cs).map fun (q, rest) => (-q, rest)
  | cs => readMagnitude cs

/-! ### Values -/

def skip (cs : List Char) : List Char :=
  cs.dropWhile fun c => c == ' ' || c == '\t' || c == '\n' || c == '\r'

mutual

/-- A value. The number bounds how many readings there are inside one another; a text does not need
more than it has characters. -/
def readValue : Nat → List Char → Option (Value × List Char)
  | 0, _ => none
  | depth + 1, cs =>
    match skip cs with
    | 'n' :: 'u' :: 'l' :: 'l' :: rest => some (.null, rest)
    | 't' :: 'r' :: 'u' :: 'e' :: rest => some (.bool true, rest)
    | 'f' :: 'a' :: 'l' :: 's' :: 'e' :: rest => some (.bool false, rest)
    | '"' :: rest => (readChars rest).map fun (text, rest) => (.string (String.ofList text), rest)
    | '[' :: rest =>
      if (skip rest).head? = some ']' then some (.array [], (skip rest).tail)
      else (readItems depth rest).map fun (items, rest) => (.array items, rest)
    | '\x7b' :: rest =>
      if (skip rest).head? = some '\x7d' then some (.object [], (skip rest).tail)
      else (readMembers depth rest).map fun (members, rest) => (.object members, rest)
    | rest => (readNumber rest).map fun (q, rest) => (.number q, rest)

def readItems : Nat → List Char → Option (List Value × List Char)
  | 0, _ => none
  | depth + 1, cs =>
    match readValue depth cs with
    | none => none
    | some (value, rest) =>
      match skip rest with
      | ',' :: rest => (readItems depth rest).map fun (items, rest) => (value :: items, rest)
      | ']' :: rest => some ([value], rest)
      | _ => none

def readMembers : Nat → List Char → Option (List (String × Value) × List Char)
  | 0, _ => none
  | depth + 1, cs =>
    match skip cs with
    | '"' :: rest =>
      match readChars rest with
      | none => none
      | some (key, rest) =>
        match skip rest with
        | ':' :: rest =>
          match readValue depth rest with
          | none => none
          | some (value, rest) =>
            match skip rest with
            | ',' :: rest => (readMembers depth rest).map fun (members, rest) =>
              ((String.ofList key, value) :: members, rest)
            | '\x7d' :: rest => some ([(String.ofList key, value)], rest)
            | _ => none
        | _ => none
    | _ => none

end

/-- The value that a text stands for; nothing else may be in the text. -/
def decode (text : String) : Option Value :=
  match readValue (text.length + 1) text.toList with
  | none => none
  | some (value, rest) => if skip rest = [] then some value else none

/-! ### Equations -/

theorem skip_cons {c : Char} (h : c ≠ ' ' ∧ c ≠ '\t' ∧ c ≠ '\n' ∧ c ≠ '\r') (rest : List Char) :
    skip (c :: rest) = c :: rest := by
  obtain ⟨h1, h2, h3, h4⟩ := h
  exact List.dropWhile_cons_of_neg (by simp [h1, h2, h3, h4])

theorem readValue_quote (depth : Nat) (rest : List Char) :
    readValue (depth + 1) ('"' :: rest) =
      (readChars rest).map fun (text, rest) => (.string (String.ofList text), rest) := by
  rw [readValue, skip_cons (by decide)]
  rfl

theorem readValue_brace (depth : Nat) {rest : List Char} (h : (skip rest).head? ≠ some '\x7d') :
    readValue (depth + 1) ('\x7b' :: rest) =
      (readMembers depth rest).map fun (members, rest) => (.object members, rest) := by
  rw [readValue, skip_cons (by decide)]
  exact if_neg h

theorem readValue_digit {c : Char} (h : c.isDigit = true) (depth : Nat) (rest : List Char) :
    readValue (depth + 1) (c :: rest) =
      (readMagnitude (c :: rest)).map fun (q, rest) => (.number q, rest) := by
  have hne {d : Char} (hd : d.isDigit = false) : c ≠ d := by
    rintro rfl
    rw [h] at hd
    cases hd
  have hskip : skip (c :: rest) = c :: rest :=
    skip_cons ⟨hne rfl, hne rfl, hne rfl, hne rfl⟩ rest
  have hnumber : readNumber (c :: rest) = readMagnitude (c :: rest) := by
    rw [readNumber]
    rintro _ ⟨⟩
    cases h
  rw [readValue, hskip]
  split
  case h_7 => rw [hnumber]
  all_goals
    next heq =>
    cases heq
    cases h

variable {key cs left more : List Char} {value : Value} {depth : Nat}

theorem readMembers_cons (hkey : readChars cs = some (key, ':' :: left))
    (hvalue : readValue depth left = some (value, ',' :: more)) :
    readMembers (depth + 1) ('"' :: cs) = (readMembers depth more).map fun (members, rest) =>
      ((String.ofList key, value) :: members, rest) := by
  simp [readMembers, skip_cons, hkey, hvalue]

theorem readMembers_last (hkey : readChars cs = some (key, ':' :: left))
    (hvalue : readValue depth left = some (value, '\x7d' :: more)) :
    readMembers (depth + 1) ('"' :: cs) = some ([(String.ofList key, value)], more) := by
  simp [readMembers, skip_cons, hkey, hvalue]

theorem exists_digit_of_readMagnitude {q : ℚ} (h : readMagnitude cs = some (q, left)) :
    ∃ c rest, cs = c :: rest ∧ c.isDigit = true := by
  simp only [readMagnitude, Option.bind_eq_bind, Option.bind_eq_some_iff] at h
  obtain ⟨whole, hwhole, -⟩ := h
  unfold readWhole at hwhole
  split at hwhole
  · exact ⟨'0', _, rfl, rfl⟩
  · cases cs with
    | nil => cases hwhole
    | cons c rest =>
      refine ⟨c, rest, rfl, ?_⟩
      by_contra hdigit
      rw [readDigits, List.takeWhile_cons_of_neg hdigit] at hwhole
      cases hwhole

end LineShell.Json
