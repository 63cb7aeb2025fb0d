import LineShell.Text.Blank

/-!
# Words of a command line

A line is cut into tokens at blanks. A token that begins with a quote runs to the next quote of
the same kind, any other token runs to the next blank; in both a backslash makes the character
after it literal, and at the end of the line it stands for itself.

    next?  : the rest of a line ──▶ the next token and the rest after it
    scan   : a line ──▶ all its tokens

A token may be empty (`''`), so progress is not visible in the tokens: it is the lemma
`length_lt_of_next?`, which is also why `scan` ends.
-/

namespace LineShell.Token

open Text (isBlank)

/-! ### One token -/

/-- A quote opens a quoted token when it stands at the beginning of a token. -/
def isQuote (c : Char) : Bool := c == '"' || c == '\''

/-- The text of a token opened by the quote `q`, and what is left after its closing quote. -/
def quoted (q : Char) : List Char → List Char × List Char
  | [] => ([], [])
  | [c] => if c = '\\' then (['\\'], []) else if c = q then ([], []) else ([c], [])
  | c :: d :: rest =>
    if c = '\\' then
      let (token, left) := quoted q rest
      (d :: token, left)
    else if c = q then ([], d :: rest)
    else
      let (token, left) := quoted q (d :: rest)
      (c :: token, left)

/-- The text of a bare token, and what is left from the blank that ends it. -/
def bare : List Char → List Char × List Char
  | [] => ([], [])
  | [c] => if isBlank c then ([], [c]) else ([c], [])
  | c :: d :: rest =>
    if isBlank c then ([], c :: d :: rest)
    else if c = '\\' then
      let (token, left) := bare rest
      (d :: token, left)
    else
      let (token, left) := bare (d :: rest)
      (c :: token, left)

/-- The next token of a line and what is left after it; none when only blanks are left. -/
def next? (cs : List Char) : Option (List Char × List Char) :=
  match cs.dropWhile isBlank with
  | [] => none
  | c :: rest => some (if isQuote c then quoted c rest else bare (c :: rest))

/-! ### Progress -/

/-- A token and what is left after it are no longer than what they were taken from. -/
theorem length_quoted (q : Char) (cs : List Char) :
    (quoted q cs).1.length + (quoted q cs).2.length ≤ cs.length := by
  fun_induction quoted q cs <;> simp_all <;> omega

theorem length_quoted_le (q : Char) (cs : List Char) : (quoted q cs).2.length ≤ cs.length :=
  Nat.le_trans (Nat.le_add_left _ _) (length_quoted q cs)

theorem length_bare (cs : List Char) :
    (bare cs).1.length + (bare cs).2.length ≤ cs.length := by
  fun_induction bare cs <;> simp_all <;> omega

theorem length_bare_le (cs : List Char) : (bare cs).2.length ≤ cs.length :=
  Nat.le_trans (Nat.le_add_left _ _) (length_bare cs)

/-- A bare token takes at least the character it begins with. -/
theorem length_bare_lt {c : Char} (h : isBlank c = false) (cs : List Char) :
    (bare (c :: cs)).2.length < (c :: cs).length := by
  cases cs with
  | nil => simp [bare, h]
  | cons d rest =>
    simp only [bare, h]
    split
    · simp_all
    · split
      · have := length_bare_le rest
        simp only [List.length_cons]
        omega
      · have := length_bare_le (d :: rest)
        simp only [List.length_cons] at this ⊢
        omega

/-- Where dropping blanks stops there is no blank. -/
theorem isBlank_of_dropWhile {cs : List Char} {c : Char} {rest : List Char}
    (h : cs.dropWhile isBlank = c :: rest) : isBlank c = false := by
  simpa [h] using List.head?_dropWhile_not isBlank cs

/-- A token takes at least one character off the line. -/
theorem length_lt_of_next? {cs token left : List Char} (h : next? cs = some (token, left)) :
    left.length < cs.length := by
  unfold next? at h
  split at h
  · simp at h
  · next c rest hd =>
    have hle : (cs.dropWhile isBlank).length ≤ cs.length :=
      (List.dropWhile_sublist isBlank).length_le
    rw [hd] at hle
    have hc := isBlank_of_dropWhile hd
    simp only [Option.some.injEq] at h
    split at h
    · have := length_quoted_le c rest
      rw [h] at this
      simp only [List.length_cons] at hle this ⊢
      omega
    · have := length_bare_lt hc rest
      rw [h] at this
      simp only at this
      omega

/-! ### All tokens -/

def scan (cs : List Char) : List (List Char) :=
  match _h : next? cs with
  | none => []
  | some (token, left) => token :: scan left
termination_by cs.length
decreasing_by exact length_lt_of_next? _h

/-- The first `n` tokens of a line, drawn one after the other; fewer when the line ends. -/
def draw : Nat → List Char → List (List Char)
  | 0, _ => []
  | n + 1, cs =>
    match next? cs with
    | none => []
    | some (token, left) => token :: draw n left

def tokenize (line : String) : List String := (scan line.toList).map String.ofList

def tokenizeUpTo (n : Nat) (line : String) : List String := (draw n line.toList).map String.ofList

/-- Whether the line ends in a blank, so that what is typed next begins a new token. -/
def endsWithSeparator (line : String) : Bool := line.toList.getLast?.any isBlank

end LineShell.Token
