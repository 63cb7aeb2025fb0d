import LineShell.Pattern.Meaning

/-!
# The size of patterns

A pattern is refused when the automaton for it would be too large. The automaton works on the
bytes of a line: a character is a chain of states, one for each of its bytes, and a set of
characters is a graph that shares what its members have in common. Two automata are counted, one
that reads forward and one that reads backward; a state takes 32 bytes, a transition of a branching
state 8, an alternative 4. Counts are computed and nothing is built, so a repetition costs one
multiplication.
-/

namespace LineShell.Pattern

open Unicode (CharSet)

/-! ### Bytes of characters -/

abbrev ByteRange := Nat × Nat

def encodeCode (n : Nat) : List Nat :=
  if n < 0x80 then [n]
  else if n < 0x800 then [0xC0 + n / 0x40, 0x80 + n % 0x40]
  else if n < 0x10000 then [0xE0 + n / 0x1000, 0x80 + n / 0x40 % 0x40, 0x80 + n % 0x40]
  else
    [0xF0 + n / 0x40000, 0x80 + n / 0x1000 % 0x40, 0x80 + n / 0x40 % 0x40, 0x80 + n % 0x40]

/-- The last code point of the range that is encoded in as many bytes as its first one. -/
def lastOfLength (n : Nat) : Nat :=
  if n < 0x80 then 0x7F else if n < 0x800 then 0x7FF else if n < 0x10000 then 0xFFFF else 0x10FFFF

/-- A range of code points as sequences of byte ranges. A range is cut where the number of bytes
changes, and then where a byte does not run through all its values; each cut leaves ranges that
are aligned to more bytes, so a few rounds are enough. -/
def byteSequences : Nat → Nat → Nat → List (List ByteRange)
  | 0, _, _ => []
  | fuel + 1, lo, hi =>
    if hi < lo then []
    else if lastOfLength lo < hi then
      byteSequences fuel lo (lastOfLength lo) ++ byteSequences fuel (lastOfLength lo + 1) hi
    else
      let unaligned := [0x40, 0x1000, 0x40000].find? fun unit =>
        0x80 ≤ lo && lo / unit != hi / unit && (lo % unit != 0 || hi % unit != unit - 1)
      match unaligned with
      | none => [(encodeCode lo).zip (encodeCode hi)]
      | some unit =>
        let cut :=
          if lo % unit != 0 then lo / unit * unit + unit - 1 else hi / unit * unit - 1
        byteSequences fuel lo cut ++ byteSequences fuel (cut + 1) hi

/-- The byte sequences of a set, in order. Surrogates are no characters. -/
def setSequences (s : CharSet) : List (List ByteRange) :=
  (s.difference (.range 0xD800 0xDFFF)).ranges.flatMap fun r => byteSequences 32 r.1 r.2

/-! ### Counting states -/

def stateSize : Nat := 32

def transitionSize : Nat := 8

def alternativeSize : Nat := 4

/-- A branching state: where each range of bytes leads. -/
abbrev Branching := List (ByteRange × Nat)

/-- Neighbouring sequences with the same first range, together. -/
def groupHeads : List (List ByteRange) → List (ByteRange × List (List ByteRange))
  | [] => []
  | [] :: rest => groupHeads rest
  | (head :: tail) :: rest =>
    match groupHeads rest with
    | (head', tails) :: groups =>
      if head = head' then (head, tail :: tails) :: groups
      else (head, [tail]) :: (head', tails) :: groups
    | [] => [(head, [tail])]

/-- The number of the state for the given sequences, after the states known so far; states that
lead to the same places are one. State zero is the end. -/
def shareStates : Nat → List (List ByteRange) → List Branching → Nat × List Branching
  | 0, _, known => (0, known)
  | depth + 1, sequences, known =>
    if sequences.all (·.isEmpty) then (0, known)
    else
      let (state, known) := (groupHeads sequences).foldl (fun (state, known) (head, tails) =>
        let (next, known) := shareStates depth tails known
        (state ++ [(head, next)], known)) (([] : Branching), known)
      match known.idxOf? state with
      | some i => (i + 1, known)
      | none => (known.length + 1, known ++ [state])

def forwardSize (s : CharSet) : Nat :=
  let (_, states) := shareStates 5 (setSequences s) []
  stateSize + states.foldl (fun n state => n + stateSize + transitionSize * state.length) 0

/-- The bytes for a set when lines are read backward: sequences share what they begin with. -/
def backwardSize (s : CharSet) : Nat :=
  let sequences := setSequences s
  let shared (a b : List ByteRange) : Nat := ((a.zip b).takeWhile fun p => p.1 == p.2).length
  let states := (sequences.zip ([] :: sequences)).foldl (fun n (now, before) =>
    n + now.length - shared now before) 0
  stateSize * (2 + states) + alternativeSize * sequences.length

def setSize (backward : Bool) (s : CharSet) : Nat :=
  match s.ranges with
  | [] => stateSize
  | [(lo, hi)] =>
    if lo = hi then stateSize * (encodeCode lo).length
    else if hi < 0x80 then 2 * stateSize + transitionSize
    else if backward then backwardSize s else forwardSize s
  | ranges =>
    if ranges.all fun r => r.2 < 0x80 then 2 * stateSize + transitionSize * ranges.length
    else if backward then backwardSize s else forwardSize s

/-- Whether an expression can match the empty text, or nothing at all. -/
def Regex.mayBeEmpty : Regex → Bool
  | .empty | .condition _ => true
  | .chars s => s.isEmpty
  | .seq first second => first.mayBeEmpty && second.mayBeEmpty
  | .alt first second => first.mayBeEmpty || second.mayBeEmpty
  | .repetition min _ _ body => min = 0 || body.mayBeEmpty
  | .capture body => body.mayBeEmpty

/-- The bytes for an expression. An alternation takes two states and an alternative for each
branch; a bounded repetition repeats its body, an unbounded one loops at its last. Captures cost
only when lines are read forward. -/
def Regex.size (backward : Bool) : Regex → Nat
  | .empty | .condition _ => stateSize
  | .chars s => setSize backward s
  | .seq first second => first.size backward + second.size backward
  | .alt first second =>
    let more := first.size backward + second.size backward + alternativeSize
    match first with
    | .alt _ _ => more
    | _ => more + 2 * stateSize + alternativeSize
  | .capture body => body.size backward + if backward then 0 else 2 * stateSize
  | .repetition min max _ body =>
    let one := body.size backward
    let fork := stateSize + 2 * alternativeSize
    match max with
    | some max =>
      if min = max then min * one
      else if min = 0 ∧ max = 1 then one + fork + stateSize
      else (if min = 0 then stateSize else min * one) + stateSize + (max - min) * (one + fork)
    | none =>
      if min = 0 then
        if body.mayBeEmpty then one + 2 * fork + stateSize else one + fork
      else min * one + fork

/-- What every automaton has besides its expression: a loop that skips to the beginning of a
match, a capture of the whole match, and a final state. -/
def frameSize (backward : Bool) : Nat :=
  3 * stateSize + 2 * stateSize + transitionSize + 2 * alternativeSize + stateSize +
    if backward then 0 else 2 * stateSize

/-- Whether one of the automata would be larger than the limit. -/
def Regex.isTooLarge (r : Regex) : Bool :=
  [false, true].any fun backward => sizeLimit < r.size backward + frameSize backward

end LineShell.Pattern
