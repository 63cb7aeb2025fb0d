import LineShell.Text.Layout

/-!
# Sets of code points

A set of code points is a list of ranges in increasing order that neither overlap nor touch, so
each set has one list. Tables write a range as `41-5A`, every second code point of a range as
`100-12E/2`, and a single code point as `B5`, all in hexadecimal.
-/

namespace LineShell.Unicode

def lastCode : Nat := 0x10FFFF

/-- A set of code points: ranges with both ends, in increasing order, with gaps between them. -/
structure CharSet where
  ranges : List (Nat × Nat)
deriving DecidableEq, Repr

namespace CharSet

/-! ### Building sets -/

def empty : CharSet := ⟨[]⟩

def all : CharSet := ⟨[(0, lastCode)]⟩

/-- Join a range with those ranges of an increasing list that it overlaps or touches. -/
def absorb : Nat × Nat → List (Nat × Nat) → List (Nat × Nat)
  | r, [] => [r]
  | (lo, hi), (lo', hi') :: rest =>
    if lo' ≤ hi + 1 then absorb (lo, max hi hi') rest else (lo, hi) :: absorb (lo', hi') rest

def ofRanges (ranges : List (Nat × Nat)) : CharSet :=
  match ranges.mergeSort fun a b => a.1 ≤ b.1 with
  | [] => empty
  | r :: rest => ⟨absorb r rest⟩

def range (lo hi : Nat) : CharSet := ofRanges [(lo, hi)]

def single (c : Char) : CharSet := ⟨[(c.toNat, c.toNat)]⟩

/-! ### Membership and operations -/

def contains (s : CharSet) (n : Nat) : Bool := s.ranges.any fun r => r.1 ≤ n && n ≤ r.2

def isEmpty (s : CharSet) : Bool := s.ranges.isEmpty

def union (s t : CharSet) : CharSet := ofRanges (s.ranges ++ t.ranges)

/-- The gaps of an increasing list of ranges, from `n` up to the last code point. -/
def gaps (n : Nat) : List (Nat × Nat) → List (Nat × Nat)
  | [] => if n ≤ lastCode then [(n, lastCode)] else []
  | (lo, hi) :: rest => if n < lo then (n, lo - 1) :: gaps (hi + 1) rest else gaps (hi + 1) rest

def complement (s : CharSet) : CharSet := ⟨gaps 0 s.ranges⟩

def inter (s t : CharSet) : CharSet := (s.complement.union t.complement).complement

def difference (s t : CharSet) : CharSet := s.inter t.complement

def symmDifference (s t : CharSet) : CharSet := (s.union t).difference (s.inter t)

/-! ### Tables -/

def hexDigit (c : Char) : Nat :=
  if c.isDigit then c.toNat - '0'.toNat else c.toNat - 'A'.toNat + 10

def hexValue (digits : List Char) : Nat := digits.foldl (fun n c => 16 * n + hexDigit c) 0

def tableItem (item : List Char) : List (Nat × Nat) :=
  match Text.cut '-' item with
  | [one] => [(hexValue one, hexValue one)]
  | [first, last] =>
    match Text.cut '/' last with
    | [last, step] =>
      let lo := hexValue first
      let k := hexValue step
      (List.range ((hexValue last - lo) / k + 1)).map fun i => (lo + i * k, lo + i * k)
    | _ => [(hexValue first, hexValue last)]
  | _ => []

/-- The set that a table lists, in increasing order, between spaces and ends of lines. -/
def ofTable (table : String) : CharSet :=
  let items := (Text.cut '\n' table.toList).flatMap (Text.cut ' ')
  ⟨(items.filter (!·.isEmpty)).flatMap tableItem⟩

end CharSet

/-! ### Names of sets -/

/-- Names are compared without regard to case, spaces, hyphens, underscores and a leading `is`;
only ASCII characters count. The name `isc` is the one exception, since it is not `c`. -/
def looseName (name : String) : List Char :=
  let lower := name.toList.map Char.toLower
  let (body, cut) :=
    match lower with
    | 'i' :: 's' :: rest => (rest, true)
    | cs => (cs, false)
  let kept := body.filter fun c => c.toNat < 0x80 && c != ' ' && c != '_' && c != '-'
  if cut && kept == ['c'] then ['i', 's', 'c'] else kept

def sameName (name : String) (names : List String) : Bool :=
  names.any fun n => looseName n == looseName name

/-- A set of code points with its names, the short name first, and its table. -/
structure NamedSet where
  names : List String
  table : String

def NamedSet.isNamed (s : NamedSet) (name : String) : Bool := sameName name s.names

def NamedSet.set (s : NamedSet) : CharSet := .ofTable s.table

end LineShell.Unicode
