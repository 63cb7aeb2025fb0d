/-!
# The screen

Where a session writes: the bytes shown so far, and how many more will be taken. A screen that is
full takes what fits and refuses the rest; nothing can be written after that.
-/

namespace LineShell

def textBytes (text : String) : List UInt8 := text.toUTF8.data.toList

/-- Bytes shown so far, oldest first, and the room that is left; no bound means unlimited room. -/
structure Screen where
  shown : List UInt8
  room : Option Nat

namespace Screen

def unlimited : Screen := ⟨[], none⟩

def limited (n : Nat) : Screen := ⟨[], some n⟩

/-- Write a text; the answer says whether all of it fitted. -/
def write (s : Screen) (text : String) : Screen × Bool :=
  let bytes := textBytes text
  match s.room with
  | none => (⟨s.shown ++ bytes, none⟩, true)
  | some n => (⟨s.shown ++ bytes.take n, some (n - bytes.length)⟩, bytes.length ≤ n)

end Screen

end LineShell
