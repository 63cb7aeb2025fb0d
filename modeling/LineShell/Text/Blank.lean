/-!
# Blank characters

What separates the words of a command line: the code points with the Unicode property
`White_Space`. The set is a finite union of ranges, wider than core's `Char.isWhitespace`, and does
not depend on a locale.
-/

namespace LineShell.Text

/-- A character is blank when it has the property `White_Space`: tab to carriage return, the
space, next line, the no-break spaces and the typographic spaces and separators. -/
def isBlank (c : Char) : Bool :=
  let n := c.toNat
  (0x09 ≤ n && n ≤ 0x0D) || n == 0x20 || n == 0x85 || n == 0xA0 || n == 0x1680 ||
    (0x2000 ≤ n && n ≤ 0x200A) || n == 0x2028 || n == 0x2029 || n == 0x202F || n == 0x205F ||
    n == 0x3000

def isBlankLine (line : String) : Bool := line.toList.all isBlank

end LineShell.Text
