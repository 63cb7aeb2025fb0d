/-!
# Search engines

Patterns are read, and lines are searched, by an engine. Whatever the shell does with a line is said
for any engine; `LineShell.Pattern` is the one that the program runs with.
-/

namespace LineShell

/-- What searches lines. A pattern is read with the case of letters ignored or not. It is refused
with a text that says why, or accepted as a yes-or-no question about one line. -/
class Engine where
  compile : Bool → String → Except String (String → Bool)

/-- The empty pattern is accepted, and every line matches it. -/
def Engine.EmptyMatchesAll [Engine] : Prop :=
  ∀ ignoreCase, ∃ test, compile ignoreCase "" = .ok test ∧ ∀ line, test line = true

end LineShell
