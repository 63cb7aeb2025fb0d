import LineShell.Engine
import LineShell.Pattern.Footprint

/-!
# Search patterns

The engine that the program runs with. A pattern is read once and then asked about lines. Reading
accepts it or refuses it with an error; an accepted pattern is a yes-or-no question about one line.
The empty pattern is accepted, and every line matches it (`emptyMatchesAll`).
-/

namespace LineShell

structure Pattern where
  regex : Pattern.Regex

namespace Pattern

def compile (ignoreCase : Bool) (text : String) : Except Error Pattern :=
  match readPattern text >>= fun ast => ast.meaning (.initial ignoreCase) with
  | .error fault => .error (.unreadable text fault)
  | .ok (regex, _) => if regex.isTooLarge then .error .tooLarge else .ok ⟨regex⟩

def test (p : Pattern) (line : String) : Bool := p.regex.matches line.toList

/-- The empty pattern is accepted. -/
theorem compile_empty (ignoreCase : Bool) : compile ignoreCase "" = .ok ⟨.empty⟩ := by
  cases ignoreCase <;> rfl

/-- What a pattern asks of a line, or the text of the error that refuses it. -/
def question (ignoreCase : Bool) (text : String) : Except String (String → Bool) :=
  match compile ignoreCase text with
  | .error e => .error e.message
  | .ok p => .ok p.test

instance engine : Engine := ⟨question⟩

theorem emptyMatchesAll : Engine.EmptyMatchesAll := by
  intro ignoreCase
  refine ⟨test ⟨.empty⟩, ?_, fun line => Regex.matches_empty line.toList⟩
  show question ignoreCase "" = .ok (test ⟨.empty⟩)
  rw [question, compile_empty]

end Pattern

end LineShell
