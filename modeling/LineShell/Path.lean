import LineShell.Text.Layout

/-!
# Absolute paths

A path is the list of names on the way down from the root. The names are *proper*: not empty,
not `.`, not `..`, and without a slash, so a path has one written form and every written form
without such components is a path.

Typed text is read by `enter`, piece by piece: `..` goes up (and stays at the root), a proper
name goes down, any other piece stays. `normalize` is reading followed by writing; it looks at
text only, never at what exists.
-/

namespace LineShell

/-! ### Proper names -/

/-- A name that a path can hold. -/
def ProperName (s : String) : Prop := s ≠ "" ∧ s ≠ "." ∧ s ≠ ".." ∧ '/' ∉ s.toList

instance (s : String) : Decidable (ProperName s) := by unfold ProperName; infer_instance

/-- An absolute path: the proper names from the root down. -/
structure Path where
  names : List String
  proper : ∀ s ∈ names, ProperName s

namespace Path

@[ext] theorem ext {p q : Path} (h : p.names = q.names) : p = q := by
  cases p; cases q; simp_all

instance : DecidableEq Path := fun p q =>
  if h : p.names = q.names then isTrue (ext h) else isFalse fun e => h (by rw [e])

/-! ### Moving -/

def root : Path := ⟨[], by simp⟩

/-- One level up; the root is its own parent. -/
def parent (p : Path) : Path := ⟨p.names.dropLast, fun s h => p.proper s (List.dropLast_subset _ h)⟩

def down (p : Path) (s : String) (h : ProperName s) : Path :=
  ⟨p.names ++ [s], by
    intro t ht
    rcases List.mem_append.mp ht with ht | ht
    · exact p.proper t ht
    · rwa [List.mem_singleton.mp ht]⟩

def enter (p : Path) (piece : String) : Path :=
  if piece = ".." then p.parent
  else if h : ProperName piece then p.down piece h
  else p

/-- Follow typed text from `p`, piece by piece. -/
def follow (p : Path) (text : String) : Path := (Text.pieces '/' text).foldl enter p

/-! ### Reading and writing -/

/-- The path that a text names from the root. -/
def ofString (text : String) : Path := root.follow text

/-- The written form: every name after a slash, and a lone slash for the root. -/
def toString (p : Path) : String := "/" ++ String.intercalate "/" p.names

instance : ToString Path := ⟨toString⟩

/-- The written form of what a text names from the root. -/
def normalize (text : String) : String := (ofString text).toString

/-- What a typed path names when the working directory is `cwd`: text that begins with a slash
starts at the root, any other text at `cwd`. -/
def resolve (cwd : Path) (text : String) : Path :=
  if Text.begins "/" text then ofString text else cwd.follow text

/-- A path argument that may be missing; a missing one names the working directory. -/
def resolve? (cwd : Path) : Option String → Path
  | none => cwd
  | some text => cwd.resolve text

end Path

end LineShell
