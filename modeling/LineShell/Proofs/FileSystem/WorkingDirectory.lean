import LineShell.Pattern
import LineShell.Proofs.Builtin.Effects
import LineShell.Proofs.Builtin.Listing

/-!
# The working directory

A file system remembers where it is as a path, and nothing in its type says that the path leads
anywhere. It always does: the tree never changes, and the working directory is only ever replaced
by a path that was just found to lead to a directory of it.

    perform : a file system, an action ──▶ the file system after it
    run     : the same for any number of actions

Every action is a number of successful moves (`moves_perform`), so the invariant is proved for one
move and carried along. Main statement: `wellPlaced_run`.
-/

namespace LineShell

namespace FileSystem

/-! ### Moves -/

/-- One file system becomes another by moves that succeed, one after the other. -/
inductive Moves : FileSystem → FileSystem → Prop
  | stay {fs} : Moves fs fs
  | move {fs next last path} : fs.changeDirectory path = .ok next → Moves next last →
      Moves fs last

theorem Moves.trans {fs mid last : FileSystem} (h : fs.Moves mid) (h' : mid.Moves last) :
    fs.Moves last := by
  induction h with
  | stay => exact h'
  | move hmove _ ih => exact .move hmove (ih h')

theorem Moves.tree_eq {fs last : FileSystem} (h : fs.Moves last) : last.tree = fs.tree := by
  induction h with
  | stay => rfl
  | move hmove _ ih =>
    obtain ⟨-, rfl⟩ := changeDirectory_eq_ok_iff.mp hmove
    exact ih

def InDirectory (fs : FileSystem) : Prop :=
  ∃ children, fs.tree.descend? fs.cwd.names = some (.directory children)

/-- A move has looked before it leaps, wherever it started. -/
theorem inDirectory_of_changeDirectory {fs next : FileSystem} {path : String}
    (h : fs.changeDirectory path = .ok next) : next.InDirectory := by
  obtain ⟨hfound, rfl⟩ := changeDirectory_eq_ok_iff.mp h
  exact hfound

/-- Moves lead from directory to directory. -/
theorem Moves.inDirectory {fs last : FileSystem} (h : fs.Moves last) (hfs : fs.InDirectory) :
    last.InDirectory := by
  induction h with
  | stay => exact hfs
  | move hmove _ ih => exact ih (inDirectory_of_changeDirectory hmove)

end FileSystem

/-! ### Handlers that only move -/

/-- Of all that a handler can do with a file system, moving alone makes another one of it. The
reply may be a success, a failure or an error, and the handler may have moved before it failed. -/
def Handler.OnlyMoves (h : Handler) : Prop := ∀ c : Call, c.files.Moves (h.run c).files

/-- Of the built-in commands `cd` moves, and the others leave the file system alone. -/
theorem Builtin.onlyMoves [Engine] {command : Command} (h : command ∈ commands) :
    command.handler.OnlyMoves := by
  intro c
  rcases handler_cases h with ⟨-, hrun⟩ | ⟨-, hrun⟩ | ⟨-, -, hrun⟩
  · rw [hrun]
    exact .stay
  · rw [hrun, cd]
    dsimp only
    split
    · next moved hmove => exact .move hmove .stay
    · exact .stay -- a `cd` that fails hands back the files it was given
  · rw [(hrun c).files_eq]
    exact .stay

namespace FileSystem

/-! ### Runs -/

/-- What is done with a file system: a line is run with any commands whose handlers only move,
such a handler is run on its own with any words, or the working directory is changed. -/
inductive Action where
  | dispatch (r : Registry) (moving : ∀ c ∈ r.commands, c.handler.OnlyMoves) (watch : Stopwatch)
      (line : String)
  | invoke (h : Handler) (moving : h.OnlyMoves) (argv : List String) (pages : List Page)
      (now : Calendar.Moment)
  | changeDirectory (path : String)

/-- The file system after an action, which may have failed. -/
def perform (fs : FileSystem) : Action → FileSystem
  | .dispatch r _ watch line =>
    match r.dispatch watch fs line with
    | none => fs
    | some d => d.files
  | .invoke h _ argv pages now => (h.run ⟨argv, fs, pages, now⟩).files
  | .changeDirectory path =>
    match fs.changeDirectory path with
    | .ok moved => moved
    | .error _ => fs

def run (fs : FileSystem) (actions : List Action) : FileSystem := actions.foldl perform fs

/-- A command that is not found moves nowhere. -/
theorem moves_run_name {r : Registry} (moving : ∀ c ∈ r.commands, c.handler.OnlyMoves)
    (now : Calendar.Moment) (fs : FileSystem) (name : String) (argv : List String) :
    fs.Moves (r.run now fs name argv).files := by
  cases hfind : r.find? name with
  | none =>
    rw [Registry.run, hfind]
    exact .stay
  | some command =>
    rw [Registry.run, hfind]
    exact moving command (Registry.find?_eq_some_iff.mp hfind).1 ⟨argv, fs, r.pages, now⟩

/-- An action is a number of moves. -/
theorem moves_perform (fs : FileSystem) (a : Action) : fs.Moves (fs.perform a) := by
  cases a with
  | dispatch r moving watch line =>
    rw [perform]
    split
    · exact .stay
    · next d hdispatch =>
      obtain ⟨name, rest, -, rfl⟩ := Registry.dispatch_eq_some hdispatch
      exact moves_run_name moving watch.began fs name (name :: rest)
  | invoke h moving argv pages now => exact moving ⟨argv, fs, pages, now⟩
  | changeDirectory path =>
    rw [perform]
    split
    · next moved hmove => exact .move hmove .stay
    · exact .stay

/-- The invariant over a whole run, whatever fails on the way. -/
theorem moves_run (fs : FileSystem) (actions : List Action) : fs.Moves (fs.run actions) := by
  induction actions generalizing fs with
  | nil => exact .stay
  | cons a actions ih => exact (moves_perform fs a).trans (ih (fs.perform a))

/-! ### Beginnings -/

theorem inDirectory_seeded : seeded.InDirectory := ⟨_, rfl⟩

/-- A file system over a given tree begins where the path leads, if that is a directory. -/
theorem ofTree_eq_ok_iff {tree : Node} {cwd : String} {start : FileSystem} :
    ofTree tree cwd = .ok start ↔ tree.isDirectory = true ∧
      (∃ children, tree.descend? (Path.root.resolve cwd).names = some (.directory children)) ∧
      start = ⟨tree, Path.root.resolve cwd⟩ := by
  rw [ofTree]
  split
  · next htree =>
    rw [changeDirectory_eq_ok_iff]
    exact (and_iff_right htree).symm
  · next htree =>
    constructor
    · intro h
      cases h
    · rintro ⟨h, -⟩
      exact absurd h htree

/-! ### The invariant -/

/-- What is always true of a file system over `tree`: the tree is still the same; the written
working directory is canonical, reading it again finds the same place, and its segments lead to a
directory, which is also what no path at all leads to; so listing without a path works, and `ls`
without a path succeeds. -/
structure WellPlaced (tree : Node) (fs : FileSystem) : Prop where
  tree_eq : fs.tree = tree
  canonical : Path.Canonical fs.cwd.toString
  reread : fs.locate (some fs.cwd.toString) = fs.locate none
  located : ∃ children, fs.locate none = .ok (.directory children, fs.cwd) ∧
    fs.tree.descend? ((Text.pieces '/' fs.cwd.toString).filter (· ≠ "")) =
      some (.directory children)
  listed : ∃ entries, fs.list none = .ok entries
  ls : ∀ c : Call, c.files = fs → (∀ a ∈ c.arguments, a = "-l") →
    ∃ text, (Builtin.ls c).result = .ok (.success text)

/-- Without a path the working directory is found. -/
theorem locate_none_of_inDirectory {fs : FileSystem} (h : fs.InDirectory) :
    ∃ children, fs.locate none = .ok (.directory children, fs.cwd) := by
  obtain ⟨children, hfound⟩ := h
  exact ⟨children, locate_eq_ok_iff.mpr ⟨rfl, hfound⟩⟩

/-- Without an operand `ls` lists the working directory. -/
theorem ls_of_inDirectory {c : Call} (h : c.files.InDirectory)
    (hargs : ∀ a ∈ c.arguments, a = "-l") :
    ∃ text, (Builtin.ls c).result = .ok (.success text) := by
  obtain ⟨children, hlocate⟩ := locate_none_of_inDirectory h
  rw [← Builtin.operand?_flags hargs] at hlocate
  rw [Builtin.ls_of_directory ⟨rfl, rfl⟩ hlocate]
  exact ⟨_, rfl⟩

/-- All that is promised follows from the working directory being there. -/
theorem wellPlaced_of_inDirectory {fs : FileSystem} (h : fs.InDirectory) :
    fs.WellPlaced fs.tree where
  tree_eq := rfl
  canonical := Path.canonical_toString fs.cwd
  reread := by
    have hpath : fs.resolve (some fs.cwd.toString) = fs.resolve none :=
      Path.resolve_toString fs.cwd fs.cwd
    rw [locate, hpath, locate]
  located := by
    obtain ⟨children, hlocate⟩ := locate_none_of_inDirectory h
    refine ⟨children, hlocate, ?_⟩
    rw [Path.segments_toString]
    exact (locate_eq_ok_iff.mp hlocate).2
  listed := by
    obtain ⟨children, hlocate⟩ := locate_none_of_inDirectory h
    rw [list, hlocate]
    exact ⟨_, rfl⟩
  ls := by
    rintro c rfl hargs
    exact ls_of_inDirectory h hargs

theorem wellPlaced_of_moves {start fs : FileSystem} (hstart : start.InDirectory)
    (h : start.Moves fs) : fs.WellPlaced start.tree := by
  rw [← h.tree_eq]
  exact wellPlaced_of_inDirectory (h.inDirectory hstart)

/-- Whatever is done with the seeded file system, or with one over a given tree, it stays well
placed. The built-in commands are among what may be done, and there is a file system over a given
tree exactly when the tree is a directory and the path names a directory of it. -/
theorem wellPlaced_run [Engine] :
    (∀ actions, (seeded.run actions).WellPlaced seededTree) ∧
    (∀ tree cwd start, ofTree tree cwd = .ok start →
      ∀ actions, (start.run actions).WellPlaced tree) ∧
    (∀ command ∈ Builtin.commands, command.handler.OnlyMoves) ∧
    (∀ tree cwd, (∃ start, ofTree tree cwd = .ok start) ↔ tree.isDirectory = true ∧
      ∃ children, tree.descend? (Path.root.resolve cwd).names = some (.directory children)) := by
  refine ⟨?_, ?_, fun command h => Builtin.onlyMoves h, ?_⟩
  · intro actions
    exact wellPlaced_of_moves inDirectory_seeded (moves_run seeded actions)
  · intro tree cwd start hstart actions
    obtain ⟨-, hfound, rfl⟩ := ofTree_eq_ok_iff.mp hstart
    -- reading the path from the root is where the first move already looked
    have hplace : InDirectory ⟨tree, Path.root.resolve cwd⟩ := hfound
    exact wellPlaced_of_moves hplace (moves_run _ actions)
  · intro tree cwd
    constructor
    · rintro ⟨start, hstart⟩
      obtain ⟨htree, hfound, -⟩ := ofTree_eq_ok_iff.mp hstart
      exact ⟨htree, hfound⟩
    · rintro ⟨htree, hfound⟩
      exact ⟨_, ofTree_eq_ok_iff.mpr ⟨htree, hfound, rfl⟩⟩

/-- A handler that goes up and fails afterwards. -/
def climb : Handler where
  timing := .deferred
  run c :=
    match c.files.changeDirectory ".." with
    | .ok moved => ⟨.error (.failed "gone up"), moved, 0⟩
    | .error e => c.refuse (.files e)

theorem onlyMoves_climb : climb.OnlyMoves := by
  intro c
  rw [climb]
  dsimp only
  split
  · next moved hmove => exact .move hmove .stay
  · exact .stay

/-- A tree with names that no path can hold. -/
def oddTree : Node :=
  .ofEntries [("", .file ""), (".", .ofEntries []), ("..", .file ".."), ("b/c", .ofEntries []),
    ("a", .ofEntries [("..", .file ""), ("b", .ofEntries [])])]

theorem wellPlaced_run_oddTree : ∃ start, ofTree oddTree "x/../a//b/." = .ok start ∧
    (start.run [.invoke climb onlyMoves_climb ["climb"] [] ⟨0, 0, 0⟩,
      .dispatch Builtin.registry (fun _ h => Builtin.onlyMoves h)
        ⟨⟨0, 0, 0⟩, ⟨0, 0, 0⟩, .zero⟩ "cd b/c",
      .changeDirectory "../.."]).WellPlaced oddTree := by
  obtain ⟨start, hstart⟩ := (wellPlaced_run.2.2.2 oddTree "x/../a//b/.").mpr ⟨rfl, _, rfl⟩
  exact ⟨start, hstart, wellPlaced_run.2.1 oddTree "x/../a//b/." start hstart _⟩

end FileSystem

end LineShell
