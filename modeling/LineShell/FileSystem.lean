import LineShell.Node
import LineShell.Path

/-!
# The file system

A tree that never changes and a working directory that does. Lookup takes a typed path: it is
resolved to an absolute path by its text alone, then the tree is walked along the names. A lookup
fails with the resolved path: no such node, a file where a directory is wanted, or a directory
where a file is wanted.
-/

namespace LineShell

inductive FileError where
  | notFound (path : Path)
  | notADirectory (path : Path)
  | notAFile (path : Path)
deriving DecidableEq

def FileError.message : FileError → String
  | notFound path => path.toString ++ ": No such file or directory"
  | notADirectory path => path.toString ++ ": Not a directory"
  | notAFile path => path.toString ++ ": Is a directory"

/-- A tree and the working directory in it. -/
structure FileSystem where
  tree : Node
  cwd : Path

namespace FileSystem

/-! ### Lookup -/

def resolve (fs : FileSystem) (path : Option String) : Path := fs.cwd.resolve? path

/-- The node that a path argument names, with its absolute path. -/
def locate (fs : FileSystem) (path : Option String) : Except FileError (Node × Path) :=
  let full := fs.resolve path
  match fs.tree.descend? full.names with
  | some node => .ok (node, full)
  | none => .error (.notFound full)

def read (fs : FileSystem) (path : Option String) : Except FileError String :=
  match fs.locate path with
  | .ok (.file content, _) => .ok content
  | .ok (.directory _, full) => .error (.notAFile full)
  | .error e => .error e

/-- The entries of the directory that a path argument names, in order of names. -/
def list (fs : FileSystem) (path : Option String) : Except FileError (List Node.Entry) :=
  match fs.locate path with
  | .ok (.directory children, _) => .ok (children.map fun c => Node.entry c.1 c.2)
  | .ok (.file _, full) => .error (.notADirectory full)
  | .error e => .error e

/-! ### The working directory -/

def changeDirectory (fs : FileSystem) (path : String) : Except FileError FileSystem :=
  match fs.locate (some path) with
  | .ok (.directory _, full) => .ok { fs with cwd := full }
  | .ok (.file _, full) => .error (.notADirectory full)
  | .error e => .error e

/-- A file system over the given tree, in the directory that `cwd` names from the root. -/
def ofTree (tree : Node) (cwd : String) : Except FileError FileSystem :=
  if tree.isDirectory then changeDirectory ⟨tree, Path.root⟩ cwd
  else .error (.notADirectory Path.root)

/-! ### The seeded tree -/

def home : String := "/home/dev"

def homePath : Path := ⟨["home", "dev"], by decide⟩

def seededTree : Node :=
  let dev := Node.ofEntries
    [ ("readme.txt", .file "Welcome to the Web Terminal. Type 'help' to start."),
      ("notes.md", .file "# Notes\n- Tailwind UI\n- Autocomplete\n- Improve FS later"),
      ("projects", Node.ofEntries [("web-terminal", Node.ofEntries [])]) ]
  Node.ofEntries [("home", Node.ofEntries [("dev", dev)])]

/-- The file system at start: the seeded tree, in the home directory. -/
def seeded : FileSystem := ⟨seededTree, homePath⟩

end FileSystem

end LineShell
