/-!
# Trees of files

A node is a file with text or a directory of named nodes. A directory built by `ofEntries` lists
every name once, in increasing order by code point; of two entries with one name the later wins.
-/

namespace LineShell

/-- A file with its text, or a directory with its children. -/
inductive Node where
  | file (content : String)
  | directory (children : List (String × Node))

/-- What a node is, without its payload. -/
inductive Kind where
  | file
  | directory
deriving DecidableEq, Repr

namespace Kind

def word : Kind → String
  | file => "file"
  | directory => "dir"

def letter : Kind → Char
  | file => '-'
  | directory => 'd'

end Kind

namespace Node

def kind : Node → Kind
  | file _ => .file
  | directory _ => .directory

def isDirectory (n : Node) : Bool := n.kind == .directory

/-- The displayed size: the length of a file's text in characters, and 0 for a directory. -/
def size : Node → Nat
  | file content => content.length
  | directory _ => 0

/-- The child of that name; a file has none. -/
def child? (name : String) : Node → Option Node
  | file _ => none
  | directory children => children.lookup name

/-- The node at the end of a chain of child names. -/
def descend? : Node → List String → Option Node
  | n, [] => some n
  | n, name :: rest => (n.child? name).bind fun c => c.descend? rest

/-! ### Building directories -/

/-- Put a node under a name into entries that are in increasing order of names, in place of the
node that had the name. -/
def put (name : String) (node : Node) : List (String × Node) → List (String × Node)
  | [] => [(name, node)]
  | (other, there) :: rest =>
    if name < other then (name, node) :: (other, there) :: rest
    else if name = other then (name, node) :: rest
    else (other, there) :: put name node rest

def ofEntries (entries : List (String × Node)) : Node :=
  directory (entries.foldl (fun children e => put e.1 e.2 children) [])

/-! ### Listings -/

/-- What a listing shows of a child. -/
structure Entry where
  name : String
  kind : Kind
  size : Nat
deriving DecidableEq, Repr

def entry (name : String) (n : Node) : Entry := ⟨name, n.kind, n.size⟩

end Node

end LineShell
