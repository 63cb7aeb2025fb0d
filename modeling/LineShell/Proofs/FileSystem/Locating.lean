import LineShell.Proofs.FileSystem.WorkingDirectory
import LineShell.Proofs.Node.Walk

/-!
# Lookup and the tree

A path argument goes through three layers: it is joined to the working directory, the joined text
is normalized, and the tree is walked along the segments of the normalized text. What comes out is
what the tree says: a node is found exactly when the segments reach it, in every other case the
answer is that there is none, and every node below proper names is found.

The layers meet in the written path, whose segments are its names (`segments_written`), and in the
order of the tree, which no action changes (`Reachable.ordered`). Main statement:
`locate_iff_reaches`.
-/

namespace LineShell

def Path.segments (text : String) : List String := (Text.pieces '/' text).filter (· ≠ "")

@[simp] theorem Path.segments_written (p : Path) : segments p.toString = p.names :=
  segments_toString p

namespace FileSystem

/-! ### Reachable file systems -/

/-- A file system that a shell can have: the seeded one, or one over a given tree, after any
actions. -/
inductive Reachable : FileSystem → Prop
  | seeded (actions) : Reachable (seeded.run actions)
  | ofTree {tree cwd start} : tree.Ordered → ofTree tree cwd = .ok start → ∀ actions,
      Reachable (start.run actions)

theorem ordered_seededTree : seededTree.Ordered := by
  have hfile : ∀ content, (Node.file content).Ordered := fun _ => .file
  have hterminal : (Node.ofEntries []).Ordered := Node.ordered_ofEntries (by simp)
  have hprojects : (Node.ofEntries [("web-terminal", Node.ofEntries [])]).Ordered :=
    Node.ordered_ofEntries (by simpa using hterminal)
  refine Node.ordered_ofEntries ?_
  simp only [List.mem_singleton, forall_eq]
  refine Node.ordered_ofEntries ?_
  simp only [List.mem_singleton, forall_eq]
  refine Node.ordered_ofEntries ?_
  simp [hfile, hprojects]

/-- No action changes the tree, so the children stay in order. -/
theorem Reachable.ordered {fs : FileSystem} (h : fs.Reachable) : fs.tree.Ordered := by
  cases h with
  | seeded actions =>
    rw [(moves_run FileSystem.seeded actions).tree_eq]
    exact ordered_seededTree
  | ofTree hordered hstart actions =>
    obtain ⟨-, -, rfl⟩ := ofTree_eq_ok_iff.mp hstart
    rw [(moves_run _ actions).tree_eq]
    exact hordered

/-! ### Joining -/

variable {fs : FileSystem}

/-- A path argument names what the joined text names: absolute text as it is, any other after the
working directory and a slash. -/
theorem resolve_eq_ofString (fs : FileSystem) (text : String) :
    fs.resolve (some text) =
      Path.ofString (if Text.begins "/" text then text else fs.cwd.toString ++ "/" ++ text) :=
  Path.resolve_eq_ofString fs.cwd text

/-! ### Walking -/

/-- A lookup succeeds just where the segments lead to a node. -/
theorem locate_eq_ok_iff_reaches (h : fs.tree.Ordered) {path : Option String} {node : Node}
    {full : Path} : fs.locate path = .ok (node, full) ↔
      full = fs.resolve path ∧ fs.tree.Reaches (Path.segments full.toString) node := by
  rw [locate_eq_ok_iff, Node.descend?_eq_some_iff h, Path.segments_written]

/-- The children of a directory that was found stand in the order of their names. -/
theorem sorted_of_locate (h : fs.tree.Ordered) {path : Option String}
    {children : List (String × Node)} {base : Path}
    (hdir : fs.locate path = .ok (.directory children, base)) : Node.Sorted children := by
  have hreaches := ((locate_eq_ok_iff_reaches h).mp hdir).2
  cases hreaches.ordered h with
  | directory hsorted _ => exact hsorted

/-- A lookup has one way to fail, and its error holds the whole path. -/
theorem locate_eq_error_iff_misses (h : fs.tree.Ordered) {path : Option String} {e : FileError} :
    fs.locate path = .error e ↔ e = .notFound (fs.resolve path) ∧
      fs.tree.Misses (Path.segments (fs.resolve path).toString) := by
  rw [Path.segments_written, ← Node.descend?_eq_none_iff h, locate]
  split
  · next node hfound => simp [hfound]
  · next hnone => simp [hnone, eq_comm]

/-- A node below proper names is where their written path says, from everywhere. -/
theorem locate_written (h : fs.tree.Ordered) {names : List String} {node : Node}
    (hnames : ∀ s ∈ names, ProperName s) (hnode : fs.tree.Reaches names node) (cwd : Path) :
    locate ⟨fs.tree, cwd⟩ (some (Path.toString ⟨names, hnames⟩)) = .ok (node, ⟨names, hnames⟩) := by
  have hfull : Path.mk names hnames =
      resolve ⟨fs.tree, cwd⟩ (some (Path.toString ⟨names, hnames⟩)) :=
    (Path.resolve_toString cwd ⟨names, hnames⟩).symm
  exact locate_eq_ok_iff.mpr ⟨hfull, (Node.descend?_eq_some_iff h).mpr hnode⟩

/-- A child of a directory that was found is found by any text that names its place. -/
theorem locate_child (h : fs.tree.Ordered) {path : Option String} {text name : String}
    {children : List (String × Node)} {child : Node} {base : Path}
    (hbase : fs.locate path = .ok (.directory children, base)) (hchild : (name, child) ∈ children)
    (hname : ProperName name) (htext : fs.resolve (some text) = base.down name hname) :
    fs.locate (some text) = .ok (child, base.down name hname) := by
  have hreaches := ((locate_eq_ok_iff_reaches h).mp hbase).2
  rw [Path.segments_written] at hreaches
  refine (locate_eq_ok_iff_reaches h).mpr ⟨htext.symm, ?_⟩
  rw [Path.segments_written]
  exact hreaches.concat hchild

/-- **Lookup says what the tree says.** Text is resolved by joining and normalizing. A node is
found exactly when the segments of the resolved path reach it, with that path; when they miss, and
only then, there is no such node, and that is the only error. Every node below proper names is
found under their written path, from everywhere; other names are never looked for. -/
theorem locate_iff_reaches {fs : FileSystem} (h : fs.Reachable) :
    (∀ text, (fs.resolve (some text)).toString = Path.normalize
      (if Text.begins "/" text then text else fs.cwd.toString ++ "/" ++ text)) ∧
    (∀ path node full, fs.locate path = .ok (node, full) ↔
      full = fs.resolve path ∧ fs.tree.Reaches (Path.segments full.toString) node) ∧
    (∀ path e, fs.locate path = .error e ↔
      e = .notFound (fs.resolve path) ∧
        fs.tree.Misses (Path.segments (fs.resolve path).toString)) ∧
    (∀ names node, (∀ s ∈ names, ProperName s) → fs.tree.Reaches names node → ∀ cwd,
      ∃ full, locate ⟨fs.tree, cwd⟩ (some ("/" ++ String.intercalate "/" names)) =
        .ok (node, full) ∧ full.toString = "/" ++ String.intercalate "/" names) ∧
    (∀ path, ∀ s ∈ Path.segments (fs.resolve path).toString, ProperName s) := by
  refine ⟨fun text => ?_, fun path node full => locate_eq_ok_iff_reaches h.ordered,
    fun path e => locate_eq_error_iff_misses h.ordered, ?_, ?_⟩
  · rw [resolve_eq_ofString]
    rfl
  · intro names node hnames hnode cwd
    exact ⟨⟨names, hnames⟩, locate_written h.ordered hnames hnode cwd, rfl⟩
  · intro path s hs
    rw [Path.segments_written] at hs
    exact (fs.resolve path).proper s hs

theorem ordered_oddTree : oddTree.Ordered := by
  have hempty : (Node.ofEntries []).Ordered := Node.ordered_ofEntries (by simp)
  have hfile : ∀ content, (Node.file content).Ordered := fun _ => .file
  have ha : (Node.ofEntries [("..", .file ""), ("b", Node.ofEntries [])]).Ordered :=
    Node.ordered_ofEntries (by simp [hempty, hfile])
  exact Node.ordered_ofEntries (by simp [hempty, hfile, ha])

/-- Up to the root and down again, from a directory with a file named `..`; and a child whose name
has a slash, which no path reaches. -/
theorem locate_iff_reaches_oddTree : ∃ start, ofTree oddTree "a" = .ok start ∧
    (∃ node, start.locate (some "../../a/./b") = .ok (node, ⟨["a", "b"], by decide⟩)) ∧
    start.locate (some "/b/c") = .error (.notFound ⟨["b", "c"], by decide⟩) := by
  have hstart : ofTree oddTree "a" = .ok ⟨oddTree, ⟨["a"], by decide⟩⟩ := rfl
  obtain ⟨-, hfound, hmissed, -⟩ := locate_iff_reaches (.ofTree ordered_oddTree hstart [])
  refine ⟨_, hstart, ⟨Node.ofEntries [], (hfound _ _ _).mpr ⟨rfl, ?_⟩⟩,
    (hmissed _ _).mpr ⟨rfl, ?_⟩⟩
  · exact (Node.descend?_eq_some_iff ordered_oddTree).mp rfl
  · exact (Node.descend?_eq_none_iff ordered_oddTree).mp rfl

end FileSystem

end LineShell
