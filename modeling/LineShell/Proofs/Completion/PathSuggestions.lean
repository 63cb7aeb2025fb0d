import LineShell.Pattern
import LineShell.Proofs.Completion.Distinct
import LineShell.Proofs.FileSystem.Locating

/-!
# Suggested paths

A suggested path is a text put together from two: what is typed up to the last slash, and the name
of a child of the directory that this names. It is not looked up before it is suggested, so it has
to be shown that it leads where it came from.

    typed  = directory ++ beginning
    label  = directory ++ name           for a file
    label  = directory ++ name ++ "/"    for a directory

The typed directory may be anything: empty, relative or absolute, with `.`, `..`, doubled slashes or
parts that do not exist. Main statement: for every child with a proper name the label leads to this
child, one level below the typed directory (`suggest_path_lands`).
-/

namespace LineShell.Completion

variable {fs : FileSystem} {registry : Registry} {line typed : String} {s : Suggestion}

/-! ### The typed path in two parts -/

/-- The typed text up to its last slash, and the beginning of a name after it. -/
structure CutAtLastSlash (typed directory beginning : String) : Prop where
  joined : directory ++ beginning = typed
  slashed : directory = "" ∨ ∃ front, directory = front ++ "/"
  free : '/' ∉ beginning.toList

theorem splitPath_eq (typed : List Char) :
    splitPath typed = (typed.rdropWhile (· ≠ '/'), typed.rtakeWhile (· ≠ '/')) := by
  have hparts : typed.rdropWhile (· ≠ '/') ++ typed.rtakeWhile (· ≠ '/') = typed :=
    List.rdropWhile_append_rtakeWhile
  have hlength : typed.length - (typed.rtakeWhile (· ≠ '/')).length =
      (typed.rdropWhile (· ≠ '/')).length := by
    have hsum := congrArg List.length hparts
    rw [List.length_append] at hsum
    omega
  change (typed.take (typed.length - (typed.rtakeWhile (· ≠ '/')).length), _) = _
  rw [hlength]
  congr 1
  exact (List.prefix_iff_eq_take.mp ⟨_, hparts⟩).symm

def typedDirectory (typed : String) : String := String.ofList (splitPath typed.toList).1

def typedBeginning (typed : String) : String := String.ofList (splitPath typed.toList).2

theorem cutAtLastSlash (typed : String) :
    CutAtLastSlash typed (typedDirectory typed) (typedBeginning typed) where
  joined := by
    rw [← String.toList_inj, String.toList_append, typedDirectory, typedBeginning,
      String.toList_ofList, String.toList_ofList, splitPath_eq]
    exact List.rdropWhile_append_rtakeWhile
  slashed := by
    rw [typedDirectory, splitPath_eq]
    rcases Text.rdropWhile_cases (· ≠ '/') typed.toList with h | ⟨front, c, h, hc⟩
    · exact .inl (by rw [h])
    · have hslash : c = '/' := by simpa using hc
      refine .inr ⟨String.ofList front, ?_⟩
      rw [h, hslash, ← String.toList_inj]
      simp
  free := by
    rw [typedBeginning, String.toList_ofList, splitPath_eq]
    intro h
    simpa using List.mem_rtakeWhile_imp h

/-! ### Where suggestions come from -/

def ofChild (directory : String) (child : String × Node) : Suggestion :=
  ⟨child.2.kind.suggested, pathLabel directory (Node.entry child.1 child.2), some child.2.kind.word⟩

/-- Paths are only suggested as children of the typed directory: commands and switches are of other
kinds. -/
theorem mem_pathCandidates_of_mem_suggest (h : s ∈ suggest fs registry line)
    (hkind : s.kind = .directory ∨ s.kind = .file) : s ∈ pathCandidates fs (current line) := by
  rw [suggest] at h
  split at h
  · have hmem := List.mem_of_mem_take h
    obtain ⟨command, -, rfl⟩ := List.mem_map.mp hmem
    simp at hkind
  · split at h
    · cases h
    · next command _ =>
      have hmem := distinct_sublist.subset (List.mem_of_mem_take h)
      rcases List.mem_append.mp hmem with hmem | hmem
      · obtain ⟨switch, -, rfl⟩ := List.mem_map.mp hmem
        simp at hkind
      · split at hmem
        · cases hmem
        · exact hmem

/-- The children of the directory that a text names, and none where it names no directory. -/
def childrenAt (fs : FileSystem) (text : String) : List (String × Node) :=
  match fs.locate (some text) with
  | .ok (.directory children, _) => children
  | _ => []

theorem mem_childrenAt_iff {text : String} {child : String × Node} : child ∈ childrenAt fs text ↔
    ∃ children base, fs.locate (some text) = .ok (.directory children, base) ∧
      child ∈ children := by
  rw [childrenAt]
  split
  · next children base hdir => simp [hdir]
  · next hnone =>
    constructor
    · intro hmem
      cases hmem
    · rintro ⟨children, base, hdir, -⟩
      exact (hnone children base hdir).elim

/-- The candidates are children of one directory, filtered by how their names begin. -/
theorem pathCandidates_eq (fs : FileSystem) (typed : String) : pathCandidates fs typed =
    ((childrenAt fs (typedDirectory typed)).filter
      fun c => Text.begins (typedBeginning typed) c.1).map (ofChild (typedDirectory typed)) := by
  rw [pathCandidates, childrenAt, typedDirectory, typedBeginning]
  generalize splitPath typed.toList = parts
  obtain ⟨directory, beginning⟩ := parts
  simp only [FileSystem.list, Text.begins, String.toList_ofList]
  cases fs.locate (some (String.ofList directory)) with
  | error => rfl
  | ok found =>
    obtain ⟨node, base⟩ := found
    cases node with
    | file => rfl
    | directory children =>
      dsimp only
      rw [List.filter_map, List.map_map]
      rfl

/-- What is suggested for a path: the children of the directory that the text up to its last slash
names, so far as their names begin as typed. -/
theorem mem_pathCandidates_iff : s ∈ pathCandidates fs typed ↔
    ∃ children base, fs.locate (some (typedDirectory typed)) = .ok (.directory children, base) ∧
      ∃ child ∈ children, (typedBeginning typed).toList <+: child.1.toList ∧
        s = ofChild (typedDirectory typed) child := by
  rw [pathCandidates_eq, List.mem_map]
  constructor
  · rintro ⟨child, hchild, rfl⟩
    obtain ⟨hmem, hbegins⟩ := List.mem_filter.mp hchild
    obtain ⟨children, base, hbase, hmem⟩ := mem_childrenAt_iff.mp hmem
    exact ⟨children, base, hbase, child, hmem, Text.begins_iff.mp hbegins, rfl⟩
  · rintro ⟨children, base, hbase, child, hmem, hprefix, rfl⟩
    have hchild := mem_childrenAt_iff.mpr ⟨children, base, hbase, hmem⟩
    exact ⟨child, List.mem_filter.mpr ⟨hchild, Text.begins_iff.mpr hprefix⟩, rfl⟩

/-! ### Where suggestions lead -/

/-- The label of the suggestion leads to the node at the path, and the suggestion tells its kind: a
label with a slash at its end can be changed to, any other can be read. -/
structure LandsOn (fs : FileSystem) (s : Suggestion) (node : Node) (full : Path) : Prop where
  located : fs.locate (some s.label) = .ok (node, full)
  kind : s.kind = node.kind.suggested
  slash : s.label.toList.getLast? = some '/' ↔ node.kind = .directory
  entered : s.kind = .directory → fs.changeDirectory s.label = .ok { fs with cwd := full }
  read : s.kind = .file → ∃ content, node = .file content ∧ fs.read (some s.label) = .ok content

variable {directory : String} {e : Node.Entry}

/-- The slash that ends the label of a directory does not matter for where it leads. -/
theorem resolve_pathLabel (cwd : Path) (h : directory = "" ∨ ∃ front, directory = front ++ "/")
    (hname : ProperName e.name) :
    cwd.resolve (pathLabel directory e) = (cwd.resolve directory).down e.name hname := by
  have hne : directory ++ e.name ≠ "" := fun hnil => hname.1 (String.append_eq_empty_iff.mp hnil).2
  rw [pathLabel]
  split
  · rw [Path.resolve_append_slash cwd hne, Path.resolve_append_name cwd h hname]
  · rw [String.append_empty, Path.resolve_append_name cwd h hname]

/-- The slash at the end of a label tells a directory. -/
theorem getLast?_pathLabel (hname : ProperName e.name) :
    (pathLabel directory e).toList.getLast? = some '/' ↔ e.kind = .directory := by
  rw [pathLabel]
  split
  · next hkind => simpa using hkind
  · next hkind =>
    have hne : e.name.toList ≠ [] := fun hnil => hname.1 (String.toList_eq_nil_iff.mp hnil)
    refine iff_of_false ?_ hkind
    intro hlast
    rw [String.append_empty, String.toList_append, List.getLast?_append_of_ne_nil _ hne] at hlast
    exact hname.2.2.2 (List.mem_of_getLast? hlast)

/-- Following a label leads to its child, because the typed directory is empty or ends in a slash.
-/
theorem landsOn_ofChild (h : fs.tree.Ordered) {children : List (String × Node)} {base : Path}
    (hslashed : directory = "" ∨ ∃ front, directory = front ++ "/")
    (hbase : fs.locate (some directory) = .ok (.directory children, base))
    {child : String × Node} (hchild : child ∈ children) (hname : ProperName child.1) :
    LandsOn fs (ofChild directory child) child.2 (base.down child.1 hname) := by
  obtain ⟨name, node⟩ := child
  have hplace : fs.resolve (some (pathLabel directory (Node.entry name node))) =
      base.down name hname := by
    rw [(FileSystem.locate_eq_ok_iff.mp hbase).1]
    exact resolve_pathLabel fs.cwd hslashed hname
  have hlocated := FileSystem.locate_child h hbase hchild hname hplace
  refine ⟨hlocated, rfl, getLast?_pathLabel hname, ?_, ?_⟩
  · intro hkind
    cases node with
    | file => cases hkind
    | directory grandchildren =>
      exact FileSystem.changeDirectory_of_directory hlocated
  · intro hkind
    cases node with
    | file content =>
      exact ⟨content, rfl, FileSystem.read_of_file hlocated⟩
    | directory => cases hkind

/-- Suggested paths land on the child that they were made from, in every file system that a shell
can have. The typed directory exists, and the label leads one level down from it. -/
theorem suggest_path_lands (h : fs.Reachable) (hs : s ∈ suggest fs registry line)
    (hkind : s.kind = .directory ∨ s.kind = .file) :
    CutAtLastSlash (current line) (typedDirectory (current line)) (typedBeginning (current line)) ∧
    ∃ children base,
      fs.locate (some (typedDirectory (current line))) = .ok (.directory children, base) ∧
      (∃ child ∈ children, (typedBeginning (current line)).toList <+: child.1.toList ∧
        s = ofChild (typedDirectory (current line)) child) ∧
      ∀ child ∈ children, s = ofChild (typedDirectory (current line)) child →
        ∀ hname : ProperName child.1, LandsOn fs s child.2 (base.down child.1 hname) := by
  have hcut := cutAtLastSlash (current line)
  obtain ⟨children, base, hbase, hchild⟩ :=
    mem_pathCandidates_iff.mp (mem_pathCandidates_of_mem_suggest hs hkind)
  refine ⟨hcut, children, base, hbase, hchild, ?_⟩
  rintro child hmem rfl hname
  exact landsOn_ofChild h.ordered hcut.slashed hbase hmem hname

/-- The typed directory goes through one that is not there, and the suggestion can be entered. -/
theorem suggest_path_lands_projects :
    ⟨.directory, "/home/x/../dev/projects/", some "dir"⟩ ∈
      suggest FileSystem.seeded Builtin.registry "cd '/home/x/../dev/pr" ∧
    FileSystem.seeded.changeDirectory "/home/x/../dev/projects/" =
      .ok ⟨FileSystem.seededTree, ⟨["home", "dev", "projects"], by decide⟩⟩ := by
  have hmem : ⟨.directory, "/home/x/../dev/projects/", some "dir"⟩ ∈
      suggest FileSystem.seeded Builtin.registry "cd '/home/x/../dev/pr" := by decide +kernel
  obtain ⟨-, children, base, hbase, -, hlands⟩ := suggest_path_lands (.seeded []) hmem (.inl rfl)
  have hdirectory : typedDirectory (current "cd '/home/x/../dev/pr") = "/home/x/../dev/" := by
    decide +kernel
  rw [hdirectory] at hbase hlands
  -- the typed directory is the home directory, so its children are known
  obtain ⟨rfl, hfound⟩ := FileSystem.locate_eq_ok_iff.mp hbase
  injection hfound with hfound
  injection hfound with hfound
  subst hfound
  have hproper : ProperName "projects" := by decide
  exact ⟨hmem, (hlands ("projects", _) (.tail _ (.head _)) rfl hproper).entered rfl⟩

end LineShell.Completion
