import LineShell.Proofs.Completion.Distinct
import LineShell.Proofs.Completion.PathSuggestions

/-!
# What completes an argument

After a command, what may be suggested is a flag that the command declares or a child of the typed
directory, if it begins as typed. The flags stand in front, in the order of their declaration, the
children after them in the order of their names, and of all these the first few are suggested.

    Completes : what may be suggested for the typed text
    Precedes  : which of two suggestions stands in front of the other
    FirstOf n : the first `n` of what is wanted, in order

None of them mentions how the candidates are found, put together and cut off. Main statement: the
suggestions are the first ten of what completes the typed text (`suggest_argument`).
-/

namespace LineShell

/-! ### The first few in order -/

/-- The list has the first `n` of what is wanted, in order: all of it when there is less, and
otherwise what comes before anything that is left out. -/
structure FirstOf {α : Type} (n : Nat) (Wanted : α → Prop) (Before : α → α → Prop)
    (l : List α) : Prop where
  length_le : l.length ≤ n
  ordered : l.Pairwise Before
  wanted : ∀ a ∈ l, Wanted a
  complete : l.length < n → ∀ a, Wanted a → a ∈ l
  before : ∀ a, Wanted a → a ∉ l → ∀ b ∈ l, Before b a

/-- Cutting a list that is in order and holds what is wanted keeps the first part of it. -/
theorem firstOf_take {α : Type} {Wanted : α → Prop} {Before : α → α → Prop} {l : List α}
    (hordered : l.Pairwise Before) (hwanted : ∀ a, a ∈ l ↔ Wanted a) (n : Nat) :
    FirstOf n Wanted Before (l.take n) where
  length_le := List.length_take_le n l
  ordered := hordered.sublist (List.take_sublist n l)
  wanted := fun a ha => (hwanted a).mp (List.mem_of_mem_take ha)
  complete := by
    intro hshort a ha
    rw [List.length_take] at hshort
    rw [List.take_of_length_le (by omega)]
    exact (hwanted a).mpr ha
  before := by
    intro a ha hnot b hb
    have hrest : a ∈ l.drop n := by
      have hmem := (hwanted a).mpr ha
      rw [← List.take_append_drop n l] at hmem
      exact (List.mem_append.mp hmem).resolve_left hnot
    rw [← List.take_append_drop n l] at hordered
    exact (List.pairwise_append.mp hordered).2.2 b hb a hrest

/-! ### What completes a text -/

def Page.flags (p : Page) : List String := p.switches.map fun s => s.flag

namespace Completion

def switchSuggestion (flag : String) : Suggestion := ⟨.switch, flag, some "option"⟩

/-- The suggestion of a child: the typed directory and the name, and a slash for a directory. -/
def pathSuggestion (directory name : String) : Kind → Suggestion
  | .file => ⟨.file, directory ++ name, some "file"⟩
  | .directory => ⟨.directory, directory ++ name ++ "/", some "dir"⟩

/-- What may be suggested for a typed text: a declared flag that begins with it, and, when the text
does not begin as a flag does, a child of the typed directory whose name begins as typed. -/
inductive Completes (files : FileSystem) (page : Page) (typed : String) : Suggestion → Prop
  | switch {flag} : flag ∈ page.flags → typed.toList <+: flag.toList →
      Completes files page typed (switchSuggestion flag)
  | path {children base name node} : Text.begins "-" typed = false →
      files.locate (some (typedDirectory typed)) = .ok (.directory children, base) →
      (name, node) ∈ children → (typedBeginning typed).toList <+: name.toList →
      Completes files page typed (pathSuggestion (typedDirectory typed) name node.kind)

/-- Flags come in the order in which they are declared first, then paths in the order of names. -/
inductive Precedes (page : Page) (directory : String) : Suggestion → Suggestion → Prop
  | switches {a b} : page.flags.idxOf a < page.flags.idxOf b →
      Precedes page directory (switchSuggestion a) (switchSuggestion b)
  | switchPath {flag name kind} :
      Precedes page directory (switchSuggestion flag) (pathSuggestion directory name kind)
  | paths {a b kind kind'} : a < b →
      Precedes page directory (pathSuggestion directory a kind) (pathSuggestion directory b kind')

variable {files : FileSystem} {page : Page} {typed directory name : String} {kind : Kind}
  {s t : Suggestion}

theorem prefix_label_pathSuggestion :
    (directory ++ name).toList <+: (pathSuggestion directory name kind).label.toList := by
  cases kind with
  | file => exact List.prefix_refl _
  | directory =>
    simp only [pathSuggestion, String.toList_append]
    exact List.prefix_append _ _

/-- Children of one directory have labels of their own: the slash tells a directory from a file. -/
theorem pathSuggestion_key_inj {other : String} {kind' : Kind}
    (h : (pathSuggestion directory name kind).key = (pathSuggestion directory other kind').key) :
    name = other ∧ kind = kind' := by
  obtain ⟨hkind, hlabel⟩ := Prod.mk.inj h
  cases kind <;> cases kind'
  · exact ⟨(String.append_right_inj _).mp hlabel, rfl⟩
  · cases hkind
  · cases hkind
  · exact ⟨(String.append_right_inj _).mp ((String.append_left_inj _).mp hlabel), rfl⟩

/-- A flag and a path are never repeats of each other, because their kinds differ. -/
theorem switch_key_ne_path {flag : String} :
    (switchSuggestion flag).key ≠ (pathSuggestion directory name kind).key := by
  intro heq
  have hkind := congrArg Prod.fst heq
  cases kind <;> cases hkind

/-- What completes a text goes on with it. -/
theorem Completes.prefix_label (h : Completes files page typed s) :
    typed.toList <+: s.label.toList := by
  cases h with
  | switch _ hprefix => exact hprefix
  | path _ _ _ hprefix =>
    refine List.IsPrefix.trans ?_ prefix_label_pathSuggestion
    obtain ⟨rest, hrest⟩ := hprefix
    refine ⟨rest, ?_⟩
    rw [String.toList_append, ← hrest, ← List.append_assoc, ← String.toList_append,
      (cutAtLastSlash typed).joined]

/-- Kind and label tell apart what completes a text. -/
theorem Completes.eq_of_key_eq (hs : Completes files page typed s)
    (ht : Completes files page typed t) (h : s.key = t.key) : s = t := by
  cases hs with
  | switch =>
    cases ht with
    | switch => exact congrArg switchSuggestion (congrArg Prod.snd h)
    | path => exact absurd h switch_key_ne_path
  | path =>
    cases ht with
    | switch => exact absurd h.symm switch_key_ne_path
    | path =>
      obtain ⟨hname, hkind⟩ := pathSuggestion_key_inj h
      rw [hname, hkind]

/-- What stands in front is no repeat. -/
theorem Precedes.key_ne (h : Precedes page directory s t) : s.key ≠ t.key := by
  cases h with
  | @switches a b hlt =>
    intro heq
    have hflag : a = b := congrArg Prod.snd heq
    exact Nat.lt_irrefl _ (hflag ▸ hlt)
  | switchPath => exact switch_key_ne_path
  | paths hlt =>
    intro heq
    exact String.lt_irrefl _ ((pathSuggestion_key_inj heq).1 ▸ hlt)

/-! ### The candidates -/

theorem switchCandidates_eq (page : Page) (typed : String) : switchCandidates page typed =
    (page.flags.map switchSuggestion).filter fun s => Text.begins typed s.label := by
  rw [switchCandidates, Page.flags, List.map_map, List.filter_map]
  rfl

/-- The children of the typed directory, and none when the typed text begins as a flag does. -/
def typedChildren (files : FileSystem) (typed : String) : List (String × Node) :=
  if Text.begins "-" typed then [] else childrenAt files (typedDirectory typed)

def typedPaths (files : FileSystem) (typed : String) : List Suggestion :=
  ((typedChildren files typed).filter fun c => Text.begins (typedBeginning typed) c.1).map
    fun c => pathSuggestion (typedDirectory typed) c.1 c.2.kind

theorem ofChild_eq (directory : String) (child : String × Node) :
    ofChild directory child = pathSuggestion directory child.1 child.2.kind := by
  obtain ⟨name, node⟩ := child
  cases node with
  | file => simp [ofChild, pathLabel, Node.entry, Node.kind, pathSuggestion, Kind.suggested,
      Kind.word]
  | directory => rfl

theorem typedPaths_eq (files : FileSystem) (typed : String) : typedPaths files typed =
    if Text.begins "-" typed then [] else pathCandidates files typed := by
  rw [typedPaths, typedChildren]
  split
  · rfl
  · rw [pathCandidates_eq]
    exact List.map_congr_left fun child _ => (ofChild_eq _ child).symm

/-- Repeats are dropped after the switches and the paths have been put together. -/
theorem argumentCandidates_eq (files : FileSystem) (page : Page) (typed : String) :
    argumentCandidates files page typed =
      distinct [] (switchCandidates page typed ++ typedPaths files typed) := by
  rw [argumentCandidates, typedPaths_eq]

/-! ### What the candidates are -/

theorem mem_switchCandidates_iff : s ∈ switchCandidates page typed ↔
    ∃ flag ∈ page.flags, typed.toList <+: flag.toList ∧ s = switchSuggestion flag := by
  rw [switchCandidates_eq, List.mem_filter, List.mem_map]
  constructor
  · rintro ⟨⟨flag, hflag, rfl⟩, hbegins⟩
    exact ⟨flag, hflag, Text.begins_iff.mp hbegins, rfl⟩
  · rintro ⟨flag, hflag, hprefix, rfl⟩
    exact ⟨⟨flag, hflag, rfl⟩, Text.begins_iff.mpr hprefix⟩

theorem mem_typedChildren_iff {child : String × Node} : child ∈ typedChildren files typed ↔
    Text.begins "-" typed = false ∧ child ∈ childrenAt files (typedDirectory typed) := by
  rw [typedChildren]
  split
  · next hdash => simp [hdash]
  · next hdash => simp [hdash]

/-- Before repeats are dropped the candidates are just what may be suggested. -/
theorem mem_append_candidates_iff :
    s ∈ switchCandidates page typed ++ typedPaths files typed ↔ Completes files page typed s := by
  rw [List.mem_append, mem_switchCandidates_iff, typedPaths, List.mem_map]
  constructor
  · rintro (⟨flag, hflag, hprefix, rfl⟩ | ⟨child, hchild, rfl⟩)
    · exact .switch hflag hprefix
    · obtain ⟨hmem, hbegins⟩ := List.mem_filter.mp hchild
      obtain ⟨hdash, hmem⟩ := mem_typedChildren_iff.mp hmem
      obtain ⟨children, base, hdir, hmem⟩ := mem_childrenAt_iff.mp hmem
      exact .path hdash hdir hmem (Text.begins_iff.mp hbegins)
  · rintro (⟨hflag, hprefix⟩ | ⟨hdash, hdir, hmem, hprefix⟩)
    · exact .inl ⟨_, hflag, hprefix, rfl⟩
    · have hchild :=
        mem_typedChildren_iff.mpr ⟨hdash, mem_childrenAt_iff.mpr ⟨_, _, hdir, hmem⟩⟩
      exact .inr ⟨_, List.mem_filter.mpr ⟨hchild, Text.begins_iff.mpr hprefix⟩, rfl⟩

/-- A repeat that is left out is equal to the candidate that came first, so nothing is missing. -/
theorem mem_argumentCandidates_iff :
    s ∈ argumentCandidates files page typed ↔ Completes files page typed s := by
  rw [argumentCandidates_eq]
  constructor
  · intro h
    exact mem_append_candidates_iff.mp (distinct_sublist.subset h)
  · intro h
    obtain ⟨t, ht, hkey⟩ :=
      exists_mem_distinct (mem_append_candidates_iff.mpr h) List.not_mem_nil
    have hwanted := mem_append_candidates_iff.mp (distinct_sublist.subset ht)
    rw [h.eq_of_key_eq hwanted hkey.symm]
    exact ht

/-! ### Their order -/

theorem idxOf_key_switchSuggestion (flags : List String) (flag : String) :
    ((flags.map switchSuggestion).map Suggestion.key).idxOf (switchSuggestion flag).key =
      flags.idxOf flag := by
  rw [List.map_map, List.idxOf, List.findIdx_map, List.idxOf]
  rfl

/-- The switches stand in the order of their first declaration. -/
theorem switches_ordered :
    (distinct [] (switchCandidates page typed)).Pairwise (Precedes page directory) := by
  rw [switchCandidates_eq, distinct_filter fun _ _ => congrArg (Text.begins typed)]
  refine List.Pairwise.filter _ (distinct_ordered.imp_of_mem fun {a b} ha hb hab => ?_)
  obtain ⟨flag, -, rfl⟩ := List.mem_map.mp (distinct_sublist.subset ha)
  obtain ⟨flag', -, rfl⟩ := List.mem_map.mp (distinct_sublist.subset hb)
  rw [idxOf_key_switchSuggestion, idxOf_key_switchSuggestion] at hab
  exact .switches hab

theorem sorted_typedChildren (h : files.tree.Ordered) :
    Node.Sorted (typedChildren files typed) := by
  rw [typedChildren, childrenAt]
  split
  · exact List.Pairwise.nil
  · split
    · next children base hdir => exact FileSystem.sorted_of_locate h hdir
    · exact List.Pairwise.nil

/-- Paths come in the order of names, because the children are sorted. -/
theorem typedPaths_ordered (page : Page) (h : files.tree.Ordered) :
    (typedPaths files typed).Pairwise (Precedes page (typedDirectory typed)) := by
  rw [typedPaths, List.pairwise_map]
  exact ((sorted_typedChildren h).filter _).imp fun hlt => .paths hlt

/-- No child repeats a flag or another child, so only repeated flags are left out. -/
theorem argumentCandidates_eq_append (h : files.tree.Ordered) :
    argumentCandidates files page typed =
      distinct [] (switchCandidates page typed) ++ typedPaths files typed := by
  rw [argumentCandidates_eq]
  refine distinct_append ?_ (fun _ _ => List.not_mem_nil) ?_
  · rw [List.Nodup, List.pairwise_map]
    exact (typedPaths_ordered page h).imp Precedes.key_ne
  · intro s hs t ht
    obtain ⟨child, -, rfl⟩ := List.mem_map.mp hs
    obtain ⟨flag, -, -, rfl⟩ := mem_switchCandidates_iff.mp ht
    exact switch_key_ne_path.symm

/-- Flags keep their first places, since a repeat is dropped where it stands later. -/
theorem argumentCandidates_ordered (h : files.tree.Ordered) :
    (argumentCandidates files page typed).Pairwise (Precedes page (typedDirectory typed)) := by
  rw [argumentCandidates_eq_append h]
  refine List.pairwise_append.mpr ⟨switches_ordered, typedPaths_ordered page h, ?_⟩
  intro s hs t ht
  obtain ⟨flag, -, -, rfl⟩ := mem_switchCandidates_iff.mp (distinct_sublist.subset hs)
  obtain ⟨child, -, rfl⟩ := List.mem_map.mp ht
  exact .switchPath

/-! ### The suggestions -/

variable {registry : Registry} {line : String} {command : Command}

theorem suggest_of_find (hargument : inCommand line = false)
    (hcommand : registry.find? ((Token.tokenize line).headD "") = some command) :
    suggest files registry line =
      (argumentCandidates files command.toPage (current line)).take argumentLimit := by
  rw [suggest, hargument, hcommand]
  rfl

theorem suggest_of_find_none (hargument : inCommand line = false)
    (hcommand : registry.find? ((Token.tokenize line).headD "") = none) :
    suggest files registry line = [] := by
  rw [suggest, hargument, hcommand]
  rfl

/-- What is suggested in an argument position belongs to a command that there is. -/
theorem completes_of_mem_suggest (hargument : inCommand line = false)
    (hs : s ∈ suggest files registry line) :
    ∃ command : Command, Completes files command.toPage (current line) s := by
  cases hcommand : registry.find? ((Token.tokenize line).headD "") with
  | none =>
    rw [suggest_of_find_none hargument hcommand] at hs
    cases hs
  | some command =>
    rw [suggest_of_find hargument hcommand] at hs
    exact ⟨command, mem_argumentCandidates_iff.mp (List.mem_of_mem_take hs)⟩

/-- Flags are in front, as far as there is room for them. -/
theorem take_argumentCandidates (h : files.tree.Ordered) (n : Nat) :
    ∃ (flags : List String) (paths : List Suggestion),
      (argumentCandidates files page typed).take n = flags.map switchSuggestion ++ paths ∧
      flags.Sublist page.flags ∧ paths.Sublist (typedPaths files typed) := by
  have hswitches : ((distinct [] (switchCandidates page typed)).take n).Sublist
      (page.flags.map switchSuggestion) := by
    refine (List.take_sublist _ _).trans (distinct_sublist.trans ?_)
    rw [switchCandidates_eq]
    exact List.filter_sublist
  obtain ⟨flags, hflags, heq⟩ := List.sublist_map_iff.mp hswitches
  rw [argumentCandidates_eq_append h, List.take_append, heq]
  exact ⟨flags, _, rfl, hflags, List.take_sublist _ _⟩

/-- **The suggestions for an argument are the first ten of what completes it.** They are the
declared flags that begin as typed, in the order of their declaration, and after them, unless a flag
is typed, the children of the typed directory whose names begin as typed, in the order of names.
None is repeated, each goes on with the typed text, and when there are fewer than ten none is
missing. -/
theorem suggest_argument (hordered : files.tree.Ordered) (hargument : inCommand line = false)
    (hcommand : registry.find? ((Token.tokenize line).headD "") = some command) :
    CutAtLastSlash (current line) (typedDirectory (current line)) (typedBeginning (current line)) ∧
    FirstOf 10 (Completes files command.toPage (current line))
      (Precedes command.toPage (typedDirectory (current line))) (suggest files registry line) ∧
    ((suggest files registry line).map Suggestion.key).Nodup ∧
    (∀ s ∈ suggest files registry line, (current line).toList <+: s.label.toList) ∧
    ∃ (flags : List String) (paths : List Suggestion),
      suggest files registry line = flags.map switchSuggestion ++ paths ∧
      flags.Sublist command.toPage.flags ∧
      (∀ s ∈ paths, s.kind = .directory ∨ s.kind = .file) ∧
      (Text.begins "-" (current line) = true → paths = []) := by
  have hfirst : FirstOf 10 (Completes files command.toPage (current line))
      (Precedes command.toPage (typedDirectory (current line))) (suggest files registry line) := by
    rw [suggest_of_find hargument hcommand]
    exact firstOf_take (argumentCandidates_ordered hordered)
      (fun _ => mem_argumentCandidates_iff) argumentLimit
  refine ⟨cutAtLastSlash _, hfirst, ?_, fun s hs => (hfirst.wanted s hs).prefix_label, ?_⟩
  · rw [List.Nodup, List.pairwise_map]
    exact hfirst.ordered.imp Precedes.key_ne
  · rw [suggest_of_find hargument hcommand]
    obtain ⟨flags, paths, heq, hflags, hpaths⟩ := take_argumentCandidates hordered argumentLimit
    refine ⟨flags, paths, heq, hflags, fun s hs => ?_, fun hdash => ?_⟩
    · obtain ⟨child, -, rfl⟩ := List.mem_map.mp (hpaths.subset hs)
      cases child.2.kind
      · exact .inr rfl
      · exact .inl rfl
    · rw [typedPaths_eq, if_pos hdash] at hpaths
      exact List.sublist_nil.mp hpaths

/-- A directory with ten children, the last of them a directory. -/
def fullDirectory : FileSystem where
  tree := .ofEntries (("f9", .ofEntries []) ::
    ["f0", "f1", "f2", "f3", "f4", "f5", "f6", "f7", "f8"].map fun name => (name, .file ""))
  cwd := Path.root

theorem ordered_fullDirectory : fullDirectory.tree.Ordered := by
  have hempty : (Node.ofEntries []).Ordered := Node.ordered_ofEntries (by simp)
  have hfile : ∀ content, (Node.file content).Ordered := fun _ => .file
  exact Node.ordered_ofEntries (by simp [hempty, hfile])

def packCommand : Command :=
  Builtin.command "pack" "" "" [⟨"-a", ""⟩, ⟨"-b", ""⟩, ⟨"-a", ""⟩] [] Builtin.pwd

def packSuggestions : List Suggestion := suggest fullDirectory ⟨[packCommand], by decide⟩ "pack "

/-- Two flags and eight of ten children are suggested, and a child that is left out comes after
them. -/
theorem suggest_argument_fullDirectory :
    packSuggestions.length = 10 ∧ (packSuggestions.map Suggestion.key).Nodup ∧
    ∀ s ∈ packSuggestions,
      Precedes packCommand.toPage "" s (pathSuggestion "" "f9" .directory) := by
  have hargument : inCommand "pack " = false := by decide +kernel
  have hcommand : Registry.find? ⟨[packCommand], by decide⟩ ((Token.tokenize "pack ").headD "") =
      some packCommand := by
    have hname : (Token.tokenize "pack ").headD "" = "pack" := by decide +kernel
    rw [hname]
    rfl
  have hcurrent : current "pack " = "" := by decide +kernel
  have hwanted : Completes fullDirectory packCommand.toPage ""
      (pathSuggestion "" "f9" .directory) :=
    mem_argumentCandidates_iff.mp (by decide +kernel)
  obtain ⟨-, hfirst, hnodup, -⟩ := suggest_argument ordered_fullDirectory hargument hcommand
  rw [hcurrent] at hfirst
  exact ⟨by decide +kernel, hnodup, hfirst.before _ hwanted (by decide +kernel)⟩

end Completion

end LineShell
