import LineShell.Node

/-!
# Walking a tree

`descend?` looks every name up in a list of children. What it finds is what the tree says, for the
trees there are: the children of a directory stand in strictly increasing order of names
(`Ordered`), so no name stands twice, and building from entries makes it so (`ordered_ofEntries`).

    Reaches : a node, names, a node ──▶ from child to child, the names lead to the last node
    Misses  : a node, names         ──▶ on the way a name is no child, or a file is in the way

Of the two exactly one is the case, and the walk tells which (`descend?_eq_some_iff`,
`descend?_eq_none_iff`).
-/

namespace LineShell.Node

/-! ### Order -/

/-- Children in strictly increasing order of names. -/
def Sorted (children : List (String × Node)) : Prop := children.Pairwise fun a b => a.1 < b.1

/-- In every directory of the tree the children are sorted. -/
inductive Ordered : Node → Prop
  | file {content} : Ordered (.file content)
  | directory {children} : Sorted children → (∀ c ∈ children, Ordered c.2) →
      Ordered (.directory children)

theorem mem_or_eq_of_mem_put {name : String} {node : Node} {children : List (String × Node)}
    {c : String × Node} (h : c ∈ put name node children) : c = (name, node) ∨ c ∈ children := by
  induction children with
  | nil => simpa [put] using h
  | cons first rest ih =>
    obtain ⟨other, there⟩ := first
    rw [put] at h
    split at h
    · exact List.mem_cons.mp h
    · split at h
      · rcases List.mem_cons.mp h with hc | hc
        · exact .inl hc
        · exact .inr (List.mem_cons_of_mem _ hc)
      · rcases List.mem_cons.mp h with hc | hc
        · exact .inr (hc ▸ List.mem_cons_self ..)
        · exact (ih hc).imp_right (List.mem_cons_of_mem _)

/-- Putting a node in keeps the order of names. -/
theorem sorted_put {children : List (String × Node)} (h : Sorted children) (name : String)
    (node : Node) : Sorted (put name node children) := by
  induction children with
  | nil => exact List.pairwise_singleton _ _
  | cons first rest ih =>
    obtain ⟨other, there⟩ := first
    obtain ⟨hfirst, hrest⟩ := List.pairwise_cons.mp h
    rw [put]
    split
    · next hlt =>
      refine List.pairwise_cons.mpr ⟨fun c hc => ?_, h⟩
      rcases List.mem_cons.mp hc with rfl | hc
      · exact hlt
      · exact String.lt_trans hlt (hfirst c hc)
    · next hnot =>
      split
      · next heq =>
        subst heq
        exact List.pairwise_cons.mpr ⟨hfirst, hrest⟩
      · next hne =>
        refine List.pairwise_cons.mpr ⟨fun c hc => ?_, ih hrest⟩
        rcases mem_or_eq_of_mem_put hc with rfl | hc
        · exact Std.lt_of_le_of_ne (String.not_lt.mp hnot) (Ne.symm hne)
        · exact hfirst c hc

/-- A directory that is built from ordered trees is an ordered tree. -/
theorem ordered_ofEntries {entries : List (String × Node)} (h : ∀ e ∈ entries, e.2.Ordered) :
    (ofEntries entries).Ordered := by
  rw [ofEntries]
  -- the children so far are sorted and are trees of the entries
  suffices hfold : ∀ children, Sorted children → (∀ c ∈ children, c.2.Ordered) →
      (directory (entries.foldl (fun children e => put e.1 e.2 children) children)).Ordered from
    hfold [] List.Pairwise.nil (by simp)
  induction entries with
  | nil => exact fun children hsorted hordered => .directory hsorted hordered
  | cons e entries ih =>
    intro children hsorted hordered
    refine ih (fun e he => h e (List.mem_cons_of_mem _ he)) _ (sorted_put hsorted e.1 e.2) ?_
    intro c hc
    rcases mem_or_eq_of_mem_put hc with rfl | hc
    · exact h e (List.mem_cons_self ..)
    · exact hordered c hc

/-! ### Children -/

/-- Sorted children have names of their own, so looking a name up is finding the child. -/
theorem lookup_eq_some_iff {children : List (String × Node)} (h : Sorted children) {name : String}
    {child : Node} : children.lookup name = some child ↔ (name, child) ∈ children := by
  induction children with
  | nil => simp
  | cons first rest ih =>
    obtain ⟨other, there⟩ := first
    obtain ⟨hfirst, hrest⟩ := List.pairwise_cons.mp h
    rw [List.lookup_cons, List.mem_cons]
    by_cases hname : name = other
    · subst hname
      have hnot : (name, child) ∉ rest := fun hmem => String.lt_irrefl name (hfirst _ hmem)
      simp [hnot, eq_comm]
    · have hbeq : (name == other) = false := beq_eq_false_iff_ne.mpr hname
      simp only [hbeq]
      rw [ih hrest, Prod.mk.injEq]
      simp [hname]

theorem lookup_eq_none_iff {children : List (String × Node)} (h : Sorted children) {name : String} :
    children.lookup name = none ↔ ∀ child, (name, child) ∉ children := by
  rw [Option.eq_none_iff_forall_ne_some]
  exact forall_congr' fun child => not_congr (lookup_eq_some_iff h)

/-! ### Walks -/

/-- The names lead from the node to the last one, through directories, from child to child. -/
inductive Reaches : Node → List String → Node → Prop
  | here {n} : Reaches n [] n
  | down {children name child rest last} : (name, child) ∈ children → Reaches child rest last →
      Reaches (.directory children) (name :: rest) last

/-- The names lead to no node: the next of them is wanted in a file, it is not among the children,
or the rest leads to no node from the child. -/
inductive Misses : Node → List String → Prop
  | file {content name rest} : Misses (.file content) (name :: rest)
  | absent {children name rest} : (∀ child, (name, child) ∉ children) →
      Misses (.directory children) (name :: rest)
  | deeper {children name child rest} : (name, child) ∈ children → Misses child rest →
      Misses (.directory children) (name :: rest)

/-- A walk that ends in a directory goes on to each of its children. -/
theorem Reaches.concat {n child : Node} {names : List String} {children : List (String × Node)}
    {name : String} (h : n.Reaches names (.directory children))
    (hchild : (name, child) ∈ children) : n.Reaches (names ++ [name]) child := by
  -- the induction is on the walk, so where it ends must be a variable
  generalize hlast : Node.directory children = last at h
  induction h with
  | here =>
    subst hlast
    exact .down hchild .here
  | down hmem _ ih => exact .down hmem (ih hlast)

/-- Where a walk in an ordered tree ends there is an ordered tree. -/
theorem Reaches.ordered {n last : Node} {names : List String} (h : n.Reaches names last)
    (hn : n.Ordered) : last.Ordered := by
  induction h with
  | here => exact hn
  | down hmem _ ih =>
    cases hn with
    | directory _ hchildren => exact ih (hchildren _ hmem)

/-- In an ordered tree the search for a name finds the child that has it. -/
theorem descend?_eq_some_iff {n last : Node} {names : List String} (h : n.Ordered) :
    n.descend? names = some last ↔ n.Reaches names last := by
  induction names generalizing n with
  | nil =>
    rw [descend?, Option.some.injEq]
    constructor
    · rintro rfl
      exact .here
    · rintro ⟨⟩
      rfl
  | cons name rest ih =>
    rw [descend?, Option.bind_eq_some_iff]
    cases h with
    | file =>
      constructor
      · rintro ⟨child, hchild, -⟩
        cases hchild
      · rintro ⟨⟩
    | directory hsorted hordered =>
      constructor
      · rintro ⟨child, hchild, hrest⟩
        have hmem := (lookup_eq_some_iff hsorted).mp hchild
        exact .down hmem ((ih (hordered _ hmem)).mp hrest)
      · rintro (_ | ⟨hmem, hrest⟩)
        exact ⟨_, (lookup_eq_some_iff hsorted).mpr hmem, (ih (hordered _ hmem)).mpr hrest⟩

/-- Names that lead nowhere miss a child or come to a file. -/
theorem descend?_eq_none_iff {n : Node} {names : List String} (h : n.Ordered) :
    n.descend? names = none ↔ n.Misses names := by
  induction names generalizing n with
  | nil =>
    rw [descend?]
    constructor
    · rintro ⟨⟩
    · rintro ⟨⟩
  | cons name rest ih =>
    rw [descend?]
    cases h with
    | file => exact ⟨fun _ => .file, fun _ => rfl⟩
    | directory hsorted hordered =>
      rw [child?]
      constructor
      · intro hnone
        cases hchild : List.lookup name _ with
        | none => exact .absent ((lookup_eq_none_iff hsorted).mp hchild)
        | some child =>
          rw [hchild] at hnone
          have hmem := (lookup_eq_some_iff hsorted).mp hchild
          exact .deeper hmem ((ih (hordered _ hmem)).mp hnone)
      · rintro (_ | habsent | ⟨hmem, hrest⟩)
        · rw [(lookup_eq_none_iff hsorted).mpr habsent]
          rfl
        · rw [(lookup_eq_some_iff hsorted).mpr hmem]
          exact (ih (hordered _ hmem)).mpr hrest

end LineShell.Node
