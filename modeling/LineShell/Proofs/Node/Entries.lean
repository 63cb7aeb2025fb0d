import LineShell.Proofs.Node.Walk
import Mathlib.Data.List.Induction
import Mathlib.Data.List.Nodup

/-!
# Directories from entries

A directory is built by putting its entries in one after the other, in any order. A name may be
among them more than once, and then the last entry of the name counts:

    LastOf : entries, a name, a node ──▶ the last of the entries with the name has the node

The children stand in order of names, whatever order the entries came in (`sorted_childrenOf`), and
are the last entries of their names and no others (`mem_childrenOf_iff`). Main statement: a listing
has each name once, in order, with the kind and the size of its last node (`lists_childrenOf`).
-/

namespace LineShell.Node

variable {children entries : List (String × Node)} {name : String} {node : Node}

/-! ### Last entries -/

/-- Of the entries with this name, the last has this node. -/
def LastOf (entries : List (String × Node)) (name : String) (node : Node) : Prop :=
  ∃ before after, entries = before ++ (name, node) :: after ∧ ∀ e ∈ after, e.1 ≠ name

theorem not_lastOf_nil : ¬ LastOf [] name node := by
  rintro ⟨before, after, hentries, -⟩
  simp at hentries

/-- One more entry is the last of its name, and leaves the last of any other name. -/
theorem lastOf_concat_iff {e : String × Node} :
    LastOf (entries ++ [e]) name node ↔ e = (name, node) ∨ LastOf entries name node ∧ e.1 ≠ name := by
  constructor
  · rintro ⟨before, after, hentries, hafter⟩
    rcases List.eq_nil_or_concat after with rfl | ⟨after, last, rfl⟩
    · obtain ⟨-, hlast⟩ := List.append_inj' hentries rfl
      exact .inl (List.singleton_inj.mp hlast)
    · rw [List.concat_eq_append] at hentries hafter
      rw [← List.cons_append, ← List.append_assoc] at hentries
      obtain ⟨hfront, hlast⟩ := List.append_inj' hentries rfl
      obtain rfl := List.singleton_inj.mp hlast
      refine .inr ⟨⟨before, after, hfront, fun e he => hafter e ?_⟩, hafter e ?_⟩
      · exact List.mem_append_left _ he
      · exact List.mem_append_right _ (List.mem_singleton_self _)
  · rintro (rfl | ⟨⟨before, after, rfl, hafter⟩, hname⟩)
    · exact ⟨entries, [], rfl, by simp⟩
    · refine ⟨before, after ++ [e], by simp, fun x hx => ?_⟩
      rcases List.mem_append.mp hx with hx | hx
      · exact hafter x hx
      · rwa [List.mem_singleton.mp hx]

/-- A name that has an entry has a last one. -/
theorem exists_lastOf_iff : (∃ node, LastOf entries name node) ↔ name ∈ entries.map Prod.fst := by
  induction entries using List.reverseRecOn with
  | nil => simp [not_lastOf_nil]
  | append_singleton entries e ih =>
    obtain ⟨other, there⟩ := e
    simp only [lastOf_concat_iff, Prod.mk.injEq, exists_or, exists_and_right, ih, List.map_append,
      List.mem_append]
    by_cases hname : other = name
    · simp [hname]
    · simp [hname, Ne.symm hname]

/-! ### Putting entries in -/

/-- Putting an entry in replaces the child of its name and keeps the others. -/
theorem mem_put_iff (h : Sorted children) {c : String × Node} :
    c ∈ put name node children ↔ c = (name, node) ∨ c ∈ children ∧ c.1 ≠ name := by
  induction children with
  | nil => simp [put]
  | cons first rest ih =>
    obtain ⟨other, there⟩ := first
    obtain ⟨hfirst, hrest⟩ := List.pairwise_cons.mp h
    rw [put]
    split
    · next hlt =>
      -- the name comes before all the children, so there is nothing to replace
      have hne : ∀ c ∈ (other, there) :: rest, c.1 ≠ name := by
        rintro c hc rfl
        rcases List.mem_cons.mp hc with rfl | hc
        · exact String.lt_irrefl _ hlt
        · exact String.lt_irrefl _ (String.lt_trans hlt (hfirst c hc))
      rw [List.mem_cons]
      exact or_congr_right ⟨fun hc => ⟨hc, hne c hc⟩, fun hc => hc.1⟩
    · split
      · next heq =>
        subst heq
        have hne : ∀ c ∈ rest, c.1 ≠ name := by
          intro c hc heq
          exact String.lt_irrefl name (heq ▸ hfirst c hc)
        rw [List.mem_cons, List.mem_cons]
        refine or_congr_right ⟨fun hc => ⟨.inr hc, hne c hc⟩, ?_⟩
        rintro ⟨rfl | hc, hname⟩
        · exact absurd rfl hname
        · exact hc
      · next hother =>
        rw [List.mem_cons, List.mem_cons, ih hrest]
        constructor
        · rintro (rfl | rfl | ⟨hc, hname⟩)
          · exact .inr ⟨.inl rfl, Ne.symm hother⟩
          · exact .inl rfl
          · exact .inr ⟨.inr hc, hname⟩
        · rintro (rfl | ⟨rfl | hc, hname⟩)
          · exact .inr (.inl rfl)
          · exact .inl rfl
          · exact .inr (.inr ⟨hc, hname⟩)

/-- The children of the directory that is built from entries. -/
def childrenOf (entries : List (String × Node)) : List (String × Node) :=
  entries.foldl (fun children e => put e.1 e.2 children) []

theorem childrenOf_concat (entries : List (String × Node)) (e : String × Node) :
    childrenOf (entries ++ [e]) = put e.1 e.2 (childrenOf entries) := by
  rw [childrenOf, List.foldl_append]
  rfl

theorem sorted_childrenOf (entries : List (String × Node)) : Sorted (childrenOf entries) := by
  induction entries using List.reverseRecOn with
  | nil => exact List.Pairwise.nil
  | append_singleton entries e ih =>
    rw [childrenOf_concat]
    exact sorted_put ih e.1 e.2

/-- Of entries with one name the last stays. -/
theorem mem_childrenOf_iff : (name, node) ∈ childrenOf entries ↔ LastOf entries name node := by
  induction entries using List.reverseRecOn with
  | nil => simp [childrenOf, not_lastOf_nil]
  | append_singleton entries e ih =>
    rw [childrenOf_concat, mem_put_iff (sorted_childrenOf entries), lastOf_concat_iff, ih]
    obtain ⟨other, there⟩ := e
    rw [Prod.mk.injEq, Prod.mk.injEq, eq_comm, @eq_comm _ node, ne_comm]

/-! ### Listings -/

/-- A listing of a directory that was built from entries: in order of names, each name of the
entries once, and with each name the kind and the size of its last node. -/
structure Lists (entries : List (String × Node)) (listed : List Entry) : Prop where
  increasing : listed.Pairwise fun a b => a.name < b.name
  once : ∀ name ∈ entries.map Prod.fst, (listed.map (·.name)).count name = 1
  last : ∀ e ∈ listed, ∃ node, LastOf entries e.name node ∧ e = entry e.name node

/-- The children of a directory are a listing of what it was built from. -/
theorem lists_childrenOf (entries : List (String × Node)) :
    Lists entries ((childrenOf entries).map fun c => entry c.1 c.2) where
  increasing := List.pairwise_map.mpr (sorted_childrenOf entries)
  once := by
    intro name hname
    have hnames : ((childrenOf entries).map fun c => entry c.1 c.2).map (·.name) =
        (childrenOf entries).map Prod.fst := by
      rw [List.map_map]
      rfl
    -- sorted names are distinct
    have hnodup : ((childrenOf entries).map Prod.fst).Nodup := by
      refine List.pairwise_map.mpr ((sorted_childrenOf entries).imp ?_)
      intro a b hlt heq
      exact String.lt_irrefl b.1 (heq ▸ hlt)
    obtain ⟨node, hlast⟩ := exists_lastOf_iff.mpr hname
    rw [hnames]
    exact List.count_eq_one_of_mem hnodup
      (List.mem_map.mpr ⟨_, mem_childrenOf_iff.mpr hlast, rfl⟩)
  last := by
    intro e he
    obtain ⟨⟨name, node⟩, hmem, rfl⟩ := List.mem_map.mp he
    exact ⟨node, mem_childrenOf_iff.mp hmem, rfl⟩

end LineShell.Node
