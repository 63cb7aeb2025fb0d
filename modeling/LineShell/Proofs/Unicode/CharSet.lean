import LineShell.Unicode.Property

/-!
# Members of sets of code points

Sets are put together from tables and from other sets. A question about one code point is passed on
to the parts:

    union         : either part has it           (`contains_union`)
    categoryUnion : one of the categories has it (`contains_categoryUnion`)
    ofTable       : a range of the table has it  (`contains_ofTable`)

so that it is answered without sorting and joining the ranges of the whole set.
-/

namespace LineShell.Unicode

namespace CharSet

def covers (n : Nat) (r : Nat × Nat) : Bool := r.1 ≤ n && n ≤ r.2

variable {n : Nat}

/-! ### Unions -/

/-- A range and one that begins no later than right behind it make one range. -/
theorem covers_join {lo hi lo' hi' : Nat} (hle : lo ≤ lo') (htouch : lo' ≤ hi + 1) :
    covers n (lo, max hi hi') = (covers n (lo, hi) || covers n (lo', hi')) := by
  rw [Bool.eq_iff_iff]
  simp only [covers, Bool.and_eq_true, Bool.or_eq_true, decide_eq_true_eq]
  omega

/-- Joining the ranges of an increasing list changes no member. -/
theorem any_absorb {r : Nat × Nat} {ranges : List (Nat × Nat)}
    (h : (r :: ranges).Pairwise fun a b => a.1 ≤ b.1) :
    (absorb r ranges).any (covers n) = (r :: ranges).any (covers n) := by
  induction ranges generalizing r with
  | nil => rfl
  | cons next rest ih =>
    obtain ⟨lo, hi⟩ := r
    obtain ⟨lo', hi'⟩ := next
    obtain ⟨hfirst, hnext⟩ := List.pairwise_cons.mp h
    rw [absorb]
    split
    · next htouch =>
      have hjoined : ((lo, max hi hi') :: rest).Pairwise fun a b => a.1 ≤ b.1 :=
        List.pairwise_cons.mpr
          ⟨fun b hb => hfirst b (List.mem_cons_of_mem _ hb), (List.pairwise_cons.mp hnext).2⟩
      have hle : lo ≤ lo' := hfirst (lo', hi') (List.mem_cons_self ..)
      rw [ih hjoined, List.any_cons, List.any_cons, List.any_cons, covers_join hle htouch,
        Bool.or_assoc]
    · rw [List.any_cons, ih hnext]
      rfl

/-- Sorting the ranges puts them in increasing order. -/
theorem pairwise_mergeSort_ranges (ranges : List (Nat × Nat)) :
    (ranges.mergeSort fun a b => a.1 ≤ b.1).Pairwise fun a b => a.1 ≤ b.1 := by
  have htrans : ∀ a b c : Nat × Nat, decide (a.1 ≤ b.1) = true → decide (b.1 ≤ c.1) = true →
      decide (a.1 ≤ c.1) = true := by
    intro a b c hab hbc
    simp only [decide_eq_true_eq] at hab hbc ⊢
    exact Nat.le_trans hab hbc
  have htotal : ∀ a b : Nat × Nat, (decide (a.1 ≤ b.1) || decide (b.1 ≤ a.1)) = true := by
    intro a b
    simp only [Bool.or_eq_true, decide_eq_true_eq]
    exact Nat.le_total a.1 b.1
  exact (List.pairwise_mergeSort htrans htotal ranges).imp of_decide_eq_true

/-- Joining ranges that touch neither adds members nor loses any. -/
theorem contains_ofRanges (ranges : List (Nat × Nat)) (n : Nat) :
    (ofRanges ranges).contains n = ranges.any (covers n) := by
  have hsorted := pairwise_mergeSort_ranges ranges
  rw [← (List.mergeSort_perm ranges fun a b => a.1 ≤ b.1).any_eq, ofRanges]
  cases hcase : ranges.mergeSort fun a b => a.1 ≤ b.1 with
  | nil => rfl
  | cons r rest =>
    rw [hcase] at hsorted
    exact any_absorb hsorted

theorem contains_union (s t : CharSet) (n : Nat) :
    (s.union t).contains n = (s.contains n || t.contains n) := by
  rw [union, contains_ofRanges, List.any_append]
  rfl

/-! ### Tables -/

def tableRanges (cs : List Char) : List (Nat × Nat) :=
  (((Text.cut '\n' cs).flatMap (Text.cut ' ')).filter (!·.isEmpty)).flatMap tableItem

/-- A table is read from its characters, whatever text they make. -/
theorem contains_ofTable {table : String} {cs : List Char} (h : table = String.ofList cs)
    (n : Nat) : (ofTable table).contains n = (tableRanges cs).any (covers n) := by
  subst h
  rw [ofTable, String.toList_ofList]
  rfl

end CharSet

/-! ### Categories -/

variable {n : Nat}

theorem contains_category {short : String} {s : NamedSet} {cs : List Char}
    (hs : (categories.find? fun s => s.names.contains short) = some s)
    (hcs : s.table = String.ofList cs) :
    (category short).contains n = (CharSet.tableRanges cs).any (CharSet.covers n) := by
  rw [category, hs]
  exact CharSet.contains_ofTable hcs n

theorem contains_foldl_union (shorts : List String) (acc : CharSet) :
    (shorts.foldl (fun acc short => acc.union (category short)) acc).contains n =
      (acc.contains n || shorts.any fun short => (category short).contains n) := by
  induction shorts generalizing acc with
  | nil => simp
  | cons short shorts ih =>
    rw [List.foldl_cons, ih, CharSet.contains_union, List.any_cons, Bool.or_assoc]

theorem contains_categoryUnion (shorts : List String) (n : Nat) :
    (categoryUnion shorts).contains n = shorts.any fun short => (category short).contains n :=
  contains_foldl_union shorts .empty

end LineShell.Unicode
