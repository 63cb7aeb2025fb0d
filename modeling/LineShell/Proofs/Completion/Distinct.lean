import LineShell.Completion
import Mathlib.Data.List.Nodup

/-!
# Suggestions without repeats

`distinct` goes through the candidates and remembers the kinds and labels that it has seen. What is
left are the candidates whose kind and label did not come earlier, in their order: each kind and
label once (`exists_mem_distinct`, `distinct_ordered`). Candidates can be selected by their labels
before or after (`distinct_filter`), more candidates change nothing of what is left in front
(`distinct_prefix_append`), and where each candidate stands for a thing of its own, it is the things
that are left once (`distinct_map`).
-/

namespace LineShell

/-- What makes two suggestions repeats of each other. -/
def Suggestion.key (s : Suggestion) : SuggestionKind × String := (s.kind, s.label)

theorem Suggestion.label_eq {s t : Suggestion} (h : s.key = t.key) : s.label = t.label :=
  congrArg Prod.snd h

namespace Completion

variable {seen : List (SuggestionKind × String)} {candidates : List Suggestion} {s : Suggestion}

/-! ### One candidate -/

theorem distinct_cons_of_mem (h : s.key ∈ seen) :
    distinct seen (s :: candidates) = distinct seen candidates := by
  rw [distinct, if_pos]
  exact List.contains_iff_mem.mpr h

theorem distinct_cons_of_notMem (h : s.key ∉ seen) :
    distinct seen (s :: candidates) = s :: distinct (s.key :: seen) candidates := by
  rw [distinct, if_neg]
  · rfl
  · exact mt List.contains_iff_mem.mp h

/-! ### What is left -/

/-- Dropping repeats keeps the order. -/
theorem distinct_sublist : (distinct seen candidates).Sublist candidates := by
  induction candidates generalizing seen with
  | nil => exact List.Sublist.refl _
  | cons first rest ih =>
    by_cases h : first.key ∈ seen
    · rw [distinct_cons_of_mem h]
      exact ih.cons first
    · rw [distinct_cons_of_notMem h]
      exact ih.cons_cons first

/-- What is kept was not seen before. -/
theorem key_notMem_of_mem_distinct (hs : s ∈ distinct seen candidates) : s.key ∉ seen := by
  induction candidates generalizing seen with
  | nil => cases hs
  | cons first rest ih =>
    by_cases h : first.key ∈ seen
    · rw [distinct_cons_of_mem h] at hs
      exact ih hs
    · rw [distinct_cons_of_notMem h] at hs
      rcases List.mem_cons.mp hs with rfl | hs
      · exact h
      · exact fun hmem => ih hs (List.mem_cons_of_mem _ hmem)

/-- Every kind and label that has not been seen is left. -/
theorem exists_mem_distinct (hs : s ∈ candidates) (hseen : s.key ∉ seen) :
    ∃ t ∈ distinct seen candidates, t.key = s.key := by
  induction candidates generalizing seen with
  | nil => cases hs
  | cons first rest ih =>
    by_cases h : first.key ∈ seen
    · rw [distinct_cons_of_mem h]
      have hne : s ≠ first := fun heq => hseen (heq ▸ h)
      exact ih (List.mem_of_ne_of_mem hne hs) hseen
    · rw [distinct_cons_of_notMem h]
      by_cases hkey : first.key = s.key
      · exact ⟨first, List.mem_cons_self .., hkey⟩
      · have hne : s ≠ first := fun heq => hkey (congrArg Suggestion.key heq).symm
        have hseen' : s.key ∉ first.key :: seen := by simp [Ne.symm hkey, hseen]
        obtain ⟨t, ht, hkeys⟩ := ih (List.mem_of_ne_of_mem hne hs) hseen'
        exact ⟨t, List.mem_cons_of_mem _ ht, hkeys⟩

/-- What is left stands in the order in which the kinds and labels first came. -/
theorem distinct_ordered : (distinct seen candidates).Pairwise fun a b =>
    (candidates.map Suggestion.key).idxOf a.key < (candidates.map Suggestion.key).idxOf b.key := by
  induction candidates generalizing seen with
  | nil => exact List.Pairwise.nil
  | cons first rest ih =>
    -- other kinds and labels come one place later than among the rest
    have hlater : ∀ {a : Suggestion}, first.key ≠ a.key →
        ((first :: rest).map Suggestion.key).idxOf a.key =
          (rest.map Suggestion.key).idxOf a.key + 1 := fun hne => List.idxOf_cons_ne _ hne
    by_cases h : first.key ∈ seen
    · rw [distinct_cons_of_mem h]
      refine ih.imp_of_mem fun {a b} ha hb hab => ?_
      have hne : ∀ {c : Suggestion}, c ∈ distinct seen rest → first.key ≠ c.key :=
        fun hc heq => key_notMem_of_mem_distinct hc (heq ▸ h)
      rw [hlater (hne ha), hlater (hne hb)]
      exact Nat.succ_lt_succ hab
    · rw [distinct_cons_of_notMem h]
      have hne : ∀ {c : Suggestion}, c ∈ distinct (first.key :: seen) rest → first.key ≠ c.key :=
        fun hc heq => key_notMem_of_mem_distinct hc (heq ▸ List.mem_cons_self ..)
      refine List.pairwise_cons.mpr ⟨fun b hb => ?_, ih.imp_of_mem fun {a b} ha hb hab => ?_⟩
      · rw [hlater (hne hb), List.map_cons, List.idxOf_cons_self]
        exact Nat.succ_pos _
      · rw [hlater (hne ha), hlater (hne hb)]
        exact Nat.succ_lt_succ hab

/-! ### Selecting -/

/-- Kinds and labels that no candidate has may be seen or not. -/
theorem distinct_congr {seen' : List (SuggestionKind × String)}
    (h : ∀ s ∈ candidates, s.key ∈ seen ↔ s.key ∈ seen') :
    distinct seen candidates = distinct seen' candidates := by
  induction candidates generalizing seen seen' with
  | nil => rfl
  | cons first rest ih =>
    have hrest : ∀ s ∈ rest, s.key ∈ seen ↔ s.key ∈ seen' :=
      fun s hs => h s (List.mem_cons_of_mem _ hs)
    have hfirst := h first (List.mem_cons_self ..)
    by_cases hmem : first.key ∈ seen
    · rw [distinct_cons_of_mem hmem, distinct_cons_of_mem (hfirst.mp hmem), ih hrest]
    · rw [distinct_cons_of_notMem hmem, distinct_cons_of_notMem (mt hfirst.mpr hmem)]
      congr 1
      apply ih
      intro s hs
      rw [List.mem_cons, List.mem_cons, hrest s hs]

/-- Selecting by label takes a candidate with all its repeats, or none of them. -/
theorem distinct_filter {p : Suggestion → Bool} (hp : ∀ s t, s.label = t.label → p s = p t) :
    distinct seen (candidates.filter p) = (distinct seen candidates).filter p := by
  induction candidates generalizing seen with
  | nil => rfl
  | cons first rest ih =>
    by_cases hfirst : p first = true
    · rw [List.filter_cons_of_pos hfirst]
      by_cases hmem : first.key ∈ seen
      · rw [distinct_cons_of_mem hmem, distinct_cons_of_mem hmem, ih]
      · rw [distinct_cons_of_notMem hmem, distinct_cons_of_notMem hmem,
          List.filter_cons_of_pos hfirst, ih]
    · rw [List.filter_cons_of_neg hfirst]
      by_cases hmem : first.key ∈ seen
      · rw [distinct_cons_of_mem hmem, ih]
      · rw [distinct_cons_of_notMem hmem, List.filter_cons_of_neg hfirst, ← ih]
        -- no candidate that is selected has the kind and label that are now seen
        apply distinct_congr
        intro s hs
        have hne : s.key ≠ first.key := by
          intro heq
          rw [← hp s first (Suggestion.label_eq heq)] at hfirst
          exact hfirst (List.mem_filter.mp hs).2
        simp [hne]

/-- Having seen a kind and label is the same as having no candidate with it. -/
theorem distinct_cons_seen (key : SuggestionKind × String) :
    distinct (key :: seen) candidates = distinct seen (candidates.filter fun s => s.key ≠ key) := by
  induction candidates generalizing seen with
  | nil => rfl
  | cons first rest ih =>
    by_cases hkey : first.key = key
    · rw [List.filter_cons_of_neg (by simp [hkey]), ← ih, distinct_cons_of_mem]
      simp [hkey]
    · rw [List.filter_cons_of_pos (by simp [hkey])]
      by_cases hmem : first.key ∈ seen
      · rw [distinct_cons_of_mem hmem, distinct_cons_of_mem (List.mem_cons_of_mem _ hmem), ih]
      · rw [distinct_cons_of_notMem hmem, distinct_cons_of_notMem (by simp [hkey, hmem]), ← ih]
        congr 1
        -- the two keys were seen in another order
        apply distinct_congr
        intro s _
        simp [or_left_comm]

/-- Candidates for things, one kind and label to each, are left in the order of the things. -/
theorem distinct_map {α : Type} [BEq α] [LawfulBEq α] {f : α → Suggestion}
    (hf : ∀ a b, (f a).key = (f b).key → a = b) (things : List α) :
    distinct [] (things.map f) = things.eraseDups.map f := by
  match things with
  | [] => rfl
  | a :: rest =>
    have hsame : ((fun s : Suggestion => decide (s.key ≠ (f a).key)) ∘ f) = fun b => !b == a := by
      funext b
      rw [Bool.eq_iff_iff]
      simp only [Function.comp_apply, decide_eq_true_eq, Bool.not_eq_true', beq_eq_false_iff_ne]
      exact not_congr ⟨hf b a, fun heq => heq ▸ rfl⟩
    rw [List.map_cons, distinct_cons_of_notMem List.not_mem_nil, distinct_cons_seen,
      List.filter_map, hsame, distinct_map hf, List.eraseDups_cons, List.map_cons]
termination_by things.length
decreasing_by exact Nat.lt_succ_of_le (List.length_filter_le _ _)

/-! ### Candidates that repeat nothing -/

theorem distinct_eq_self (h : (candidates.map Suggestion.key).Nodup)
    (hseen : ∀ s ∈ candidates, s.key ∉ seen) : distinct seen candidates = candidates := by
  induction candidates generalizing seen with
  | nil => rfl
  | cons first rest ih =>
    obtain ⟨hfirst, hrest⟩ := List.nodup_cons.mp h
    rw [distinct_cons_of_notMem (hseen first (List.mem_cons_self ..)), ih hrest]
    intro s hs hmem
    rcases List.mem_cons.mp hmem with heq | hmem
    · exact hfirst (heq ▸ List.mem_map_of_mem hs)
    · exact hseen s (List.mem_cons_of_mem _ hs) hmem

/-- What is left of the first candidates does not depend on those after them. -/
theorem distinct_prefix_append (back : List Suggestion) :
    distinct seen candidates <+: distinct seen (candidates ++ back) := by
  induction candidates generalizing seen with
  | nil => exact List.nil_prefix
  | cons first rest ih =>
    rw [List.cons_append]
    by_cases hmem : first.key ∈ seen
    · rw [distinct_cons_of_mem hmem, distinct_cons_of_mem hmem]
      exact ih
    · rw [distinct_cons_of_notMem hmem, distinct_cons_of_notMem hmem, List.prefix_cons_inj]
      exact ih

/-- Candidates after others, none of which is a repeat, are left as they are. -/
theorem distinct_append {back : List Suggestion} (h : (back.map Suggestion.key).Nodup)
    (hseen : ∀ s ∈ back, s.key ∉ seen) (hfront : ∀ s ∈ back, ∀ t ∈ candidates, s.key ≠ t.key) :
    distinct seen (candidates ++ back) = distinct seen candidates ++ back := by
  induction candidates generalizing seen with
  | nil => exact distinct_eq_self h hseen
  | cons first rest ih =>
    have hrest : ∀ s ∈ back, ∀ t ∈ rest, s.key ≠ t.key :=
      fun s hs t ht => hfront s hs t (List.mem_cons_of_mem _ ht)
    rw [List.cons_append]
    by_cases hmem : first.key ∈ seen
    · rw [distinct_cons_of_mem hmem, distinct_cons_of_mem hmem, ih hseen hrest]
    · rw [distinct_cons_of_notMem hmem, distinct_cons_of_notMem hmem, List.cons_append]
      congr 1
      refine ih (fun s hs hin => ?_) hrest
      rcases List.mem_cons.mp hin with heq | hin
      · exact hfront s hs first (List.mem_cons_self ..) heq
      · exact hseen s hs hin

end Completion

end LineShell
