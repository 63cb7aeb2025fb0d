import LineShell.Text.Layout
import Mathlib.Data.List.DropRight

/-!
# Cutting and joining

Cutting at a separator is core's `List.splitOn`, so core's laws carry over to texts:

    pieces_append      : a separator between two texts cuts them apart
    pieces_of_notMem   : a text without separator is its only piece
    pieces_intercalate : cutting what was joined gives the parts back
    pieces_join_append : the same where each part has a separator after it

The last two need parts that hold no separator, which pieces never do (`notMem_of_mem_pieces`).

The lines of a text are said without mention of cutting, and there is one way to have them
(`linesOf_iff`).

A text is also cut in front of the longest run at its end: the rest is nothing, or ends in a
character that is not of the run (`rdropWhile_cases`), and a longer run is cut at the same place
(`rdropWhile_append`).
-/

namespace LineShell.Text

/-! ### Characters -/

theorem cut_eq_splitOn (sep : Char) (cs : List Char) : cut sep cs = cs.splitOn sep := by
  induction cs with
  | nil => rfl
  | cons c cs ih =>
    rw [cut_cons, List.splitOn_cons_eq_if_modifyHead, ih]
    cases h : cs.splitOn sep with
    | nil => exact absurd h (List.splitOn_ne_nil sep cs)
    | cons piece rest => by_cases hc : c = sep <;> simp [cutStep, hc]

/-- A piece lies between separators, so it holds none. -/
theorem notMem_of_mem_cut {sep : Char} {cs piece : List Char} (h : piece ∈ cut sep cs) :
    sep ∉ piece := by
  induction cs generalizing piece with
  | nil =>
    rw [cut_nil, List.mem_singleton] at h
    simp [h]
  | cons c cs ih =>
    rw [cut_cons] at h
    cases hcut : cut sep cs with
    | nil => exact absurd hcut (cut_ne_nil sep cs)
    | cons first rest =>
      rw [hcut] at h ih
      by_cases hc : c = sep
      · rw [cutStep, if_pos hc, List.mem_cons] at h
        rcases h with rfl | h
        · exact List.not_mem_nil
        · exact ih h
      · rw [cutStep, if_neg hc, List.mem_cons] at h
        rcases h with rfl | h
        · have hfirst := ih (List.mem_cons_self ..)
          rw [List.mem_cons, not_or]
          exact ⟨fun e => hc e.symm, hfirst⟩
        · exact ih (List.mem_cons_of_mem _ h)

/-! ### Texts -/

/-- Texts are read back from their characters. -/
theorem map_ofList_map_toList (texts : List String) :
    (texts.map String.toList).map String.ofList = texts := by
  have hid : String.ofList ∘ String.toList = id := funext fun _ => String.ofList_toList
  rw [List.map_map, hid, List.map_id]

theorem pieces_append (sep : Char) (a b : String) :
    pieces sep (a ++ String.singleton sep ++ b) = pieces sep a ++ pieces sep b := by
  unfold pieces
  rw [cut_eq_splitOn, cut_eq_splitOn, cut_eq_splitOn, ← List.map_append,
    ← List.splitOn_append_cons_self]
  simp

theorem pieces_of_notMem {sep : Char} {s : String} (h : sep ∉ s.toList) : pieces sep s = [s] := by
  unfold pieces
  rw [cut_eq_splitOn, List.splitOn_eq_singleton h, List.map_singleton, String.ofList_toList]

/-- Pieces that were joined are cut into the same pieces. -/
theorem pieces_intercalate {sep : Char} {parts : List String} (hne : parts ≠ [])
    (h : ∀ s ∈ parts, sep ∉ s.toList) :
    pieces sep ((String.singleton sep).intercalate parts) = parts := by
  have hparts : ∀ l ∈ parts.map String.toList, sep ∉ l := by
    intro l hl
    obtain ⟨s, hs, rfl⟩ := List.mem_map.mp hl
    exact h s hs
  have hne' : parts.map String.toList ≠ [] := fun e => hne (List.map_eq_nil_iff.mp e)
  unfold pieces
  rw [cut_eq_splitOn, String.toList_intercalate, String.toList_singleton,
    List.splitOn_intercalate sep hparts hne', map_ofList_map_toList]

/-- Parts that each end in a separator have nothing after the last one. -/
theorem pieces_join_append {sep : Char} {parts : List String} (h : ∀ s ∈ parts, sep ∉ s.toList) :
    pieces sep (String.join (parts.map (· ++ String.singleton sep))) = parts ++ [""] := by
  induction parts with
  | nil => rfl
  | cons part parts ih =>
    have hpart : sep ∉ part.toList := h part (List.mem_cons_self ..)
    have hparts : ∀ s ∈ parts, sep ∉ s.toList := fun s hs => h s (List.mem_cons_of_mem _ hs)
    rw [List.map_cons, String.join_cons, pieces_append, pieces_of_notMem hpart, ih hparts,
      List.singleton_append, List.cons_append]

/-- Joining the pieces gives the text back. -/
theorem intercalate_pieces (sep : Char) (s : String) :
    (String.singleton sep).intercalate (pieces sep s) = s := by
  have hid : String.toList ∘ String.ofList = id := funext fun _ => String.toList_ofList
  rw [← String.toList_inj, String.toList_intercalate, String.toList_singleton, pieces,
    List.map_map, hid, List.map_id]
  exact intercalate_cut sep s.toList

theorem notMem_of_mem_pieces {sep : Char} {s piece : String} (h : piece ∈ pieces sep s) :
    sep ∉ piece.toList := by
  obtain ⟨cs, hcs, rfl⟩ := List.mem_map.mp h
  rw [String.toList_ofList]
  exact notMem_of_mem_cut hcs

/-! ### Lines -/

theorem pieces_ne_nil (sep : Char) (s : String) : pieces sep s ≠ [] :=
  fun h => cut_ne_nil sep s.toList (List.map_eq_nil_iff.mp h)

/-- The lines of a text: there is one at least, none holds a newline, and joined by newlines they
are the text. -/
structure LinesOf (text : String) (lines : List String) : Prop where
  ne_nil : lines ≠ []
  whole : ∀ line ∈ lines, '\n' ∉ line.toList
  joined : "\n".intercalate lines = text

theorem linesOf_pieces (text : String) : LinesOf text (pieces '\n' text) where
  ne_nil := pieces_ne_nil '\n' text
  whole _ := notMem_of_mem_pieces
  joined := intercalate_pieces '\n' text

/-- A text has lines in one way, and cutting finds it. -/
theorem linesOf_iff {text : String} {lines : List String} :
    LinesOf text lines ↔ lines = pieces '\n' text := by
  constructor
  · rintro ⟨hne, hwhole, rfl⟩
    exact (pieces_intercalate hne hwhole).symm
  · rintro rfl
    exact linesOf_pieces text

/-! ### Beginnings -/

/-- What stands in front can be taken off. -/
theorem dropPrefix?_append (front rest : List Char) : (front ++ rest).dropPrefix? front = some rest :=
  List.dropPrefix?_eq_some_iff.mpr ⟨front, rfl, beq_self_eq_true front⟩

theorem begins_iff {p s : String} : begins p s = true ↔ p.toList <+: s.toList :=
  List.isPrefixOf_iff_prefix

/-- What stands after as many characters plays no part in how a text begins. -/
theorem begins_append {p s : String} (h : p.toList.length ≤ s.toList.length) (rest : String) :
    begins p (s ++ rest) = begins p s := by
  rw [Bool.eq_iff_iff, begins_iff, begins_iff, String.toList_append]
  constructor
  · intro hprefix
    exact List.prefix_of_prefix_length_le hprefix (List.prefix_append _ _) h
  · intro hprefix
    exact hprefix.trans (List.prefix_append _ _)

/-- What begins with a longer text begins with the shorter one. -/
theorem begins_append_and (p q s : String) :
    (begins (p ++ q) s && begins p s) = begins (p ++ q) s := by
  rw [Bool.and_eq_left_iff_imp, begins_iff, begins_iff, String.toList_append]
  exact fun h => (List.prefix_append _ _).trans h

/-! ### Runs at the end -/

/-- Where dropping stops, a character stands that is not dropped. -/
theorem rdropWhile_cases (p : Char → Bool) (cs : List Char) :
    cs.rdropWhile p = [] ∨ ∃ front c, cs.rdropWhile p = front ++ [c] ∧ p c = false := by
  by_cases h : cs.rdropWhile p = []
  · exact .inl h
  · refine .inr ⟨_, _, (List.dropLast_append_getLast h).symm, ?_⟩
    simpa using List.rdropWhile_last_not p cs h

theorem rdropWhile_append {p : Char → Bool} {run : List Char} (hrun : ∀ c ∈ run, p c = true)
    (cs : List Char) : (cs ++ run).rdropWhile p = cs.rdropWhile p := by
  have hreverse : ∀ c ∈ run.reverse, p c = true := fun c hc => hrun c (List.mem_reverse.mp hc)
  rw [List.rdropWhile, List.reverse_append, List.dropWhile_append_of_pos hreverse]
  rfl

end LineShell.Text
