import LineShell.Token
import Mathlib.Data.List.TakeWhile

/-!
# Scanning, one character and one token at a time

The equations that later proofs scan with. `quoted` and `bare` look two characters ahead; here
every character has an equation of its own: it is escaped, it ends the token, or it belongs to it.
`scan` takes blanks off the front and then a token, so it is empty for blank lines only
(`tokenize_eq_nil_iff`).
-/

namespace LineShell.Token

open Text (isBlank)

/-! ### Characters of a quoted token -/

/-- Between quotes a backslash makes any character literal. -/
theorem quoted_escape (q c : Char) (rest : List Char) :
    quoted q ('\\' :: c :: rest) = (c :: (quoted q rest).1, (quoted q rest).2) := by
  rw [quoted, if_pos rfl]

theorem quoted_close {q : Char} (h : q ≠ '\\') (rest : List Char) :
    quoted q (q :: rest) = ([], rest) := by
  cases rest with
  | nil => rw [quoted, if_neg h, if_pos rfl]
  | cons d rest => rw [quoted, if_neg h, if_pos rfl]

theorem quoted_plain {q c : Char} (hescape : c ≠ '\\') (hclose : c ≠ q) (rest : List Char) :
    quoted q (c :: rest) = (c :: (quoted q rest).1, (quoted q rest).2) := by
  cases rest with
  | nil => simp only [quoted, if_neg hescape, if_neg hclose]
  | cons d rest => rw [quoted, if_neg hescape, if_neg hclose]

/-! ### Characters of a bare token -/

theorem bare_escape (c : Char) (rest : List Char) :
    bare ('\\' :: c :: rest) = (c :: (bare rest).1, (bare rest).2) := by
  rw [bare, if_neg (by decide), if_pos rfl]

/-- A blank ends a bare word and is left for what follows. -/
theorem bare_stop {c : Char} (h : isBlank c = true) (rest : List Char) :
    bare (c :: rest) = ([], c :: rest) := by
  cases rest with
  | nil => rw [bare, if_pos h]
  | cons d rest => rw [bare, if_pos h]

theorem bare_plain {c : Char} (hblank : isBlank c = false) (hescape : c ≠ '\\')
    (rest : List Char) : bare (c :: rest) = (c :: (bare rest).1, (bare rest).2) := by
  have hstop : ¬ isBlank c = true := Bool.eq_false_iff.mp hblank
  cases rest with
  | nil => simp only [bare, if_neg hstop]
  | cons d rest => rw [bare, if_neg hstop, if_neg hescape]

/-! ### The next token -/

/-- A run of blanks, which may be empty. -/
def IsGap (gap : List Char) : Prop := ∀ c ∈ gap, isBlank c = true

theorem isGap_nil : IsGap [] := List.forall_mem_nil _

theorem isGap_singleton {c : Char} (h : isBlank c = true) : IsGap [c] :=
  List.forall_mem_singleton.mpr h

theorem isGap_toList_iff {line : String} : IsGap line.toList ↔ Text.isBlankLine line = true := by
  rw [Text.isBlankLine, List.all_eq_true]
  rfl

theorem not_isBlank_of_isQuote {q : Char} (h : isQuote q = true) : isBlank q = false := by
  rw [isQuote, Bool.or_eq_true, beq_iff_eq, beq_iff_eq] at h
  rcases h with rfl | rfl <;> decide

theorem ne_backslash_of_isQuote {q : Char} (h : isQuote q = true) : q ≠ '\\' := by
  rintro rfl
  exact absurd h (by decide)

/-- Blanks, backslashes and quotes are three kinds of characters. -/
theorem ne_backslash_of_isBlank {c : Char} (h : isBlank c = true) : c ≠ '\\' := by
  rintro rfl
  exact absurd h (by decide)

theorem ne_of_isBlank_of_isQuote {c q : Char} (h : isBlank c = true) (hq : isQuote q = true) :
    c ≠ q := by
  rintro rfl
  rw [not_isBlank_of_isQuote hq] at h
  cases h

/-- Blanks in front of a token do not matter. -/
theorem next?_gap_append {gap : List Char} (h : IsGap gap) (cs : List Char) :
    next? (gap ++ cs) = next? cs := by
  rw [next?, next?, List.dropWhile_append_of_pos h]

/-- There is no token just when only blanks are left. -/
theorem next?_eq_none_iff {cs : List Char} : next? cs = none ↔ IsGap cs := by
  rw [next?, IsGap, ← List.dropWhile_eq_nil_iff]
  split
  · next h => simp [h]
  · next h => simp [h]

/-- A quote opens a quoted token. -/
theorem next?_quote {q : Char} (h : isQuote q = true) (rest : List Char) :
    next? (q :: rest) = some (quoted q rest) := by
  have hblank : ¬ isBlank q = true := Bool.eq_false_iff.mp (not_isBlank_of_isQuote h)
  rw [next?, List.dropWhile_cons_of_neg hblank]
  simp only [h, if_true]

/-- Any other character that is not blank begins a bare token. -/
theorem next?_bare {c : Char} (hblank : isBlank c = false) (hquote : isQuote c = false)
    (rest : List Char) : next? (c :: rest) = some (bare (c :: rest)) := by
  have hstop : ¬ isBlank c = true := Bool.eq_false_iff.mp hblank
  rw [next?, List.dropWhile_cons_of_neg hstop]
  simp only [hquote, Bool.false_eq_true, if_false]

/-- A token begins at the first character that is not blank, which says how it is read. -/
theorem exists_gap_of_next? {cs token left : List Char} (h : next? cs = some (token, left)) :
    ∃ gap c rest, cs = gap ++ c :: rest ∧ IsGap gap ∧ isBlank c = false ∧
      (if isQuote c then quoted c rest else bare (c :: rest)) = (token, left) := by
  rw [next?] at h
  cases hrest : cs.dropWhile isBlank with
  | nil => simp [hrest] at h
  | cons c rest =>
    refine ⟨cs.takeWhile isBlank, c, rest, ?_, ?_, isBlank_of_dropWhile hrest, ?_⟩
    · rw [← hrest, List.takeWhile_append_dropWhile]
    · exact fun d hd => List.mem_takeWhile_imp hd
    · rw [hrest] at h
      exact Option.some.inj h

/-! ### What a token takes -/

/-- A token and what is left after it are no longer than what they were taken from. -/
theorem length_next? {cs token left : List Char} (h : next? cs = some (token, left)) :
    token.length + left.length ≤ cs.length := by
  obtain ⟨gap, c, rest, rfl, -, -, hread⟩ := exists_gap_of_next? h
  rw [List.length_append, List.length_cons]
  split at hread
  · have := length_quoted c rest
    rw [hread] at this
    simp only at this
    omega
  · have := length_bare (c :: rest)
    rw [hread, List.length_cons] at this
    simp only at this
    omega

/-! ### All tokens -/

theorem scan_eq_nil {cs : List Char} (h : next? cs = none) : scan cs = [] := by
  rw [scan]
  split
  · rfl
  · next h' => rw [h] at h'; cases h'

/-- A line is its next token and the tokens of what is left. -/
theorem scan_eq_cons {cs token left : List Char} (h : next? cs = some (token, left)) :
    scan cs = token :: scan left := by
  rw [scan]
  split
  · next h' => rw [h] at h'; cases h'
  · next h' => rw [h] at h'; cases h'; rfl

/-- Blanks in front of a line do not matter. -/
theorem scan_gap_append {gap : List Char} (h : IsGap gap) (cs : List Char) :
    scan (gap ++ cs) = scan cs := by
  have hnext := next?_gap_append h cs
  cases hcs : next? cs with
  | none => rw [scan_eq_nil hcs, scan_eq_nil (hnext.trans hcs)]
  | some found =>
    obtain ⟨token, left⟩ := found
    rw [scan_eq_cons hcs, scan_eq_cons (hnext.trans hcs)]

/-- A line without tokens is blank. -/
theorem scan_eq_nil_iff {cs : List Char} : scan cs = [] ↔ IsGap cs := by
  rw [← next?_eq_none_iff]
  refine ⟨fun h => ?_, scan_eq_nil⟩
  cases hcs : next? cs with
  | none => rfl
  | some found =>
    obtain ⟨token, left⟩ := found
    rw [scan_eq_cons hcs] at h
    cases h

/-- The tokens of a line, character by character. -/
theorem tokenize_eq_iff {line : String} {words : List String} :
    tokenize line = words ↔ scan line.toList = words.map String.toList := by
  have hto : String.toList ∘ String.ofList = id := funext fun _ => String.toList_ofList
  have hof : String.ofList ∘ String.toList = id := funext fun _ => String.ofList_toList
  rw [tokenize]
  constructor
  · rintro rfl
    rw [List.map_map, hto, List.map_id]
  · intro h
    rw [h, List.map_map, hof, List.map_id]

theorem map_toList_tokenize (line : String) : (tokenize line).map String.toList = scan line.toList :=
  (tokenize_eq_iff.mp rfl).symm

/-- Exactly the blank lines have no token. -/
theorem tokenize_eq_nil_iff {line : String} :
    tokenize line = [] ↔ Text.isBlankLine line = true := by
  rw [tokenize, List.map_eq_nil_iff, scan_eq_nil_iff, isGap_toList_iff]

end LineShell.Token
