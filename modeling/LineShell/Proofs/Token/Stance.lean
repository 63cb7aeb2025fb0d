import LineShell.Proofs.Token.Scan

/-!
# Reading a line in one pass

`scan` takes token after token off a line, each with a loop of its own. The same tokens come out of
one pass over the characters that remembers where it stands and what it has of the token at hand:

    next   : a stance, a character ──▶ the stance after it
    ended  : a stance, a character ──▶ the token that it ends, if any
    tokens : a stance, a text      ──▶ the tokens that end in the text
    read   : a stance, a text      ──▶ these, and the one that the end of the line ends

A pass can be cut anywhere (`read_append`), which `scan` cannot. The loops for one token are the
pass from inside a token (`read_word`, `read_quote`), so `scan_eq_read`.
-/

namespace LineShell.Token

open Text (isBlank)

/-- Where a reader of a line stands: between tokens, or inside one that has the given text so far.
After a backslash it waits for the character that is taken literally. -/
inductive Stance where
  | between
  | word (text : List Char)
  | wordEscape (text : List Char)
  | quote (q : Char) (text : List Char)
  | quoteEscape (q : Char) (text : List Char)
deriving DecidableEq, Repr

namespace Stance

/-! ### The pass -/

def next : Stance → Char → Stance
  | between, c =>
    if isBlank c then between
    else if isQuote c then quote c []
    else if c = '\\' then wordEscape []
    else word [c]
  | word text, c =>
    if isBlank c then between
    else if c = '\\' then wordEscape text
    else word (text ++ [c])
  | wordEscape text, c => word (text ++ [c])
  | quote q text, c =>
    if c = '\\' then quoteEscape q text
    else if c = q then between
    else quote q (text ++ [c])
  | quoteEscape q text, c => quote q (text ++ [c])

def ended : Stance → Char → Option (List Char)
  | word text, c => if isBlank c then some text else none
  | quote q text, c => if c = '\\' then none else if c = q then some text else none
  | _, _ => none

/-- The token that the end of the line ends; a backslash that waits stands for itself. -/
def last : Stance → Option (List Char)
  | between => none
  | word text => some text
  | wordEscape text => some (text ++ ['\\'])
  | quote _ text => some text
  | quoteEscape _ text => some (text ++ ['\\'])

def after (s : Stance) (cs : List Char) : Stance := cs.foldl next s

def tokens : Stance → List Char → List (List Char)
  | _, [] => []
  | s, c :: cs => (s.ended c).toList ++ (s.next c).tokens cs

def read (s : Stance) (cs : List Char) : List (List Char) := s.tokens cs ++ (s.after cs).last.toList

/-! ### Cutting the text -/

theorem after_append (s : Stance) (a b : List Char) : s.after (a ++ b) = (s.after a).after b :=
  List.foldl_append

theorem tokens_append (s : Stance) (a b : List Char) :
    s.tokens (a ++ b) = s.tokens a ++ (s.after a).tokens b := by
  induction a generalizing s with
  | nil => rfl
  | cons c a ih =>
    rw [List.cons_append, tokens, tokens, ih, List.append_assoc]
    rfl

/-- A text is read in two parts, the second from the stance after the first. -/
theorem read_append (s : Stance) (a b : List Char) :
    s.read (a ++ b) = s.tokens a ++ (s.after a).read b := by
  rw [read, read, tokens_append, after_append, List.append_assoc]

theorem read_cons (s : Stance) (c : Char) (cs : List Char) :
    s.read (c :: cs) = (s.ended c).toList ++ (s.next c).read cs := by
  rw [read, read, tokens, List.append_assoc]
  rfl

/-! ### One character -/

section

variable {c q : Char} {text : List Char} (cs : List Char)

theorem read_between_blank (h : isBlank c = true) : between.read (c :: cs) = between.read cs := by
  rw [read_cons, next, if_pos h]
  rfl

theorem read_between_quote (h : isQuote c = true) :
    between.read (c :: cs) = (quote c []).read cs := by
  have hstop : ¬ isBlank c = true := Bool.eq_false_iff.mp (not_isBlank_of_isQuote h)
  rw [read_cons, next, if_neg hstop, if_pos h]
  rfl

/-- Any other character is read as in a word that has no text yet. -/
theorem read_between_other (hblank : isBlank c = false) (hquote : isQuote c = false) :
    between.read (c :: cs) = (word []).read (c :: cs) := by
  have hstop : ¬ isBlank c = true := Bool.eq_false_iff.mp hblank
  have hopen : ¬ isQuote c = true := Bool.eq_false_iff.mp hquote
  have hnext : between.next c = (word []).next c := by
    rw [next, next, if_neg hstop, if_neg hstop, if_neg hopen]
    rfl
  have hended : (word []).ended c = none := by rw [ended, if_neg hstop]
  rw [read_cons, read_cons, hnext, hended]
  rfl

theorem read_word_blank (h : isBlank c = true) :
    (word text).read (c :: cs) = text :: between.read cs := by
  rw [read_cons, ended, next, if_pos h, if_pos h]
  rfl

theorem read_word_escape (c : Char) :
    (word text).read ('\\' :: c :: cs) = (word (text ++ [c])).read cs := by
  have hstop : ¬ isBlank '\\' = true := by decide
  rw [read_cons, ended, next, if_neg hstop, if_neg hstop, if_pos rfl, read_cons]
  rfl

theorem read_word_plain (hblank : isBlank c = false) (hescape : c ≠ '\\') :
    (word text).read (c :: cs) = (word (text ++ [c])).read cs := by
  have hstop : ¬ isBlank c = true := Bool.eq_false_iff.mp hblank
  rw [read_cons, ended, next, if_neg hstop, if_neg hstop, if_neg hescape]
  rfl

theorem read_quote_escape (c : Char) :
    (quote q text).read ('\\' :: c :: cs) = (quote q (text ++ [c])).read cs := by
  rw [read_cons, ended, next, if_pos rfl, if_pos rfl, read_cons]
  rfl

theorem read_quote_close (h : q ≠ '\\') :
    (quote q text).read (q :: cs) = text :: between.read cs := by
  rw [read_cons, ended, next, if_neg h, if_neg h, if_pos rfl, if_pos rfl]
  rfl

theorem read_quote_plain (hescape : c ≠ '\\') (hclose : c ≠ q) :
    (quote q text).read (c :: cs) = (quote q (text ++ [c])).read cs := by
  rw [read_cons, ended, next, if_neg hescape, if_neg hescape, if_neg hclose, if_neg hclose]
  rfl

end

/-! ### Agreement with scanning -/

/-- From inside a bare word the reader goes where `bare` goes. -/
theorem read_word (text cs : List Char) :
    (word text).read cs = (text ++ (bare cs).1) :: between.read (bare cs).2 := by
  -- along `bare`, with the text before it in front of what it takes
  fun_induction bare cs generalizing text with
  | case1 => rw [List.append_nil]; rfl
  | case2 c hblank =>
    rw [read_word_blank [] hblank, read_between_blank [] hblank, List.append_nil]
  | case3 c hblank =>
    by_cases hescape : c = '\\'
    · subst hescape
      rfl
    · rw [read_word_plain [] (Bool.eq_false_iff.mpr hblank) hescape]
      rfl
  | case4 c d rest hblank =>
    rw [read_word_blank _ hblank, read_between_blank _ hblank, List.append_nil]
  | case5 d rest token left hrest hblank ih =>
    rw [read_word_escape, ih, hrest, List.append_assoc]
    rfl
  | case6 c d rest hblank hescape token left hrest ih =>
    rw [read_word_plain _ (Bool.eq_false_iff.mpr hblank) hescape, ih, hrest, List.append_assoc]
    rfl

/-- From inside quotes the reader goes where `quoted` goes. -/
theorem read_quote {q : Char} (hq : q ≠ '\\') (text cs : List Char) :
    (quote q text).read cs = (text ++ (quoted q cs).1) :: between.read (quoted q cs).2 := by
  fun_induction quoted q cs generalizing text with
  | case1 => rw [List.append_nil]; rfl
  | case2 => rfl
  | case3 => rw [read_quote_close [] hq, List.append_nil]
  | case4 c hescape hclose =>
    rw [read_quote_plain [] hescape hclose]
    rfl
  | case5 d rest token left hrest ih =>
    rw [read_quote_escape, ih, hrest, List.append_assoc]
    rfl
  | case6 d rest => rw [read_quote_close _ hq, List.append_nil]
  | case7 c d rest hescape hclose token left hrest ih =>
    rw [read_quote_plain _ hescape hclose, ih, hrest, List.append_assoc]
    rfl

theorem read_between_gap {gap : List Char} (h : IsGap gap) (cs : List Char) :
    between.read (gap ++ cs) = between.read cs := by
  induction gap with
  | nil => rfl
  | cons c gap ih =>
    rw [List.cons_append, read_between_blank _ (h c (by simp))]
    exact ih fun d hd => h d (by simp [hd])

theorem read_between_of_next? {cs token left : List Char} (h : next? cs = some (token, left)) :
    between.read cs = token :: between.read left := by
  obtain ⟨gap, c, rest, rfl, hgap, hblank, hread⟩ := exists_gap_of_next? h
  rw [read_between_gap hgap]
  by_cases hquote : isQuote c = true
  · rw [if_pos hquote] at hread
    rw [read_between_quote _ hquote, read_quote (ne_backslash_of_isQuote hquote), hread]
    rfl
  · rw [if_neg hquote] at hread
    have hword := read_between_other rest hblank (Bool.eq_false_iff.mpr hquote)
    rw [hword, read_word, hread]
    rfl

/-- One pass over a line reads the tokens that are scanned. -/
theorem scan_eq_read (cs : List Char) : scan cs = between.read cs := by
  cases h : next? cs with
  | none =>
    have hgap := read_between_gap (next?_eq_none_iff.mp h) []
    rw [List.append_nil] at hgap
    rw [scan_eq_nil h, hgap]
    rfl
  | some found =>
    obtain ⟨token, left⟩ := found
    rw [scan_eq_cons h, read_between_of_next? h, scan_eq_read left]
termination_by cs.length
decreasing_by exact length_lt_of_next? h

/-! ### Blanks inside tokens -/

/-- The quote that has to close a token is a quote. -/
def Opened : Stance → Prop
  | quote q _ => isQuote q = true
  | quoteEscape q _ => isQuote q = true
  | _ => True

theorem opened_next {s : Stance} (h : s.Opened) (c : Char) : (s.next c).Opened := by
  cases s with
  | between =>
    rw [next]
    split
    · trivial
    · split
      · assumption
      · split <;> trivial
  | word text =>
    rw [next]
    split
    · trivial
    · split <;> trivial
  | wordEscape text => trivial
  | quote q text =>
    rw [next]
    split
    · exact h
    · split
      · trivial
      · exact h
  | quoteEscape q text => exact h

theorem opened_after {s : Stance} (h : s.Opened) (cs : List Char) : (s.after cs).Opened := by
  induction cs generalizing s with
  | nil => exact h
  | cons c cs ih => exact ih (opened_next h c)

/-- A token that has the character is at hand, and the next character is not escaped. -/
def Holds (s : Stance) (b : Char) : Prop :=
  (∃ text, b ∈ text ∧ s = word text) ∨ ∃ q text, isQuote q = true ∧ b ∈ text ∧ s = quote q text

/-- A blank ends a token or separates tokens, unless it is quoted or escaped: then it is part of
the token at hand. -/
theorem next_blank_cases {s : Stance} (h : s.Opened) {b : Char} (hb : isBlank b = true) :
    s.next b = between ∨ (s.next b).Holds b := by
  cases s with
  | between => exact .inl (if_pos hb)
  | word text => exact .inl (if_pos hb)
  | wordEscape text => exact .inr (.inl ⟨text ++ [b], by simp, rfl⟩)
  | quote q text =>
    have hescape := ne_backslash_of_isBlank hb
    have hclose := ne_of_isBlank_of_isQuote hb h
    refine .inr (.inr ⟨q, text ++ [b], h, by simp, ?_⟩)
    rw [next, if_neg hescape, if_neg hclose]
  | quoteEscape q text => exact .inr (.inr ⟨q, text ++ [b], h, by simp, rfl⟩)

/-- After a blank a line has ended between tokens, or in a token that has the blank. -/
theorem after_concat_blank_cases (cs : List Char) {b : Char} (hb : isBlank b = true) :
    between.after (cs ++ [b]) = between ∨ (between.after (cs ++ [b])).Holds b := by
  have hopened : (between.after cs).Opened := opened_after (s := between) trivial cs
  rw [after_append]
  exact next_blank_cases hopened hb

/-! ### Texts that end between tokens -/

/-- A text that ends between two tokens is cut off from what follows it. -/
theorem scan_append {a : List Char} (h : between.after a = between) (b : List Char) :
    scan (a ++ b) = scan a ++ scan b := by
  have ha : scan a = between.tokens a := by
    rw [scan_eq_read, read, h]
    exact List.append_nil _
  rw [scan_eq_read, read_append, h, ha, scan_eq_read]

end Stance

/-- Where a line stands between words, what comes after it is read on its own. -/
theorem tokenize_append {a : String} (h : Stance.between.after a.toList = .between) (b : String) :
    tokenize (a ++ b) = tokenize a ++ tokenize b := by
  rw [tokenize, String.toList_append, Stance.scan_append h, List.map_append]
  rfl

end LineShell.Token
