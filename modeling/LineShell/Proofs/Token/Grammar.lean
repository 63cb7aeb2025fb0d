import LineShell.Proofs.Token.Stance

/-!
# The grammar of a line

The rules for the characters of a line, one by one, for a reader that stands between tokens or
inside one. They are stated without the loops that take a token off a line, and without the order
in which those loops test a character.

    Reads : a stance, a text, tokens ──▶ from the stance, the text is read as the tokens

The rules leave no choice and never get stuck: from a stance that a line can lead to, a text is read
in exactly one way (`reads_iff`), which is the pass of `Stance`. Main statement:
`reads_iff_tokenize`, with the tokens that are drawn one after the other.
-/

namespace LineShell.Token

open Text (isBlank)

namespace Stance

/-! ### The rules -/

inductive Reads : Stance → List Char → List (List Char) → Prop
  -- between tokens, blanks are skipped and any other character begins a token
  | done : Reads between [] []
  | skip {c cs tokens} : isBlank c = true → Reads between cs tokens →
      Reads between (c :: cs) tokens
  | openQuote {q cs tokens} : q = '"' ∨ q = '\'' → Reads (quote q []) cs tokens →
      Reads between (q :: cs) tokens
  | openWord {c cs tokens} : isBlank c = false → c ≠ '"' → c ≠ '\'' → c ≠ '\\' →
      Reads (word [c]) cs tokens → Reads between (c :: cs) tokens
  | openEscape {cs tokens} : Reads (wordEscape []) cs tokens → Reads between ('\\' :: cs) tokens
  -- a word ends at a blank or with the line, and a quote is a character like any other
  | wordDone {text} : Reads (word text) [] [text]
  | wordEnd {text c cs tokens} : isBlank c = true → Reads between cs tokens →
      Reads (word text) (c :: cs) (text :: tokens)
  | wordBackslash {text cs tokens} : Reads (wordEscape text) cs tokens →
      Reads (word text) ('\\' :: cs) tokens
  | wordPlain {text c cs tokens} : isBlank c = false → c ≠ '\\' →
      Reads (word (text ++ [c])) cs tokens → Reads (word text) (c :: cs) tokens
  -- a quoted token ends at its quote or with the line, and a blank is a character like any other
  | quoteDone {q text} : Reads (quote q text) [] [text]
  | quoteEnd {q text cs tokens} : Reads between cs tokens →
      Reads (quote q text) (q :: cs) (text :: tokens)
  | quoteBackslash {q text cs tokens} : Reads (quoteEscape q text) cs tokens →
      Reads (quote q text) ('\\' :: cs) tokens
  | quotePlain {q text c cs tokens} : c ≠ q → c ≠ '\\' → Reads (quote q (text ++ [c])) cs tokens →
      Reads (quote q text) (c :: cs) tokens
  -- after a backslash every character is taken, and at the end of the line the backslash is kept
  | wordEscapeDone {text} : Reads (wordEscape text) [] [text ++ ['\\']]
  | wordEscaped {text c cs tokens} : Reads (word (text ++ [c])) cs tokens →
      Reads (wordEscape text) (c :: cs) tokens
  | quoteEscapeDone {q text} : Reads (quoteEscape q text) [] [text ++ ['\\']]
  | quoteEscaped {q text c cs tokens} : Reads (quote q (text ++ [c])) cs tokens →
      Reads (quoteEscape q text) (c :: cs) tokens

variable {s : Stance} {cs : List Char} {tokens : List (List Char)}

theorem isQuote_iff {q : Char} : isQuote q = true ↔ q = '"' ∨ q = '\'' := by
  rw [isQuote, Bool.or_eq_true, beq_iff_eq, beq_iff_eq]

/-! ### The rules never get stuck -/

/-- The pass takes one character as some rule does. -/
theorem Reads.cons {c : Char} (h : Reads (s.next c) cs tokens) :
    Reads s (c :: cs) ((s.ended c).toList ++ tokens) := by
  cases s with
  | between =>
    rw [next] at h
    split_ifs at h with hblank hquote hescape
    · exact .skip hblank h
    · exact .openQuote (isQuote_iff.mp hquote) h
    · exact hescape ▸ .openEscape h
    · obtain ⟨hdouble, hsingle⟩ := not_or.mp (mt isQuote_iff.mpr hquote)
      exact .openWord (Bool.eq_false_iff.mpr hblank) hdouble hsingle hescape h
  | word text =>
    rw [next] at h
    rw [ended]
    split_ifs at h ⊢ with hblank hescape
    · exact .wordEnd hblank h
    · exact hescape ▸ .wordBackslash h
    · exact .wordPlain (Bool.eq_false_iff.mpr hblank) hescape h
  | wordEscape text => exact .wordEscaped h
  | quote q text =>
    rw [next] at h
    rw [ended]
    split_ifs at h ⊢ with hescape hclose
    · exact hescape ▸ .quoteBackslash h
    · exact hclose ▸ .quoteEnd h
    · exact .quotePlain hclose hescape h
  | quoteEscape q text => exact .quoteEscaped h

theorem Reads.nil (s : Stance) : Reads s [] s.last.toList := by
  cases s with
  | between => exact .done
  | word text => exact .wordDone
  | wordEscape text => exact .wordEscapeDone
  | quote q text => exact .quoteDone
  | quoteEscape q text => exact .quoteEscapeDone

theorem reads_read (s : Stance) (cs : List Char) : Reads s cs (s.read cs) := by
  induction cs generalizing s with
  | nil => exact .nil s
  | cons c cs ih =>
    rw [read_cons]
    exact .cons (ih (s.next c))

/-! ### The rules leave no choice -/

/-- Every rule is a step of the pass. The quote that closes a token is no backslash, so at most one
rule applies to it. -/
theorem Reads.eq_read (h : Reads s cs tokens) (hs : s.Opened) : tokens = s.read cs := by
  induction h with
  | done | wordDone | quoteDone | wordEscapeDone | quoteEscapeDone => rfl
  | skip hblank _ ih => rw [read_between_blank _ hblank, ih trivial]
  | openQuote hq _ ih =>
    have hquote := isQuote_iff.mpr hq
    rw [read_between_quote _ hquote, ih hquote]
  | openWord hblank hdouble hsingle hescape _ ih =>
    have hquote := Bool.eq_false_iff.mpr (mt isQuote_iff.mp (not_or.mpr ⟨hdouble, hsingle⟩))
    rw [read_between_other _ hblank hquote, read_word_plain _ hblank hescape, ih trivial]
    rfl
  | openEscape _ ih => exact ih trivial
  | wordEnd hblank _ ih => rw [read_word_blank _ hblank, ih trivial]
  | wordBackslash _ ih => exact ih trivial
  | wordPlain hblank hescape _ ih => rw [read_word_plain _ hblank hescape, ih trivial]
  | quoteEnd _ ih => rw [read_quote_close _ (ne_backslash_of_isQuote hs), ih trivial]
  | quoteBackslash _ ih => exact ih hs
  | quotePlain hclose hescape _ ih => rw [read_quote_plain _ hescape hclose, ih hs]
  | wordEscaped _ ih => exact ih trivial
  | quoteEscaped _ ih => exact ih hs

/-- Every text is read in one way, and the reader finds it. -/
theorem reads_iff (hs : s.Opened) : Reads s cs tokens ↔ tokens = s.read cs := by
  constructor
  · exact fun h => h.eq_read hs
  · rintro rfl
    exact reads_read s cs

end Stance

/-! ### Drawing tokens -/

/-- Drawing tokens one after the other gives the first of all tokens. -/
theorem draw_eq_take (n : Nat) (cs : List Char) : draw n cs = (scan cs).take n := by
  induction n generalizing cs with
  | zero => rfl
  | succ n ih =>
    rw [draw]
    cases h : next? cs with
    | none => rw [scan_eq_nil h, List.take_nil]
    | some found =>
      obtain ⟨token, left⟩ := found
      rw [scan_eq_cons h, List.take_succ_cons]
      exact congrArg (token :: ·) (ih left)

/-- **The words of a line are those of the grammar**: the rules read every line in exactly one way,
and that is how it is scanned. Drawing the words one after the other gives the same words, as far as
one draws. -/
theorem reads_iff_tokenize (line : String) :
    (∀ words : List String, Stance.Reads .between line.toList (words.map String.toList) ↔
      words = tokenize line) ∧
    ∀ n, tokenizeUpTo n line = (tokenize line).take n := by
  constructor
  · intro words
    have hbetween : Stance.between.Opened := trivial
    rw [Stance.reads_iff hbetween, ← Stance.scan_eq_read, eq_comm, ← tokenize_eq_iff, eq_comm]
  · intro n
    rw [tokenizeUpTo, draw_eq_take, List.map_take]
    rfl

end LineShell.Token
