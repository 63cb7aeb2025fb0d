import LineShell.Proofs.Token.Stance

/-!
# Going on with a line

A line is read from left to right, so what is added to it at the end cannot change a token that
another token follows: only the last one is still being typed. A blank completes that one too,
unless it is quoted or escaped. With `_` for the blank that is added:

    cat 'a'_    after a closed quote       the rest is read as a line of its own
    cat a_      inside a word              the blank ends it, and so is the rest
    cat 'a_     inside a quote             the blank belongs to the token at hand
    cat a\_     right after a backslash    the blank belongs to the token at hand

Main statement: the tokens before the last stay, and a blank splits the line into two that are read
apart exactly when no quote is open and no backslash waits (`tokenize_incremental`).
-/

namespace LineShell.Token

open Text (isBlank)

namespace Stance

/-! ### Where a blank is part of a token -/

def InQuote : Stance → Prop
  | quote _ _ => True
  | quoteEscape _ _ => True
  | _ => False

/-- The character before was a backslash that takes the next one literally. A backslash that was
itself taken literally does not count. -/
def AfterEscape : Stance → Prop
  | wordEscape _ => True
  | quoteEscape _ _ => True
  | _ => False

variable {s : Stance} {w : Char}

/-- A blank that is neither quoted nor escaped completes the token at hand, if there is one, and
what comes after it is read from the beginning. -/
theorem read_blank_of_not (hquote : ¬ s.InQuote) (hescape : ¬ s.AfterEscape)
    (hw : isBlank w = true) (cs : List Char) :
    s.read (w :: cs) = s.last.toList ++ between.read cs := by
  cases s with
  | between => exact read_between_blank cs hw
  | word text => exact read_word_blank cs hw
  | wordEscape text => exact absurd trivial hescape
  | quote q text => exact absurd trivial hquote
  | quoteEscape q text => exact absurd trivial hquote

/-- A quoted or escaped blank goes into the token at hand, right after its text. Without it, the
text would be the token, with the backslash that waits if there is one. -/
theorem read_blank_inside (hs : s.Opened) (hinside : s.InQuote ∨ s.AfterEscape)
    (hw : isBlank w = true) (cs : List Char) :
    ∃ text more rest, s.read (w :: cs) = (text ++ w :: more) :: rest ∧
      (s.last = some text ∨ s.last = some (text ++ ['\\'])) := by
  cases s with
  | between => exact (hinside.elim id id).elim
  | word text => exact (hinside.elim id id).elim
  | wordEscape text =>
    refine ⟨text, (bare cs).1, between.read (bare cs).2, ?_, .inr rfl⟩
    show (word (text ++ [w])).read cs = _
    rw [read_word, List.append_assoc, List.singleton_append]
  | quote q text =>
    have hescape := ne_backslash_of_isBlank hw
    have hclose := ne_of_isBlank_of_isQuote hw hs
    refine ⟨text, (quoted q cs).1, between.read (quoted q cs).2, ?_, .inl rfl⟩
    rw [read_quote_plain cs hescape hclose, read_quote (ne_backslash_of_isQuote hs),
      List.append_assoc, List.singleton_append]
  | quoteEscape q text =>
    refine ⟨text, (quoted q cs).1, between.read (quoted q cs).2, ?_, .inr rfl⟩
    show (quote q (text ++ [w])).read cs = _
    rw [read_quote (ne_backslash_of_isQuote hs), List.append_assoc, List.singleton_append]

/-- So the token at hand is not the one that the end of the line would end. -/
theorem read_blank_ne (hs : s.Opened) (hinside : s.InQuote ∨ s.AfterEscape)
    (hw : isBlank w = true) (cs : List Char) (tokens : List (List Char)) :
    s.read (w :: cs) ≠ s.last.toList ++ tokens := by
  intro h
  obtain ⟨text, more, rest, hread, hlast⟩ := read_blank_inside hs hinside hw cs
  rw [hread] at h
  rcases hlast with hlast | hlast <;> rw [hlast] at h
  · -- the token goes on where it would end
    have htoken : text ++ w :: more = text := (List.cons.inj h).1
    rw [List.append_right_eq_self] at htoken
    cases htoken
  · -- the token has the blank where the backslash would stand
    have htoken : text ++ w :: more = text ++ ['\\'] := (List.cons.inj h).1
    rw [List.append_cancel_left_eq] at htoken
    exact ne_backslash_of_isBlank hw (List.cons.inj htoken).1

theorem read_blank_iff (hs : s.Opened) (hw : isBlank w = true) (cs : List Char) :
    s.read (w :: cs) = s.last.toList ++ between.read cs ↔ ¬ s.InQuote ∧ ¬ s.AfterEscape := by
  constructor
  · intro h
    constructor
    · intro hquote
      exact read_blank_ne hs (.inl hquote) hw cs _ h
    · intro hescape
      exact read_blank_ne hs (.inr hescape) hw cs _ h
  · rintro ⟨hquote, hescape⟩
    exact read_blank_of_not hquote hescape hw cs

end Stance

/-! ### Longer lines -/

/-- The last token of a line is the only one that its end has ended. -/
theorem dropLast_scan_tokens (a : List Char) : (scan a).dropLast <+: Stance.between.tokens a := by
  rw [Stance.scan_eq_read, Stance.read]
  cases (Stance.between.after a).last with
  | none =>
    show (Stance.between.tokens a ++ []).dropLast <+: _
    rw [List.append_nil]
    exact List.dropLast_prefix _
  | some token =>
    refine ⟨[], ?_⟩
    show (Stance.between.tokens a ++ [token]).dropLast ++ [] = _
    rw [List.append_nil]
    exact List.dropLast_concat

/-- All tokens but the last stay when a line grows. -/
theorem dropLast_scan_append (a b : List Char) : (scan a).dropLast <+: scan (a ++ b) := by
  apply (dropLast_scan_tokens a).trans
  rw [Stance.scan_eq_read (a ++ b), Stance.read_append]
  exact List.prefix_append _ _

/-- What the end of the first part ends, its blank has to end. -/
theorem scan_append_blank_iff (a b : List Char) {w : Char} (hw : isBlank w = true) :
    scan (a ++ w :: b) = scan a ++ scan b ↔
      ¬ (Stance.between.after a).InQuote ∧ ¬ (Stance.between.after a).AfterEscape := by
  have hopened : (Stance.between.after a).Opened :=
    Stance.opened_after (s := .between) trivial a
  have ha : scan a = Stance.between.tokens a ++ (Stance.between.after a).last.toList :=
    Stance.scan_eq_read a
  rw [← Stance.read_blank_iff hopened hw b, ha, Stance.scan_eq_read, Stance.read_append,
    Stance.scan_eq_read b, List.append_assoc, List.append_cancel_left_eq]

/-- **Tokens are settled from left to right.** Whatever is typed after a line, all its tokens but
the last stay. A blank after it settles the last one too, so that what follows is read as a line of
its own, exactly when the line ends neither in an open quote nor after a backslash that waits for a
character. -/
theorem tokenize_incremental (a b : String) :
    (tokenize a).dropLast <+: tokenize (a ++ b) ∧
    ∀ w : Char, isBlank w = true →
      (tokenize (a ++ String.singleton w ++ b) = tokenize a ++ tokenize b ↔
        ¬ (Stance.between.after a.toList).InQuote ∧
        ¬ (Stance.between.after a.toList).AfterEscape) := by
  constructor
  · show ((scan a.toList).map String.ofList).dropLast <+: (scan (a ++ b).toList).map String.ofList
    rw [← List.map_dropLast, String.toList_append]
    exact (dropLast_scan_append a.toList b.toList).map String.ofList
  · intro w hw
    have hline : (a ++ String.singleton w ++ b).toList = a.toList ++ w :: b.toList := by simp
    rw [tokenize_eq_iff, hline, List.map_append, map_toList_tokenize, map_toList_tokenize]
    exact scan_append_blank_iff a.toList b.toList hw

/-- The blank after a closed quote, with an escaped quote inside; the rest opens another one. -/
theorem tokenize_incremental_closed :
    (tokenize "cat 'it\\'s'").dropLast <+: tokenize ("cat 'it\\'s'" ++ "'x y") ∧
    isBlank '\t' = true ∧
    tokenize ("cat 'it\\'s'" ++ String.singleton '\t' ++ "'x y") =
      tokenize "cat 'it\\'s'" ++ tokenize "'x y" := by
  have hblank : isBlank '\t' = true := by decide
  have hafter : Stance.between.after "cat 'it\\'s'".toList = .between := by decide +kernel
  obtain ⟨hfirst, hsplit⟩ := tokenize_incremental "cat 'it\\'s'" "'x y"
  refine ⟨hfirst, hblank, (hsplit '\t' hblank).mpr ?_⟩
  rw [hafter]
  exact ⟨id, id⟩

end LineShell.Token
