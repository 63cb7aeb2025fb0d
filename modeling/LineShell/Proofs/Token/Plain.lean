import LineShell.Proofs.Token.Stance

/-!
# Words that need no quotes

A word is *plain* when it can be written as it is: alone on a line it is read as itself. That is a
matter of its characters (`scan_eq_self_iff`). A word that is not plain loses characters or falls
apart when it is written without quotes and backslashes.
-/

namespace LineShell.Token

open Text (isBlank)

/-- A word that is not empty, has no blank and no backslash before its end, and does not begin
with a quote. -/
structure Plain (word : List Char) : Prop where
  ne_nil : word ≠ []
  not_isBlank : ∀ c ∈ word, isBlank c = false
  no_escape : '\\' ∉ word.dropLast
  not_isQuote : ∀ c ∈ word.head?, isQuote c = false

/-! ### Characters -/

/-- A backslash in front of another character is lost. -/
theorem bare_escape_ne_self (d : Char) (rest left : List Char) :
    bare ('\\' :: d :: rest) ≠ ('\\' :: d :: rest, left) := by
  intro h
  have hlen := length_bare rest
  have htoken : d :: (bare rest).1 = '\\' :: d :: rest := by
    rw [bare_escape] at h
    exact congrArg Prod.fst h
  have := congrArg List.length htoken
  simp only [List.length_cons] at this
  omega

/-- A bare word is read as itself if nothing in it ends it and nothing is escaped. -/
theorem bare_eq_self_iff {cs : List Char} :
    bare cs = (cs, []) ↔ (∀ c ∈ cs, isBlank c = false) ∧ '\\' ∉ cs.dropLast := by
  induction cs with
  | nil => simp [bare]
  | cons c cs ih =>
    by_cases hblank : isBlank c = true
    · rw [bare_stop hblank]
      simp [hblank]
    · have hplain : isBlank c = false := Bool.eq_false_iff.mpr hblank
      cases cs with
      | nil => simp [bare, hplain]
      | cons d rest =>
        by_cases hescape : c = '\\'
        · subst hescape
          simp [bare_escape_ne_self]
        · rw [bare_plain hplain hescape]
          have hcons : (c :: (bare (d :: rest)).1, (bare (d :: rest)).2) = (c :: d :: rest, []) ↔
              bare (d :: rest) = (d :: rest, []) := by
            simp [Prod.ext_iff]
          rw [hcons, ih]
          simp [hplain, Ne.symm hescape]

/-! ### Reading plain words -/

/-- A token that is the whole line was read as a bare word. -/
theorem bare_of_next?_eq_self {word left : List Char} (h : next? word = some (word, left)) :
    word ≠ [] ∧ (∀ c ∈ word.head?, isQuote c = false) ∧ bare word = (word, []) := by
  have hlen := length_next? h
  have hleft : left = [] := List.length_eq_zero_iff.mp (by omega)
  subst hleft
  cases word with
  | nil => cases h
  | cons c rest =>
    by_cases hblank : isBlank c = true
    · -- blanks in front are dropped, so the token is shorter
      have hrest : next? rest = some (c :: rest, []) :=
        (next?_gap_append (isGap_singleton hblank) rest).symm.trans h
      have := length_next? hrest
      simp only [List.length_cons] at this
      omega
    · have hplain : isBlank c = false := Bool.eq_false_iff.mpr hblank
      by_cases hquote : isQuote c = true
      · -- the quote that opens it is not in the token
        rw [next?_quote hquote, Option.some.injEq] at h
        have := length_quoted c rest
        rw [h] at this
        simp only [List.length_cons] at this
        omega
      · have hopen : isQuote c = false := Bool.eq_false_iff.mpr hquote
        rw [next?_bare hplain hopen, Option.some.injEq] at h
        exact ⟨List.cons_ne_nil c rest, by simpa using hopen, h⟩

theorem next?_of_plain {word : List Char} (h : Plain word) : next? word = some (word, []) := by
  cases word with
  | nil => exact absurd rfl h.ne_nil
  | cons c rest =>
    have hblank := h.not_isBlank c (by simp)
    rw [next?_bare hblank (h.not_isQuote c rfl), bare_eq_self_iff.mpr ⟨h.not_isBlank, h.no_escape⟩]

/-- The plain words are those that are read as themselves. -/
theorem scan_eq_self_iff {word : List Char} : scan word = [word] ↔ Plain word := by
  constructor
  · intro h
    cases hnext : next? word with
    | none =>
      rw [scan_eq_nil hnext] at h
      cases h
    | some found =>
      obtain ⟨token, left⟩ := found
      rw [scan_eq_cons hnext] at h
      obtain ⟨rfl, -⟩ := List.cons.inj h
      obtain ⟨hne, hquote, hbare⟩ := bare_of_next?_eq_self hnext
      obtain ⟨hblank, hescape⟩ := bare_eq_self_iff.mp hbare
      exact ⟨hne, hblank, hescape, hquote⟩
  · intro h
    rw [scan_eq_cons (next?_of_plain h), scan_eq_nil rfl]

/-- The plain words are the words that a line can consist of as it stands. -/
theorem tokenize_eq_self_iff {word : String} : tokenize word = [word] ↔ Plain word.toList := by
  rw [tokenize_eq_iff, List.map_singleton, scan_eq_self_iff]

/-! ### Tokens are no longer than the line -/

theorem length_le_of_mem_scan {cs token : List Char} (h : token ∈ scan cs) :
    token.length ≤ cs.length := by
  cases hnext : next? cs with
  | none =>
    rw [scan_eq_nil hnext] at h
    cases h
  | some found =>
    obtain ⟨first, left⟩ := found
    have hlen := length_next? hnext
    rw [scan_eq_cons hnext, List.mem_cons] at h
    rcases h with rfl | h
    · omega
    · have := length_le_of_mem_scan h
      omega
termination_by cs.length
decreasing_by exact length_lt_of_next? hnext

/-! ### Plain words inside other tokens -/

theorem length_quoted_lt (q c : Char) (rest : List Char) :
    (quoted q (c :: rest)).2.length < (c :: rest).length := by
  by_cases hescape : c = '\\'
  · subst hescape
    cases rest with
    | nil => simp [quoted]
    | cons d rest =>
      have := length_quoted_le q rest
      rw [quoted_escape]
      simp only [List.length_cons]
      omega
  · by_cases hclose : c = q
    · subst hclose
      rw [quoted_close hescape]
      simp
    · have := length_quoted_le q rest
      rw [quoted_plain hescape hclose]
      simp only [List.length_cons]
      omega

/-- A plain word that is read while a token with a blank is at hand becomes part of that token, and
no token after it can be the word. -/
theorem notMem_read {s : Stance} {b : Char} {word : List Char} (hs : s.Holds b)
    (hb : isBlank b = true) (hword : Plain word) : s.read word ≠ [] ∧ word ∉ s.read word := by
  obtain ⟨first, left, hmem, hread, hlen⟩ : ∃ first left, b ∈ first ∧
      s.read word = first :: scan left ∧ left.length < word.length := by
    obtain ⟨c, rest, rfl⟩ := List.exists_cons_of_ne_nil hword.ne_nil
    rcases hs with ⟨text, hmem, rfl⟩ | ⟨q, text, hq, hmem, rfl⟩
    · have hlen := length_bare_lt (hword.not_isBlank c (by simp)) rest
      refine ⟨text ++ (bare (c :: rest)).1, (bare (c :: rest)).2, by simp [hmem], ?_, hlen⟩
      rw [Stance.read_word, Stance.scan_eq_read]
    · have hlen := length_quoted_lt q c rest
      refine ⟨text ++ (quoted q (c :: rest)).1, (quoted q (c :: rest)).2, by simp [hmem], ?_, hlen⟩
      rw [Stance.read_quote (ne_backslash_of_isQuote hq), Stance.scan_eq_read]
  rw [hread]
  refine ⟨List.cons_ne_nil _ _, fun h => ?_⟩
  rcases List.mem_cons.mp h with rfl | hrest
  · -- the token at hand has a blank, the word has none
    rw [hword.not_isBlank b hmem] at hb
    cases hb
  · have := length_le_of_mem_scan hrest
    omega

end LineShell.Token
