import LineShell.Proofs.Token.Plain

/-!
# Typing after a blank

Where a line ends in a blank, its last token looks complete and what is typed next looks like a new
token. `endsWithSeparator` sees the last character only; whether the token is complete depends on
where a reader stands after the line. With `_` for the blank:

    cat a_     between tokens     what is typed next is a new token
    cat "a_    inside a quote     what is typed next goes on with the token at hand
    cat a\_    inside a word      what is typed next goes on with the token at hand

Main statement: only in the first case does a word become a token of its own, in every other case
it is added to the last token (`tokenize_append_word`). A line without quotes and backslashes is
always in the first case (`after_concat_of_unquoted`).
-/

namespace LineShell.Token

open Text (isBlank)

/-! ### Texts that are read as they are written -/

def Unquoted (cs : List Char) : Prop := ∀ c ∈ cs, isQuote c = false ∧ c ≠ '\\'

instance (cs : List Char) : Decidable (Unquoted cs) :=
  List.decidableBAll (fun c => isQuote c = false ∧ c ≠ '\\') cs

/-- A word that is read as it is written wherever it stands: it has characters, and none of them is
blank, a quote or a backslash. -/
structure Literal (word : List Char) : Prop where
  ne_nil : word ≠ []
  not_isBlank : ∀ c ∈ word, isBlank c = false
  unquoted : Unquoted word

variable {typed : List Char}

theorem Literal.plain (h : Literal typed) : Plain typed where
  ne_nil := h.ne_nil
  not_isBlank := h.not_isBlank
  no_escape := fun hmem => (h.unquoted _ (List.dropLast_subset _ hmem)).2 rfl
  not_isQuote := fun c hc => (h.unquoted c (List.mem_of_mem_head? hc)).1

theorem quoted_of_unquoted {q : Char} (hq : isQuote q = true) {cs : List Char} (h : Unquoted cs) :
    quoted q cs = (cs, []) := by
  induction cs with
  | nil => rfl
  | cons c cs ih =>
    obtain ⟨hquote, hescape⟩ := h c (List.mem_cons_self ..)
    have hclose : c ≠ q := by
      rintro rfl
      rw [hq] at hquote
      cases hquote
    rw [quoted_plain hescape hclose, ih fun d hd => h d (List.mem_cons_of_mem _ hd)]

namespace Stance

/-! ### Where a line ends -/

/-- A text without quotes and backslashes ends between tokens or in a word. -/
theorem after_of_unquoted {s : Stance} (hs : s = between ∨ ∃ text, s = word text) {cs : List Char}
    (h : Unquoted cs) : s.after cs = between ∨ ∃ text, s.after cs = word text := by
  induction cs generalizing s with
  | nil => exact hs
  | cons c cs ih =>
    obtain ⟨hquote, hescape⟩ := h c (List.mem_cons_self ..)
    refine ih ?_ fun d hd => h d (List.mem_cons_of_mem _ hd)
    rcases hs with rfl | ⟨text, rfl⟩
    · by_cases hblank : isBlank c = true <;> simp [next, hblank, hquote, hescape]
    · by_cases hblank : isBlank c = true <;> simp [next, hblank, hescape]

/-- With a blank after it, the text ends between tokens. -/
theorem after_concat_of_unquoted {cs : List Char} (h : Unquoted cs) {b : Char}
    (hb : isBlank b = true) : between.after (cs ++ [b]) = between := by
  rw [after_append]
  rcases after_of_unquoted (.inl rfl) h with hafter | ⟨text, hafter⟩
  · rw [hafter]
    exact if_pos hb
  · rw [hafter]
    exact if_pos hb

/-! ### Words after a line -/

/-- Inside a token a word is added to it. -/
theorem read_of_holds {s : Stance} {b : Char} (hs : s.Holds b) (h : Literal typed) :
    ∃ text, s.last = some text ∧ s.read typed = [text ++ typed] := by
  rcases hs with ⟨text, -, rfl⟩ | ⟨q, text, hq, -, rfl⟩
  · have hbare : bare typed = (typed, []) :=
      bare_eq_self_iff.mpr ⟨h.not_isBlank, h.plain.no_escape⟩
    refine ⟨text, rfl, ?_⟩
    rw [read_word, hbare]
    rfl
  · refine ⟨text, rfl, ?_⟩
    rw [read_quote (ne_backslash_of_isQuote hq), quoted_of_unquoted hq h.unquoted]
    rfl

theorem ne_between_of_holds {s : Stance} {b : Char} (hs : s.Holds b) : s ≠ between := by
  rcases hs with ⟨text, -, rfl⟩ | ⟨q, text, -, -, rfl⟩
  · exact Stance.noConfusion
  · exact Stance.noConfusion

end Stance

/-! ### Lines that end in a blank -/

variable {line : String}

/-- A space at the end is a separator, whatever stands before it. -/
theorem endsWithSeparator_append_space (word : String) :
    endsWithSeparator (word ++ " ") = true := by
  have hspace : " ".toList = [' '] := rfl
  rw [endsWithSeparator, String.toList_append, hspace, List.getLast?_concat]
  decide

/-- The blank at the end of a line separates tokens, or belongs to the token at hand. -/
theorem after_of_endsWithSeparator (h : endsWithSeparator line = true) :
    Stance.between.after line.toList = .between ∨
      ∃ b, (Stance.between.after line.toList).Holds b := by
  obtain ⟨b, hlast, hb⟩ := (Option.any_eq_true _ _).mp h
  obtain ⟨front, hline⟩ := List.getLast?_eq_some_iff.mp hlast
  rw [hline]
  exact (Stance.after_concat_blank_cases front hb).imp_right fun hholds => ⟨b, hholds⟩

/-- Inside a token, the word is added to the last token of the line. -/
theorem tokenize_append_of_holds {b : Char}
    (hs : (Stance.between.after line.toList).Holds b) {word : String} (hword : Literal word.toList) :
    ∃ words token, tokenize line = words ++ [token] ∧
      tokenize (line ++ word) = words ++ [token ++ word] := by
  obtain ⟨text, hlast, hread⟩ := Stance.read_of_holds hs hword
  refine ⟨(Stance.between.tokens line.toList).map String.ofList, String.ofList text, ?_, ?_⟩
  · rw [tokenize, Stance.scan_eq_read, Stance.read, hlast, List.map_append]
    rfl
  · rw [tokenize, Stance.scan_eq_read, String.toList_append, Stance.read_append, hread,
      List.map_append, List.map_singleton, String.ofList_append, String.ofList_toList]

/-- **After a blank a word is a new token exactly when the line ends between tokens.** Otherwise
the blank is quoted or escaped, and the word is added to the token that has it. -/
theorem tokenize_append_word {word : String} (hsep : endsWithSeparator line = true)
    (hword : Literal word.toList) :
    (tokenize (line ++ word) = tokenize line ++ [word] ↔
      Stance.between.after line.toList = .between) ∧
    (Stance.between.after line.toList ≠ .between → ∃ words token,
      tokenize line = words ++ [token] ∧ tokenize (line ++ word) = words ++ [token ++ word]) := by
  rcases after_of_endsWithSeparator hsep with hbetween | ⟨b, hholds⟩
  · have hnew : tokenize (line ++ word) = tokenize line ++ [word] := by
      rw [tokenize_append hbetween, tokenize_eq_self_iff.mpr hword.plain]
    exact ⟨iff_of_true hnew hbetween, fun hnot => absurd hbetween hnot⟩
  · obtain ⟨words, token, hline, happend⟩ := tokenize_append_of_holds hholds hword
    refine ⟨iff_of_false ?_ (Stance.ne_between_of_holds hholds),
      fun _ => ⟨words, token, hline, happend⟩⟩
    -- the line with the word has as many tokens as without it
    intro hnew
    have hlength := congrArg List.length (happend.symm.trans hnew)
    simp [hline] at hlength

/-- After a blank in a quoted token the token goes on. -/
theorem tokenize_append_word_quoted :
    endsWithSeparator "grep 'a b " = true ∧
    tokenize ("grep 'a b " ++ "c") ≠ tokenize "grep 'a b " ++ ["c"] ∧
    ∃ words token, tokenize "grep 'a b " = words ++ [token] ∧
      tokenize ("grep 'a b " ++ "c") = words ++ [token ++ "c"] := by
  have hsep : endsWithSeparator "grep 'a b " = true := by decide +kernel
  have hword : Literal "c".toList :=
    ⟨by decide, List.forall_mem_singleton.mpr (by decide), by decide⟩
  have hinside : Stance.between.after "grep 'a b ".toList ≠ .between := by decide +kernel
  obtain ⟨hiff, hadded⟩ := tokenize_append_word hsep hword
  exact ⟨hsep, mt hiff.mp hinside, hadded hinside⟩

/-- A separator at the end of a line does not always end the word at hand. -/
theorem not_forall_tokenize_append_word :
    ¬ ∀ line word : String, endsWithSeparator line = true → Literal word.toList →
      tokenize (line ++ word) = tokenize line ++ [word] := by
  intro h
  have hword : Literal "b".toList :=
    ⟨by decide, List.forall_mem_singleton.mpr (by decide), by decide⟩
  have hnew := h "cat \"a " "b" (by decide +kernel) hword
  exact absurd hnew (by decide +kernel)

end LineShell.Token
