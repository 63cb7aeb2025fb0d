import LineShell.Proofs.Token.Scan

/-!
# Nothing is lost on the way to the tokens

A token may be empty, so neither that a call for one gets on nor what became of the line can be seen
in the tokens. Both can be seen in the part of the line that a call takes:

    advance : the rest of a line ──▶ the next token, if there is one, and the rest after it
    call    : a number, a line   ──▶ what the call with that number gives
    Keeps   : a text, a part     ──▶ the part is the text less some blanks, quotes and backslashes

What a call takes has a character that is not blank, and the token keeps all of it but such
characters (`exists_taken`). Calls follow on one another, so the line as a whole is kept like this by
its tokens together (`keeps_scan`). Main statement: `tokenize_keeps`.
-/

namespace LineShell.Token

open Text (isBlank)

/-! ### What may be left out -/

/-- Any character but blanks, quotes and backslashes. It stands for itself wherever it is. -/
def isPlain (c : Char) : Bool := !isBlank c && !isQuote c && c != '\\'

/-- The second text is the first without some of the characters that are not plain. -/
inductive Keeps : List Char → List Char → Prop
  | nil : Keeps [] []
  | keep {c cs kept} : Keeps cs kept → Keeps (c :: cs) (c :: kept)
  | leave {c cs kept} : isPlain c = false → Keeps cs kept → Keeps (c :: cs) kept

variable {cs kept : List Char}

theorem isPlain_of_isBlank {c : Char} (h : isBlank c = true) : isPlain c = false := by
  rw [isPlain, h]
  rfl

theorem isPlain_of_isQuote {c : Char} (h : isQuote c = true) : isPlain c = false := by
  rw [isPlain, h, Bool.not_true, Bool.and_false, Bool.false_and]

theorem Keeps.append {more keptMore : List Char} (h : Keeps cs kept) (hmore : Keeps more keptMore) :
    Keeps (cs ++ more) (kept ++ keptMore) := by
  induction h with
  | nil => exact hmore
  | keep _ ih => exact .keep ih
  | leave hc _ ih => exact .leave hc ih

theorem keeps_gap {gap : List Char} (h : IsGap gap) : Keeps gap [] := by
  induction gap with
  | nil => exact .nil
  | cons c gap ih =>
    obtain ⟨hc, hgap⟩ := List.forall_mem_cons.mp h
    exact .leave (isPlain_of_isBlank hc) (ih hgap)

/-- What is kept stands in order in what was given. -/
theorem Keeps.sublist (h : Keeps cs kept) : kept.Sublist cs := by
  induction h with
  | nil => exact .slnil
  | keep _ ih => exact ih.cons_cons _
  | leave _ _ ih => exact ih.cons _

/-- The plain characters are all there, each as often and in the same order. -/
theorem Keeps.filter_isPlain (h : Keeps cs kept) : kept.filter isPlain = cs.filter isPlain := by
  induction h with
  | nil => rfl
  | @keep c cs kept _ ih => rw [List.filter_cons, List.filter_cons, ih]
  | leave hc _ ih => rw [List.filter_cons_of_neg (by simp [hc]), ih]

/-! ### What a call takes -/

/-- A quoted token keeps what it takes, less backslashes and the quote that closes it. -/
theorem exists_taken_quoted {q : Char} (hq : isQuote q = true) (cs : List Char) :
    ∃ taken, cs = taken ++ (quoted q cs).2 ∧ Keeps taken (quoted q cs).1 := by
  have hescape : isPlain '\\' = false := by decide
  fun_induction quoted q cs with
  | case1 => exact ⟨[], rfl, .nil⟩
  | case2 => exact ⟨['\\'], rfl, .keep .nil⟩
  | case3 => exact ⟨[q], rfl, .leave (isPlain_of_isQuote hq) .nil⟩
  | case4 c => exact ⟨[c], rfl, .keep .nil⟩
  | case5 d rest token left hrest ih =>
    obtain ⟨taken, hcut, hkeeps⟩ := ih
    rw [hrest] at hcut hkeeps
    exact ⟨'\\' :: d :: taken, by rw [hcut]; rfl, .leave hescape (.keep hkeeps)⟩
  | case6 d rest => exact ⟨[q], rfl, .leave (isPlain_of_isQuote hq) .nil⟩
  | case7 c d rest _ _ token left hrest ih =>
    obtain ⟨taken, hcut, hkeeps⟩ := ih
    rw [hrest] at hcut hkeeps
    exact ⟨c :: taken, by rw [hcut]; rfl, .keep hkeeps⟩

/-- A bare token keeps what it takes, less backslashes. -/
theorem exists_taken_bare (cs : List Char) :
    ∃ taken, cs = taken ++ (bare cs).2 ∧ Keeps taken (bare cs).1 := by
  have hescape : isPlain '\\' = false := by decide
  fun_induction bare cs with
  | case1 => exact ⟨[], rfl, .nil⟩
  | case2 => exact ⟨[], rfl, .nil⟩
  | case3 c => exact ⟨[c], rfl, .keep .nil⟩
  | case4 => exact ⟨[], rfl, .nil⟩
  | case5 d rest token left hrest _ ih =>
    obtain ⟨taken, hcut, hkeeps⟩ := ih
    rw [hrest] at hcut hkeeps
    exact ⟨'\\' :: d :: taken, by rw [hcut]; rfl, .leave hescape (.keep hkeeps)⟩
  | case6 c d rest _ _ token left hrest ih =>
    obtain ⟨taken, hcut, hkeeps⟩ := ih
    rw [hrest] at hcut hkeeps
    exact ⟨c :: taken, by rw [hcut]; rfl, .keep hkeeps⟩

/-- A token takes a character that is not blank, its first one or the quote in front of it, and
keeps all plain characters that it takes. -/
theorem exists_taken {token left : List Char} (h : next? cs = some (token, left)) :
    ∃ taken, cs = taken ++ left ∧ (∃ c ∈ taken, isBlank c = false) ∧ Keeps taken token := by
  obtain ⟨gap, c, rest, rfl, hgap, hblank, hread⟩ := exists_gap_of_next? h
  by_cases hquote : isQuote c = true
  · obtain ⟨taken, hcut, hkeeps⟩ := exists_taken_quoted hquote rest
    rw [if_pos hquote] at hread
    rw [hread] at hcut hkeeps
    refine ⟨gap ++ c :: taken, ?_, ⟨c, by simp, hblank⟩, ?_⟩
    · rw [hcut, List.append_assoc, List.cons_append]
    · exact (keeps_gap hgap).append (.leave (isPlain_of_isQuote hquote) hkeeps)
  · obtain ⟨taken, hcut, hkeeps⟩ := exists_taken_bare (c :: rest)
    rw [if_neg hquote] at hread
    rw [hread] at hcut hkeeps
    -- what is left is shorter, so the first character has been taken
    have hne : taken ≠ [] := by
      rintro rfl
      have hshort := length_bare_lt hblank rest
      rw [hread, ← List.nil_append left, ← hcut] at hshort
      exact absurd hshort (Nat.lt_irrefl _)
    obtain ⟨first, more, rfl⟩ := List.exists_cons_of_ne_nil hne
    obtain ⟨rfl, -⟩ := List.cons.inj hcut
    refine ⟨gap ++ c :: more, ?_, ⟨c, by simp, hblank⟩, ?_⟩
    · rw [hcut, List.append_assoc]
    · exact (keeps_gap hgap).append hkeeps

/-! ### Call after call -/

/-- One call for a token, and what is left of the line after it. A call that finds no token has
passed over the blanks that are left. -/
def advance (cs : List Char) : Option (List Char) × List Char :=
  match next? cs with
  | some (token, left) => (some token, left)
  | none => (none, cs.dropWhile isBlank)

/-- What the `n`-th call gives, counted from zero. -/
def call : Nat → List Char → Option (List Char)
  | 0, cs => (advance cs).1
  | n + 1, cs => call n (advance cs).2

theorem next?_of_advance {token left : List Char} (h : advance cs = (some token, left)) :
    next? cs = some (token, left) := by
  rw [advance] at h
  split at h
  · next hnext => rw [hnext, ← (Prod.mk.inj h).2, Option.some.inj (Prod.mk.inj h).1]
  · cases h

theorem advance_of_next?_eq_none (h : next? cs = none) : advance cs = (none, []) := by
  rw [advance, h]
  exact congrArg (Prod.mk none) (List.dropWhile_eq_nil_iff.mpr (next?_eq_none_iff.mp h))

/-- The calls give the tokens of the line, one after the other, and nothing from then on. -/
theorem call_eq_getElem? (n : Nat) (cs : List Char) : call n cs = (scan cs)[n]? := by
  induction n generalizing cs with
  | zero =>
    rw [call, advance]
    cases h : next? cs with
    | none => rw [scan_eq_nil h]; rfl
    | some found => rw [scan_eq_cons h]; rfl
  | succ n ih =>
    rw [call, ih]
    cases h : next? cs with
    | none => rw [advance_of_next?_eq_none h, scan_eq_nil h, scan_eq_nil rfl]; rfl
    | some found => rw [advance, h, scan_eq_cons h, List.getElem?_cons_succ]

/-- Every token has taken a character of its own that is not blank. -/
theorem length_scan_le (cs : List Char) : (scan cs).length ≤ cs.countP (!isBlank ·) := by
  cases h : next? cs with
  | none =>
    rw [scan_eq_nil h]
    exact Nat.zero_le _
  | some found =>
    obtain ⟨token, left⟩ := found
    obtain ⟨taken, hcut, ⟨c, hc, hblank⟩, -⟩ := exists_taken h
    have hpos : 0 < taken.countP (!isBlank ·) :=
      List.countP_pos_iff.mpr ⟨c, hc, by rw [hblank, Bool.not_false]⟩
    have hrest := length_scan_le left
    rw [scan_eq_cons h, List.length_cons, hcut, List.countP_append]
    omega
termination_by cs.length
decreasing_by exact length_lt_of_next? h

/-- The tokens of a line, put together, are the line without some characters that are not plain. -/
theorem keeps_scan (cs : List Char) : Keeps cs (scan cs).flatten := by
  cases h : next? cs with
  | none =>
    rw [scan_eq_nil h]
    exact keeps_gap (next?_eq_none_iff.mp h)
  | some found =>
    obtain ⟨token, left⟩ := found
    obtain ⟨taken, hcut, -, hkeeps⟩ := exists_taken h
    rw [scan_eq_cons h, List.flatten_cons, hcut]
    exact hkeeps.append (keeps_scan left)
termination_by cs.length
decreasing_by exact length_lt_of_next? h

/-! ### Lines -/

theorem toList_join_tokenize (line : String) :
    (String.join (tokenize line)).toList = (scan line.toList).flatten := by
  rw [String.toList_join, List.flatMap_def, map_toList_tokenize]

/-- **Reading a line gets on, and loses nothing.** A call that gives a token takes a character that
is not blank. The calls give the tokens of the line one after the other, and after one that gives
none they all do, so there are at most as many tokens as characters that are not blank. Put
together, the tokens are what is left of the line when some of its blanks, quotes and backslashes
are taken out, and nothing else: all other characters are there, in their order and as often. -/
theorem tokenize_keeps (line : String) :
    (∀ cs token left, advance cs = (some token, left) →
      ∃ taken, cs = taken ++ left ∧ ∃ c ∈ taken, isBlank c = false) ∧
    (∀ cs m n, m ≤ n → call m cs = none → call n cs = none) ∧
    (∀ n, (call n line.toList).map String.ofList = (tokenize line)[n]?) ∧
    (tokenize line).length ≤ line.toList.countP (!isBlank ·) ∧
    (String.join (tokenize line)).toList.Sublist line.toList ∧
    (String.join (tokenize line)).toList.filter isPlain = line.toList.filter isPlain := by
  have hkeeps : Keeps line.toList (String.join (tokenize line)).toList := by
    rw [toList_join_tokenize]
    exact keeps_scan line.toList
  refine ⟨?_, ?_, ?_, ?_, hkeeps.sublist, hkeeps.filter_isPlain⟩
  · intro cs token left h
    obtain ⟨taken, hcut, hblank, -⟩ := exists_taken (next?_of_advance h)
    exact ⟨taken, hcut, hblank⟩
  · intro cs m n hle hnone
    rw [call_eq_getElem?, List.getElem?_eq_none_iff] at hnone ⊢
    exact hnone.trans hle
  · intro n
    rw [call_eq_getElem?, tokenize, List.getElem?_map]
  · rw [tokenize, List.length_map]
    exact length_scan_le line.toList

/-- A token without text has taken its quotes, and after the other one all calls give nothing. -/
theorem tokenize_keeps_emptyToken :
    advance "'' b ".toList = (some [], " b ".toList) ∧
    (∃ taken, "'' b ".toList = taken ++ " b ".toList ∧ ∃ c ∈ taken, isBlank c = false) ∧
    call 2 "'' b ".toList = none ∧ call 7 "'' b ".toList = none := by
  obtain ⟨htakes, hends, -⟩ := tokenize_keeps "'' b "
  have hfirst : advance "'' b ".toList = (some [], " b ".toList) := by decide +kernel
  have hthird : call 2 "'' b ".toList = none := by decide +kernel
  exact ⟨hfirst, htakes _ _ _ hfirst, hthird, hends _ 2 7 (by decide) hthird⟩

end LineShell.Token
