import LineShell.Completion
import LineShell.Pattern
import LineShell.Proofs.Dispatch
import LineShell.Proofs.Text.Pieces
import LineShell.Proofs.Token.Plain

/-!
# Accepting a suggestion

What is suggested depends on the words of the line, what accepting replaces is everything after its
last blank, and the label takes that place without quotes. The two views fit when that blank
separates words, at most one word stands after it, and the label can be written as it is:

    line      = committed line ++ atHand line
    accepted  = committed line ++ label
    words     = settledWords line, and the word at hand if one has begun

Main statement: with an aligned line and a plain label, accepting replaces the word at hand by the
label and nothing else; with only one of the two it never does (`tokenize_accept`).
-/

namespace LineShell.Completion

open Text (isBlank)
open Token (Stance Plain scan tokenize endsWithSeparator isQuote)

/-! ### The line in two parts -/

/-- The characters after the last blank of a line, which accepting a suggestion removes. -/
def atHand (line : String) : List Char := line.toList.rtakeWhile fun c => !isBlank c

/-- The words before the word at hand: all of them when none is being typed. -/
def settledWords (line : String) : List String :=
  if endsWithSeparator line then tokenize line else (tokenize line).dropLast

/-- The last blank of the line separates words, and after it stands one word or none. -/
structure Aligned (line : String) : Prop where
  between : Stance.between.after (committed line).toList = .between
  single : (scan (atHand line)).length ≤ 1

theorem toList_committed (line : String) :
    (committed line).toList = line.toList.rdropWhile fun c => !isBlank c :=
  String.toList_ofList

/-- Accepting removes the characters at hand and nothing else. -/
theorem committed_append_atHand (line : String) :
    committed line ++ String.ofList (atHand line) = line := by
  rw [← String.toList_inj, String.toList_append, String.toList_ofList, toList_committed, atHand,
    List.rdropWhile_append_rtakeWhile]

/-- What is kept of a line ends in a blank. -/
theorem committed_cases (line : String) : (committed line).toList = [] ∨
    ∃ kept b, (committed line).toList = kept ++ [b] ∧ isBlank b = true := by
  rw [toList_committed]
  simpa using Text.rdropWhile_cases (fun c => !isBlank c) line.toList

theorem scan_atHand_eq_nil_iff {line : String} : scan (atHand line) = [] ↔ atHand line = [] := by
  constructor
  · intro h
    have hgap := Token.scan_eq_nil_iff.mp h
    rw [List.eq_nil_iff_forall_not_mem]
    intro c hc
    have hplain : isBlank c = false := by simpa using List.mem_rtakeWhile_imp hc
    rw [hgap c hc] at hplain
    cases hplain
  · intro h
    rw [h]
    exact Token.scan_eq_nil rfl

/-- A line with words ends in a separator exactly when no character is at hand. -/
theorem endsWithSeparator_iff {line : String} (h : tokenize line ≠ []) :
    endsWithSeparator line = true ↔ atHand line = [] := by
  have hne : line.toList ≠ [] := by
    intro hnil
    rw [tokenize, hnil, Token.scan_eq_nil rfl] at h
    exact h rfl
  rw [endsWithSeparator, atHand, List.rtakeWhile_eq_nil_iff, List.getLast?_eq_some_getLast hne]
  simp [hne]

/-! ### Words and parts -/

variable {line : String}

/-- In an argument position the line has a word. -/
theorem tokenize_ne_nil (h : inCommand line = false) : tokenize line ≠ [] := by
  intro hnil
  rw [inCommand, hnil] at h
  cases h

/-- After the command there is at least the command among the settled words. -/
theorem settledWords_eq_cons (h : inCommand line = false) :
    ∃ name rest, settledWords line = name :: rest ∧ (tokenize line).head? = some name := by
  cases htokens : tokenize line with
  | nil => exact absurd htokens (tokenize_ne_nil h)
  | cons name rest =>
    by_cases hsep : endsWithSeparator line = true
    · rw [settledWords, if_pos hsep, htokens]
      exact ⟨name, rest, rfl, rfl⟩
    · rw [settledWords, if_neg hsep, htokens]
      cases rest with
      | nil =>
        -- one word and no separator after it: the command is still being typed
        rw [inCommand, htokens] at h
        simp [hsep] at h
      | cons next rest => exact ⟨name, (next :: rest).dropLast, rfl, rfl⟩

/-- A line that is cut between words has the words of its two parts. -/
theorem tokenize_of_between (h : Stance.between.after (committed line).toList = .between) :
    tokenize line = tokenize (committed line) ++ (scan (atHand line)).map String.ofList := by
  have hline := Token.tokenize_append h (String.ofList (atHand line))
  rw [committed_append_atHand] at hline
  rw [hline, tokenize, tokenize, String.toList_ofList]

/-- When the line is cut between words, the kept words are the settled ones if and only if no more
than one word is at hand. -/
theorem settledWords_eq_iff (hwords : tokenize line ≠ [])
    (h : Stance.between.after (committed line).toList = .between) :
    settledWords line = tokenize (committed line) ↔ (scan (atHand line)).length ≤ 1 := by
  have htokens := tokenize_of_between h
  by_cases hsep : endsWithSeparator line = true
  · have hscan : scan (atHand line) = [] :=
      scan_atHand_eq_nil_iff.mpr ((endsWithSeparator_iff hwords).mp hsep)
    rw [settledWords, if_pos hsep, htokens, hscan]
    simp
  · have hscan : scan (atHand line) ≠ [] := fun hnil =>
      hsep ((endsWithSeparator_iff hwords).mpr (scan_atHand_eq_nil_iff.mp hnil))
    rw [settledWords, if_neg hsep, htokens, List.dropLast_append_of_ne_nil (by simpa using hscan)]
    rw [List.append_right_eq_self, ← List.length_eq_zero_iff, List.length_dropLast, List.length_map]
    omega

/-! ### The accepted line -/

variable {label : String}

/-- In an argument position no space is added after the label. -/
theorem accept_eq (h : inCommand line = false) (label : String) :
    accept line label = committed line ++ label := by
  rw [accept, h]
  rfl

/-- Where the last blank separates words, the label takes the place of the word at hand. -/
theorem tokenize_accept_of_aligned (hargument : inCommand line = false) (h : Aligned line) :
    tokenize (accept line label) = settledWords line ++ tokenize label := by
  rw [accept_eq hargument, Token.tokenize_append h.between,
    (settledWords_eq_iff (tokenize_ne_nil hargument) h.between).mpr h.single]

/-- Where a plain label comes out as the last word, the line was cut between words: inside a word,
the label would have become part of that word. -/
theorem between_of_tokenize_accept (hargument : inCommand line = false)
    (hlabel : Plain label.toList) {words : List String}
    (h : tokenize (accept line label) = words ++ [label]) :
    Stance.between.after (committed line).toList = .between := by
  rcases committed_cases line with hnil | ⟨kept, b, hkept, hb⟩
  · rw [hnil]
    rfl
  · rcases Stance.after_concat_blank_cases kept hb with hbetween | hholds
    · rw [hkept, hbetween]
    · rw [← hkept] at hholds
      obtain ⟨hne, hnot⟩ := Token.notMem_read hholds hb hlabel
      rw [accept_eq hargument, Token.tokenize_eq_iff, String.toList_append, Stance.scan_eq_read,
        Stance.read_append, List.map_append, List.map_singleton] at h
      have hlast := congrArg List.getLast? h
      rw [List.getLast?_append_of_ne_nil _ hne, List.getLast?_concat] at hlast
      exact absurd (List.mem_of_getLast? hlast) hnot

/-- Where the label comes out as the word after the settled ones, an aligned line and a plain label
imply each other. -/
theorem aligned_iff_plain (hargument : inCommand line = false)
    (h : tokenize (accept line label) = settledWords line ++ [label]) :
    Aligned line ↔ Plain label.toList := by
  constructor
  · intro haligned
    rw [tokenize_accept_of_aligned hargument haligned] at h
    exact Token.tokenize_eq_self_iff.mp (List.append_cancel_left h)
  · intro hlabel
    have hbetween := between_of_tokenize_accept hargument hlabel h
    rw [accept_eq hargument, Token.tokenize_append hbetween,
      Token.tokenize_eq_self_iff.mpr hlabel] at h
    have hsettled := (List.append_cancel_right h).symm
    exact ⟨hbetween, (settledWords_eq_iff (tokenize_ne_nil hargument) hbetween).mp hsettled⟩

/-- **Accepting replaces the word at hand.** In a line that is cut between words, with at most one
word after the cut, a plain label takes the place of the word at hand, so the accepted line runs
the same command on the settled words and the label. Where only the line or only the label is as it
should be, the words of the accepted line are never these. -/
theorem tokenize_accept (files : FileSystem) (r : Registry) (line : String)
    (hargument : inCommand line = false) :
    ∀ s ∈ suggest files r line,
      (Aligned line → Plain s.label.toList →
        tokenize (accept line s.label) = settledWords line ++ [s.label] ∧
        ∃ name rest, settledWords line = name :: rest ∧ (tokenize line).head? = some name ∧
          ∀ watch fs, r.dispatch watch fs (accept line s.label) =
            some (Registry.finish watch
              (r.run watch.began fs name (name :: (rest ++ [s.label]))))) ∧
      (tokenize (accept line s.label) = settledWords line ++ [s.label] →
        (Aligned line ↔ Plain s.label.toList)) := by
  intro s _
  refine ⟨fun haligned hlabel => ?_, aligned_iff_plain hargument⟩
  have htokens : tokenize (accept line s.label) = settledWords line ++ [s.label] := by
    rw [tokenize_accept_of_aligned hargument haligned, Token.tokenize_eq_self_iff.mpr hlabel]
  obtain ⟨name, rest, hsettled, hname⟩ := settledWords_eq_cons hargument
  refine ⟨htokens, name, rest, hsettled, hname, fun watch fs => ?_⟩
  rw [hsettled, List.cons_append] at htokens
  exact Registry.dispatch_of_tokenize htokens

/-- A file name that completes the word after a quoted word with a blank. -/
theorem tokenize_accept_grep :
    (⟨.file, "readme.txt", some "file"⟩ : Suggestion) ∈
      suggest .seeded Builtin.registry "grep \"a b\" re" ∧
    tokenize (accept "grep \"a b\" re" "readme.txt") = ["grep", "a b", "readme.txt"] := by
  have hargument : inCommand "grep \"a b\" re" = false := by decide +kernel
  have hmem : (⟨.file, "readme.txt", some "file"⟩ : Suggestion) ∈
      suggest .seeded Builtin.registry "grep \"a b\" re" := by decide +kernel
  have haligned : Aligned "grep \"a b\" re" := ⟨by decide +kernel, by decide +kernel⟩
  have hplain : Plain "readme.txt".toList := Token.tokenize_eq_self_iff.mp (by decide +kernel)
  have hsettled : settledWords "grep \"a b\" re" = ["grep", "a b"] := by decide +kernel
  obtain ⟨htokens, -⟩ :=
    (tokenize_accept .seeded Builtin.registry _ hargument _ hmem).1 haligned hplain
  rw [hsettled] at htokens
  exact ⟨hmem, htokens⟩

/-- In `cat "x"re` the word at hand is `re`, and accepting `readme.txt` for it takes the word `x`
away as well, because no blank stands between the two. -/
theorem not_forall_tokenize_accept :
    ¬ ∀ (files : FileSystem) (r : Registry) (line : String), inCommand line = false →
      ∀ s ∈ suggest files r line,
        tokenize (accept line s.label) = settledWords line ++ [s.label] := by
  intro h
  have hmem : (⟨.file, "readme.txt", some "file"⟩ : Suggestion) ∈
      suggest .seeded Builtin.registry "cat \"x\"re" := by decide +kernel
  have hkept := h .seeded Builtin.registry "cat \"x\"re" (by decide +kernel) _ hmem
  exact absurd hkept (by decide +kernel)

end LineShell.Completion
