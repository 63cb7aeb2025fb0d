import LineShell.Proofs.Completion.Acceptance
import LineShell.Proofs.Completion.Arguments
import LineShell.Proofs.Token.Separator

/-!
# Typing on

In a line without quotes and backslashes the last blank separates words, so the line is what is
committed and the word at hand, and more characters of the word change the word only:

    line               = committed line ++ current line
    line ++ q          = committed line ++ (current line ++ q)
    accept line label  = committed line ++ label

A suggested label goes on with the word at hand. So accepting it adds to the line and takes nothing
away (`accept_extends`), and typing on leaves those suggestions that go on with the longer word
(`suggest_append`).
-/

namespace LineShell.Completion

open Text (isBlank)
open Token (Stance Unquoted Literal scan tokenize endsWithSeparator isQuote)

variable {line q : String}

/-! ### Lines without quotes -/

/-- Without quotes and backslashes, every blank separates words. -/
theorem between_committed (h : Unquoted line.toList) :
    Stance.between.after (committed line).toList = .between := by
  rcases committed_cases line with hnil | ⟨kept, b, hkept, hb⟩
  · rw [hnil]
    rfl
  · have hprefix : (committed line).toList <+: line.toList := by
      rw [toList_committed]
      exact List.rdropWhile_prefix _ _
    rw [hkept] at hprefix ⊢
    refine Stance.after_concat_of_unquoted (fun c hc => h c ?_) hb
    exact hprefix.subset (List.mem_append_left _ hc)

/-- Characters at hand are one word, and it is read as it is written. -/
theorem scan_atHand_of_unquoted (h : Unquoted line.toList) (hne : atHand line ≠ []) :
    scan (atHand line) = [atHand line] := by
  have hliteral : Literal (atHand line) := {
    ne_nil := hne
    not_isBlank := fun c hc => by simpa using List.mem_rtakeWhile_imp hc
    unquoted := fun c hc => h c ((List.rtakeWhile_suffix _ _).subset hc) }
  exact Token.scan_eq_self_iff.mpr hliteral.plain

theorem aligned_of_unquoted (h : Unquoted line.toList) : Aligned line where
  between := between_committed h
  single := by
    by_cases hne : atHand line = []
    · rw [scan_atHand_eq_nil_iff.mpr hne]
      exact Nat.zero_le 1
    · rw [scan_atHand_of_unquoted h hne]
      exact Nat.le_refl 1

theorem settledWords_of_unquoted (h : Unquoted line.toList) :
    settledWords line = tokenize (committed line) := by
  have haligned := aligned_of_unquoted h
  by_cases hwords : tokenize line = []
  · have hcommitted := tokenize_of_between haligned.between
    rw [hwords] at hcommitted
    rw [settledWords, hwords, (List.append_eq_nil_iff.mp hcommitted.symm).1]
    simp
  · exact (settledWords_eq_iff hwords haligned.between).mpr haligned.single

theorem current_of_unquoted (h : Unquoted line.toList) :
    current line = String.ofList (atHand line) := by
  by_cases hne : atHand line = []
  · rw [hne, current]
    split
    · rfl
    · next hsep =>
      have hnil : tokenize line = [] := by
        by_contra hwords
        exact hsep ((endsWithSeparator_iff hwords).mpr hne)
      rw [hnil]
      rfl
  · have hwords : tokenize line = tokenize (committed line) ++ [String.ofList (atHand line)] := by
      rw [tokenize_of_between (between_committed h), scan_atHand_of_unquoted h hne,
        List.map_singleton]
    have hsep : ¬ endsWithSeparator line = true := fun hsep =>
      hne ((endsWithSeparator_iff (by simp [hwords])).mp hsep)
    rw [current, if_neg hsep, hwords, List.getLast?_concat]
    rfl

/-- The line is what is committed and the word at hand. -/
theorem committed_append_current (h : Unquoted line.toList) :
    committed line ++ current line = line := by
  rw [current_of_unquoted h, committed_append_atHand]

/-! ### Accepting -/

variable {files : FileSystem} {registry : Registry} {s : Suggestion}

/-- **Accepting a suggestion adds to the line**: the label goes on with the word at hand, and what
it has after this word is added to the line as it was typed. -/
theorem accept_extends (h : Unquoted line.toList) (hargument : inCommand line = false)
    (hs : s ∈ suggest files registry line) :
    ∃ rest, s.label = current line ++ rest ∧ accept line s.label = line ++ rest := by
  obtain ⟨command, hcompletes⟩ := completes_of_mem_suggest hargument hs
  obtain ⟨rest, hrest⟩ := hcompletes.prefix_label
  have hlabel : s.label = current line ++ String.ofList rest := by
    rw [← String.toList_inj, String.toList_append, String.toList_ofList, hrest]
  refine ⟨String.ofList rest, hlabel, ?_⟩
  calc accept line s.label
      = committed line ++ (current line ++ String.ofList rest) := by
        rw [accept_eq hargument, hlabel]
    _ = line ++ String.ofList rest := by rw [← String.append_assoc, committed_append_current h]

/-- A directory with a file whose name has a blank and a quote. -/
def oddDirectory : FileSystem := ⟨.ofEntries [("my \"notes", .file "")], Path.root⟩

/-- The name is suggested as it is, and what was typed of it stays. -/
theorem accept_extends_oddDirectory :
    ⟨.file, "my \"notes", some "file"⟩ ∈ suggest oddDirectory Builtin.registry "cat\u3000my" ∧
    accept "cat\u3000my" "my \"notes" = "cat\u3000my" ++ " \"notes" := by
  have hline : Unquoted "cat\u3000my".toList := by decide
  have hargument : inCommand "cat\u3000my" = false := by decide +kernel
  have hmem : ⟨.file, "my \"notes", some "file"⟩ ∈
      suggest oddDirectory Builtin.registry "cat\u3000my" := by decide +kernel
  obtain ⟨rest, hlabel, haccept⟩ := accept_extends hline hargument hmem
  have hcurrent : current "cat\u3000my" = "my" := by decide +kernel
  have hrest : " \"notes" = rest := by
    rw [hcurrent] at hlabel
    exact (String.append_right_inj "my").mp hlabel
  exact ⟨hmem, hrest ▸ haccept⟩

/-! ### More characters of the word -/

/-- Characters that go on with a word and with a name. -/
def GoesOn (q : String) : Prop :=
  ∀ c ∈ q.toList, isBlank c = false ∧ isQuote c = false ∧ c ≠ '\\' ∧ c ≠ '/'

instance (q : String) : Decidable (GoesOn q) :=
  List.decidableBAll (fun c => isBlank c = false ∧ isQuote c = false ∧ c ≠ '\\' ∧ c ≠ '/') q.toList

theorem unquoted_append (h : Unquoted line.toList) (hq : GoesOn q) :
    Unquoted (line ++ q).toList := by
  intro c hc
  rw [String.toList_append] at hc
  rcases List.mem_append.mp hc with hc | hc
  · exact h c hc
  · exact ⟨(hq c hc).2.1, (hq c hc).2.2.1⟩

/-- Typing on does not change what stands before the word at hand. -/
theorem committed_append (hq : GoesOn q) : committed (line ++ q) = committed line := by
  rw [← String.toList_inj, toList_committed, toList_committed, String.toList_append]
  exact Text.rdropWhile_append (fun c hc => by simpa using (hq c hc).1) line.toList

/-- The word at hand grows by what is typed. -/
theorem current_append (h : Unquoted line.toList) (hq : GoesOn q) :
    current (line ++ q) = current line ++ q := by
  have hjoined : committed line ++ current (line ++ q) = committed line ++ (current line ++ q) := by
    rw [← committed_append hq, committed_append_current (unquoted_append h hq), committed_append hq,
      ← String.append_assoc, committed_append_current h]
  exact (String.append_right_inj _).mp hjoined

theorem settledWords_append (h : Unquoted line.toList) (hq : GoesOn q) :
    settledWords (line ++ q) = settledWords line := by
  rw [settledWords_of_unquoted (unquoted_append h hq), settledWords_of_unquoted h,
    committed_append hq]

/-- An argument is typed once a word is settled. -/
theorem inCommand_eq_false_iff : inCommand line = false ↔ settledWords line ≠ [] := by
  rw [settledWords, inCommand]
  cases tokenize line with
  | nil => simp
  | cons name rest =>
    cases rest with
    | nil => cases endsWithSeparator line <;> simp
    | cons next rest => cases endsWithSeparator line <;> simp

theorem inCommand_append (h : Unquoted line.toList) (hq : GoesOn q)
    (hargument : inCommand line = false) : inCommand (line ++ q) = false := by
  rw [inCommand_eq_false_iff, settledWords_append h hq, ← inCommand_eq_false_iff]
  exact hargument

/-- The command stays the same. -/
theorem headD_tokenize_append (h : Unquoted line.toList) (hq : GoesOn q)
    (hargument : inCommand line = false) :
    (tokenize (line ++ q)).headD "" = (tokenize line).headD "" := by
  obtain ⟨name, rest, hsettled, hname⟩ := settledWords_eq_cons hargument
  obtain ⟨name', rest', hsettled', hname'⟩ := settledWords_eq_cons (inCommand_append h hq hargument)
  rw [settledWords_append h hq, hsettled] at hsettled'
  obtain ⟨rfl, -⟩ := List.cons.inj hsettled'
  rw [List.headD_eq_head?_getD, List.headD_eq_head?_getD, hname, hname']

/-! ### Candidates for a longer word -/

variable {page : Page} {typed : String}

theorem typedDirectory_append (hq : '/' ∉ q.toList) :
    typedDirectory (typed ++ q) = typedDirectory typed := by
  have hrun : ∀ c ∈ q.toList, (decide (c ≠ '/')) = true := by
    intro c hc
    exact decide_eq_true fun heq => hq (heq ▸ hc)
  rw [typedDirectory, typedDirectory, splitPath_eq, splitPath_eq, String.toList_append]
  exact congrArg String.ofList (Text.rdropWhile_append hrun typed.toList)

theorem typedBeginning_append (hq : '/' ∉ q.toList) :
    typedBeginning (typed ++ q) = typedBeginning typed ++ q := by
  have hjoined : typedDirectory typed ++ typedBeginning (typed ++ q) =
      typedDirectory typed ++ (typedBeginning typed ++ q) := by
    rw [← typedDirectory_append hq, (cutAtLastSlash (typed ++ q)).joined, typedDirectory_append hq,
      ← String.append_assoc, (cutAtLastSlash typed).joined]
  exact (String.append_right_inj _).mp hjoined

/-- More typed text narrows the flags. -/
theorem switchCandidates_append (page : Page) (typed q : String) :
    switchCandidates page (typed ++ q) =
      (switchCandidates page typed).filter fun s => Text.begins (typed ++ q) s.label := by
  rw [switchCandidates_eq, switchCandidates_eq, List.filter_filter]
  exact List.filter_congr fun s _ => (Text.begins_append_and typed q s.label).symm

/-- The slash that ends the label of a directory is no part of the name. -/
theorem begins_label {directory beginning name : String} {kind : Kind}
    (h : '/' ∉ beginning.toList) :
    Text.begins (directory ++ beginning) (pathSuggestion directory name kind).label =
      Text.begins beginning name := by
  rw [Bool.eq_iff_iff, Text.begins_iff, Text.begins_iff]
  cases kind with
  | file =>
    simp only [pathSuggestion, String.toList_append, List.prefix_append_right_inj]
  | directory =>
    have hslash : beginning.toList ≠ name.toList ++ ['/'] := by
      intro heq
      exact h (heq ▸ by simp)
    have hmark : "/".toList = ['/'] := rfl
    simp only [pathSuggestion, String.toList_append, List.append_assoc,
      List.prefix_append_right_inj, hmark, List.prefix_concat_iff, hslash, false_or]

/-- More typed text narrows the children of the same directory. -/
theorem typedPaths_append (hq : '/' ∉ q.toList)
    (hdash : Text.begins "-" (typed ++ q) = Text.begins "-" typed) :
    typedPaths files (typed ++ q) =
      (typedPaths files typed).filter fun s => Text.begins (typed ++ q) s.label := by
  have hchildren : typedChildren files (typed ++ q) = typedChildren files typed := by
    rw [typedChildren, typedChildren, hdash, typedDirectory_append hq]
  rw [typedPaths, typedPaths, hchildren, typedDirectory_append hq, typedBeginning_append hq,
    List.filter_map, List.filter_filter]
  refine congrArg (List.map _) (List.filter_congr fun child _ => ?_)
  have hname : '/' ∉ (typedBeginning typed ++ q).toList := by
    rw [String.toList_append, List.mem_append, not_or]
    exact ⟨(cutAtLastSlash typed).free, hq⟩
  have hlabel : Text.begins (typed ++ q)
      (pathSuggestion (typedDirectory typed) child.1 child.2.kind).label =
        Text.begins (typedBeginning typed ++ q) child.1 := by
    rw [← begins_label hname, ← String.append_assoc, (cutAtLastSlash typed).joined]
  rw [Function.comp_apply, hlabel, Text.begins_append_and]

/-- Narrowing commutes with dropping repeats, since a repeat has the same label. -/
theorem argumentCandidates_append (hq : '/' ∉ q.toList)
    (hdash : Text.begins "-" (typed ++ q) = Text.begins "-" typed) :
    argumentCandidates files page (typed ++ q) =
      (argumentCandidates files page typed).filter fun s => Text.begins (typed ++ q) s.label := by
  rw [argumentCandidates_eq, argumentCandidates_eq,
    ← distinct_filter fun _ _ => congrArg (Text.begins (typed ++ q)), List.filter_append,
    ← switchCandidates_append, ← typedPaths_append hq hdash]

/-! ### Typing on -/

/-- At the start of a word the next character decides whether a flag is typed; later the first one
does. -/
theorem begins_dash_current_append (h : Unquoted line.toList) (hargument : inCommand line = false)
    (hdash : endsWithSeparator line = true → Text.begins "-" q = false) :
    Text.begins "-" (current line ++ q) = Text.begins "-" (current line) := by
  by_cases hsep : endsWithSeparator line = true
  · rw [current, if_pos hsep, String.empty_append, hdash hsep]
    rfl
  · have hne : atHand line ≠ [] := fun hnil =>
      hsep ((endsWithSeparator_iff (tokenize_ne_nil hargument)).mpr hnil)
    have htyped : (current line).toList = atHand line := by
      rw [current_of_unquoted h]
      exact String.toList_ofList
    have hlength : "-".toList.length ≤ (current line).toList.length := by
      rw [htyped]
      exact List.length_pos_iff.mpr hne
    exact Text.begins_append hlength q

/-- **Typing on narrows the suggestions.** When they were not cut off, the suggestions for a longer
word are those for the shorter one whose label goes on with the longer word, in their order. -/
theorem suggest_append (h : Unquoted line.toList) (hargument : inCommand line = false)
    (hq : GoesOn q) (hdash : endsWithSeparator line = true → Text.begins "-" q = false)
    (hfew : (suggest files registry line).length < 10) :
    suggest files registry (line ++ q) =
      (suggest files registry line).filter fun s => Text.begins (current line ++ q) s.label := by
  have hargument' := inCommand_append h hq hargument
  have hname := headD_tokenize_append h hq hargument
  cases hcommand : registry.find? ((tokenize line).headD "") with
  | none =>
    rw [suggest_of_find_none hargument hcommand, suggest_of_find_none hargument' (hname ▸ hcommand)]
    rfl
  | some command =>
    have hslash : '/' ∉ q.toList := fun hmem => (hq '/' hmem).2.2.2 rfl
    have hdash' := begins_dash_current_append h hargument hdash
    have hall :
        (argumentCandidates files command.toPage (current line)).length ≤ argumentLimit := by
      rw [suggest_of_find hargument hcommand, List.length_take, argumentLimit] at hfew
      rw [argumentLimit]
      omega
    rw [suggest_of_find hargument hcommand, suggest_of_find hargument' (hname ▸ hcommand),
      current_append h hq, argumentCandidates_append hslash hdash', List.take_of_length_le hall]
    exact List.take_of_length_le ((List.length_filter_le _ _).trans hall)

/-- A flag, a directory and two files narrowed down to one file. -/
theorem suggest_append_readme :
    (suggest .seeded Builtin.registry "ls -l ").length = 4 ∧
    suggest .seeded Builtin.registry ("ls -l " ++ "re") =
      [⟨.file, "readme.txt", some "file"⟩] := by
  have hline : Unquoted "ls -l ".toList := by decide
  have hargument : inCommand "ls -l " = false := by decide +kernel
  have hlength : (suggest .seeded Builtin.registry "ls -l ").length = 4 := by decide +kernel
  have hmore : GoesOn "re" := by decide
  have hfew : (suggest .seeded Builtin.registry "ls -l ").length < 10 := by
    rw [hlength]
    decide
  have hnarrow := suggest_append hline hargument hmore (fun _ => by decide) hfew
  refine ⟨hlength, hnarrow.trans ?_⟩
  decide +kernel

end LineShell.Completion
