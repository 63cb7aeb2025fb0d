import LineShell.Builtin
import LineShell.Pattern
import LineShell.Proofs.Dispatch
import LineShell.Proofs.Text.Pieces
import LineShell.Proofs.Token.Plain

/-!
# Writing words so that they are read back

A line has one list of tokens, a list of tokens has many lines. `Written` is the relation between
them: every word in quotes or bare, backslashes where they are needed and wherever else one likes,
blanks around the words and between them.

    Escaped      : a text ──▶ its characters, some after a backslash
    Quoted, Bare : a word ──▶ one written form of it
    Written      : words  ──▶ a line that holds them

Main statement: the tokens of a line are the words it was written from, so a command runs on
exactly the words that were meant, however they were written (`dispatch_written`).
-/

namespace LineShell.Token

open Text (isBlank)

/-! ### The relation -/

/-- A text with a backslash before every backslash and every special character, and before any
others. -/
inductive Escaped (special : Char → Bool) : List Char → List Char → Prop
  | nil : Escaped special [] []
  | plain {c text form} : special c = false → c ≠ '\\' → Escaped special text form →
      Escaped special (c :: text) (c :: form)
  | escape {c text form} : Escaped special text form →
      Escaped special (c :: text) ('\\' :: c :: form)

/-- A word between two quotes of one kind, which is special between them. -/
inductive Quoted : List Char → List Char → Prop
  | intro {q word body} : isQuote q = true → Escaped (· == q) word body →
      Quoted word (q :: (body ++ [q]))

/-- A word that is not empty, without quotes around it. Blanks are special, and a quote is where
it would open a quoted word. -/
inductive Bare : List Char → List Char → Prop
  | plain {c rest form} : isBlank c = false → isQuote c = false → c ≠ '\\' →
      Escaped isBlank rest form → Bare (c :: rest) (c :: form)
  | escape {c rest form} : Escaped isBlank rest form → Bare (c :: rest) ('\\' :: c :: form)

/-- Words in order, each with the gap after it; a bare word needs one to end it when another
word follows. -/
inductive WrittenFrom : List (List Char) → List Char → Prop
  | nil : WrittenFrom [] []
  | quoted {word form gap words line} : Quoted word form → IsGap gap → WrittenFrom words line →
      WrittenFrom (word :: words) (form ++ (gap ++ line))
  | bare {word form gap words line} : Bare word form → IsGap gap → (words ≠ [] → gap ≠ []) →
      WrittenFrom words line → WrittenFrom (word :: words) (form ++ (gap ++ line))

/-- The line holds the words: a gap, then the words with theirs. -/
def Written (words : List String) (line : String) : Prop :=
  ∃ gap body, IsGap gap ∧ WrittenFrom (words.map String.toList) body ∧
    line.toList = gap ++ body

/-! ### Reading one word -/

/-- Between its quotes a word is read back up to the closing one. -/
theorem quoted_of_escaped {q : Char} {word body : List Char} (hq : isQuote q = true)
    (h : Escaped (· == q) word body) (rest : List Char) :
    quoted q (body ++ q :: rest) = (word, rest) := by
  induction h with
  | nil => exact quoted_close (ne_backslash_of_isQuote hq) rest
  | plain hspecial hescape _ ih =>
    have hclose := ne_of_beq_false hspecial
    rw [List.cons_append, quoted_plain hescape hclose, ih]
  | escape _ ih => rw [List.cons_append, List.cons_append, quoted_escape, ih]

/-- Where a bare word ends: at the end of the line or at a blank. -/
def Stops (rest : List Char) : Prop := ∀ c ∈ rest.head?, isBlank c = true

theorem bare_of_escaped {word form rest : List Char} (h : Escaped isBlank word form)
    (hrest : Stops rest) : bare (form ++ rest) = (word, rest) := by
  induction h with
  | nil =>
    cases rest with
    | nil => rfl
    | cons c rest => exact bare_stop (hrest c (by simp)) rest
  | plain hblank hescape _ ih => rw [List.cons_append, bare_plain hblank hescape, ih]
  | escape _ ih => rw [List.cons_append, List.cons_append, bare_escape, ih]

theorem next?_of_quoted {word form : List Char} (h : Quoted word form) (rest : List Char) :
    next? (form ++ rest) = some (word, rest) := by
  cases h with
  | intro hq hbody =>
    rw [List.cons_append, List.append_assoc, List.singleton_append, next?_quote hq,
      quoted_of_escaped hq hbody]

theorem next?_of_bare {word form rest : List Char} (h : Bare word form) (hrest : Stops rest) :
    next? (form ++ rest) = some (word, rest) := by
  cases h with
  | plain hblank hquote hescape hform =>
    rw [List.cons_append, next?_bare hblank hquote, bare_plain hblank hescape,
      bare_of_escaped hform hrest]
  | escape hform =>
    rw [List.cons_append, List.cons_append, next?_bare (by decide) (by decide), bare_escape,
      bare_of_escaped hform hrest]

/-! ### Reading a line -/

/-- The gap after a bare word ends it, or the line does. -/
theorem stops_gap_append {gap line : List Char} {words : List (List Char)} (hgap : IsGap gap)
    (hneeded : words ≠ [] → gap ≠ []) (hline : WrittenFrom words line) : Stops (gap ++ line) := by
  intro c hc
  cases gap with
  | cons b gap =>
    rw [List.cons_append, List.head?_cons, Option.mem_some_iff] at hc
    subst hc
    exact hgap b (by simp)
  | nil =>
    -- without a gap there is no further word, so the line is at its end
    cases hline with
    | nil => cases hc
    | quoted => exact absurd rfl (hneeded (List.cons_ne_nil _ _))
    | bare => exact absurd rfl (hneeded (List.cons_ne_nil _ _))

/-- Words that are written are read, whatever way each is written. -/
theorem scan_of_writtenFrom {words : List (List Char)} {line : List Char}
    (h : WrittenFrom words line) : scan line = words := by
  induction h with
  | nil => exact scan_eq_nil rfl
  | quoted hword hgap _ ih =>
    -- the closing quote ends the word, whatever follows it
    rw [scan_eq_cons (next?_of_quoted hword _), scan_gap_append hgap, ih]
  | bare hword hgap hneeded hline ih =>
    have hstops := stops_gap_append hgap hneeded hline
    rw [scan_eq_cons (next?_of_bare hword hstops), scan_gap_append hgap, ih]

theorem tokenize_of_written {words : List String} {line : String} (h : Written words line) :
    tokenize line = words := by
  obtain ⟨gap, body, hgap, hbody, hline⟩ := h
  rw [tokenize, hline, scan_gap_append hgap, scan_of_writtenFrom hbody,
    Text.map_ofList_map_toList]

/-! ### Words that are written as they are -/

theorem escaped_self {text : List Char} (hblank : ∀ c ∈ text, isBlank c = false)
    (hescape : '\\' ∉ text) : Escaped isBlank text text := by
  induction text with
  | nil => exact .nil
  | cons c text ih =>
    rw [List.mem_cons, not_or] at hescape
    obtain ⟨hc, htext⟩ := List.forall_mem_cons.mp hblank
    exact .plain hc (Ne.symm hescape.1) (ih htext hescape.2)

/-- A plain word without a backslash is a written form of itself. -/
theorem Plain.bare {word : List Char} (h : Plain word) (hescape : '\\' ∉ word) :
    Bare word word := by
  obtain ⟨c, rest, rfl⟩ := List.exists_cons_of_ne_nil h.ne_nil
  rw [List.mem_cons, not_or] at hescape
  obtain ⟨hc, hrest⟩ := List.forall_mem_cons.mp h.not_isBlank
  exact .plain hc (h.not_isQuote c rfl) (Ne.symm hescape.1) (escaped_self hrest hescape.2)

theorem tokenize_append_space {word : String} (h : Plain word.toList)
    (hescape : '\\' ∉ word.toList) : tokenize (word ++ " ") = [word] := by
  have hspace : IsGap [' '] := isGap_singleton rfl
  have hwritten : Written [word] (word ++ " ") :=
    ⟨[], _, isGap_nil, .bare (h.bare hescape) hspace (fun _ => List.cons_ne_nil _ _) .nil, by simp⟩
  exact tokenize_of_written hwritten

/-! ### Every list of words has a line -/

theorem escaped_flatMap (special : Char → Bool) (text : List Char) :
    Escaped special text (text.flatMap fun c => ['\\', c]) := by
  induction text with
  | nil => exact .nil
  | cons c text ih => exact .escape ih

theorem exists_writtenFrom (words : List (List Char)) : ∃ line, WrittenFrom words line := by
  induction words with
  | nil => exact ⟨[], .nil⟩
  | cons word words ih =>
    obtain ⟨line, hline⟩ := ih
    have hquote : isQuote '"' = true := rfl
    exact ⟨_, .quoted (.intro hquote (escaped_flatMap _ word)) isGap_nil hline⟩

/-- Every list of words can be written, empty words included. -/
theorem exists_written (words : List String) : ∃ line, Written words line := by
  obtain ⟨line, hline⟩ := exists_writtenFrom (words.map String.toList)
  exact ⟨String.ofList line, [], line, isGap_nil, hline, by simp⟩

/-! ### Running a written line -/

/-- **The words survive the line.** A list of words can be written as a line, and however it is
written, the tokens of the line are the words; when the first names a command, running the line
is running its handler on the words, with an error shown as a failure. -/
theorem dispatch_written (words : List String) :
    (∃ line, Written words line) ∧ ∀ line, Written words line →
      tokenize line = words ∧
      ∀ (r : Registry) (watch : Stopwatch) (files : FileSystem) (command : Command),
        command ∈ r.commands → words.head? = some command.name →
        r.dispatch watch files line =
          let reply := command.handler.run ⟨words, files, r.pages, watch.began⟩
          match reply.result with
          | .ok output =>
            some ⟨⟨output.text, output.exit, watch.elapsed⟩, reply.files, reply.clears⟩
          | .error e =>
            let output := "Error: " ++ e.message
            some ⟨⟨output, .failure, watch.elapsed⟩, reply.files, reply.clears⟩ := by
  refine ⟨exists_written words, fun line hline => ?_⟩
  have htokens := tokenize_of_written hline
  refine ⟨htokens, ?_⟩
  intro r watch files command hmem hname
  cases words with
  | nil => cases hname
  | cons name rest =>
    obtain rfl : name = command.name := by simpa using hname
    rw [Registry.dispatch_of_tokenize htokens, Registry.run_of_mem hmem, Registry.finish]
    dsimp only
    cases (command.handler.run ⟨command.name :: rest, files, r.pages, watch.began⟩).result with
    | ok output => rfl
    | error e => rfl

/-- A quoted word with an escaped letter, an empty word right after it, and a bare word with an
escaped blank and a gap behind it. -/
theorem dispatch_written_pwd :
    Written ["pwd", "", "a b"] "\"p\\wd\"'' a\\ b " ∧
    tokenize "\"p\\wd\"'' a\\ b " = ["pwd", "", "a b"] ∧
    ∀ watch, Builtin.registry.dispatch watch .seeded "\"p\\wd\"'' a\\ b " =
      some ⟨⟨"/home/dev", .success, watch.elapsed⟩, .seeded, 0⟩ := by
  have hnone : IsGap [] := by simp [IsGap]
  have hspace : IsGap [' '] := by simp [IsGap, Text.isBlank]
  have hpwd : Quoted "pwd".toList "\"p\\wd\"".toList :=
    @Quoted.intro '"' _ "p\\wd".toList rfl
      (.plain rfl (by decide) (.escape (.plain rfl (by decide) .nil)))
  have hempty : Quoted "".toList "''".toList := @Quoted.intro '\'' _ [] rfl .nil
  have hab : Bare "a b".toList "a\\ b".toList :=
    .plain rfl rfl (by decide) (.escape (.plain rfl (by decide) .nil))
  have hwritten : Written ["pwd", "", "a b"] "\"p\\wd\"'' a\\ b " :=
    ⟨[], _, hnone, .quoted hpwd hnone (.quoted hempty hspace
      (.bare hab hspace (by simp) .nil)), rfl⟩
  obtain ⟨htokens, hrun⟩ := (dispatch_written _).2 _ hwritten
  refine ⟨hwritten, htokens, fun watch => ?_⟩
  have hmem : Builtin.command "pwd" "Print working directory" "pwd" [] [] Builtin.pwd ∈
      Builtin.registry.commands := by simp [Builtin.registry, Builtin.commands]
  exact hrun Builtin.registry watch .seeded _ hmem rfl

end LineShell.Token
