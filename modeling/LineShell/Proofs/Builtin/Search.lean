import LineShell.Pattern
import LineShell.Proofs.Builtin.Operands
import LineShell.Proofs.Text.Pieces

/-!
# Searching a file

`grep` goes through four stages, and each of them may end the call. What the engine makes of a
pattern is left open, but for the empty one:

    operands ──▶ content ──▶ pattern ──▶ matching lines
    too few      no file     refused     printed

What is printed is again a text, and its lines are the ones that matched (`linesOf_filter`). The
exception is a search that finds nothing: nothing, as a text, is one empty line, and whether that
matches or not it prints nothing (`matchingLines_matchingLines`).

Main statement: `grep_selects`.
-/

namespace LineShell

namespace Builtin

open Text (LinesOf linesOf_iff linesOf_pieces)

/-! ### Matching lines -/

section

variable {test : String → Bool} {content : String} {lines : List String}

/-- The printed text keeps the lines that match, in their order, and no newline at its end. -/
theorem matchingLines_of_lines (h : LinesOf content lines) :
    matchingLines test content = "\n".intercalate (lines.filter test) := by
  rw [matchingLines, ← linesOf_iff.mp h]

/-- Some lines of a text, joined, are a text with these lines, unless there is none of them. -/
theorem linesOf_filter (h : LinesOf content lines) (hne : lines.filter test ≠ []) :
    LinesOf (matchingLines test content) (lines.filter test) where
  ne_nil := hne
  whole line hline := h.whole line (List.mem_of_mem_filter hline)
  joined := (matchingLines_of_lines h).symm

/-- A question that every line answers with yes selects the whole text. -/
theorem matchingLines_of_forall (h : ∀ line, test line = true) (content : String) :
    matchingLines test content = content := by
  have hlines := linesOf_pieces content
  rw [matchingLines_of_lines hlines, List.filter_eq_self.mpr fun line _ => h line, hlines.joined]

/-- In a text without characters there is one line, which is printed as nothing. -/
theorem matchingLines_empty (test : String → Bool) : matchingLines test "" = "" := by
  have hlines : LinesOf "" [""] := linesOf_iff.mpr rfl
  rw [matchingLines_of_lines hlines]
  cases h : test "" with
  | true => rw [List.filter_cons_of_pos h]; rfl
  | false => rw [List.filter_cons_of_neg (by simp [h])]; rfl

/-- Lines that were selected are all selected the next time. -/
theorem matchingLines_matchingLines (test : String → Bool) (content : String) :
    matchingLines test (matchingLines test content) = matchingLines test content := by
  have hlines := linesOf_pieces content
  by_cases hne : (Text.pieces '\n' content).filter test = []
  · have hnothing : matchingLines test content = "" := by
      rw [matchingLines_of_lines hlines, hne]
      rfl
    rw [hnothing, matchingLines_empty]
  · rw [matchingLines_of_lines (linesOf_filter hlines hne), List.filter_filter]
    simp only [Bool.and_self]
    exact (matchingLines_of_lines hlines).symm

end

/-! ### The stages -/

/-- The arguments that `grep` takes for a pattern and a file. -/
def operands (arguments : List String) : List String :=
  arguments.filter fun a => !Text.begins "-" a

section

variable [Engine] {c : Call} {text file : String} {more : List String} {content : String}

theorem grep_of_few (h : (operands c.arguments).length < 2) :
    grep c = c.answer (.failure "usage: grep [-i] <pattern> <file>") := by
  unfold operands at h
  unfold grep
  split
  · next hoperands =>
    rw [hoperands, List.length_cons, List.length_cons] at h
    omega
  · rfl

variable (h : operands c.arguments = text :: file :: more)

include h

/-- The file is looked up first, so a bad pattern is not reported when there is no file. -/
theorem grep_of_unread {e : FileError} (hread : c.files.read (some file) = .error e) :
    grep c = c.answer (.failure ("grep: " ++ file ++ ": No such file")) := by
  rw [operands] at h
  simp only [grep, h, hread]

/-- A refused pattern is an error with the engine's own text. -/
theorem grep_of_refused {reason : String} (hread : c.files.read (some file) = .ok content)
    (hcompile : Engine.compile (c.hasFlag "-i") text = .error reason) :
    grep c = c.refuse (.badPattern reason) := by
  rw [operands] at h
  simp only [grep, h, hread, hcompile]

/-- An accepted pattern always succeeds, also when no line matches. -/
theorem grep_of_accepted {test : String → Bool} (hread : c.files.read (some file) = .ok content)
    (hcompile : Engine.compile (c.hasFlag "-i") text = .ok test) :
    grep c = c.answer (.success (matchingLines test content)) := by
  rw [operands] at h
  simp only [grep, h, hread, hcompile]

/-- A search with two operands ends in one of three ways. -/
theorem grep_cases :
    (∃ e, c.files.read (some file) = .error e ∧
      grep c = c.answer (.failure ("grep: " ++ file ++ ": No such file"))) ∨
    (∃ content reason, c.files.read (some file) = .ok content ∧
      Engine.compile (c.hasFlag "-i") text = .error reason ∧
      grep c = c.refuse (.badPattern reason)) ∨
    ∃ content test, c.files.read (some file) = .ok content ∧
      Engine.compile (c.hasFlag "-i") text = .ok test ∧
      grep c = c.answer (.success (matchingLines test content)) := by
  cases hread : c.files.read (some file) with
  | error e => exact .inl ⟨e, rfl, grep_of_unread h hread⟩
  | ok content =>
    cases hcompile : Engine.compile (c.hasFlag "-i") text with
    | error reason => exact .inr (.inl ⟨content, reason, rfl, rfl, grep_of_refused h hread hcompile⟩)
    | ok test =>
      exact .inr (.inr ⟨content, test, rfl, rfl, grep_of_accepted h hread hcompile⟩)

/-- Only the last stage ends in a success. -/
theorem grep_success {output : String} (hresult : (grep c).result = .ok (.success output)) :
    ∃ content test, c.files.read (some file) = .ok content ∧
      Engine.compile (c.hasFlag "-i") text = .ok test ∧
      output = matchingLines test content := by
  rcases grep_cases h with ⟨_, -, hgrep⟩ | ⟨_, _, -, -, hgrep⟩ |
    ⟨content, test, hread, hcompile, hgrep⟩
  · rw [hgrep] at hresult
    cases hresult
  · rw [hgrep] at hresult
    cases hresult
  · rw [hgrep] at hresult
    injection hresult with houtput
    injection houtput with htext
    exact ⟨content, test, hread, hcompile, htext.symm⟩

/-- Only a pattern that is refused ends in an error, and only once the file was read. -/
theorem grep_error_iff {e : CommandError} : (grep c).result = .error e ↔
    ∃ content reason, c.files.read (some file) = .ok content ∧
      Engine.compile (c.hasFlag "-i") text = .error reason ∧ e = .badPattern reason := by
  constructor
  · intro hresult
    rcases grep_cases h with ⟨_, -, hgrep⟩ | ⟨content, reason, hread, hcompile, hgrep⟩ |
      ⟨_, _, -, -, hgrep⟩
    · rw [hgrep] at hresult
      cases hresult
    · rw [hgrep] at hresult
      injection hresult with he
      exact ⟨content, reason, hread, hcompile, he.symm⟩
    · rw [hgrep] at hresult
      cases hresult
  · rintro ⟨content, reason, hread, hcompile, rfl⟩
    rw [grep_of_refused h hread hcompile]
    rfl

/-- The empty pattern selects every line. -/
theorem grep_empty (hempty : Engine.EmptyMatchesAll) (htext : text = "")
    (hread : c.files.read (some file) = .ok content) :
    grep c = c.answer (.success content) := by
  subst htext
  obtain ⟨test, hcompile, hall⟩ := hempty (c.hasFlag "-i")
  rw [grep_of_accepted h hread hcompile, matchingLines_of_forall hall]

/-- A search in what the same search printed prints it again. -/
theorem grep_again {other : Call} {output file' : String} {more' : List String}
    (hresult : (grep c).result = .ok (.success output))
    (hother : operands other.arguments = text :: file' :: more')
    (hcase : other.hasFlag "-i" = c.hasFlag "-i")
    (hread' : other.files.read (some file') = .ok output) :
    (grep other).result = .ok (.success output) := by
  obtain ⟨content, test, -, hcompile, rfl⟩ := grep_success h hresult
  rw [← hcase] at hcompile
  rw [grep_of_accepted hother hread' hcompile, matchingLines_matchingLines]
  rfl

end

/-! ### Faithful selection -/

/-- What the reply to a search for `text` in `file` is. The engine is given the pattern with the case
ignored or not, by the flag of the call. -/
structure Selects [Engine] (c : Call) (text file : String) (reply : Reply) : Prop where
  missing : ∀ e, c.files.read (some file) = .error e →
    reply = c.answer (.failure ("grep: " ++ file ++ ": No such file"))
  refused : ∀ e, reply.result = .error e ↔
    ∃ content reason, c.files.read (some file) = .ok content ∧
      Engine.compile (c.hasFlag "-i") text = .error reason ∧ e = .badPattern reason
  matching : ∀ content test, c.files.read (some file) = .ok content →
    Engine.compile (c.hasFlag "-i") text = .ok test →
      ∃ lines, LinesOf content lines ∧
        reply = c.answer (.success ("\n".intercalate (lines.filter test)))
  everything : text = "" → ∀ content, c.files.read (some file) = .ok content →
    reply = c.answer (.success content) ∧
      ∀ whole : Call, whole.On c.files [file] → (cat whole).result = reply.result
  again : ∀ output, reply.result = .ok (.success output) →
    ∀ (other : Call) (file' : String) (more' : List String),
      operands other.arguments = text :: file' :: more' →
      other.hasFlag "-i" = c.hasFlag "-i" → other.files.read (some file') = .ok output →
        (grep other).result = reply.result

/-- **`grep` selects lines faithfully**, with any engine whose empty pattern matches every line. With
fewer than two operands it explains its usage. With two it reports a file that cannot be read,
before it looks at the pattern; it replies with an error exactly when the file was read and the
pattern refused; and otherwise it prints the lines of the file that match, in order and joined by
newlines. So the empty pattern prints what `cat` prints, and a search in what it printed prints the
same. -/
theorem grep_selects [Engine] (hempty : Engine.EmptyMatchesAll) (c : Call) :
    ((operands c.arguments).length < 2 →
      grep c = c.answer (.failure "usage: grep [-i] <pattern> <file>")) ∧
    ∀ text file more, operands c.arguments = text :: file :: more →
      Selects c text file (grep c) := by
  refine ⟨grep_of_few, fun text file more h => ?_⟩
  exact {
    missing := fun _ hread => grep_of_unread h hread
    refused := fun _ => grep_error_iff h
    matching := by
      intro content test hread hcompile
      have hlines := linesOf_pieces content
      refine ⟨_, hlines, ?_⟩
      rw [grep_of_accepted h hread hcompile, matchingLines_of_lines hlines]
    everything := by
      intro htext content hread
      have hgrep := grep_empty h hempty htext hread
      refine ⟨hgrep, fun whole hon => ?_⟩
      rw [hgrep, cat_of_ok hon hread]
      rfl
    again := by
      intro output hresult other file' more' hother hcase hread'
      rw [hresult]
      exact grep_again h hresult hother hcase hread' }

/-- Two lines of the seeded notes match, and they still do when they are all that a file holds. -/
theorem grep_selects_notes :
    ∃ c again : Call, c.argv = ["grep", "-n", "Au|Im", "notes.md"] ∧
      c.files = FileSystem.seeded ∧ again.argv = ["grep", "Au|Im", "found"] ∧
      again.files.read (some "found") = .ok "- Autocomplete\n- Improve FS later" ∧
      (grep c).result = .ok (.success "- Autocomplete\n- Improve FS later") ∧
      (grep again).result = (grep c).result := by
  let notes : String := "# Notes\n- Tailwind UI\n- Autocomplete\n- Improve FS later"
  let found : String := "- Autocomplete\n- Improve FS later"
  let c : Call := ⟨["grep", "-n", "Au|Im", "notes.md"], .seeded, [], ⟨0, 0, 0⟩⟩
  let again : Call :=
    ⟨["grep", "Au|Im", "found"], ⟨Node.ofEntries [("found", .file found)], .root⟩, [], ⟨0, 0, 0⟩⟩
  have hselects := (grep_selects Pattern.emptyMatchesAll c).2 "Au|Im" "notes.md" [] (by decide)
  have hnotes : c.files.read (some "notes.md") = .ok notes := by decide +kernel
  have hfound : again.files.read (some "found") = .ok found := by decide +kernel
  obtain ⟨test, hcompile, htest⟩ : ∃ test, Engine.compile false "Au|Im" = .ok test ∧
      (Text.pieces '\n' notes).filter test = ["- Autocomplete", "- Improve FS later"] := by
    have hfilter : (Engine.compile false "Au|Im").map
        (fun test => (Text.pieces '\n' notes).filter test) =
          .ok ["- Autocomplete", "- Improve FS later"] := by decide +kernel
    cases hcompile : Engine.compile false "Au|Im" with
    | error reason =>
      rw [hcompile] at hfilter
      cases hfilter
    | ok test =>
      rw [hcompile] at hfilter
      injection hfilter with htest
      exact ⟨test, rfl, htest⟩
  obtain ⟨lines, hlines, hgrep⟩ := hselects.matching notes test hnotes hcompile
  rw [linesOf_iff.mp hlines, htest] at hgrep
  have hresult : (grep c).result = .ok (.success found) := by
    rw [hgrep]
    rfl
  exact ⟨c, again, rfl, rfl, rfl, hfound, hresult,
    hselects.again found hresult again "found" [] (by decide) rfl hfound⟩

end Builtin

end LineShell
