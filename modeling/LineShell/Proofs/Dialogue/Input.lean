import LineShell.Dialogue
import LineShell.Proofs.Text.Digits
import LineShell.Proofs.Text.Pieces

/-!
# Lines of input

How the bytes of a dialogue become lines, and lines requests.

    CutAtNewlines : bytes, lines     ──▶ the lines are the bytes, cut after every newline
    Strips        : a line, a text   ──▶ the text is the line without its line end
    Asks          : a line, request  ──▶ the line is a colon, a known word, and what it is about

The relations say in full what is read from the bytes: `cutAtNewlines_iff` for the lines,
`strips_stripLineEnd` for their texts, and `asks_iff` and `ofLine_eq_run_iff` for the requests. A
line that asks for nothing is run as it stands. Whatever the bytes are, the text of a line holds no
newline (`newline_notMem_stripLineEnd`).
-/

namespace LineShell

/-! ### Bytes of texts -/

theorem textBytes_append (a b : String) : textBytes (a ++ b) = textBytes a ++ textBytes b := by
  simp [textBytes]

theorem textBytes_ofList (cs : List Char) :
    textBytes (String.ofList cs) = cs.flatMap String.utf8EncodeChar := by
  simp [textBytes, String.toByteArray_ofList, List.utf8Encode]

theorem newline_eq_ofNat_iff {k : Nat} (hk : k < 256) : 10 = UInt8.ofNat k ↔ k = 10 := by
  rw [← UInt8.toNat_inj, UInt8.toNat_ofNat_of_lt' hk, eq_comm]
  rfl

/-- The byte of a newline is not part of any other character. -/
theorem newline_mem_utf8EncodeChar {c : Char} : 10 ∈ String.utf8EncodeChar c ↔ c = '\n' := by
  have hc : c = '\n' ↔ c.val.toNat = 10 := by
    rw [← Char.toNat_inj]
    rfl
  rw [hc, String.utf8EncodeChar]
  split_ifs with h1 h2 h3
  · rw [List.mem_singleton, newline_eq_ofNat_iff (by omega)]
  all_goals
    -- every byte of a longer encoding is at least 128
    simp only [List.mem_cons, List.not_mem_nil, or_false]
    repeat rw [newline_eq_ofNat_iff (by omega)]
    omega

/-- The newline byte is no part of another character. -/
theorem newline_mem_textBytes {text : String} : 10 ∈ textBytes text ↔ '\n' ∈ text.toList := by
  rw [← String.ofList_toList (s := text), textBytes_ofList, String.toList_ofList]
  simp [newline_mem_utf8EncodeChar]

/-- A text is decoded from its own bytes. -/
theorem decodeLine_textBytes (text : String) : decodeLine (textBytes text) = some text := by
  have hvalid : (⟨(textBytes text).toArray⟩ : ByteArray).IsValidUTF8 := by
    simpa [textBytes] using text.isValidUTF8
  rw [decodeLine, String.fromUTF8?, dif_pos hvalid]
  simp [textBytes, String.fromUTF8]

/-- A line is decoded as the text that has its bytes. -/
theorem decodeLine_eq_some_iff {line : List UInt8} {text : String} :
    decodeLine line = some text ↔ textBytes text = line := by
  constructor
  · intro h
    rw [decodeLine, String.fromUTF8?] at h
    split at h
    · obtain rfl := Option.some.inj h
      simp [textBytes, String.fromUTF8]
    · cases h
  · rintro rfl
    exact decodeLine_textBytes text

/-- Two texts have the same bytes only if they are the same. -/
theorem textBytes_inj {a b : String} : textBytes a = textBytes b ↔ a = b := by
  refine ⟨fun h => ?_, congrArg textBytes⟩
  rw [← Option.some_inj, ← decodeLine_textBytes, ← decodeLine_textBytes, h]

/-! ### Cutting -/

/-- The bytes, cut after every newline; a rest that is not empty is the last line. -/
inductive CutAtNewlines : List UInt8 → List (List UInt8) → Prop
  | nothing : CutAtNewlines [] []
  | rest {line} : line ≠ [] → 10 ∉ line → CutAtNewlines line [line]
  | line {line input lines} : 10 ∉ line → CutAtNewlines input lines →
      CutAtNewlines (line ++ 10 :: input) ((line ++ [10]) :: lines)

theorem inputLines_newline (input : List UInt8) :
    inputLines (10 :: input) = [10] :: inputLines input := rfl

theorem inputLines_cons {b : UInt8} (h : b ≠ 10) (input : List UInt8) :
    inputLines (b :: input) =
      match inputLines input with
      | [] => [[b]]
      | line :: rest => (b :: line) :: rest :=
  if_neg h

theorem inputLines_rest {line : List UInt8} (hne : line ≠ []) (h : 10 ∉ line) :
    inputLines line = [line] := by
  induction line with
  | nil => exact absurd rfl hne
  | cons b line ih =>
    obtain ⟨hb, hline⟩ := not_or.mp (mt List.mem_cons.mpr h)
    rw [inputLines_cons (Ne.symm hb)]
    by_cases hnil : line = []
    · rw [hnil]
      rfl
    · rw [ih hnil hline]

theorem inputLines_line {line : List UInt8} (h : 10 ∉ line) (input : List UInt8) :
    inputLines (line ++ 10 :: input) = (line ++ [10]) :: inputLines input := by
  induction line with
  | nil => exact inputLines_newline input
  | cons b line ih =>
    obtain ⟨hb, hline⟩ := not_or.mp (mt List.mem_cons.mpr h)
    rw [List.cons_append, inputLines_cons (Ne.symm hb), ih hline]
    rfl

theorem cutAtNewlines_inputLines (input : List UInt8) : CutAtNewlines input (inputLines input) := by
  induction input with
  | nil => exact .nothing
  | cons b input ih =>
    by_cases hb : b = 10
    · subst hb
      have hempty : 10 ∉ ([] : List UInt8) := List.not_mem_nil
      exact .line hempty ih
    · have hcons {line : List UInt8} (h : 10 ∉ line) : 10 ∉ b :: line := by
        rw [List.mem_cons, not_or]
        exact ⟨Ne.symm hb, h⟩
      rw [inputLines_cons hb]
      -- the byte goes in front of the first line there is
      generalize inputLines input = lines at ih
      cases ih with
      | nothing => exact .rest (List.cons_ne_nil _ _) (hcons List.not_mem_nil)
      | rest _ hline => exact .rest (List.cons_ne_nil _ _) (hcons hline)
      | line hline hinput => exact .line (hcons hline) hinput

/-- There is one way to cut. -/
theorem cutAtNewlines_iff {input : List UInt8} {lines : List (List UInt8)} :
    CutAtNewlines input lines ↔ lines = inputLines input := by
  constructor
  · intro h
    induction h with
    | nothing => rfl
    | rest hne hline => rw [inputLines_rest hne hline]
    | line hline _ ih => rw [inputLines_line hline, ih]
  · rintro rfl
    exact cutAtNewlines_inputLines input

/-- Bytes after whole lines are cut on their own. -/
theorem inputLines_append {before : List UInt8} (h : before = [] ∨ before.getLast? = some 10)
    (input : List UInt8) :
    inputLines (before ++ input) = inputLines before ++ inputLines input := by
  have hcut := cutAtNewlines_inputLines before
  generalize inputLines before = lines at hcut
  induction hcut with
  | nothing => rfl
  | rest hne hline =>
    rcases h with h | h
    · exact absurd h hne
    · exact absurd (List.mem_of_getLast? h) hline
  | @line line before lines hline _ ih =>
    have hbefore : before = [] ∨ before.getLast? = some 10 := by
      rcases h with h | h
      · simp at h
      · by_cases hnil : before = []
        · exact .inl hnil
        · rw [List.getLast?_append, List.getLast?_cons] at h
          right
          cases hlast : before.getLast? with
          | none => exact absurd (List.getLast?_eq_none_iff.mp hlast) hnil
          | some b => simpa [hlast] using h
    rw [List.append_assoc, List.cons_append, inputLines_line hline, ih hbefore, List.cons_append]

/-- In a line of input, a newline can only be the last byte. -/
theorem newline_notMem_dropLast {input line : List UInt8} (h : line ∈ inputLines input) :
    10 ∉ line.dropLast := by
  have hcut := cutAtNewlines_inputLines input
  generalize inputLines input = lines at h hcut
  induction hcut with
  | nothing => cases h
  | rest _ hline =>
    obtain rfl := List.mem_singleton.mp h
    exact mt (fun hmem => List.dropLast_subset _ hmem) hline
  | line hline _ ih =>
    rcases List.mem_cons.mp h with rfl | h
    · rwa [List.dropLast_concat]
    · exact ih h

/-! ### Line ends -/

/-- The line is the text and a run of newlines and carriage returns; the text ends in neither. -/
structure Strips (line text : String) : Prop where
  ends : ∃ ends : List Char, line = text ++ String.ofList ends ∧ ∀ c ∈ ends, c = '\n' ∨ c = '\r'
  last : ∀ c, text.toList.getLast? = some c → c ≠ '\n' ∧ c ≠ '\r'

theorem toList_stripLineEnd (line : String) : (stripLineEnd line).toList =
    line.toList.rdropWhile fun c => c == '\n' || c == '\r' :=
  String.toList_ofList

/-- What is stripped is the whole run at the end. -/
theorem strips_stripLineEnd (line : String) : Strips line (stripLineEnd line) where
  ends := by
    refine ⟨line.toList.rtakeWhile fun c => c == '\n' || c == '\r', ?_, ?_⟩
    · rw [← String.toList_inj, String.toList_append, String.toList_ofList, toList_stripLineEnd,
        List.rdropWhile_append_rtakeWhile]
    · intro c hc
      simpa using List.mem_rtakeWhile_imp hc
  last := by
    intro c hc
    rw [toList_stripLineEnd] at hc
    rcases Text.rdropWhile_cases (fun c => c == '\n' || c == '\r') line.toList with
      h | ⟨front, last, h, hlast⟩
    · rw [h] at hc
      cases hc
    · rw [h, List.getLast?_concat] at hc
      obtain rfl := Option.some.inj hc
      simpa using hlast

/-- So the text of a line has none. -/
theorem newline_notMem_stripLineEnd {line : List UInt8} {text : String}
    (hline : 10 ∉ line.dropLast) (htext : decodeLine line = some text) :
    '\n' ∉ (stripLineEnd text).toList := by
  obtain ⟨⟨ends, hends, -⟩, hlast⟩ := strips_stripLineEnd text
  intro hmem
  obtain ⟨front, back, hsplit⟩ := List.append_of_mem hmem
  -- the newline is not what the text ends in, so it has more of the line behind it
  have hback : back ≠ [] := by
    rintro rfl
    rw [hsplit] at hlast
    exact (hlast '\n' (List.getLast?_concat ..)).1 rfl
  have hwhole : text = String.ofList front ++ "\n" ++ String.ofList (back ++ ends) := by
    rw [← String.toList_inj, hends, String.toList_append, hsplit]
    simp
  have hmore : textBytes (String.ofList (back ++ ends)) ≠ [] := by
    intro hempty
    have hnil : String.ofList (back ++ ends) = "" := textBytes_inj.mp hempty
    rw [String.ofList_eq_empty_iff, List.append_eq_nil_iff] at hnil
    exact hback hnil.1
  rw [← decodeLine_eq_some_iff.mp htext, hwhole, textBytes_append, textBytes_append,
    List.dropLast_append_of_ne_nil hmore] at hline
  exact hline (List.mem_append_left _ (List.mem_append_right _ (by decide)))

/-! ### Requests -/

/-- A colon and the word, alone or with a space and what it is about. -/
inductive ColonWord (word : String) : String → String → Prop
  | alone : ColonWord word (":" ++ word) ""
  | about {about} : ColonWord word (":" ++ word ++ " " ++ about) about

/-- The line asks about the session, or to leave it. -/
inductive Asks (line : String) : Request → Prop
  | suggest {about} : ColonWord "suggest" line about → Asks line (.suggest about)
  | hint {about} : ColonWord "hint" line about → Asks line (.hint about)
  | history {about} : ColonWord "history" line about → Asks line .history
  | quit {word about} : word = "quit" ∨ word = "q" → ColonWord word line about → Asks line .quit

/-- A line that begins with a colon has a word after it, up to a space or to its end. -/
theorem exists_colonWord {line : String} {rest : List Char} (h : line.toList = ':' :: rest) :
    ∃ word about, ' ' ∉ word.toList ∧ ColonWord word line about := by
  by_cases hspace : ' ' ∈ rest
  · obtain ⟨word, about, rfl, hword⟩ := List.eq_append_cons_of_mem hspace
    have hline : line = ":" ++ String.ofList word ++ " " ++ String.ofList about := by
      rw [← String.toList_inj, h]
      simp
    refine ⟨String.ofList word, String.ofList about, ?_, hline ▸ .about⟩
    rwa [String.toList_ofList]
  · have hline : line = ":" ++ String.ofList rest := by
      rw [← String.toList_inj, h]
      simp
    refine ⟨String.ofList rest, "", ?_, hline ▸ .alone⟩
    rwa [String.toList_ofList]

/-- The word after the colon decides what a line asks for. -/
theorem ofLine_of_colonWord {word line about : String} (h : ' ' ∉ word.toList)
    (hline : ColonWord word line about) : Request.ofLine line =
      if word = "suggest" then .suggest about
      else if word = "hint" then .hint about
      else if word = "history" then .history
      else if word = "quit" ∨ word = "q" then .quit
      else .run line := by
  have hword : ∀ c ∈ word.toList, decide (c ≠ ' ') = true := by
    intro c hc
    rw [decide_eq_true_iff]
    rintro rfl
    exact h hc
  -- what `ofLine` cuts the characters after the colon into
  have hcut : ∃ rest, line.toList = ':' :: rest ∧ rest.takeWhile (· ≠ ' ') = word.toList ∧
      (rest.dropWhile (· ≠ ' ')).drop 1 = about.toList := by
    cases hline with
    | alone =>
      refine ⟨word.toList, ?_, List.takeWhile_eq_self_iff.mpr hword, ?_⟩
      · rw [String.toList_append]
        rfl
      · rw [List.dropWhile_eq_nil_iff.mpr hword]
        rfl
    | about =>
      refine ⟨word.toList ++ ' ' :: about.toList, by simp, ?_, ?_⟩
      · exact Text.takeWhile_append hword (by simp)
      · rw [Text.dropWhile_append hword (by simp), List.drop_succ_cons, List.drop_zero]
  obtain ⟨rest, hcolon, htake, hdrop⟩ := hcut
  rw [Request.ofLine, hcolon]
  simp only [htake, hdrop, String.ofList_toList]

/-- A line asks for what it is read as, unless it is run. -/
theorem asks_iff {line : String} {r : Request} :
    Asks line r ↔ Request.ofLine line = r ∧ ∀ text, r ≠ .run text := by
  constructor
  · rintro (h | h | h | ⟨rfl | rfl, h⟩)
    all_goals
      rw [ofLine_of_colonWord (by decide) h]
      simp
  · rintro ⟨rfl, hrun⟩
    -- a line that is not run begins with a colon
    obtain ⟨rest, hcolon⟩ : ∃ rest, line.toList = ':' :: rest := by
      by_contra hnot
      refine hrun line ?_
      rw [Request.ofLine]
      split
      · next rest hcolon => exact absurd ⟨rest, hcolon⟩ hnot
      · rfl
    obtain ⟨word, about, hspace, hline⟩ := exists_colonWord hcolon
    rw [ofLine_of_colonWord hspace hline] at hrun ⊢
    by_cases hsuggest : word = "suggest"
    · rw [if_pos hsuggest]
      exact .suggest (hsuggest ▸ hline)
    rw [if_neg hsuggest] at hrun ⊢
    by_cases hhint : word = "hint"
    · rw [if_pos hhint]
      exact .hint (hhint ▸ hline)
    rw [if_neg hhint] at hrun ⊢
    by_cases hhistory : word = "history"
    · rw [if_pos hhistory]
      exact .history (hhistory ▸ hline)
    rw [if_neg hhistory] at hrun ⊢
    by_cases hquit : word = "quit" ∨ word = "q"
    · rw [if_pos hquit]
      exact .quit hquit hline
    · rw [if_neg hquit] at hrun
      exact absurd rfl (hrun line)

/-- A line that is run is run as it is. -/
theorem eq_of_ofLine_eq_run {line text : String} (h : Request.ofLine line = .run text) :
    text = line := by
  unfold Request.ofLine at h
  split at h
  · dsimp only at h
    split_ifs at h
    exact (Request.run.inj h).symm
  · exact (Request.run.inj h).symm

/-- A line that asks for nothing is run, as it stands. -/
theorem ofLine_eq_run_iff {line text : String} :
    Request.ofLine line = .run text ↔ text = line ∧ ∀ r, ¬ Asks line r := by
  constructor
  · intro h
    refine ⟨eq_of_ofLine_eq_run h, ?_⟩
    intro r hasks
    obtain ⟨hr, hrun⟩ := asks_iff.mp hasks
    exact hrun text (hr.symm.trans h)
  · rintro ⟨rfl, hnot⟩
    by_contra hrun
    refine hnot (Request.ofLine text) (asks_iff.mpr ⟨rfl, ?_⟩)
    intro other hother
    rw [eq_of_ofLine_eq_run hother] at hother
    exact hrun hother

end LineShell
