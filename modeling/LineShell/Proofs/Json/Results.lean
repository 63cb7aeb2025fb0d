import LineShell.Proofs.Json.Numbers

/-!
# Results are read back

The JSON text of a result stands for the result. Its characters are all printable, so it never
holds a line break: escapes are made of printable characters, and every other character of a string
stands for itself.

    readChar_escape   : a character ──▶ its escape is read back as it
    readMembers_field : texts and what each is read as ──▶ the members of their object
    decode_execution  : a result    ──▶ its text is read back as its three members
-/

namespace LineShell.Json

/-! ### Strings -/

theorem hexValue?_hexDigit : ∀ n < 16, hexValue? (hexDigit n) = some n := by decide

theorem readCode_hexDigits {n : Nat} (h : n < 0x20) (rest : List Char) :
    readCode ('0' :: '0' :: hexDigit (n / 16) :: hexDigit (n % 16) :: rest) = some (n, rest) := by
  have hhigh := hexValue?_hexDigit (n / 16) (by omega)
  have hlow := hexValue?_hexDigit (n % 16) (by omega)
  have hzero : hexValue? '0' = some 0 := rfl
  have hn : ((0 * 16 + 0) * 16 + n / 16) * 16 + n % 16 = n := by omega
  rw [readCode, hzero, hhigh, hlow]
  simp only [Option.bind_eq_bind, Option.bind_some, hn]

theorem readPair_of_lt {n : Nat} (h : n < 0x20) (rest : List Char) :
    readPair n rest = some (Char.ofNat n, rest) := by
  have hlow : ¬ isLow n = true := by simp [isLow]; omega
  have hhigh : ¬ isHigh n = true := by simp [isHigh]; omega
  unfold readPair
  rw [if_neg hlow, if_neg hhigh]

/-- A character has a name of its own after a backslash, it has a code, or it stands for itself. -/
theorem escape_cases (c : Char) :
    (∃ d, d ≠ 'u' ∧ 0x20 ≤ d.toNat ∧ named? d = some c ∧ escape c = ['\\', d]) ∨
    (c.toNat < 0x20 ∧ escape c =
      ['\\', 'u', '0', '0', hexDigit (c.toNat / 16), hexDigit (c.toNat % 16)]) ∨
    (c ≠ '"' ∧ c ≠ '\\' ∧ 0x20 ≤ c.toNat ∧ escape c = [c]) := by
  fun_cases escape c with
  | case1 | case2 | case3 | case4 | case5 | case6 | case7 =>
    subst_vars
    exact .inl ⟨_, by decide, by decide, rfl, rfl⟩
  | case8 _ _ _ _ _ _ _ hcode => exact .inr (.inl ⟨hcode, rfl⟩)
  | case9 hquote hescape _ _ _ _ _ hcode =>
    exact .inr (.inr ⟨hquote, hescape, Nat.le_of_not_lt hcode, rfl⟩)

/-- However a character is written in a string, it is read back. -/
theorem readChar_escape (c : Char) (rest : List Char) :
    readChar (escape c ++ rest) = some (c, rest) := by
  rcases escape_cases c with ⟨d, hu, -, hname, h⟩ | ⟨hcode, h⟩ | ⟨hquote, hescape, hplain, h⟩
  · rw [h, List.cons_append, List.singleton_append, readChar, hname]
    · rfl
    · exact fun hd => absurd hd hu
  · rw [h]
    simp only [List.cons_append, List.nil_append]
    rw [readChar, readCode_hexDigits hcode]
    dsimp only
    rw [readPair_of_lt hcode, Char.ofNat_toNat]
  · have hnot : ¬ (c = '"' ∨ c = '\\' ∨ c.toNat < 0x20) := by
      simp [hquote, hescape, hplain]
    rw [h, List.singleton_append, readChar, if_neg hnot]
    · exact fun _ hc => absurd hc hescape
    · exact fun _ _ hc => absurd hc hescape

theorem head?_escape_ne_quote (c : Char) (rest : List Char) :
    (escape c ++ rest).head? ≠ some '"' := by
  rcases escape_cases c with ⟨d, -, -, -, h⟩ | ⟨-, h⟩ | ⟨hquote, -, -, h⟩
  · simp [h]
  · simp [h]
  · simp [h, hquote]

/-- A string ends at its closing quote, since a quote inside is escaped. -/
theorem readChars_escape (text rest : List Char) :
    readChars (text.flatMap escape ++ '"' :: rest) = some (text, rest) := by
  induction text with
  | nil => exact readChars_quote rest
  | cons c text ih =>
    rw [List.flatMap_cons, List.append_assoc,
      readChars_of_readChar (head?_escape_ne_quote c _) (readChar_escape c _), ih]
    rfl

theorem toList_string (s : String) :
    (string s).toList = '"' :: (s.toList.flatMap escape ++ ['"']) := by
  simp [string]

/-! ### Values -/

/-- The text is read as the value, in one reading, whatever comes after it. -/
def ReadsAs (text : String) (v : Value) : Prop :=
  ∀ depth rest, Ends rest → readValue (depth + 1) (text.toList ++ rest) = some (v, rest)

theorem readsAs_string (s : String) : ReadsAs (string s) (.string s) := by
  intro depth rest _
  rw [toList_string, List.cons_append, List.append_assoc, List.singleton_append, readValue_quote,
    readChars_escape, Option.map_some]
  dsimp only
  rw [String.ofList_toList]

theorem readsAs_of_readMagnitude {text : String} {q : ℚ}
    (h : ∀ rest, Ends rest → readMagnitude (text.toList ++ rest) = some (q, rest)) :
    ReadsAs text (.number q) := by
  intro depth rest hrest
  have hread := h rest hrest
  obtain ⟨c, cs, hcs, hdigit⟩ := exists_digit_of_readMagnitude hread
  rw [hcs] at hread ⊢
  rw [readValue_digit hdigit, hread]
  rfl

/-- A number is read as the decimal that was written for it. -/
theorem readsAs_number (b : Numeric.Binary) : ReadsAs (number b) (.number b.writtenValue) :=
  readsAs_of_readMagnitude fun _ => readMagnitude_number b

theorem readsAs_toString (n : Nat) : ReadsAs (toString n) (.number n) :=
  readsAs_of_readMagnitude fun _ => readMagnitude_toString n

/-! ### Objects -/

/-- A member: its key, the text of its value, and what that is read as. -/
structure Member where
  key : String
  text : String
  value : Value

theorem toList_field (key text : String) : (field key text).toList =
    '"' :: (key.toList.flatMap escape ++ '"' :: ':' :: text.toList) := by
  simp [field, toList_string]

/-- The members of an object are read one after the other. -/
theorem readMembers_field {members : List Member} (hne : members ≠ [])
    (h : ∀ m ∈ members, ReadsAs m.text m.value) {depth : Nat} (hdepth : members.length < depth)
    (rest : List Char) :
    readMembers depth
        ((String.intercalate "," (members.map fun m => field m.key m.text)).toList ++
          '\x7d' :: rest) =
      some (members.map fun m => (m.key, m.value), rest) := by
  induction members generalizing depth with
  | nil => exact absurd rfl hne
  | cons m members ih =>
    obtain ⟨depth, rfl⟩ : ∃ k, depth = k + 2 := ⟨depth - 2, by simp at hdepth; omega⟩
    have hm := h m (by simp)
    cases members with
    | nil =>
      rw [List.map_singleton, String.intercalate_singleton, toList_field, List.cons_append,
        List.append_assoc, List.cons_append, List.cons_append]
      rw [readMembers_last (readChars_escape _ _) (hm depth _ (ends_cons (by decide) rest)),
        String.ofList_toList]
      rfl
    | cons next members =>
      have hcomma : ",".toList = [','] := rfl
      have hrest := ih (List.cons_ne_nil _ _) (fun other hother => h other (by simp [hother]))
        (Nat.succ_lt_succ_iff.mp hdepth)
      rw [List.map_cons] at hrest
      rw [List.map_cons, List.map_cons, String.intercalate_cons_cons, String.toList_append,
        String.toList_append, toList_field, hcomma, List.append_assoc, List.append_assoc,
        List.singleton_append, List.cons_append, List.append_assoc, List.cons_append,
        List.cons_append]
      rw [readMembers_cons (readChars_escape _ _) (hm depth _ (ends_cons (by decide) _)), hrest,
        String.ofList_toList]
      rfl

/-- As many readings as there are characters are enough for all members. -/
theorem length_le_toList_field (members : List Member) : members.length ≤
    (String.intercalate "," (members.map fun m => field m.key m.text)).toList.length := by
  induction members with
  | nil => exact Nat.zero_le _
  | cons m members ih =>
    cases members with
    | nil =>
      rw [List.map_singleton, String.intercalate_singleton, toList_field]
      simp
    | cons next members =>
      rw [List.map_cons] at ih
      rw [List.map_cons, List.map_cons, String.intercalate_cons_cons, String.toList_append,
        String.toList_append, List.length_append, List.length_append, List.length_cons]
      have hcomma : ",".toList.length = 1 := rfl
      omega

theorem exists_quote_toList_field {members : List Member} (h : members ≠ []) :
    ∃ cs,
      (String.intercalate "," (members.map fun m => field m.key m.text)).toList = '"' :: cs := by
  obtain ⟨m, members, rfl⟩ := List.exists_cons_of_ne_nil h
  cases members with
  | nil =>
    rw [List.map_singleton, String.intercalate_singleton, toList_field]
    exact ⟨_, rfl⟩
  | cons next members =>
    rw [List.map_cons, List.map_cons, String.intercalate_cons_cons, String.toList_append,
      String.toList_append, toList_field]
    exact ⟨_, rfl⟩

/-- An object of such members. -/
theorem decode_object {members : List Member} (hne : members ≠ [])
    (h : ∀ m ∈ members, ReadsAs m.text m.value) :
    decode (object (members.map fun m => field m.key m.text)) =
      some (.object (members.map fun m => (m.key, m.value))) := by
  have htext : (object (members.map fun m => field m.key m.text)).toList =
      '\x7b' :: ((String.intercalate "," (members.map fun m => field m.key m.text)).toList ++
        ['\x7d']) := by
    simp [object]
  have hdepth : members.length < (object (members.map fun m => field m.key m.text)).length := by
    have := length_le_toList_field members
    rw [← String.length_toList, htext]
    simp only [List.length_cons, List.length_append]
    omega
  have hquote : (skip ((String.intercalate "," (members.map fun m => field m.key m.text)).toList ++
      ['\x7d'])).head? ≠ some '\x7d' := by
    obtain ⟨cs, hcs⟩ := exists_quote_toList_field hne
    rw [hcs, List.cons_append, skip_cons (by decide)]
    simp
  rw [decode, htext, readValue_brace _ hquote, readMembers_field hne h hdepth]
  rfl

/-! ### Printable characters -/

def Printable (cs : List Char) : Prop := ∀ c ∈ cs, 0x20 ≤ c.toNat

instance (cs : List Char) : Decidable (Printable cs) := List.decidableBAll _ _

variable {a b cs : List Char}

theorem printable_append_iff : Printable (a ++ b) ↔ Printable a ∧ Printable b :=
  List.forall_mem_append

theorem printable_cons_iff {c : Char} : Printable (c :: cs) ↔ 0x20 ≤ c.toNat ∧ Printable cs :=
  List.forall_mem_cons

theorem Digits.printable (h : Digits cs) : Printable cs := by
  intro c hc
  have hdigit := h.isDigit c hc
  simp only [Char.isDigit, Bool.and_eq_true, decide_eq_true_eq] at hdigit
  have hle : 48 ≤ c.toNat := hdigit.1
  omega

theorem printable_hexDigit : ∀ n < 16, 0x20 ≤ (hexDigit n).toNat := by decide

/-- The escape of a control character is printable, and so are all others. -/
theorem printable_escape (c : Char) : Printable (escape c) := by
  rcases escape_cases c with ⟨d, -, hd, -, h⟩ | ⟨hcode, h⟩ | ⟨-, -, hc, h⟩
  · simp [h, Printable, hd]
  · have hhigh := printable_hexDigit (c.toNat / 16) (by omega)
    have hlow := printable_hexDigit (c.toNat % 16) (by omega)
    simp [h, Printable, hhigh, hlow]
  · simp [h, Printable, hc]

theorem printable_string (s : String) : Printable (string s).toList := by
  have hescaped : Printable (s.toList.flatMap escape) := by
    intro c hc
    obtain ⟨d, -, hd⟩ := List.mem_flatMap.mp hc
    exact printable_escape d c hd
  have hquote : Printable ['"'] := by decide
  rw [toList_string, printable_cons_iff, printable_append_iff]
  exact ⟨by decide, hescaped, hquote⟩

theorem printable_zeros (k : Nat) : Printable (List.replicate k '0') := by
  intro c hc
  rw [List.eq_of_mem_replicate hc]
  decide

theorem printable_plain (h : Printable cs) (point : Int) : Printable (plain cs point) := by
  have htake (k : Nat) : Printable (cs.take k) := fun c hc => h c (List.mem_of_mem_take hc)
  have hdrop (k : Nat) : Printable (cs.drop k) := fun c hc => h c (List.mem_of_mem_drop hc)
  have hfraction : Printable ['.', '0'] := by decide
  rw [plain]
  split
  · simp [printable_append_iff, printable_cons_iff, printable_zeros, h]
  · dsimp only
    split
    · simp [printable_append_iff, printable_zeros, h, hfraction]
    · simp [printable_append_iff, printable_cons_iff, htake, hdrop]

theorem printable_exponential (h : Printable cs) (point : Int) :
    Printable (exponential cs point) := by
  have hexponent := (digits_toString (point - 1).natAbs).printable
  have htake : Printable (cs.take 1) := fun c hc => h c (List.mem_of_mem_take hc)
  have hdrop : Printable (cs.drop 1) := fun c hc => h c (List.mem_of_mem_drop hc)
  rw [exponential, printable_append_iff, printable_cons_iff, printable_cons_iff]
  refine ⟨?_, by decide, ?_, hexponent⟩
  · split
    · exact h
    · rw [printable_append_iff, printable_cons_iff]
      exact ⟨htake, by decide, hdrop⟩
  · split <;> decide

theorem printable_number (b : Numeric.Binary) : Printable (number b).toList := by
  rw [number]
  cases b.shortest? with
  | none => simp [Printable]
  | some d =>
    have hdigits := (digits_toString d.digits).printable
    dsimp only
    rw [String.toList_ofList]
    split
    · exact printable_plain hdigits _
    · exact printable_exponential hdigits _

theorem printable_field {key value : String} (h : Printable value.toList) :
    Printable (field key value).toList := by
  have hcolon : Printable ":".toList := by decide
  rw [field, String.toList_append, String.toList_append, printable_append_iff, printable_append_iff]
  exact ⟨⟨printable_string key, hcolon⟩, h⟩

theorem printable_intercalate {fields : List String} (h : ∀ f ∈ fields, Printable f.toList) :
    Printable (String.intercalate "," fields).toList := by
  induction fields with
  | nil => simp [Printable]
  | cons f fields ih =>
    cases fields with
    | nil =>
      rw [String.intercalate_singleton]
      exact h f (by simp)
    | cons next fields =>
      have hcomma : Printable ",".toList := by decide
      rw [String.intercalate_cons_cons, String.toList_append, String.toList_append,
        printable_append_iff, printable_append_iff]
      exact ⟨⟨h f (by simp), hcomma⟩, ih fun other hother => h other (by simp [hother])⟩

/-- The object of a result is one line. -/
theorem printable_execution (e : Execution) : Printable (execution e).toList := by
  have hfields : ∀ f ∈ [field "output" (string e.output),
      field "exitCode" (toString e.exit.number),
      field "durationMs" (number e.elapsed.milliseconds)], Printable f.toList := by
    simp only [List.forall_mem_cons]
    refine ⟨printable_field (printable_string _), printable_field ?_,
      printable_field (printable_number _), by simp⟩
    exact (digits_toString e.exit.number).printable
  have hopen : Printable "\x7b".toList := by decide
  have hclose : Printable "\x7d".toList := by decide
  rw [execution, object, String.toList_append, String.toList_append, printable_append_iff,
    printable_append_iff]
  exact ⟨⟨hopen, printable_intercalate hfields⟩, hclose⟩

/-! ### Results -/

def resultMembers (e : Execution) : List Member :=
  [⟨"output", string e.output, .string e.output⟩,
    ⟨"exitCode", toString e.exit.number, .number e.exit.number⟩,
    ⟨"durationMs", number e.elapsed.milliseconds, .number e.elapsed.milliseconds.writtenValue⟩]

/-- **A result is read back** from its text. -/
theorem decode_execution (e : Execution) : decode (execution e) =
    some (.object [("output", .string e.output), ("exitCode", .number e.exit.number),
      ("durationMs", .number e.elapsed.milliseconds.writtenValue)]) := by
  have hread : ∀ m ∈ resultMembers e, ReadsAs m.text m.value := by
    simp only [resultMembers, List.forall_mem_cons]
    exact ⟨readsAs_string _, readsAs_toString _, readsAs_number _, nofun⟩
  have hobject : execution e = object ((resultMembers e).map fun m => field m.key m.text) := rfl
  have hne : resultMembers e ≠ [] := List.cons_ne_nil _ _
  rw [hobject, decode_object hne hread]
  rfl

end LineShell.Json
