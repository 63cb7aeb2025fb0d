import LineShell.Proofs.Unicode.CharSet
import LineShell.Unicode.Case
import Mathlib.Data.List.TakeWhile

/-!
# The lower case of a beginning

Lower case goes letter by letter. Only a capital sigma looks at the letters around it: after a
cased letter, with no cased letter to follow, it becomes a final sigma. Where a text is cut behind
such a letter, the cut hides what follows, and the beginning is lowered in another way by itself
than inside the text:

    ΑΣΑΝΣΕΡ ──▶ ασανσερ
    ΑΣ      ──▶ ας

Main statement: this is the only way in which the lower case of a beginning fails to begin the
lower case of the text (`toLower_prefix_iff`).
-/

namespace LineShell.Unicode

/-- The case rules pass over the character when they look for a cased letter. -/
def Ignored (c : Char) : Prop := caseIgnorable.contains c.toNat = true

/-- A cut between `front` and `back` hides a cased letter from a capital sigma: but for ignored
characters the sigma ends `front`, a cased letter stands before it, and `back` goes on with one.
The characters `before` stand in front of all, in reverse. -/
def CutsSigma (before front back : List Char) : Prop :=
  ∃ word marks, front = word ++ 'Σ' :: marks ∧ facesCased (word.reverse ++ before) = true ∧
    (∀ c ∈ marks, Ignored c) ∧ facesCased back = true

variable {before front back : List Char} {c : Char}

/-! ### Looking for a cased letter -/

theorem dropWhile_ignored_eq_nil_iff {cs : List Char} :
    (cs.dropWhile fun c => caseIgnorable.contains c.toNat) = [] ↔ ∀ c ∈ cs, Ignored c :=
  List.dropWhile_eq_nil_iff

theorem facesCased_of_ignored (h : ∀ c ∈ front, Ignored c) : facesCased front = false := by
  rw [facesCased, dropWhile_ignored_eq_nil_iff.mpr h]

/-- Ignored characters are passed over. -/
theorem facesCased_append_of_ignored (h : ∀ c ∈ front, Ignored c) (back : List Char) :
    facesCased (front ++ back) = facesCased back := by
  rw [facesCased, List.dropWhile_append_of_pos h]
  rfl

/-- A character that is not ignored settles the matter. -/
theorem facesCased_append_of_not_ignored (h : ¬ ∀ c ∈ front, Ignored c) (back : List Char) :
    facesCased (front ++ back) = facesCased front := by
  have hne := mt dropWhile_ignored_eq_nil_iff.mp h
  rw [facesCased, facesCased, List.dropWhile_append, if_neg (by simpa using hne)]
  cases hcs : front.dropWhile fun c => caseIgnorable.contains c.toNat with
  | nil => exact absurd hcs hne
  | cons c rest => rfl

theorem facesCased_cons {rest : List Char} (hignored : ¬ Ignored c)
    (hcased : cased.contains c.toNat = true) : facesCased (c :: rest) = true := by
  have hstop : ((c :: rest).dropWhile fun d => caseIgnorable.contains d.toNat) = c :: rest :=
    List.dropWhile_cons_of_neg hignored
  rw [facesCased, hstop]
  exact hcased

/-! ### One letter in its place -/

/-- Lower case of a letter between the characters `before`, in reverse, and `rest`. -/
def lowerLetter (before : List Char) (c : Char) (rest : List Char) : List Char :=
  if c = 'Σ' then [if facesCased before && !facesCased rest then 'ς' else 'σ']
  else if c = 'İ' then ['i', Char.ofNat 0x307]
  else [Char.ofNat (lowerCode c.toNat)]

/-- Lower case, a letter at a time, each between what is before it and what is after it. -/
theorem lowerAfter_cons (before : List Char) (c : Char) (rest : List Char) :
    lowerAfter before (c :: rest) = lowerLetter before c rest ++ lowerAfter (c :: before) rest :=
  rfl

/-- How many letters come out does not depend on what follows. -/
theorem length_lowerLetter (before : List Char) (c : Char) (rest rest' : List Char) :
    (lowerLetter before c rest).length = (lowerLetter before c rest').length := by
  rw [lowerLetter, lowerLetter]
  split
  · rfl
  · rfl

/-- What follows a sigma shows in its lower case, if a letter stands before it. -/
theorem lowerLetter_sigma_inj {rest rest' : List Char} (h : facesCased before = true) :
    lowerLetter before 'Σ' rest = lowerLetter before 'Σ' rest' ↔
      facesCased rest = facesCased rest' := by
  rw [lowerLetter, lowerLetter, if_pos rfl, if_pos rfl, h]
  cases facesCased rest <;> cases facesCased rest' <;> decide

/-- More text behind it changes a letter only where it brings the letter that a sigma looks for. -/
theorem lowerLetter_append_iff :
    lowerLetter before c front = lowerLetter before c (front ++ back) ↔
      ¬ (c = 'Σ' ∧ facesCased before = true ∧ (∀ d ∈ front, Ignored d) ∧
        facesCased back = true) := by
  by_cases hsigma : c = 'Σ'
  · subst hsigma
    by_cases hbefore : facesCased before = true
    · rw [lowerLetter_sigma_inj hbefore]
      by_cases hfront : ∀ d ∈ front, Ignored d
      · rw [facesCased_of_ignored hfront, facesCased_append_of_ignored hfront]
        cases facesCased back with
        | false => simp
        | true => exact iff_of_false Bool.noConfusion fun h => h ⟨rfl, hbefore, hfront, rfl⟩
      · rw [facesCased_append_of_not_ignored hfront]
        exact iff_of_true rfl fun h => hfront h.2.2.1
    · simp [lowerLetter, hbefore]
  · simp [lowerLetter, hsigma]

/-! ### A beginning and the text -/

theorem not_cutsSigma_nil : ¬ CutsSigma before [] back := by
  rintro ⟨word, marks, hfront, -⟩
  simp at hfront

/-- The sigma is the first letter of the beginning or stands further on. -/
theorem cutsSigma_cons_iff : CutsSigma before (c :: front) back ↔
    (c = 'Σ' ∧ facesCased before = true ∧ (∀ d ∈ front, Ignored d) ∧ facesCased back = true) ∨
      CutsSigma (c :: before) front back := by
  constructor
  · rintro ⟨word, marks, hfront, hword, hmarks, hback⟩
    cases word with
    | nil =>
      obtain ⟨rfl, rfl⟩ := List.cons.inj hfront
      exact .inl ⟨rfl, hword, hmarks, hback⟩
    | cons d word =>
      obtain ⟨rfl, rfl⟩ := List.cons.inj hfront
      exact .inr ⟨word, marks, rfl, by simpa using hword, hmarks, hback⟩
  · rintro (⟨rfl, hbefore, hmarks, hback⟩ | ⟨word, marks, rfl, hword, hmarks, hback⟩)
    · exact ⟨[], front, rfl, hbefore, hmarks, hback⟩
    · exact ⟨c :: word, marks, rfl, by simpa using hword, hmarks, hback⟩

/-- The lower case of a beginning is a beginning of the lower case, unless a sigma is cut off from
the letter after it. -/
theorem lowerAfter_prefix_iff :
    lowerAfter before front <+: lowerAfter before (front ++ back) ↔
      ¬ CutsSigma before front back := by
  induction front generalizing before with
  | nil => exact iff_of_true (List.nil_prefix) not_cutsSigma_nil
  | cons c front ih =>
    have hlength := length_lowerLetter before c front (front ++ back)
    rw [List.cons_append, lowerAfter_cons, lowerAfter_cons,
      List.prefix_append_inj_of_length_eq hlength, lowerLetter_append_iff, ih, cutsSigma_cons_iff,
      not_or]

/-- **The lower case of a beginning begins the lower case of the text**, unless the text is cut
right behind a capital sigma in the middle of a word. -/
theorem toLower_prefix_iff {front back : String} :
    (toLower front).toList <+: (toLower (front ++ back)).toList ↔
      ¬ CutsSigma [] front.toList back.toList := by
  rw [toLower, toLower, String.toList_ofList, String.toList_ofList, String.toList_append]
  exact lowerAfter_prefix_iff

/-! ### The letter alpha -/

section

set_option maxRecDepth 30000

theorem not_ignored_alpha : ¬ Ignored 'Α' := by
  have hcode : 'Α'.toNat = 0x391 := rfl
  have hMn : (category "Mn").contains 0x391 = false :=
    (contains_category rfl rfl).trans (by decide +kernel)
  have hMe : (category "Me").contains 0x391 = false :=
    (contains_category rfl rfl).trans (by decide +kernel)
  have hCf : (category "Cf").contains 0x391 = false :=
    (contains_category rfl rfl).trans (by decide +kernel)
  have hLm : (category "Lm").contains 0x391 = false :=
    (contains_category rfl rfl).trans (by decide +kernel)
  have hSk : (category "Sk").contains 0x391 = false :=
    (contains_category rfl rfl).trans (by decide +kernel)
  have hother : otherCaseIgnorable.contains 0x391 = false :=
    (CharSet.contains_ofTable rfl _).trans (by decide +kernel)
  rw [Ignored, hcode, caseIgnorable, CharSet.contains_union, contains_categoryUnion, hother]
  simp [hMn, hMe, hCf, hLm, hSk]

theorem cased_alpha : cased.contains 'Α'.toNat = true := by
  have hcode : 'Α'.toNat = 0x391 := rfl
  have hLu : (category "Lu").contains 0x391 = true :=
    (contains_category rfl rfl).trans (by decide +kernel)
  rw [hcode, cased, CharSet.contains_union, CharSet.contains_union, uppercase,
    CharSet.contains_union, hLu]
  simp

end

/-- Behind `ΑΣ` the word `ΑΣΑΝΣΕΡ` goes on, and the sigma does not see it. -/
theorem cutsSigma_alpha : CutsSigma [] "ΑΣ".toList "ΑΝΣΕΡ".toList :=
  ⟨['Α'], [], rfl, facesCased_cons not_ignored_alpha cased_alpha, List.forall_mem_nil _,
    facesCased_cons not_ignored_alpha cased_alpha⟩

end LineShell.Unicode
