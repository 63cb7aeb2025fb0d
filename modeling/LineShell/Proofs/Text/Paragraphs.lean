import LineShell.Proofs.Text.Pieces
import Mathlib.Data.List.Chain

/-!
# Cutting at empty lines

An empty line shows as two newlines in a row. Where three follow one another the first two are the
cut, so cutting is only the reverse of joining if no part ends in a newline:

    cutParagraphs          : a text ──▶ its parts between empty lines
    Solid                  : a text ──▶ it has no empty line, not even with a newline after it
    solid_intercalate      : lines that are not empty make a solid text
    paragraphs_intercalate : solid parts, joined by empty lines, are cut apart again

A section is a part whose first line is its heading. Main statement: sections are read back from
what they are written as (`sectionsOf_intercalate`).
-/

namespace LineShell.Text

/-! ### Paragraphs -/

/-- The parts of a text between empty lines, cut at pairs of newlines from the left. -/
def cutParagraphs : List Char → List (List Char)
  | [] => [[]]
  | [c] => [[c]]
  | c :: d :: rest =>
    if c = '\n' ∧ d = '\n' then [] :: cutParagraphs rest
    else
      match cutParagraphs (d :: rest) with
      | [] => [[c]]
      | part :: parts => (c :: part) :: parts

def paragraphs (text : String) : List String := (cutParagraphs text.toList).map String.ofList

/-- With a newline after it, the text has no two newlines in a row. -/
def Solid (cs : List Char) : Prop := (cs ++ ['\n']).IsChain fun c d => ¬(c = '\n' ∧ d = '\n')

/-- What follows the first character of a solid text does not make an empty line with it. -/
theorem Solid.cons {c : Char} {cs : List Char} (h : Solid (c :: cs)) :
    Solid cs ∧ ∀ d ∈ (cs ++ ['\n']).head?, ¬(c = '\n' ∧ d = '\n') := by
  rw [Solid, List.cons_append, List.isChain_cons] at h
  exact ⟨h.2, h.1⟩

/-- A part without an empty line in it ends at the first pair of newlines. -/
theorem cutParagraphs_append {part : List Char} (h : Solid part) (rest : List Char) :
    cutParagraphs (part ++ '\n' :: '\n' :: rest) = part :: cutParagraphs rest := by
  induction part with
  | nil => rw [List.nil_append, cutParagraphs, if_pos ⟨rfl, rfl⟩]
  | cons c part ih =>
    obtain ⟨hpart, hnext⟩ := h.cons
    have hrest := ih hpart
    cases part with
    | nil =>
      rw [List.nil_append] at hrest
      rw [List.singleton_append, cutParagraphs, if_neg (hnext '\n' rfl), hrest]
    | cons d part =>
      rw [List.cons_append] at hrest
      rw [List.cons_append, List.cons_append, cutParagraphs, if_neg (hnext d rfl), hrest]

theorem cutParagraphs_of_solid {part : List Char} (h : Solid part) :
    cutParagraphs part = [part] := by
  induction part with
  | nil => rfl
  | cons c part ih =>
    obtain ⟨hpart, hnext⟩ := h.cons
    have hrest := ih hpart
    cases part with
    | nil => rfl
    | cons d part => rw [cutParagraphs, if_neg (hnext d rfl), hrest]

theorem cutParagraphs_intercalate {parts : List String} (hne : parts ≠ [])
    (h : ∀ s ∈ parts, Solid s.toList) :
    cutParagraphs ("\n\n".intercalate parts).toList = parts.map String.toList := by
  induction parts with
  | nil => exact absurd rfl hne
  | cons part parts ih =>
    obtain ⟨hpart, hparts⟩ := List.forall_mem_cons.mp h
    cases parts with
    | nil => exact cutParagraphs_of_solid hpart
    | cons next parts =>
      have hjoin : ("\n\n".intercalate (part :: next :: parts)).toList =
          part.toList ++ '\n' :: '\n' :: ("\n\n".intercalate (next :: parts)).toList := by
        rw [String.intercalate_cons_cons, String.toList_append, String.toList_append,
          List.append_assoc]
        rfl
      rw [hjoin, cutParagraphs_append hpart, ih (List.cons_ne_nil _ _) hparts]
      rfl

/-- Parts that were joined by empty lines are cut into the same parts. -/
theorem paragraphs_intercalate {parts : List String} (hne : parts ≠ [])
    (h : ∀ s ∈ parts, Solid s.toList) : paragraphs ("\n\n".intercalate parts) = parts := by
  rw [paragraphs, cutParagraphs_intercalate hne h, map_ofList_map_toList]

/-! ### Lines -/

/-- A line that has something in it. -/
structure IsRow (line : String) : Prop where
  ne_empty : line ≠ ""
  whole : '\n' ∉ line.toList

instance (line : String) : Decidable (IsRow line) :=
  decidable_of_iff (line ≠ "" ∧ '\n' ∉ line.toList) ⟨fun h => ⟨h.1, h.2⟩, fun h => ⟨h.1, h.2⟩⟩

/-- A row begins with a character that is no newline. -/
theorem IsRow.head {line : String} (h : IsRow line) (rest : List Char) :
    ∀ c ∈ (line.toList ++ rest).head?, c ≠ '\n' := by
  obtain ⟨c, cs, hcons⟩ := List.exists_cons_of_ne_nil (mt String.toList_eq_nil_iff.mp h.ne_empty)
  rintro d hd rfl
  rw [hcons, List.cons_append, List.head?_cons, Option.mem_some_iff] at hd
  exact h.whole (by rw [hcons, hd]; exact List.mem_cons_self ..)

/-- A line that has something in it cannot make an empty one. -/
theorem IsRow.solid {line : String} (h : IsRow line) : Solid line.toList := by
  have hpairs : line.toList.Pairwise fun c d => ¬(c = '\n' ∧ d = '\n') := by
    refine List.pairwise_of_forall_mem_list ?_
    rintro c hc d - ⟨rfl, -⟩
    exact h.whole hc
  refine List.isChain_append.mpr ⟨hpairs.isChain, .singleton _, ?_⟩
  rintro c hc d - ⟨rfl, -⟩
  exact h.whole (List.mem_of_getLast? hc)

/-- Two solid texts can be joined by a newline if the second does not begin with one. -/
theorem Solid.append {a b : List Char} (ha : Solid a) (hb : Solid b)
    (hhead : ∀ c ∈ (b ++ ['\n']).head?, c ≠ '\n') : Solid (a ++ '\n' :: b) := by
  have hsplit : a ++ '\n' :: b ++ ['\n'] = (a ++ ['\n']) ++ (b ++ ['\n']) := by simp
  rw [Solid, hsplit]
  exact List.isChain_append.mpr ⟨ha, hb, fun c _ d hd hcd => hhead d hd hcd.2⟩

theorem toList_intercalate_newline (first second : String) (lines : List String) :
    ("\n".intercalate (first :: second :: lines)).toList =
      first.toList ++ '\n' :: ("\n".intercalate (second :: lines)).toList := by
  rw [String.intercalate_cons_cons, String.toList_append, String.toList_append, List.append_assoc]
  rfl

/-- Rows make a text without empty lines. -/
theorem solid_intercalate {lines : List String} (h : ∀ line ∈ lines, IsRow line) :
    Solid ("\n".intercalate lines).toList := by
  induction lines with
  | nil => exact .singleton _
  | cons first lines ih =>
    obtain ⟨hfirst, hlines⟩ := List.forall_mem_cons.mp h
    cases lines with
    | nil => exact hfirst.solid
    | cons second lines =>
      rw [toList_intercalate_newline]
      refine hfirst.solid.append (ih hlines) ?_
      obtain ⟨hsecond, -⟩ := List.forall_mem_cons.mp hlines
      cases lines with
      | nil => exact hsecond.head _
      | cons third lines =>
        rw [toList_intercalate_newline, List.append_assoc]
        exact hsecond.head _

/-! ### Sections -/

structure Section where
  heading : String
  body : List String
deriving DecidableEq, Repr

def Section.lines (s : Section) : List String := s.heading :: s.body

def Section.ofText (text : String) : Section :=
  match pieces '\n' text with
  | [] => ⟨"", []⟩
  | heading :: body => ⟨heading, body⟩

def sectionsOf (text : String) : List Section := (paragraphs text).map Section.ofText

/-- A section is read back from its lines. -/
theorem Section.ofText_intercalate {s : Section} (h : ∀ line ∈ s.lines, IsRow line) :
    Section.ofText ("\n".intercalate s.lines) = s := by
  have hpieces : pieces '\n' ("\n".intercalate s.lines) = s.lines :=
    pieces_intercalate (List.cons_ne_nil _ _) fun line hline => (h line hline).whole
  rw [Section.ofText, hpieces]
  rfl

/-- Sections whose lines are rows are read back, however many lines each has. -/
theorem sectionsOf_intercalate {sections : List Section} (hne : sections ≠ [])
    (h : ∀ s ∈ sections, ∀ line ∈ s.lines, IsRow line) :
    sectionsOf ("\n\n".intercalate (sections.map fun s => "\n".intercalate s.lines)) =
      sections := by
  have hsolid : ∀ text ∈ sections.map fun s => "\n".intercalate s.lines, Solid text.toList := by
    intro text htext
    obtain ⟨s, hs, rfl⟩ := List.mem_map.mp htext
    exact solid_intercalate (h s hs)
  have hread : (sections.map fun s => Section.ofText ("\n".intercalate s.lines)) =
      sections.map id :=
    List.map_congr_left fun s hs => Section.ofText_intercalate (h s hs)
  rw [sectionsOf, paragraphs_intercalate (mt List.map_eq_nil_iff.mp hne) hsolid, List.map_map]
  exact hread.trans (List.map_id _)

end LineShell.Text
