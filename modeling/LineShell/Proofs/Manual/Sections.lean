import LineShell.Manual
import LineShell.Proofs.Text.Paragraphs

/-!
# The sections of a manual page

A manual page is written in sections with an empty line between them, and so is the short help of a
command. If the page of the command is written in whole lines, no field of it can add an empty line,
and an empty field does not leave one: every line of the text has something that is always there.

    manual    NAME, SYNOPSIS, OPTIONS if the command has switches, DESCRIPTION
    help      the name, with the synopsis below it, and Options: if the command has switches

Main statement: both are read back section by section, with the same rows for the switches and the
same synopsis (`sectionsOf_manual_help`).
-/

namespace LineShell

open Text (Section sectionsOf IsRow sectionsOf_intercalate)

structure Page.Unbroken (p : Page) : Prop where
  name : '\n' ∉ p.name.toList
  summary : '\n' ∉ p.summary.toList
  usage : ∀ u ∈ p.usage, '\n' ∉ u.toList
  switches : ∀ s ∈ p.switches, '\n' ∉ s.flag.toList ∧ '\n' ∉ s.description.toList
  parameters : ∀ x ∈ p.parameters, '\n' ∉ x.name.toList

def Switch.row (s : Switch) : String := "  " ++ Text.padRight 6 s.flag ++ " " ++ s.description

def Parameter.row (x : Parameter) : String := manualMargin ++ x.name ++ ": " ++ x.arityText

namespace Page

/-! ### The sections -/

def switchSections (p : Page) (heading : String) : List Section :=
  if p.switches = [] then [] else [⟨heading, p.switches.map Switch.row⟩]

def manualSections (p : Page) : List Section :=
  [⟨"NAME", [manualMargin ++ p.name ++ " - " ++ p.summary]⟩,
    ⟨"SYNOPSIS", [manualMargin ++ p.synopsis]⟩] ++ p.switchSections "OPTIONS" ++
    [⟨"DESCRIPTION", (manualMargin ++ p.summary ++ ".") :: p.parameters.map Parameter.row⟩]

def helpSections (p : Page) : List Section :=
  ⟨p.name ++ " - " ++ p.summary, ["Usage: " ++ p.synopsis]⟩ :: p.switchSections "Options:"

theorem switchBlock_eq (p : Page) (heading : String) :
    p.switchBlock heading =
      (p.switchSections heading).map fun s => "\n".intercalate s.lines := by
  rw [switchBlock, switchSections, switchLines]
  cases p.switches with
  | nil => rfl
  | cons first rest =>
    have hrows : heading ++ "\n" ++ "\n".intercalate ((first :: rest).map Switch.row) =
        "\n".intercalate (heading :: (first :: rest).map Switch.row) :=
      String.intercalate_cons_cons.symm
    rw [if_neg (List.cons_ne_nil first rest), List.map_singleton, Section.lines, ← hrows]
    rfl

/-- The manual is its sections with an empty line between any two. -/
theorem manual_eq (p : Page) :
    p.manual = "\n\n".intercalate (p.manualSections.map fun s => "\n".intercalate s.lines) := by
  have hname : "NAME\n" ++ manualMargin ++ p.name ++ " - " ++ p.summary =
      "\n".intercalate ["NAME", manualMargin ++ p.name ++ " - " ++ p.summary] := by
    simp [String.append_assoc]
  have hsynopsis : "SYNOPSIS\n" ++ manualMargin ++ p.synopsis =
      "\n".intercalate ["SYNOPSIS", manualMargin ++ p.synopsis] := by
    simp [String.append_assoc]
  have hdescription (rows : List String) :
      "\n".intercalate (("DESCRIPTION\n" ++ manualMargin ++ p.summary ++ ".") :: rows) =
        "\n".intercalate ("DESCRIPTION" :: (manualMargin ++ p.summary ++ ".") :: rows) := by
    cases rows <;> simp [String.intercalate_cons_cons, String.append_assoc]
  rw [manual, sections, hname, hsynopsis, hdescription, switchBlock_eq, manualSections,
    List.map_append, List.map_append]
  rfl

theorem help_eq (p : Page) :
    p.help = "\n\n".intercalate (p.helpSections.map fun s => "\n".intercalate s.lines) := by
  have hname : p.name ++ " - " ++ p.summary ++ "\nUsage: " ++ p.synopsis =
      "\n".intercalate [p.name ++ " - " ++ p.summary, "Usage: " ++ p.synopsis] := by
    have hlabel : "\n" ++ ("Usage: " ++ p.synopsis) = "\nUsage: " ++ p.synopsis := by
      rw [← String.append_assoc]
      rfl
    simp only [String.intercalate_cons_cons, String.intercalate_singleton, String.append_assoc,
      hlabel]
  rw [help, hname, switchBlock_eq, helpSections, List.map_cons]
  rfl

/-! ### The synopsis -/

/-- A synopsis is words with blanks between them. -/
theorem foldl_text_eq_intercalate (start : String) (xs : List Parameter) :
    xs.foldl (fun line x => line ++ " " ++ x.text) start =
      " ".intercalate (start :: xs.map Parameter.text) := by
  induction xs generalizing start with
  | nil => rfl
  | cons x xs ih =>
    rw [List.foldl_cons, ih, List.map_cons]
    cases xs with
    | nil => simp
    | cons y ys => simp [String.intercalate_cons_cons, String.append_assoc]

/-- Without a usage line, the synopsis is the name and the parameters, with a space between. -/
theorem synopsis_eq (p : Page) :
    p.synopsis =
      p.usage.getD (" ".intercalate (p.name :: p.parameters.map Parameter.text)) := by
  rw [synopsis, foldl_text_eq_intercalate]

theorem newline_notMem_foldl_text {start : String} {xs : List Parameter}
    (hstart : '\n' ∉ start.toList) (hxs : ∀ x ∈ xs, '\n' ∉ x.name.toList) :
    '\n' ∉ (xs.foldl (fun line x => line ++ " " ++ x.text) start).toList := by
  induction xs generalizing start with
  | nil => exact hstart
  | cons x xs ih =>
    obtain ⟨hx, hxs⟩ := List.forall_mem_cons.mp hxs
    have hnext : '\n' ∉ (start ++ " " ++ x.text).toList := by
      rw [Parameter.text]
      cases x.arity <;> simp [hstart, hx]
    exact ih hnext hxs

variable {p : Page}

/-- Also a usage line that is put together is one line. -/
theorem Unbroken.synopsis (h : p.Unbroken) : '\n' ∉ p.synopsis.toList := by
  rw [Page.synopsis]
  cases husage : p.usage with
  | none => exact newline_notMem_foldl_text h.name h.parameters
  | some u => exact h.usage u husage

/-! ### Rows -/

theorem isRow_row_switch (h : p.Unbroken) : ∀ s ∈ p.switches, IsRow s.row := by
  intro s hs
  obtain ⟨hflag, hdescription⟩ := h.switches s hs
  constructor <;> simp [Switch.row, Text.padRight, Text.spaces, hflag, hdescription]

theorem isRow_row_parameter (h : p.Unbroken) : ∀ x ∈ p.parameters, IsRow x.row := by
  intro x hx
  have hname := h.parameters x hx
  constructor
  · simp [Parameter.row]
  · rw [Parameter.row, Parameter.arityText]
    cases x.arity <;> simp [manualMargin, hname]

theorem isRow_switchSections (h : p.Unbroken) {heading : String} (hheading : IsRow heading) :
    ∀ s ∈ p.switchSections heading, ∀ line ∈ s.lines, IsRow line := by
  intro s hs
  rw [switchSections] at hs
  split at hs
  · cases hs
  · obtain rfl := List.mem_singleton.mp hs
    exact List.forall_mem_cons.mpr ⟨hheading, List.forall_mem_map.mpr (isRow_row_switch h)⟩

/-- No line of the manual is empty, so an empty line ends a section. -/
theorem isRow_manualSections (h : p.Unbroken) :
    ∀ s ∈ p.manualSections, ∀ line ∈ s.lines, IsRow line := by
  have hname : IsRow (manualMargin ++ p.name ++ " - " ++ p.summary) := by
    constructor <;> simp [manualMargin, h.name, h.summary]
  have hsynopsis : IsRow (manualMargin ++ p.synopsis) := by
    constructor <;> simp [manualMargin, h.synopsis]
  have hsummary : IsRow (manualMargin ++ p.summary ++ ".") := by
    constructor <;> simp [manualMargin, h.summary]
  have hheading : ∀ word ∈ ["NAME", "SYNOPSIS", "OPTIONS", "DESCRIPTION"], IsRow word := by decide
  intro s hs
  rw [manualSections, List.mem_append, List.mem_append, List.mem_pair, List.mem_singleton] at hs
  rcases hs with ((rfl | rfl) | hs) | rfl
  · exact List.forall_mem_cons.mpr ⟨hheading _ (by simp), List.forall_mem_singleton.mpr hname⟩
  · exact List.forall_mem_cons.mpr ⟨hheading _ (by simp), List.forall_mem_singleton.mpr hsynopsis⟩
  · exact isRow_switchSections h (hheading _ (by simp)) s hs
  · refine List.forall_mem_cons.mpr ⟨hheading _ (by simp), ?_⟩
    exact List.forall_mem_cons.mpr ⟨hsummary, List.forall_mem_map.mpr (isRow_row_parameter h)⟩

theorem isRow_helpSections (h : p.Unbroken) :
    ∀ s ∈ p.helpSections, ∀ line ∈ s.lines, IsRow line := by
  have hname : IsRow (p.name ++ " - " ++ p.summary) := by
    constructor <;> simp [h.name, h.summary]
  have hsynopsis : IsRow ("Usage: " ++ p.synopsis) := by
    constructor <;> simp [h.synopsis]
  have hheading : IsRow "Options:" := by decide
  refine List.forall_mem_cons.mpr ⟨?_, isRow_switchSections h hheading⟩
  exact List.forall_mem_cons.mpr ⟨hname, List.forall_mem_singleton.mpr hsynopsis⟩

/-! ### Reading back -/

/-- **The manual and the help of a command are read back section by section.** The manual has the
sections it is written in and no others, with their headings in front and in order, and with one row
for each switch and each parameter; it has options exactly if the command has switches. So has the
help, with the same rows and with the same synopsis, which is the usage line or, without one, the
name and the parameters. -/
theorem sectionsOf_manual_help (h : p.Unbroken) :
    sectionsOf p.manual = p.manualSections ∧
    sectionsOf p.help = p.helpSections ∧
    p.synopsis = p.usage.getD (" ".intercalate (p.name :: p.parameters.map Parameter.text)) := by
  refine ⟨?_, ?_, synopsis_eq p⟩
  · rw [manual_eq]
    exact sectionsOf_intercalate (by simp [manualSections]) (isRow_manualSections h)
  · rw [help_eq]
    exact sectionsOf_intercalate (List.cons_ne_nil _ _) (isRow_helpSections h)

/-- A page of empty texts, with a switch wider than its column. -/
def blankPage : Page := ⟨"", "", none, [⟨"", ""⟩, ⟨"--recursive", ""⟩], [⟨"", .variadic⟩]⟩

theorem sectionsOf_manual_help_blankPage :
    blankPage.Unbroken ∧
    sectionsOf blankPage.manual =
      [⟨"NAME", ["     - "]⟩, ⟨"SYNOPSIS", ["     ..."]⟩,
        ⟨"OPTIONS", ["         ", "  --recursive "]⟩,
        ⟨"DESCRIPTION", ["    .", "    : zero or more values"]⟩] ∧
    sectionsOf blankPage.help =
      [⟨" - ", ["Usage:  ..."]⟩, ⟨"Options:", ["         ", "  --recursive "]⟩] := by
  have hunbroken : blankPage.Unbroken :=
    ⟨by decide, by decide, nofun, by decide, by decide⟩
  obtain ⟨hmanual, hhelp, -⟩ := sectionsOf_manual_help hunbroken
  refine ⟨hunbroken, hmanual.trans ?_, hhelp.trans ?_⟩ <;> decide +kernel

end Page

end LineShell
