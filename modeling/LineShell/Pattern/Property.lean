import LineShell.Pattern.Reader
import LineShell.Unicode.Case
import LineShell.Unicode.Script

/-!
# Properties in patterns

A class may be asked for by the name of a category, a script or a binary property, or by the name
of a property and one of its values. Names are loose: case, spaces, hyphens, underscores and a
leading `is` do not count. A name that the standard knows but that names no set here is still
told apart from an unknown one.
-/

namespace LineShell.Pattern

open Unicode (CharSet sameName looseName)

/-! ### Categories and scripts -/

/-- The members of a general category; the inner answer is missing when the category has no
members that are characters. -/
def categoryMembers? (name : String) : Option (Option CharSet) :=
  if sameName name ["Any"] then some (some .all)
  else if sameName name ["Assigned"] then some (some Unicode.assigned)
  else if sameName name ["ASCII"] then some (some (.range 0 0x7F))
  else if sameName name ["Cn", "Unassigned"] then some (some Unicode.assigned.complement)
  else if sameName name ["C", "Other"] then
    some (some ((Unicode.categoryUnion ["Cc", "Cf", "Co"]).union Unicode.assigned.complement))
  else if sameName name ["Cs", "Surrogate"] then some none
  else
    match Unicode.categoryUnions.find? fun u => sameName name u.1 with
    | some u => some (some (Unicode.categoryUnion u.2))
    | none => (Unicode.categories.find? (·.isNamed name)).map fun s => some s.set

/-- The members of a script, of its own or shared ones too; the inner answer is missing when no
character belongs to it. -/
def scriptMembers? (shared : Bool) (name : String) : Option (Option CharSet) :=
  match Unicode.script? name with
  | some s => some (some (if shared then Unicode.withScript s else s.set))
  | none => if sameName name Unicode.emptyScripts then some none else none

/-! ### Properties -/

/-- Properties that are known by name without being sets here. -/
def otherProperties : List (List String) :=
  [ ["age"], ["bc", "Bidi_Class"], ["blk", "Block"], ["bmg", "Bidi_Mirroring_Glyph"],
    ["bpb", "Bidi_Paired_Bracket"], ["bpt", "Bidi_Paired_Bracket_Type"],
    ["ccc", "Canonical_Combining_Class"], ["CE", "Composition_Exclusion"],
    ["cf", "Case_Folding"], ["Comp_Ex", "Full_Composition_Exclusion"],
    ["CWKCF", "Changes_When_NFKC_Casefolded"], ["dm", "Decomposition_Mapping"],
    ["dt", "Decomposition_Type"], ["ea", "East_Asian_Width"],
    ["EqUIdeo", "Equivalent_Unified_Ideograph"], ["Expands_On_NFC", "XO_NFC"],
    ["Expands_On_NFD", "XO_NFD"], ["Expands_On_NFKC", "XO_NFKC"], ["Expands_On_NFKD", "XO_NFKD"],
    ["FC_NFKC", "FC_NFKC_Closure"], ["GCB", "Grapheme_Cluster_Break"],
    ["hst", "Hangul_Syllable_Type"], ["InCB", "Indic_Conjunct_Break"],
    ["InPC", "Indic_Positional_Category"], ["InSC", "Indic_Syllabic_Category"],
    ["isc", "ISO_Comment"], ["jg", "Joining_Group"], ["JSN", "Jamo_Short_Name"],
    ["jt", "Joining_Type"], ["lb", "Line_Break"], ["lc", "Lowercase_Mapping"], ["na", "Name"],
    ["na1", "Unicode_1_Name"], ["Name_Alias"], ["NFC_QC", "NFC_Quick_Check"],
    ["NFD_QC", "NFD_Quick_Check"], ["NFKC_CF", "NFKC_Casefold"],
    ["NFKC_QC", "NFKC_Quick_Check"], ["NFKC_SCF", "NFKC_Simple_Casefold"],
    ["NFKD_QC", "NFKD_Quick_Check"], ["nt", "Numeric_Type"], ["nv", "Numeric_Value"],
    ["ODI", "Other_Default_Ignorable_Code_Point"], ["SB", "Sentence_Break"],
    ["scf", "sfc", "Simple_Case_Folding"], ["slc", "Simple_Lowercase_Mapping"],
    ["stc", "Simple_Titlecase_Mapping"], ["suc", "Simple_Uppercase_Mapping"],
    ["tc", "Titlecase_Mapping"], ["uc", "Uppercase_Mapping"], ["vo", "Vertical_Orientation"],
    ["WB", "Word_Break"], ["gc", "General_Category"], ["sc", "Script"],
    ["scx", "Script_Extensions"] ]

def isPropertyName (name : String) : Bool :=
  (Unicode.binaryProperty? name).isSome || otherProperties.any (sameName name)

/-- The members of what a single name names. Three short names name both a property and a
category; they mean the category. -/
def namedMembers (name : String) : Except Cause CharSet :=
  let ambiguous := ["cf", "sc", "lc"].any fun n => looseName name == n.toList
  if !ambiguous && isPropertyName name then
    match Unicode.binaryProperty? name with
    | some s => .ok s
    | none => .error .unicodePropertyNotFound
  else
    match (categoryMembers? name).or (scriptMembers? false name) with
    | some (some s) => .ok s
    | some none => .error .unicodeValueNotFound
    | none => .error .unicodePropertyNotFound

def valuedMembers (name value : String) : Except Cause CharSet :=
  let answer : Option (Option CharSet) → Except Cause CharSet
    | some (some s) => .ok s
    | _ => .error .unicodeValueNotFound
  if sameName name ["gc", "General_Category"] then answer (categoryMembers? value)
  else if sameName name ["sc", "Script"] then answer (scriptMembers? false value)
  else if sameName name ["scx", "Script_Extensions"] then answer (scriptMembers? true value)
  else if isPropertyName name then .error .unicodeValueNotFound
  else .error .unicodePropertyNotFound

def Query.members : Query → Except Cause CharSet
  | .letter c => namedMembers (String.singleton c)
  | .named name => namedMembers name
  | .valued name value => valuedMembers name value

end LineShell.Pattern
