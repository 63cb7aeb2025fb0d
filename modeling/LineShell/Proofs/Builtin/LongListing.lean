import LineShell.Proofs.Builtin.Listing
import LineShell.Proofs.Text.Digits
import LineShell.Proofs.Text.Pieces

/-!
# Long listings are read back

A long listing has a row for each entry: a letter for the kind, columns that are always the same,
the size, and the name. The size is set flush right in a column that a large one is wider than, and
the name may hold anything, blanks and digits too. Still a row says what its entry is, because the
digits of the size end at the first blank after them, and exactly two blanks stand before the name.

    row        : an entry ──▶ its row
    readRow?   : a row ──▶ its entry
    readRows   : a long listing ──▶ its entries

Rows are set apart by newlines, so names must hold none. Main statement: a long listing is read back
as its entries (`readRows_printed`).
-/

namespace LineShell.Builtin

/-! ### Reading -/

def kindOf? : Char → Option Kind
  | '-' => some .file
  | 'd' => some .directory
  | _ => none

/-- The size and the name that stand in a row after the columns that are always the same. -/
def readSized? (cs : List Char) : Option (Nat × String) :=
  let sized := cs.dropWhile (· = ' ')
  let digits := sized.takeWhile Char.isDigit
  ((sized.dropWhile Char.isDigit).dropPrefix? [' ', ' ']).map fun name =>
    (Nat.ofDigitChars 10 digits 0, String.ofList name)

def readRow? (text : String) : Option Node.Entry :=
  match text.toList with
  | [] => none
  | letter :: columns => do
    let kind ← kindOf? letter
    let sized ← columns.dropPrefix? rights.toList
    let (size, name) ← readSized? sized
    some ⟨name, kind, size⟩

def readRows (text : String) : List Node.Entry := (Text.pieces '\n' text).filterMap readRow?

/-! ### Rows -/

theorem kindOf?_letter (k : Kind) : kindOf? k.letter = some k := by
  cases k <;> rfl

/-- However wide the size is, it ends where the name's blanks begin. -/
theorem readSized?_padLeft (width size : Nat) (name : String) :
    readSized? ((Text.padLeft width (toString size)).toList ++ ' ' :: ' ' :: name.toList) =
      some (size, name) := by
  have hdigits : ∀ c ∈ (toString size).toList, c.isDigit = true :=
    fun c hc => Text.isDigit_of_mem_toString hc
  have hblank : ∀ c ∈ (' ' :: ' ' :: name.toList).head?, c.isDigit = false := by
    intro c hc
    rw [List.head?_cons, Option.mem_some_iff] at hc
    rw [← hc]
    rfl
  have hname : (' ' :: ' ' :: name.toList).dropPrefix? [' ', ' '] = some name.toList :=
    Text.dropPrefix?_append [' ', ' '] name.toList
  rw [readSized?, Text.dropWhile_padLeft]
  simp only [Text.takeWhile_append hdigits hblank, Text.dropWhile_append hdigits hblank, hname,
    Option.map_some, Text.ofDigitChars_toString, String.ofList_toList]

theorem toList_row (e : Node.Entry) : (row e).toList = e.kind.letter :: (rights.toList ++
    ((Text.padLeft 5 (toString e.size)).toList ++ ' ' :: ' ' :: e.name.toList)) := by
  simp [row, Char.toString, List.append_assoc]

/-- A row is read back as its entry, whatever the name and the number of digits of the size. -/
theorem readRow?_row (e : Node.Entry) : readRow? (row e) = some e := by
  rw [readRow?, toList_row]
  simp only [kindOf?_letter, Text.dropPrefix?_append, readSized?_padLeft, Option.bind_eq_bind,
    Option.bind_some]

/-! ### Listings -/

/-- Only the name can bring a newline into a row. -/
theorem newline_notMem_row {e : Node.Entry} (h : '\n' ∉ e.name.toList) : '\n' ∉ (row e).toList := by
  have hletter : '\n' ≠ e.kind.letter := by cases e.kind <;> decide
  have hrights : '\n' ∉ rights.toList := by decide
  have hsize : '\n' ∉ (Text.padLeft 5 (toString e.size)).toList :=
    Text.notMem_padLeft_toString (by decide) (by decide) 5 e.size
  rw [toList_row, List.mem_cons, List.mem_append, List.mem_append, List.mem_cons, List.mem_cons]
  rintro (hc | hc | hc | hc | hc | hc)
  · exact hletter hc
  · exact hrights hc
  · exact hsize hc
  · exact absurd hc (by decide)
  · exact absurd hc (by decide)
  · exact h hc

/-- A long listing says what its entries are. -/
theorem readRows_printed {entries : List Node.Entry} (h : ∀ e ∈ entries, '\n' ∉ e.name.toList) :
    readRows (printed true entries) = entries := by
  have hrows : ∀ text ∈ entries.map row, '\n' ∉ text.toList := by
    intro text htext
    obtain ⟨e, he, rfl⟩ := List.mem_map.mp htext
    exact newline_notMem_row (h e he)
  rw [readRows, printed, if_pos rfl]
  by_cases hnil : entries = []
  · rw [hnil]
    rfl -- nothing is printed, and nothing is no row
  · have hne : entries.map row ≠ [] := fun heq => hnil (List.map_eq_nil_iff.mp heq)
    have hpieces : Text.pieces '\n' (String.intercalate "\n" (entries.map row)) = entries.map row :=
      Text.pieces_intercalate hne hrows
    have hread : readRow? ∘ row = some := funext readRow?_row
    rw [hpieces, List.filterMap_map, hread, List.filterMap_some]

end LineShell.Builtin
