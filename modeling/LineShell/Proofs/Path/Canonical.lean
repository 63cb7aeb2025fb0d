import LineShell.Path
import LineShell.Proofs.Text.Pieces

/-!
# The written form of a path

A path is a list of names, and what is shown and typed is text. The two agree: cut again at its
slashes, the written form has exactly the names of the path for its pieces that are not empty
(`segments_toString`), so reading it gives the path back (`ofString_toString`).

`Canonical` says which texts are written forms without mentioning paths.
-/

namespace LineShell.Path

/-! ### Following pieces -/

@[simp] theorem enter_empty (p : Path) : p.enter "" = p := by
  rw [enter, if_neg (by decide), dif_neg (by decide)]

theorem names_enter_of_proper (p : Path) {s : String} (h : ProperName s) :
    (p.enter s).names = p.names ++ [s] := by
  rw [enter, if_neg h.2.2.1, dif_pos h]
  rfl

/-- Following proper names goes down along them. -/
theorem names_foldl_enter (p : Path) {names : List String} (h : ∀ s ∈ names, ProperName s) :
    (names.foldl enter p).names = p.names ++ names := by
  induction names generalizing p with
  | nil => simp
  | cons s names ih =>
    have hs : ProperName s := h s (by simp)
    have hnames : ∀ t ∈ names, ProperName t := fun t ht => h t (by simp [ht])
    rw [List.foldl_cons, ih (p.enter s) hnames, names_enter_of_proper p hs]
    simp

/-! ### Cutting a written path -/

/-- The slash in front puts an empty piece first; the rest are the names. -/
theorem pieces_toString {p : Path} (h : p.names ≠ []) :
    Text.pieces '/' p.toString = "" :: p.names := by
  have hslash : ∀ s ∈ p.names, '/' ∉ s.toList := fun s hs => (p.proper s hs).2.2.2
  have hcut := Text.pieces_append '/' "" (String.intercalate "/" p.names)
  have hjoin : Text.pieces '/' (String.intercalate "/" p.names) = p.names :=
    Text.pieces_intercalate h hslash
  rw [hjoin] at hcut
  exact hcut

/-- The written path is cut back into its names. -/
theorem segments_toString (p : Path) :
    (Text.pieces '/' p.toString).filter (· ≠ "") = p.names := by
  by_cases h : p.names = []
  · have hroot : p.toString = "/" := by rw [toString, h]; rfl
    rw [hroot, h]
    decide
  · rw [pieces_toString h, List.filter_cons_of_neg (by simp), List.filter_eq_self]
    intro s hs
    simpa using (p.proper s hs).1

/-- Empty pieces are not followed. -/
theorem foldl_enter_filter (p : Path) (pieces : List String) :
    (pieces.filter (· ≠ "")).foldl enter p = pieces.foldl enter p := by
  induction pieces generalizing p with
  | nil => rfl
  | cons s pieces ih =>
    by_cases hs : s = ""
    · rw [List.filter_cons_of_neg (by simp [hs]), List.foldl_cons, hs, enter_empty]
      exact ih p
    · rw [List.filter_cons_of_pos (by simp [hs]), List.foldl_cons, List.foldl_cons]
      exact ih (p.enter s)

/-- Reading the written form gives the path back. -/
@[simp] theorem ofString_toString (p : Path) : ofString p.toString = p := by
  apply ext
  -- empty pieces are not followed, and without them only the names of `p` are left
  rw [ofString, follow, ← foldl_enter_filter, segments_toString, names_foldl_enter root p.proper]
  rfl

/-! ### Joining -/

/-- What stands after a slash is followed from where the text before it leads. -/
theorem follow_join (p : Path) (a b : String) :
    p.follow (a ++ "/" ++ b) = (p.follow a).follow b := by
  have hcut : Text.pieces '/' (a ++ "/" ++ b) = Text.pieces '/' a ++ Text.pieces '/' b :=
    Text.pieces_append '/' a b
  rw [follow, hcut, List.foldl_append]
  rfl

/-- To follow text from a path is to read the path, a slash and the text. -/
theorem ofString_join (p : Path) (text : String) :
    ofString (p.toString ++ "/" ++ text) = p.follow text := by
  have hpath : root.follow p.toString = p := ofString_toString p
  rw [ofString, follow_join, hpath]

/-- Typed text is followed from the root or from the working directory. -/
theorem resolve_eq_follow (cwd : Path) (text : String) :
    cwd.resolve text = (if Text.begins "/" text then root else cwd).follow text := by
  rw [resolve]
  split <;> rfl

/-- Both are one reading from the root: of absolute text as it is, of any other after the working
directory and a slash. -/
theorem resolve_eq_ofString (cwd : Path) (text : String) : cwd.resolve text =
    ofString (if Text.begins "/" text then text else cwd.toString ++ "/" ++ text) := by
  rw [resolve]
  split
  · rfl
  · rw [ofString_join]

theorem begins_slash_append {a : String} (h : a ≠ "") (b : String) :
    Text.begins "/" (a ++ b) = Text.begins "/" a := by
  have hne : a.toList ≠ [] := fun hnil => h (String.toList_eq_nil_iff.mp hnil)
  have hlength : "/".toList.length ≤ a.toList.length := List.length_pos_iff.mpr hne
  exact Text.begins_append hlength b

/-- A slash at the end leads nowhere else. -/
theorem follow_append_slash (p : Path) (text : String) :
    p.follow (text ++ "/") = p.follow text := by
  have hjoin : text ++ "/" = text ++ "/" ++ "" := by rw [String.append_empty]
  rw [hjoin, follow_join]
  exact enter_empty _

theorem follow_name (p : Path) {name : String} (h : ProperName name) :
    p.follow name = p.down name h := by
  rw [follow, Text.pieces_of_notMem h.2.2.2, List.foldl_cons, List.foldl_nil, enter,
    if_neg h.2.2.1, dif_pos h]

/-- Only for a text that is not empty: a lone slash is the root. -/
theorem resolve_append_slash (cwd : Path) {text : String} (h : text ≠ "") :
    cwd.resolve (text ++ "/") = cwd.resolve text := by
  rw [resolve_eq_follow, begins_slash_append h, follow_append_slash, resolve_eq_follow]

/-- A proper name after nothing or after a slash goes one level down from where the text before it
leads. -/
theorem resolve_append_name (cwd : Path) {text name : String}
    (h : text = "" ∨ ∃ front, text = front ++ "/") (hname : ProperName name) :
    cwd.resolve (text ++ name) = (cwd.resolve text).down name hname := by
  rcases h with rfl | ⟨front, rfl⟩
  · -- without a slash the name alone is relative, and so was nothing at all
    have hrelative : Text.begins "/" name = false := by
      rw [Text.begins, Bool.eq_false_iff]
      intro hbegins
      obtain ⟨rest, hrest⟩ := List.isPrefixOf_iff_prefix.mp hbegins
      exact hname.2.2.2 (hrest ▸ List.mem_cons_self ..)
    rw [String.empty_append, resolve_eq_follow, hrelative]
    exact follow_name cwd hname
  · have hne : front ++ "/" ≠ "" := fun hnil => by simpa using congrArg String.toList hnil
    rw [resolve_eq_follow, begins_slash_append hne, follow_join, follow_name _ hname,
      resolve_eq_follow cwd (front ++ "/"), follow_append_slash]

/-- Text before a slash is resolved first, and what comes after it from there on. It must not be
empty, because then the slash would be in front, and a second slash would not start at the root. -/
theorem resolve_join (cwd : Path) {first rest : String} (hfirst : first ≠ "")
    (hrest : Text.begins "/" rest = false) :
    cwd.resolve (first ++ "/" ++ rest) = (cwd.resolve first).resolve rest := by
  have hbegins : Text.begins "/" (first ++ "/" ++ rest) = Text.begins "/" first := by
    rw [String.append_assoc, begins_slash_append hfirst]
  rw [resolve_eq_follow, hbegins, follow_join, ← resolve_eq_follow,
    resolve_eq_follow (cwd.resolve first), hrest]
  rfl

/-! ### Canonical texts -/

/-- A text is canonical when it is a lone slash, or when its slashes cut it into an empty piece
and then segments, at least one, of which none is empty, `.` or `..`. -/
def Canonical (text : String) : Prop :=
  text = "/" ∨ ∃ segments, segments ≠ [] ∧ Text.pieces '/' text = "" :: segments ∧
    ∀ s ∈ segments, s ≠ "" ∧ s ≠ "." ∧ s ≠ ".."

/-- Paths are written canonically. -/
theorem canonical_toString (p : Path) : Canonical p.toString := by
  by_cases h : p.names = []
  · left
    rw [toString, h]
    rfl
  · right
    refine ⟨p.names, h, pieces_toString h, ?_⟩
    intro s hs
    obtain ⟨hempty, hdot, hdotdot, -⟩ := p.proper s hs
    exact ⟨hempty, hdot, hdotdot⟩

/-- A written path begins with a slash, so it is resolved from the root. -/
theorem resolve_toString (cwd p : Path) : cwd.resolve p.toString = p := by
  have hslash : Text.begins "/" p.toString = true := by
    unfold Text.begins toString
    rw [String.toList_append]
    rfl
  rw [resolve, if_pos hslash, ofString_toString]

end LineShell.Path
