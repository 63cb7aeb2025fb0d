import LineShell.FileSystem
import LineShell.Proofs.Path.Canonical

/-!
# Normal forms of path texts

A text is normalized by reading it as a path and writing the path. The canonical texts are the
written paths (`canonical_iff`), so they are the texts that normalizing leaves alone, and the front
of a text may be normalized before the rest of it is read.

A path argument is resolved against the working directory, which is a path. `resolveText` says the
same with texts alone, and has shortcuts for the arguments that stay where they are:

    resolve?    : a path, an argument  ──▶ the path that the argument names
    resolveText : a text, an argument  ──▶ its written form

The two agree (`toString_resolve?`), and the shortcuts follow the rule for all other arguments
(`toString_resolve?_getD`). Main statement: `normalize_laws`.
-/

namespace LineShell.Path

/-! ### Canonical texts are written paths -/

theorem exists_toString_eq {text : String} (h : Canonical text) : ∃ p : Path, p.toString = text := by
  rcases h with rfl | ⟨segments, hne, hpieces, hsegments⟩
  · exact ⟨root, rfl⟩
  · have hproper : ∀ s ∈ segments, ProperName s := by
      intro s hs
      obtain ⟨hempty, hdot, hdotdot⟩ := hsegments s hs
      have hpiece : s ∈ Text.pieces '/' text := hpieces ▸ List.mem_cons_of_mem _ hs
      exact ⟨hempty, hdot, hdotdot, Text.notMem_of_mem_pieces hpiece⟩
    obtain ⟨first, rest, rfl⟩ := List.exists_cons_of_ne_nil hne
    refine ⟨⟨first :: rest, hproper⟩, ?_⟩
    -- the piece in front of the first slash is empty, so joining begins with the slash
    calc "/" ++ String.intercalate "/" (first :: rest)
        = String.intercalate "/" ("" :: first :: rest) := by
          rw [String.intercalate_cons_cons, String.empty_append]
      _ = String.intercalate "/" (Text.pieces '/' text) := by rw [hpieces]
      _ = text := Text.intercalate_pieces '/' text

/-- The canonical texts are the written paths. -/
theorem canonical_iff {text : String} : Canonical text ↔ ∃ p : Path, p.toString = text := by
  constructor
  · exact exists_toString_eq
  · rintro ⟨p, rfl⟩
    exact canonical_toString p

/-! ### Normalizing -/

theorem canonical_normalize (text : String) : Canonical (normalize text) :=
  canonical_toString (ofString text)

/-- Normalizing leaves canonical texts as they are, and no others. -/
theorem normalize_eq_self_iff {text : String} : normalize text = text ↔ Canonical text := by
  constructor
  · intro h
    rw [← h]
    exact canonical_normalize text
  · intro h
    obtain ⟨p, rfl⟩ := canonical_iff.mp h
    rw [normalize, ofString_toString]

/-- What stands before a slash may be normalized first. -/
theorem normalize_join (a b : String) :
    normalize (a ++ "/" ++ b) = normalize (normalize a ++ "/" ++ b) := by
  have hread : ofString (a ++ "/" ++ b) = (ofString a).follow b := follow_join root a b
  rw [normalize, hread, normalize, normalize, ofString_join]

/-! ### Resolving texts -/

/-- The written form of what an argument names, with the working directory as text. An argument
that is missing, empty or a dot stays; text that begins with a slash is normalized as it is, any
other after the working directory and a slash. -/
def resolveText (cwd : String) : Option String → String
  | none => cwd
  | some text =>
    if text = "" ∨ text = "." then cwd
    else if Text.begins "/" text then normalize text
    else normalize (cwd ++ "/" ++ text)

/-- Arguments that the working directory itself is the answer to. -/
def stays : List (Option String) := [none, some "", some "."]

/-- An argument that stays names the working directory. -/
theorem resolve?_of_mem_stays (cwd : Path) {path : Option String} (h : path ∈ stays) :
    cwd.resolve? path = cwd := by
  simp only [stays, List.mem_cons, List.not_mem_nil, or_false] at h
  rcases h with rfl | rfl | rfl <;> rfl

theorem begins_of_mem_stays {path : Option String} (h : path ∈ stays) :
    Text.begins "/" (path.getD "") = false := by
  simp only [stays, List.mem_cons, List.not_mem_nil, or_false] at h
  rcases h with rfl | rfl | rfl <;> rfl

/-- All arguments follow one rule; a missing one is as good as an empty one. -/
theorem toString_resolve?_getD (cwd : Path) (path : Option String) :
    (cwd.resolve? path).toString =
      normalize (if Text.begins "/" (path.getD "") then path.getD ""
        else cwd.toString ++ "/" ++ path.getD "") := by
  have hjoin (text : String) : (cwd.resolve text).toString =
      normalize (if Text.begins "/" text then text else cwd.toString ++ "/" ++ text) := by
    rw [resolve_eq_ofString, normalize]
  cases path with
  | none => exact hjoin ""
  | some text => exact hjoin text

/-- Resolving a path argument is resolving it in text. -/
theorem toString_resolve? (cwd : Path) (path : Option String) :
    (cwd.resolve? path).toString = resolveText cwd.toString path := by
  cases path with
  | none => rfl
  | some text =>
    rw [resolveText]
    split
    · next hstays =>
      have hmem : some text ∈ stays := by
        rcases hstays with rfl | rfl <;> decide
      rw [resolve?_of_mem_stays cwd hmem]
    · rw [toString_resolve?_getD, Option.getD_some]
      split <;> rfl

/-- **Laws of normalizing and resolving.** Normalized texts are canonical, and the canonical texts
are the ones that normalizing leaves alone; the front of a text may be normalized first. In every
file system an argument is resolved to a canonical text, which is resolved to itself. Resolving has
shortcuts for the arguments that stay, and they give what normalizing after the working directory
and a slash gives. The working directory of a file system can be any canonical text. -/
theorem normalize_laws :
    (∀ text, Canonical (normalize text)) ∧
    (∀ text, normalize text = text ↔ Canonical text) ∧
    (∀ a b, normalize (a ++ "/" ++ b) = normalize (normalize a ++ "/" ++ b)) ∧
    (∀ (fs : FileSystem) (path : Option String),
      Canonical (fs.resolve path).toString ∧
      fs.resolve (some (fs.resolve path).toString) = fs.resolve path ∧
      (fs.resolve path).toString = resolveText fs.cwd.toString path ∧
      resolveText fs.cwd.toString path =
        normalize (if Text.begins "/" (path.getD "") then path.getD ""
          else fs.cwd.toString ++ "/" ++ path.getD "") ∧
      (path ∈ stays → fs.resolve path = fs.cwd ∧
        fs.cwd.toString = normalize (fs.cwd.toString ++ "/" ++ path.getD ""))) ∧
    (∀ tree text, Canonical text → ∃ fs : FileSystem, fs.tree = tree ∧ fs.cwd.toString = text) := by
  refine ⟨canonical_normalize, fun _ => normalize_eq_self_iff, normalize_join, ?_, ?_⟩
  · intro fs path
    have htext : (fs.resolve path).toString = resolveText fs.cwd.toString path :=
      toString_resolve? fs.cwd path
    have hrule := toString_resolve?_getD fs.cwd path
    refine ⟨canonical_toString _, resolve_toString fs.cwd _, htext, htext ▸ hrule, ?_⟩
    intro hstays
    have hcwd := resolve?_of_mem_stays fs.cwd hstays
    rw [hcwd, begins_of_mem_stays hstays] at hrule
    exact ⟨hcwd, hrule⟩
  · intro tree text htext
    obtain ⟨p, hp⟩ := canonical_iff.mp htext
    exact ⟨⟨tree, p⟩, rfl, hp⟩

/-- Up past the root and down again, the argument that stays, and a working directory as text. -/
theorem normalize_laws_seeded :
    FileSystem.seeded.resolve (some "/x/y") =
      FileSystem.seeded.resolve (some "../../../x/./y//") ∧
    "/home/dev" = normalize "/home/dev/." ∧
    ∃ fs : FileSystem, fs.tree = .ofEntries [] ∧ fs.cwd.toString = "/a/b" := by
  obtain ⟨-, hcanonical, -, hresolve, hcwd⟩ := normalize_laws
  obtain ⟨-, hagain, -⟩ := hresolve FileSystem.seeded (some "../../../x/./y//")
  obtain ⟨-, -, -, -, hdot⟩ := hresolve FileSystem.seeded (some ".")
  exact ⟨hagain, (hdot (by decide)).2, hcwd _ "/a/b" ((hcanonical "/a/b").mp (by decide))⟩

end LineShell.Path
