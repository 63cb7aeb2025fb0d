import LineShell.Proofs.Builtin.LongListing
import LineShell.Proofs.FileSystem.Locating
import LineShell.Proofs.Node.Entries

/-!
# The views of a directory

What a directory holds can be seen in four ways: the file system lists it, each child is found under
the path of the directory and its name, and `ls` prints the names or a row for each child. All of
them show the entries that the directory was built from, the last one of each name, in order of
names.

    list      ──▶ entries           (`Node.Lists`)
    locate    ──▶ a node for each entry with a proper name
    ls        ──▶ the names of the entries
    ls -l     ──▶ a row for each entry, from which it is read back

Main statement: `directory_views_agree`.
-/

namespace LineShell

namespace FileSystem

variable {fs : FileSystem} {path : String} {built : List (String × Node)} {full : Path}

/-- A directory that was built from entries lists what became of them. -/
theorem list_ofEntries (hdir : fs.locate (some path) = .ok (.ofEntries built, full)) :
    fs.list (some path) = .ok (Builtin.entriesOf (Node.childrenOf built)) :=
  list_eq_ok_iff.mpr ⟨Node.childrenOf built, full, hdir, rfl⟩

/-- A slash and a proper name after the path of a directory lead to the child of that name. -/
theorem locate_append_name (h : fs.tree.Ordered) (hpath : path ≠ "")
    {children : List (String × Node)} (hdir : fs.locate (some path) = .ok (.directory children, full))
    {name : String} {child : Node} (hchild : (name, child) ∈ children) (hname : ProperName name) :
    fs.locate (some (path ++ "/" ++ name)) = .ok (child, full.down name hname) := by
  obtain ⟨hfull, -⟩ := locate_eq_ok_iff.mp hdir
  refine locate_child h hdir hchild hname ?_
  show fs.cwd.resolve (path ++ "/" ++ name) = full.down name hname
  rw [Path.resolve_append_name fs.cwd (.inr ⟨path, rfl⟩) hname]
  congr 1
  rw [Path.resolve_append_slash fs.cwd hpath, hfull]
  rfl

end FileSystem

namespace Builtin

/-- **All views of a directory agree.** Listing it gives each name of the entries that it was built
from once, in order, with the kind and the size of the last node of that name. Below its path every
entry with a proper name is found with this kind and size. `ls` prints the names in this order with
two spaces between them, and with `-l` a row for each, from which the entries are read back if no
name holds a newline. -/
theorem directory_views_agree {fs : FileSystem} (h : fs.Reachable) {path : String}
    (hpath : path ≠ "") (hflag : path ≠ "-l") {built : List (String × Node)} {full : Path}
    (hdir : fs.locate (some path) = .ok (.ofEntries built, full)) :
    ∃ entries, fs.list (some path) = .ok entries ∧ Node.Lists built entries ∧
      (∀ e ∈ entries, ∀ hname : ProperName e.name, ∃ node,
        fs.locate (some (path ++ "/" ++ e.name)) = .ok (node, full.down e.name hname) ∧
          node.kind = e.kind ∧ node.size = e.size) ∧
      (∀ c : Call, c.On fs [path] →
        ls c = c.answer (.success (String.intercalate "  " (entries.map (·.name))))) ∧
      (∀ arguments ∈ [["-l", path], [path, "-l"]], ∀ c : Call, c.On fs arguments →
        ls c = c.answer (.success (String.intercalate "\n" (entries.map row)))) ∧
      ((∀ e ∈ entries, '\n' ∉ e.name.toList) →
        readRows (String.intercalate "\n" (entries.map row)) = entries) := by
  refine ⟨_, FileSystem.list_ofEntries hdir, Node.lists_childrenOf built, ?_, ?_, ?_, ?_⟩
  · intro e he hname
    obtain ⟨⟨name, node⟩, hchild, rfl⟩ := List.mem_map.mp he
    exact ⟨node, FileSystem.locate_append_name h.ordered hpath hdir hchild hname, rfl, rfl⟩
  · intro c hc
    rw [← operand?_singleton hflag] at hdir
    have hls := ls_of_directory hc hdir
    rwa [long_singleton hflag] at hls
  · intro arguments harguments c hc
    have hlong : operand? arguments = some path ∧ arguments.contains "-l" = true := by
      simp only [List.mem_cons, List.not_mem_nil, or_false] at harguments
      rcases harguments with rfl | rfl
      · exact ⟨operand?_append (List.forall_mem_singleton.mpr rfl) hflag [], by simp⟩
      · exact ⟨operand?_append (List.forall_mem_nil _) hflag ["-l"], by simp⟩
    rw [← hlong.1] at hdir
    have hls := ls_of_directory hc hdir
    rwa [hlong.2] at hls
  · exact readRows_printed

/-- A directory that was built with a name twice, and with a name of digits and blanks. -/
def mixedTree : Node :=
  .ofEntries [("d", .ofEntries [("b", .file "x"), ("1  2", .ofEntries []), ("b", .file "second")])]

theorem ordered_mixedTree : mixedTree.Ordered := by
  have hempty : (Node.ofEntries []).Ordered := Node.ordered_ofEntries (by simp)
  have hfile : ∀ content, (Node.file content).Ordered := fun _ => .file
  have hd : (Node.ofEntries
      [("b", .file "x"), ("1  2", .ofEntries []), ("b", .file "second")]).Ordered :=
    Node.ordered_ofEntries (by simp [hempty, hfile])
  exact Node.ordered_ofEntries (by simp [hd])

theorem directory_views_agree_mixedTree : ∃ start, FileSystem.ofTree mixedTree "d" = .ok start ∧
    start.list (some "../d") = .ok [⟨"1  2", .directory, 0⟩, ⟨"b", .file, 6⟩] ∧
    readRows (String.intercalate "\n"
      ([⟨"1  2", .directory, 0⟩, ⟨"b", .file, 6⟩].map row)) =
        [⟨"1  2", .directory, 0⟩, ⟨"b", .file, 6⟩] := by
  have hstart : FileSystem.ofTree mixedTree "d" = .ok ⟨mixedTree, ⟨["d"], by decide⟩⟩ := rfl
  have hdir : FileSystem.locate ⟨mixedTree, ⟨["d"], by decide⟩⟩ (some "../d") = .ok (.ofEntries
      [("b", .file "x"), ("1  2", .ofEntries []), ("b", .file "second")], ⟨["d"], by decide⟩) := rfl
  obtain ⟨entries, hlist, -, -, -, -, hread⟩ :=
    directory_views_agree (.ofTree ordered_mixedTree hstart []) (by decide) (by decide) hdir
  have hentries : entries = [⟨"1  2", .directory, 0⟩, ⟨"b", .file, 6⟩] :=
    (Except.ok.inj hlist).symm
  subst hentries
  exact ⟨_, hstart, hlist, hread (by decide)⟩

end Builtin

end LineShell
