import LineShell.Proofs.FileSystem.Composition

/-!
# One operand, three commands

`cd`, `cat` and `ls` each look their operand up on their own and in a way of their own. What they
do is decided by what the operand names, which is a file, a directory or nothing:

               file           directory            nothing
    cd p       fails          moves there          fails
    cat p      its content    fails                fails
    ls p       p itself       the listing          fails

There is a lemma for each column, with the replies in full (`replies_of_file`,
`replies_of_directory`, `replies_of_error`). Main statement: `cd_cat_ls_agree`.
-/

namespace LineShell

/-! ### What a reply shows -/

def Reply.exit (r : Reply) : ExitCode := (shownOutput r.result).exit

def Reply.text (r : Reply) : String := (shownOutput r.result).text

namespace Builtin

variable {fs : FileSystem} {p : String} {full : Path} {c : Call}

/-! ### Commands with one operand -/

theorem cd_target (h : c.On fs [p]) (hp : p ≠ "") :
    (c.arguments.head?.filter (· ≠ "")).getD FileSystem.home = p := by
  rw [h.arguments_eq, List.head?_cons, Option.filter_some_pos (by simp [hp]), Option.getD_some]

theorem cd_of_ok {moved : FileSystem} (h : c.On fs [p]) (hp : p ≠ "")
    (hmove : fs.changeDirectory p = .ok moved) :
    cd c = { c.answer .silent with files := moved } := by
  simp only [cd, cd_target h hp, h.files_eq, hmove]

theorem cd_of_error {e : FileError} (h : c.On fs [p]) (hp : p ≠ "")
    (hmove : fs.changeDirectory p = .error e) :
    cd c = c.answer (.failure ("cd: no such directory: " ++ p)) := by
  simp only [cd, cd_target h hp, h.files_eq, hmove]

theorem cat_of_ok {content : String} (h : c.On fs [p]) (hread : fs.read (some p) = .ok content) :
    cat c = c.answer (.success content) := by
  simp only [cat, h.arguments_eq, h.files_eq, hread]

theorem cat_of_error {e : FileError} (h : c.On fs [p]) (hread : fs.read (some p) = .error e) :
    cat c = c.answer (.failure ("cat: " ++ p ++ ": No such file")) := by
  simp only [cat, h.arguments_eq, h.files_eq, hread]

/-! ### By what the operand names -/

section

variable {cdCall catCall lsCall : Call} (hp : p ≠ "") (hflag : p ≠ "-l")
  (hcd : cdCall.On fs [p]) (hcat : catCall.On fs [p]) (hls : lsCall.On fs [p])

include hp hflag hcd hcat hls

/-- A file: `cat` prints it, `ls` names it and `cd` fails. -/
theorem replies_of_file {content : String} (h : fs.locate (some p) = .ok (.file content, full)) :
    cd cdCall = cdCall.answer (.failure ("cd: no such directory: " ++ p)) ∧
    cat catCall = catCall.answer (.success content) ∧
    ls lsCall = lsCall.answer (.success p) := by
  refine ⟨cd_of_error hcd hp (FileSystem.changeDirectory_of_file h),
    cat_of_ok hcat (FileSystem.read_of_file h), ?_⟩
  rw [← operand?_singleton hflag] at h
  rw [ls_of_file hls h, operand?_singleton hflag, Option.getD_some]

/-- A directory: `cd` moves there, `ls` lists it and `cat` fails. -/
theorem replies_of_directory {children : List (String × Node)}
    (h : fs.locate (some p) = .ok (.directory children, full)) :
    cd cdCall = { cdCall.answer .silent with files := { fs with cwd := full } } ∧
    cat catCall = catCall.answer (.failure ("cat: " ++ p ++ ": No such file")) ∧
    ls lsCall = lsCall.answer (.success (printed false (entriesOf children))) := by
  refine ⟨cd_of_ok hcd hp (FileSystem.changeDirectory_of_directory h),
    cat_of_error hcat (FileSystem.read_of_directory h), ?_⟩
  rw [← operand?_singleton hflag] at h
  rw [ls_of_directory hls h, long_singleton hflag]

/-- Nothing at the path: all three fail, each with a message of its own. -/
theorem replies_of_error {e : FileError} (h : fs.locate (some p) = .error e) :
    cd cdCall = cdCall.answer (.failure ("cd: no such directory: " ++ p)) ∧
    cat catCall = catCall.answer (.failure ("cat: " ++ p ++ ": No such file")) ∧
    ls lsCall = lsCall.answer (.failure ("ls: cannot access '" ++ p ++
      "': No such file or directory")) := by
  refine ⟨cd_of_error hcd hp (FileSystem.changeDirectory_of_error h),
    cat_of_error hcat (FileSystem.read_of_error h), ?_⟩
  rw [← operand?_singleton hflag] at h
  rw [ls_of_error hls h, operand?_singleton hflag, Option.getD_some]

end

/-! ### Inside and outside -/

/-- A directory is listed from inside as it is by its path, with as many flags. -/
theorem ls_inside {flags : List String} {outside inside : Call} {children : List (String × Node)}
    (hflags : ∀ a ∈ flags, a = "-l") (hflag : p ≠ "-l")
    (h : fs.locate (some p) = .ok (.directory children, full))
    (hout : outside.On fs (flags ++ [p])) (hin : inside.On { fs with cwd := full } flags) :
    (ls inside).result = (ls outside).result := by
  have hinside : FileSystem.locate { fs with cwd := full } none = .ok (.directory children, full) :=
    (FileSystem.locate_none_of_changeDirectory (FileSystem.changeDirectory_of_directory h)).trans h
  rw [← operand?_append hflags hflag []] at h
  rw [← operand?_flags hflags] at hinside
  rw [ls_of_directory hin hinside, ls_of_directory hout h, long_append hflag]
  rfl

/-! ### Agreement -/

/-- What `cd p`, `cat p` and `ls p` have to do with each other, and with what `p` names in `fs`. -/
structure Agree (fs : FileSystem) (p : String) (cdReply catReply lsReply : Reply) : Prop where
  exclusive : ¬ (cdReply.exit = .success ∧ catReply.exit = .success)
  listed : lsReply.exit = .success ↔ cdReply.exit = .success ∨ catReply.exit = .success
  file : catReply.exit = .success → lsReply.text = p ∧
    ∃ content full, fs.locate (some p) = .ok (.file content, full) ∧ catReply.text = content
  directory : cdReply.exit = .success → fs.changeDirectory p = .ok cdReply.files ∧
    (∀ inside : Call, inside.On cdReply.files [] → (ls inside).result = lsReply.result) ∧
    ∀ outside inside : Call, outside.On fs ["-l", p] → inside.On cdReply.files ["-l"] →
      (ls inside).result = (ls outside).result
  nothing : cdReply.exit ≠ .success → catReply.exit ≠ .success →
    ∀ r ∈ [cdReply, catReply, lsReply], r.exit = .failure ∧ r.files = fs

/-- **`cd`, `cat` and `ls` agree on every operand.** At most one of `cd` and `cat` succeeds, and
`ls` succeeds when one of them does. A file is named by `ls` as it was typed, and its content is
what `cat` prints. A directory is listed by its path as it is from inside, with and without `-l`. If
neither `cd` nor `cat` succeeds, all three fail and nothing has changed. -/
theorem cd_cat_ls_agree {cdCall catCall lsCall : Call} (hp : p ≠ "") (hflag : p ≠ "-l")
    (hcd : cdCall.On fs [p]) (hcat : catCall.On fs [p]) (hls : lsCall.On fs [p]) :
    Agree fs p (cd cdCall) (cat catCall) (ls lsCall) := by
  cases hlocate : fs.locate (some p) with
  | error e =>
    obtain ⟨hcd', hcat', hls'⟩ := replies_of_error hp hflag hcd hcat hls hlocate
    rw [hcd', hcat', hls']
    exact {
      exclusive := fun h => nomatch h.1
      listed := iff_of_false nofun (by rintro (h | h) <;> cases h)
      file := nofun
      directory := nofun
      nothing := by
        intro _ _ r hr
        simp only [List.mem_cons, List.not_mem_nil, or_false] at hr
        rcases hr with rfl | rfl | rfl
        · exact ⟨rfl, hcd.files_eq⟩
        · exact ⟨rfl, hcat.files_eq⟩
        · exact ⟨rfl, hls.files_eq⟩ }
  | ok found =>
    obtain ⟨node, full⟩ := found
    cases node with
    | file content =>
      obtain ⟨hcd', hcat', hls'⟩ := replies_of_file hp hflag hcd hcat hls hlocate
      rw [hcd', hcat', hls']
      exact {
        exclusive := fun h => nomatch h.1
        listed := iff_of_true rfl (.inr rfl)
        file := fun _ => ⟨rfl, content, full, hlocate, rfl⟩
        directory := nofun
        nothing := fun _ h => absurd rfl h }
    | directory children =>
      obtain ⟨hcd', hcat', hls'⟩ := replies_of_directory hp hflag hcd hcat hls hlocate
      rw [hcd', hcat']
      exact {
        exclusive := fun h => nomatch h.2
        listed := iff_of_true (by rw [hls']; rfl) (.inl rfl)
        file := nofun
        directory := fun _ => ⟨FileSystem.changeDirectory_of_directory hlocate,
          fun _ hin => ls_inside (List.forall_mem_nil _) hflag hlocate hls hin,
          fun _ _ hout hin =>
            ls_inside (List.forall_mem_singleton.mpr rfl) hflag hlocate hout hin⟩
        nothing := fun h => absurd rfl h }

/-- A directory by a path that leaves it and comes back. -/
theorem cd_cat_ls_agree_projects : ∃ moved,
    FileSystem.seeded.changeDirectory "projects/../projects" = .ok moved ∧
    (ls ⟨["ls", "-l"], moved, [], ⟨0, 0, 0⟩⟩).result =
      (ls ⟨["ls", "-l", "projects/../projects"], FileSystem.seeded, [], ⟨0, 0, 0⟩⟩).result := by
  have hon (name : String) : Call.On ⟨[name, "projects/../projects"], FileSystem.seeded, [],
      ⟨0, 0, 0⟩⟩ FileSystem.seeded ["projects/../projects"] := ⟨rfl, rfl⟩
  have hagree := cd_cat_ls_agree (by decide) (by decide) (hon "cd") (hon "cat") (hon "ls")
  obtain ⟨hmove, -, hlong⟩ := hagree.directory rfl
  exact ⟨_, hmove, hlong _ _ ⟨rfl, rfl⟩ ⟨rfl, rfl⟩⟩

end Builtin

end LineShell
