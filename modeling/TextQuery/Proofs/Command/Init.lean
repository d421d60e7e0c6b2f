import TextQuery.Command.Run
import TextQuery.Proofs.Settings.NewFile
import TextQuery.Proofs.Settings.Template

/-!
# What a new settings file does

A command that starts a settings file where there was none changes no options and no error, for whatever directory and
wherever they are asked for (`init_neutral`).
-/

namespace TextQuery

namespace Init

variable {env : Environment} {directory : Path} {global force : Bool} {report : Report} {files : FileTree}

/-- The ways in which a run can end: it has no place for a file, it leaves alone what is there, it cannot write, or it writes
the new file. -/
inductive Ends (env : Environment) (force : Bool) : Option Path → Report × FileTree → Prop where
  | homeless : Ends env force none (Init.homeless, env.files)
  | occupied {p : Path} (hForce : force = false) (hThere : env.files.isThere env.cwd p = true) :
      Ends env force (some p) (Init.occupied p, env.files)
  | unwritable {p : Path} {cause : FileError} (hNew : force = false → env.files.isThere env.cwd p = false)
      (hWrite : env.files.write env.cwd p Template.text = .error cause) :
      Ends env force (some p) (Init.unwritable p cause, env.files)
  | created {p : Path} {goal : Location} {access : Access} (hNew : force = false → env.files.isThere env.cwd p = false)
      (hLocate : env.files.locate env.cwd p = .ok goal) (hAccess : env.files.accessWritten goal = .ok access) :
      Ends env force (some p) (Init.created p, env.files.put goal (.file (.text Template.text) access))

theorem run_ends (env : Environment) (directory : Path) (global force : Bool) :
    Ends env force (target? env directory global) (run env directory global force) := by
  unfold run
  cases target? env directory global with
  | none => exact .homeless
  | some p =>
    simp only [writeTo]
    split
    · next hKept =>
      obtain ⟨hThere, hForce⟩ := Bool.and_eq_true_iff.1 hKept
      exact .occupied (by simpa using hForce) hThere
    · next hGone =>
      have hNew : force = false → env.files.isThere env.cwd p = false := by
        rintro rfl
        simpa using hGone
      split
      · next hWrite =>
        obtain ⟨goal, access, hLocate, hAccess, rfl⟩ := FileTree.write_eq_ok_iff.1 hWrite
        exact .created hNew hLocate hAccess
      · next hWrite => exact .unwritable hNew hWrite

/-- A settings file is written where nothing was, when it is written and nothing may be overwritten. -/
theorem exists_new_of_run (hRun : run env directory global false = (report, files)) (hStatus : report.status = 0) :
    ∃ p new, target? env directory global = some p ∧ env.files.locate env.cwd p = .ok new ∧
      env.files.found? new = none ∧ files = env.files.put new (.file (.text Template.text)) := by
  have hEnds := run_ends env directory global false
  rw [hRun] at hEnds
  generalize hTarget : target? env directory global = target at hEnds
  cases hEnds with
  | homeless => cases hStatus
  | occupied => cases hStatus
  | unwritable => cases hStatus
  | created hNew hLocate hAccess =>
    have hNone := FileTree.found?_of_not_isThere (hNew rfl) hLocate
    rcases FileTree.accessWritten_eq_ok_iff.1 hAccess with ⟨-, c, hFile⟩ | ⟨-, -, rfl⟩
    · cases hNone.symm.trans hFile
    · exact ⟨_, _, rfl, hLocate, hNone, rfl⟩

end Init

/-- Starting a settings file is neutral.  When one is written and nothing may be overwritten, then for every directory, every
working directory, and every home directory or none, the settings files that have been found are found again, in their
order; the others are paths to the new file.  The options in force are the same as before, or the same error is
reported. -/
theorem init_neutral {env : Environment} {directory : Path} {global : Bool} {stdin : Contents} {report : Report}
    {files : FileTree} (hRun : Command.run env directory stdin (.init global false) = (report, files))
    (hStatus : report.status = 0) :
    ∃ p new, Init.target? env directory global = some p ∧ env.files.locate env.cwd p = .ok new ∧
      env.files.found? new = none ∧ files.entryAt new = some (.file (.text Template.text)) ∧
      ∀ (cwd : Location) (home : Option Path) (d : Path),
        let before : Environment := ⟨env.files, cwd, home⟩
        let after : Environment := ⟨files, cwd, home⟩
        before.discover d = (after.discover d).filter (fun p => !after.leadsTo new p) ∧
          (Configuration.load after d).map (·.options) = (Configuration.load before d).map (·.options) := by
  obtain ⟨p, new, hTarget, hLocate, hNew, rfl⟩ := Init.exists_new_of_run hRun hStatus
  refine ⟨p, new, hTarget, hLocate, hNew, if_pos rfl, fun cwd home d => ?_⟩
  intro before after
  have hNew' : before.files.found? new = none := hNew
  have hAfter : after = before.withFile new Template.text := rfl
  rw [hAfter]
  constructor
  · simp only [Environment.leadsTo_withFile hNew']
    exact Environment.discover_withFile hNew' Template.ofText_text
  · exact Environment.options_load_withFile hNew' Template.ofText_text d

/-- A settings file is started between two others, one of them in the home directory.  It is found, and the options are
those of the others. -/
theorem init_neutral_between_files : ∃ (env : Environment) (directory d : Path) (files : FileTree) (new : Location),
    (Command.run env directory (.text []) (.init false false)).1.status = 0 ∧
    (Command.run env directory (.text []) (.init false false)).2 = files ∧
    env.discover d = [Path.ofText "/w/a/b/.sift.toml".toList, Path.ofText "/h/.sift.toml".toList] ∧
    (Environment.mk files env.cwd env.home).isFile (Path.ofText "/w/a/.sift.toml".toList) = true ∧
    env.discover d = ((Environment.mk files env.cwd env.home).discover d).filter
      (fun p => !(Environment.mk files env.cwd env.home).leadsTo new p) ∧
    (Configuration.load ⟨files, env.cwd, env.home⟩ d).map (·.options) = .ok ⟨false, true, false⟩ := by
  let env : Environment := ⟨.ofFiles [
    (["w".toList, "a".toList, "b".toList, Environment.settingsName], "[matching]\nignore_case = false\n".toList),
    (["h".toList, Environment.settingsName], "[matching]\nignore_case = true\nwhole_words = false\n".toList)],
    ["w".toList, "a".toList], Path.ofText "/h".toList⟩
  let directory := Path.ofText "/w/a".toList
  let d := Path.ofText "/w/a/b".toList
  have hRun : Command.run env directory (.text []) (.init false false) =
      ((Command.run env directory (.text []) (.init false false)).1,
        (Command.run env directory (.text []) (.init false false)).2) := rfl
  have hStatus : (Command.run env directory (.text []) (.init false false)).1.status = 0 := by decide
  obtain ⟨-, new, -, -, -, -, hNeutral⟩ := init_neutral hRun hStatus
  obtain ⟨hDiscover, hOptions⟩ := hNeutral env.cwd env.home d
  have hLoad : Configuration.load env d = .ok ⟨⟨false, true, false⟩,
      [Path.ofText "/w/a/b/.sift.toml".toList, Path.ofText "/h/.sift.toml".toList]⟩ := by decide +kernel
  refine ⟨env, directory, d, _, new, hStatus, rfl, by decide +kernel, by decide, hDiscover, ?_⟩
  rw [hOptions, hLoad]
  rfl

end TextQuery
