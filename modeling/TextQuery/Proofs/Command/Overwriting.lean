import TextQuery.Proofs.Command.Init

/-!
# What starting settings files overwrites

A run that starts a settings file does so, or leaves all files as they are; what it has done once, no later run does
again (`init_all_or_nothing`).

A sequence of runs is followed through what every run keeps: paths lead where they have led, and a settings file that
was started stays as it is, with the same rights (`Kept`).
-/

namespace TextQuery

namespace Init

/-- A run: where it takes place, and what it is asked for. -/
structure Call where
  cwd : Location
  home : Option Path
  directory : Path
  global : Bool
  force : Bool

namespace Call

/-- Where a run takes place, given the files. -/
def environment (c : Call) (files : FileTree) : Environment := ⟨files, c.cwd, c.home⟩

/-- The path of the file that a run is to start, if there is one. -/
def target? (c : Call) (files : FileTree) : Option Path := Init.target? (c.environment files) c.directory c.global

/-- The report of a run, and the files afterwards. -/
def run (c : Call) (files : FileTree) : Report × FileTree := Init.run (c.environment files) c.directory c.global c.force

end Call

/-- The files after some runs, one after the other. -/
def filesAfter (files : FileTree) : List Call → FileTree
  | [] => files
  | c :: calls => filesAfter (c.run files).2 calls

/-- A settings file as it is started. -/
def started (access : Access) : Entry := .file (.text Template.text) access

/-! ### What runs keep -/

/-- What runs keep of the files. -/
structure Kept (before after : FileTree) : Prop where
  locate_iff : ∀ {cwd : Location} {p : Path} {goal : Location},
    after.locate cwd p = .ok goal ↔ before.locate cwd p = .ok goal
  stays : ∀ {location : Location} {access : Access}, before.entryAt location = some (started access) →
    after.entryAt location = some (started access)

variable {files after later : FileTree} {c : Call} {calls : List Call} {p : Path} {goal location : Location} {e : Entry}
  {access : Access}

theorem Kept.refl (files : FileTree) : Kept files files := ⟨Iff.rfl, id⟩

theorem Kept.trans (h : Kept files after) (h' : Kept after later) : Kept files later :=
  ⟨h'.locate_iff.trans h.locate_iff, fun hStarted => h'.stays (h.stays hStarted)⟩

theorem Call.run_ends (c : Call) (files : FileTree) : Ends (c.environment files) c.force (c.target? files) (c.run files) :=
  Init.run_ends _ _ _ _

/-- A run leaves the files as they are, or puts a settings file where one can be written. -/
theorem files_run (c : Call) (files : FileTree) : (c.run files).2 = files ∨
    ∃ goal access, files.accessWritten goal = .ok access ∧ (c.force = false → files.found? goal = none) ∧
      (c.run files).2 = files.put goal (started access) := by
  have hEnds := c.run_ends files
  generalize c.run files = result at hEnds ⊢
  generalize c.target? files = target at hEnds
  cases hEnds with
  | homeless => exact .inl rfl
  | occupied => exact .inl rfl
  | unwritable => exact .inl rfl
  | created hNew hLocate hAccess =>
    exact .inr ⟨_, _, hAccess, fun hForce => FileTree.found?_of_not_isThere (hNew hForce) hLocate, rfl⟩

/-- What is written over a settings file that was started is that file again. -/
theorem access_eq_of_started (hAccess : files.accessWritten goal = .ok access) {a : Access}
    (hStarted : files.entryAt goal = some (started a)) : access = a := by
  have hRoot : goal ≠ [] := FileTree.ne_nil_of_not_hasDirectory (FileTree.not_hasDirectory_of_accessWritten hAccess)
  rw [← FileTree.found?_of_ne_nil hRoot] at hStarted
  rcases FileTree.accessWritten_eq_ok_iff.1 hAccess with ⟨-, c, hFile⟩ | ⟨hNone, -⟩
  · cases hFile.symm.trans hStarted
    rfl
  · cases hNone.symm.trans hStarted

theorem kept_run (c : Call) (files : FileTree) : Kept files (c.run files).2 := by
  rcases files_run c files with hSame | ⟨goal, access, hAccess, -, hPut⟩
  · rw [hSame]
    exact .refl files
  · rw [hPut]
    refine ⟨FileTree.locate_put_iff (FileTree.not_hasDirectory_of_accessWritten hAccess), fun {location a} hStarted => ?_⟩
    by_cases h : location = goal
    · subst h
      rw [access_eq_of_started hAccess hStarted]
      exact if_pos rfl
    · exact (if_neg h).trans hStarted

theorem kept_filesAfter (files : FileTree) (calls : List Call) : Kept files (filesAfter files calls) := by
  induction calls generalizing files with
  | nil => exact .refl files
  | cons c calls ih => exact (kept_run c files).trans (ih _)

/-- Runs that may overwrite nothing leave what is there as it is. -/
theorem entryAt_filesAfter (hForce : ∀ c ∈ calls, c.force = false) (hEntry : files.entryAt location = some e) :
    (filesAfter files calls).entryAt location = some e := by
  induction calls generalizing files with
  | nil => exact hEntry
  | cons c calls ih =>
    refine ih (fun c hc => hForce c (List.mem_cons_of_mem _ hc)) ?_
    rcases files_run c files with hSame | ⟨goal, access, -, hNew, hPut⟩
    · rw [hSame, hEntry]
    · obtain ⟨-, hNothing⟩ := FileTree.found?_eq_none_iff.1 (hNew (hForce c List.mem_cons_self))
      rw [hPut]
      refine (if_neg ?_).trans hEntry
      rintro rfl
      cases hNothing.symm.trans hEntry

/-- Where a settings file was started, a run finds it, and changes nothing even if it writes it again. -/
theorem run_of_started (hTarget : c.target? files = some p) (hLocate : files.locate c.cwd p = .ok goal)
    (hStarted : files.found? goal = some (started access)) (hWritable : access.writable = true) :
    c.run files = (if c.force then created p else occupied p, files) := by
  have hThere : files.isThere c.cwd p = true := by
    rw [FileTree.isThere, FileTree.entry_eq_ok_iff.2 ⟨goal, hLocate, hStarted⟩]
    rfl
  have hAccess : files.accessWritten goal = .ok access :=
    FileTree.accessWritten_eq_ok_iff.2 (.inl ⟨hWritable, _, hStarted⟩)
  have hEnds := c.run_ends files
  rw [hTarget] at hEnds
  generalize c.run files = result at hEnds ⊢
  cases hForce : c.force with
  | false =>
    cases hEnds with
    | occupied => rfl
    | unwritable hNew => cases (hNew hForce).symm.trans hThere
    | created hNew => cases (hNew hForce).symm.trans hThere
  | true =>
    cases hEnds with
    | occupied h => cases h.symm.trans hForce
    | unwritable _ hWrite =>
      cases (FileTree.write_eq_ok_iff.2 ⟨goal, access, hLocate, hAccess, rfl⟩).symm.trans hWrite
    | created _ hGoal hAccess' =>
      cases hLocate.symm.trans hGoal
      cases hAccess.symm.trans hAccess'
      have hRoot := FileTree.ne_nil_of_not_hasDirectory (FileTree.not_hasDirectory_of_accessWritten hAccess)
      rw [FileTree.found?_of_ne_nil hRoot] at hStarted
      exact congrArg (Prod.mk _) (FileTree.put_eq_self hStarted)

/-- What a run comes to, by the ways in which it ends. -/
private theorem Ends.outcome {env : Environment} {target : Option Path} {force : Bool} {result : Report × FileTree}
    (h : Ends env force target result) :
    (target = none → result.1.status = 2) ∧
      (∀ p, target = some p → force = false → env.files.isThere env.cwd p = true → result.1.status = 2) ∧
      (result.1.status ≠ 0 → result.1.status = 2 ∧ result.2 = env.files) ∧
      (result.1.status = 0 → ∃ p goal access, target = some p ∧ env.files.locate env.cwd p = .ok goal ∧
        env.files.accessWritten goal = .ok access ∧ result.2 = env.files.put goal (started access)) := by
  cases h with
  | homeless => exact ⟨fun _ => rfl, fun _ _ _ _ => rfl, fun _ => ⟨rfl, rfl⟩, nofun⟩
  | occupied => exact ⟨nofun, fun _ _ _ _ => rfl, fun _ => ⟨rfl, rfl⟩, nofun⟩
  | unwritable => exact ⟨nofun, fun _ _ _ _ => rfl, fun _ => ⟨rfl, rfl⟩, nofun⟩
  | created hNew hLocate hAccess =>
    refine ⟨nofun, ?_, fun hStatus => absurd rfl hStatus, fun _ => ⟨_, _, _, rfl, hLocate, hAccess, rfl⟩⟩
    rintro _ ⟨⟩ hForce hThere
    cases (hNew hForce).symm.trans hThere

end Init

open Init in
/-- Starting a settings file overwrites nothing unless it is told to, and does all or nothing.  Without being told to, a run
fails where the file is there already, be it a directory; and it fails when the home directory is wanted and not known.  A
run that fails changes no file, and one that does not changes what is at one location, where it puts the template, with
all rights or with those of the file that has been there; all paths that lead elsewhere find what they have found.

Whatever runs follow, a second run for that location fails if it may overwrite nothing, and changes no file if it may.  And
runs that may overwrite nothing leave everything that has been there, however many they are. -/
theorem init_all_or_nothing (env : Environment) (directory : Path) (global force : Bool) (stdin : Contents) :
    (∃ report files, Command.run env directory stdin (.init global force) = (report, files) ∧
      (Init.target? env directory global = none → report.status = 2) ∧
      (∀ p, Init.target? env directory global = some p → force = false → env.files.isThere env.cwd p = true →
        report.status = 2) ∧
      (report.status ≠ 0 → report.status = 2 ∧ files = env.files) ∧
      (report.status = 0 → ∃ p goal access, Init.target? env directory global = some p ∧
        env.files.locate env.cwd p = .ok goal ∧ files.entry env.cwd p = .ok (.file (.text Template.text) access) ∧
        ((env.files.found? goal = none ∧ access = {}) ∨ ∃ c, env.files.found? goal = some (.file c access)) ∧
        (access.readable = true → files.read env.cwd p = .ok Template.text) ∧
        (∀ location, location ≠ goal → files.entryAt location = env.files.entryAt location) ∧
        (∀ cwd q e, env.files.locate cwd q ≠ .ok goal → (files.entry cwd q = .ok e ↔ env.files.entry cwd q = .ok e)) ∧
        ∀ (between : List Call) (second : Call) (q : Path), second.target? env.files = some q →
          env.files.locate second.cwd q = .ok goal →
          let now := filesAfter files between
          now.entryAt goal = files.entryAt goal ∧ (second.run now).2 = now ∧
            (second.run now).1.status = if second.force then 0 else 2)) ∧
    ∀ calls : List Call, (∀ c ∈ calls, c.force = false) → ∀ location e,
      env.files.entryAt location = some e → (filesAfter env.files calls).entryAt location = some e := by
  obtain ⟨⟨report, files⟩, hRun⟩ : ∃ result, Init.run env directory global force = result := ⟨_, rfl⟩
  have hEnds := run_ends env directory global force
  rw [hRun] at hEnds
  obtain ⟨hHomeless, hThere, hFailed, hDone⟩ := hEnds.outcome
  refine ⟨⟨report, files, hRun, hHomeless, hThere, hFailed, fun hStatus => ?_⟩,
    fun calls hForce location e hEntry => entryAt_filesAfter hForce hEntry⟩
  obtain ⟨p, goal, access, hTarget, hLocate, hAccess, rfl⟩ := hDone hStatus
  have hFree := FileTree.not_hasDirectory_of_accessWritten hAccess
  have hEntry : (env.files.put goal (started access)).entry env.cwd p = .ok (started access) :=
    FileTree.entry_put_of_leads hFree hLocate
  have hStarted : (env.files.put goal (started access)).entryAt goal = some (started access) := if_pos rfl
  obtain ⟨hWritable, hRights⟩ : access.writable = true ∧
      ((env.files.found? goal = none ∧ access = {}) ∨ ∃ c, env.files.found? goal = some (.file c access)) := by
    rcases FileTree.accessWritten_eq_ok_iff.1 hAccess with ⟨hWritable, hFile⟩ | ⟨hNone, -, rfl⟩
    · exact ⟨hWritable, .inr hFile⟩
    · exact ⟨rfl, .inl ⟨hNone, rfl⟩⟩
  refine ⟨p, goal, access, hTarget, hLocate, hEntry, hRights, FileTree.read_of_entry hEntry,
    fun location h => if_neg h, fun cwd q e hElsewhere => FileTree.entry_put_iff_of_not_leads hFree hElsewhere, ?_⟩
  intro between second q hSecond hSame now
  have hKept : Kept (env.files.put goal (started access)) now := kept_filesAfter _ between
  have hNow : now.entryAt goal = some (started access) := hKept.stays hStarted
  have hFound : now.found? goal = some (started access) := by
    rw [FileTree.found?_of_ne_nil (FileTree.ne_nil_of_not_hasDirectory hFree), hNow]
  have hAgain : second.run now = _ :=
    run_of_started hSecond (hKept.locate_iff.2 ((FileTree.locate_put_iff hFree).2 hSame)) hFound hWritable
  rw [hStarted, hNow, hAgain]
  cases second.force <;> exact ⟨rfl, rfl, rfl⟩

/-- The working directory is the home directory, so a local run and a global one start the same file. -/
theorem init_all_or_nothing_at_home : ∃ (env : Environment) (directory : Path) (files : FileTree) (global forced : Init.Call),
    global.global = true ∧ global.force = false ∧ forced.force = true ∧
    (Command.run env directory (.text []) (.init false false)).1.status = 0 ∧
    (Command.run env directory (.text []) (.init false false)).2 = files ∧
    files.read env.cwd (Path.ofText "/h/.sift.toml".toList) = .ok Template.text ∧
    (global.run files).1.status = 2 ∧ (global.run files).2 = files ∧
    (forced.run files).1.status = 0 ∧ (forced.run files).2 = files := by
  let env : Environment := ⟨.ofFiles [(["h".toList, "notes".toList], "x".toList)], ["h".toList], Path.ofText "/h".toList⟩
  let directory := Path.ofText "/h".toList
  let global : Init.Call := ⟨["h".toList], Path.ofText "/h".toList, directory, true, false⟩
  let forced : Init.Call := ⟨["h".toList], Path.ofText "/h".toList, directory, true, true⟩
  have hStatus : (Command.run env directory (.text []) (.init false false)).1.status = 0 := by decide
  obtain ⟨⟨report, files, hRun, -, -, -, hDone⟩, -⟩ := init_all_or_nothing env directory false false (.text [])
  rw [hRun] at hStatus
  obtain ⟨p, goal, access, hTarget, hLocate, -, hRights, hRead, -, -, hLater⟩ := hDone hStatus
  obtain rfl := Option.some.inj hTarget
  have hReadable : access.readable = true := by
    rcases hRights with ⟨-, rfl⟩ | ⟨c, hFile⟩
    · rfl
    · have hGoal : env.files.locate env.cwd (Path.ofText "/h/.sift.toml".toList) =
          .ok ["h".toList, Environment.settingsName] := by decide
      cases hGoal.symm.trans hLocate
      have hNone : env.files.found? ["h".toList, Environment.settingsName] = none := by decide
      cases hNone.symm.trans hFile
  obtain ⟨-, hKept, hFails⟩ := hLater [] global _ rfl hLocate
  obtain ⟨-, hSame, hWrites⟩ := hLater [] forced _ rfl hLocate
  exact ⟨env, directory, files, global, forced, rfl, rfl, rfl, by rw [hRun, hStatus], by rw [hRun], hRead hReadable,
    hFails, hKept, hWrites, hSame⟩

end TextQuery
