import TextQuery.Proofs.Settings.Isolation

/-!
# A new settings file that sets nothing

When a settings file is put where nothing was, the search finds the same files as before and in between, perhaps several
times, the new one (`discover_withFile`).  If the new file sets nothing, the options in force stay the same, and so does
the error when there are none (`options_load_withFile`).
-/

namespace TextQuery

namespace Environment

/-- Whether a path leads to a location. -/
def leadsTo (env : Environment) (location : Location) (p : Path) : Bool :=
  match env.files.locate env.cwd p with
  | .ok goal => goal == location
  | .error _ => false

/-- An environment with a text put in a file. -/
def withFile (env : Environment) (location : Location) (t : Text) : Environment :=
  { env with files := env.files.put location (.file (.text t)) }

variable {env : Environment} {new : Location} {t : Text} {directory p q : Path} {directories : List Path}

theorem leadsTo_iff : env.leadsTo new p = true ↔ env.files.locate env.cwd p = .ok new := by
  unfold leadsTo
  split <;> simp_all

theorem leadsTo_of_same (hSame : p.same q = true) (hp : env.leadsTo new p = true) (hq : env.isFile q = true) :
    env.leadsTo new q = true := by
  obtain ⟨c, access, hEntry⟩ := FileTree.isFile_iff.1 hq
  obtain ⟨location, hLocate, -⟩ := FileTree.entry_eq_ok_iff.1 hEntry
  rw [leadsTo_iff] at hp ⊢
  rw [hLocate, FileTree.locate_eq_of_same hSame hp hLocate]

/-! ### What the new file changes -/

section

variable (hNew : env.files.found? new = none)

include hNew

theorem leadsTo_withFile (location : Location) : (env.withFile new t).leadsTo location p = env.leadsTo location p := by
  rw [Bool.eq_iff_iff, leadsTo_iff, leadsTo_iff]
  exact FileTree.locate_put_iff (FileTree.not_hasDirectory_of_found? hNew)

theorem isFile_eq_false_of_leadsTo (hLeads : env.leadsTo new p = true) : env.isFile p = false := by
  rw [Bool.eq_false_iff]
  intro hFile
  obtain ⟨c, access, hEntry⟩ := FileTree.isFile_iff.1 hFile
  obtain ⟨location, hLocate, hFound⟩ := FileTree.entry_eq_ok_iff.1 hEntry
  rw [leadsTo_iff.1 hLeads] at hLocate
  cases hLocate
  rw [hNew] at hFound
  cases hFound

theorem isRoot_eq_false_of_leadsTo (hLeads : env.leadsTo new p = true) : env.isRoot p = false := by
  rw [Bool.eq_false_iff]
  intro hStop
  have hFile := isFile_of_isRoot hStop
  rw [isFile_eq_false_of_leadsTo hNew hLeads] at hFile
  cases hFile

theorem read_withFile_of_leadsTo (hLeads : env.leadsTo new p = true) : (env.withFile new t).read p = .ok t :=
  FileTree.read_of_entry (FileTree.entry_put_of_leads (FileTree.not_hasDirectory_of_found? hNew) (leadsTo_iff.1 hLeads))
    rfl

theorem agreesAt_withFile (hLeads : env.leadsTo new p = false) : (env.withFile new t).AgreesAt env p := by
  have hElsewhere : env.files.locate env.cwd p ≠ .ok new := fun h => by simp [leadsTo_iff.2 h] at hLeads
  refine agreesAt_of_entry_iff fun e => ?_
  exact FileTree.entry_put_iff_of_not_leads (FileTree.not_hasDirectory_of_found? hNew) hElsewhere

theorem isFile_withFile : (env.withFile new t).isFile p = (env.leadsTo new p || env.isFile p) := by
  cases hLeads : env.leadsTo new p with
  | true =>
    have hFree := FileTree.not_hasDirectory_of_found? hNew
    exact FileTree.isFile_iff.2 ⟨_, _, FileTree.entry_put_of_leads hFree (leadsTo_iff.1 hLeads)⟩
  | false => exact (agreesAt_withFile hNew hLeads).isFile_eq

variable (hText : SettingsFile.ofText t = .ok {})

include hText

theorem settings_withFile_of_leadsTo (hLeads : env.leadsTo new p = true) : (env.withFile new t).settings p = .ok {} := by
  rw [settings, read_withFile_of_leadsTo hNew hLeads]
  simp only [SettingsFile.ofSource, hText]
  rfl

/-- The new file is no root, and no other file becomes one or ceases to be one. -/
theorem isRoot_withFile : (env.withFile new t).isRoot p = env.isRoot p := by
  cases hLeads : env.leadsTo new p with
  | true =>
    rw [isRoot_eq_false_of_leadsTo hNew hLeads, isRoot, settingsAt?, read_withFile_of_leadsTo hNew hLeads]
    simp only [hText]
    rfl
  | false => exact (agreesAt_withFile hNew hLeads).isRoot_eq

/-! ### What is found -/

private theorem filter_localFiles_withFile :
    ((env.withFile new t).localFiles directory).filter (fun p => !env.leadsTo new p) = env.localFiles directory := by
  have hRoots : (env.withFile new t).isRoot = env.isRoot := funext fun p => isRoot_withFile hNew hText
  have hNoRoot : ∀ p, (!env.leadsTo new p) = false → env.isRoot p = false := by
    intro p hLeads
    exact isRoot_eq_false_of_leadsTo hNew (by simpa using hLeads)
  have hFiles : ((env.withFile new t).filesAmong directory.ancestors).filter (fun p => !env.leadsTo new p) =
      env.filesAmong directory.ancestors := by
    rw [filesAmong, filesAmong, List.filter_filter]
    apply List.filter_congr
    intro p _
    rw [isFile_withFile hNew]
    cases hLeads : env.leadsTo new p with
    | true => simp [isFile_eq_false_of_leadsTo hNew hLeads]
    | false => simp
  rw [localFiles, localFiles, hRoots, filter_throughFirst hNoRoot, hFiles]

/-- The new files on the way up are neither roots nor the one in the home directory, when that has been there. -/
private theorem localFiles_withFile_leave_global (hGlobal : env.isFile env.globalPath = true)
    (hElsewhere : env.leadsTo new env.globalPath = false) :
    (∀ p ∈ (env.withFile new t).localFiles directory,
        (env.withFile new t).isRoot p = false ∧ (env.withFile new t).isGlobalPath p = false) ↔
      ∀ p ∈ env.localFiles directory, env.isRoot p = false ∧ env.isGlobalPath p = false := by
  have hSameGlobal : ∀ p, (env.withFile new t).isGlobalPath p = env.isGlobalPath p := fun p => rfl
  simp only [← filter_localFiles_withFile hNew hText, List.mem_filter, Bool.not_eq_true', isRoot_withFile hNew hText,
    hSameGlobal]
  constructor
  · intro h p hp
    exact h p hp.1
  · intro h p hp
    cases hLeads : env.leadsTo new p with
    | false => exact h p ⟨hp, hLeads⟩
    | true =>
      refine ⟨isRoot_eq_false_of_leadsTo hNew hLeads, Bool.eq_false_iff.2 fun hSame => ?_⟩
      rw [isGlobalPath_of_isFile hGlobal] at hSame
      rw [leadsTo_of_same hSame hLeads hGlobal] at hElsewhere
      cases hElsewhere

/-- Without the paths that lead to the new file, the files that are found are those that have been found before. -/
theorem discover_withFile : env.discover directory =
    ((env.withFile new t).discover directory).filter fun p => !env.leadsTo new p := by
  rw [discover_eq, discover_eq, List.filter_append, filter_localFiles_withFile hNew hText]
  congr 1
  have hSameGlobal : (env.withFile new t).globalPath = env.globalPath := rfl
  rw [hSameGlobal, isFile_withFile hNew]
  cases hLeads : env.leadsTo new env.globalPath with
  | true =>
    -- the new file is the one in the home directory
    rw [isFile_eq_false_of_leadsTo hNew hLeads, if_neg fun h => Bool.false_ne_true h.2]
    split <;> simp [hLeads]
  | false =>
    cases hGlobal : env.isFile env.globalPath with
    | false => simp
    | true =>
      rw [Bool.false_or]
      simp only [localFiles_withFile_leave_global hNew hText hGlobal hLeads, and_true]
      split <;> simp [hLeads]

end

end Environment

/-! ### What is in force -/

namespace Configuration

/-- The options of settings files that are laid over each other, or the error of the first that cannot be used. -/
def stackedAt (env : Environment) (paths : List Path) : Except ConfigurationError Options :=
  (ofPaths env paths).map (·.options)

variable {env after : Environment} {p : Path} {paths : List Path}

theorem stackedAt_cons_of_ok {f : SettingsFile} (h : env.settings p = .ok f) (paths : List Path) :
    stackedAt env (p :: paths) = (stackedAt env paths).map (overlay ⟨p, f⟩) := by
  have hSources : ∀ l, stackedAt env l = (sourcesAt env l).map (·.foldr overlay {}) := by
    intro l
    cases hAt : sourcesAt env l with
    | error e =>
      have hPaths : ofPaths env l = .error e := congrArg (Except.map merge) hAt
      rw [stackedAt, hPaths]
      rfl
    | ok sources =>
      have hPaths : ofPaths env l = .ok (merge sources) := congrArg (Except.map merge) hAt
      rw [stackedAt, hPaths]
      rfl
  rw [hSources, hSources, sourcesAt_cons_of_ok h]
  cases sourcesAt env paths <;> rfl

theorem stackedAt_cons_of_error {e : ConfigurationError} (h : env.settings p = .error e) (paths : List Path) :
    stackedAt env (p :: paths) = .error e := by
  have hPaths : ofPaths env (p :: paths) = .error e := congrArg (Except.map merge) (sourcesAt_cons_of_error h paths)
  rw [stackedAt, hPaths]
  rfl

/-- Files that set nothing can be left out. -/
theorem stackedAt_filter {keep : Path → Bool} (hKept : ∀ p ∈ paths, keep p = true → after.settings p = env.settings p)
    (hDropped : ∀ p ∈ paths, keep p = false → after.settings p = .ok {}) :
    stackedAt after paths = stackedAt env (paths.filter keep) := by
  induction paths with
  | nil => rfl
  | cons p paths ih =>
    have hRest : stackedAt after paths = stackedAt env (paths.filter keep) := by
      refine ih (fun q hq => hKept q (List.mem_cons_of_mem p hq)) fun q hq => hDropped q (List.mem_cons_of_mem p hq)
    cases hKeep : keep p with
    | true =>
      have hSame := hKept p List.mem_cons_self hKeep
      rw [List.filter_cons_of_pos hKeep]
      cases hSettings : env.settings p with
      | error e => rw [stackedAt_cons_of_error (hSame.trans hSettings), stackedAt_cons_of_error hSettings]
      | ok f => rw [stackedAt_cons_of_ok (hSame.trans hSettings), stackedAt_cons_of_ok hSettings, hRest]
    | false =>
      have hNothing := hDropped p List.mem_cons_self hKeep
      have hId : overlay ⟨p, {}⟩ = id := rfl
      rw [List.filter_cons_of_neg (by simp [hKeep]), stackedAt_cons_of_ok hNothing, hRest, hId]
      cases stackedAt env (paths.filter keep) <;> rfl

end Configuration

/-- The options in force stay the same, and so does the error when there are none. -/
theorem Environment.options_load_withFile {env : Environment} {new : Location} {t : Text}
    (hNew : env.files.found? new = none) (hText : SettingsFile.ofText t = .ok {}) (directory : Path) :
    (Configuration.load (env.withFile new t) directory).map (·.options) =
      (Configuration.load env directory).map (·.options) := by
  have hDiscover : env.discover directory =
      ((env.withFile new t).discover directory).filter fun p => !env.leadsTo new p := discover_withFile hNew hText
  have hKept : ∀ p ∈ (env.withFile new t).discover directory, (!env.leadsTo new p) = true →
      (env.withFile new t).settings p = env.settings p := by
    intro p hp hKeep
    have hLeads : env.leadsTo new p = false := by simpa using hKeep
    exact (agreesAt_withFile hNew hLeads).settings_eq (isFile_of_mem_discover hp)
  have hDropped : ∀ p ∈ (env.withFile new t).discover directory, (!env.leadsTo new p) = false →
      (env.withFile new t).settings p = .ok {} := by
    intro p _ hDrop
    exact settings_withFile_of_leadsTo hNew hText (by simpa using hDrop)
  have hStacked := Configuration.stackedAt_filter hKept hDropped
  rw [← hDiscover] at hStacked
  exact hStacked

end TextQuery
