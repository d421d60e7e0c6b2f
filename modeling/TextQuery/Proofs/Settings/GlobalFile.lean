import TextQuery.Proofs.Settings.Precedence

/-!
# Where the settings file in the home directory stands

The settings file in the home directory is found in one of two ways: behind all others, or on the way up.  It comes last
exactly when the way up does not lead through the home directory to further files (`globalPath_last_iff`).  For that the
home directory has to lie above, so its names have to be the first names of the directory
(`HasFilesAboveHome.names_home`).
-/

namespace TextQuery.Environment

variable {env : Environment} {directory p q : Path} {front behind : List Path}

/-- Whether the way up leads through the settings file in the home directory to further ones, with no root before them. -/
def HasFilesAboveHome (env : Environment) (directory : Path) : Prop :=
  ∃ below home above, directory.ancestors = below ++ home :: above ∧ env.home.any home.same = true ∧
    env.isFile (home.child settingsName) = true ∧ (∀ p ∈ env.filesAmong (below ++ [home]), env.isRoot p = false) ∧
    env.filesAmong above ≠ []

/-- The home directory lies above, unless the way up ends in the empty path behind a leading dot. -/
theorem HasFilesAboveHome.names_home (h : env.HasFilesAboveHome directory) :
    ∃ home, env.home = some home ∧ ((home.anchor = directory.anchor ∧ home.names <+: directory.names) ∨
      (directory.anchor = .here ∧ home.anchor = .relative ∧ home.names = [])) := by
  obtain ⟨below, d, above, hAncestors, hHome, -⟩ := h
  obtain ⟨home, hSome, hSame⟩ := (Option.any_eq_true _ _).1 hHome
  exact ⟨home, hSome, Path.exists_mem_ancestors_iff.1 ⟨d, by simp [hAncestors], hSame⟩⟩

/-- A settings file lies in a directory of its own, and the others in the directories around that one. -/
theorem exists_of_filesAmong_eq {directories : List Path} (h : env.filesAmong directories = front ++ p :: behind) :
    ∃ below d above, directories = below ++ d :: above ∧ env.filesAmong below = front ∧ d.child settingsName = p ∧
      env.isFile p = true ∧ env.filesAmong above = behind := by
  induction directories generalizing front with
  | nil => simp [filesAmong] at h
  | cons d rest ih =>
    cases hFile : env.isFile (d.child settingsName) with
    | true =>
      rw [filesAmong_cons_of_isFile hFile] at h
      cases front with
      | nil =>
        obtain ⟨hFirst, hRest⟩ := List.cons.inj h
        exact ⟨[], d, rest, rfl, rfl, hFirst, hFirst ▸ hFile, hRest⟩
      | cons first front =>
        obtain ⟨hFirst, hRest⟩ := List.cons.inj h
        obtain ⟨below, e, above, rfl, hBelow, hAround⟩ := ih hRest
        refine ⟨d :: below, e, above, rfl, ?_, hAround⟩
        rw [filesAmong_cons_of_isFile hFile, hBelow, hFirst]
    | false =>
      rw [filesAmong_cons_of_not_isFile hFile] at h
      obtain ⟨below, e, above, rfl, hBelow, hAround⟩ := ih h
      refine ⟨d :: below, e, above, rfl, ?_, hAround⟩
      rw [filesAmong_cons_of_not_isFile hFile, hBelow]

/-! ### The place of the file -/

theorem isGlobalPath_child_iff : env.isGlobalPath (p.child settingsName) = true ↔ env.home.any p.same = true := by
  rw [isGlobalPath, globalPath?, Option.any_map]
  cases env.home with
  | none => rfl
  | some home => exact Path.same_child_iff isName_settingsName

theorem same_of_isGlobalPath (hp : env.isGlobalPath p = true) (hq : env.isGlobalPath q = true) : p.same q = true := by
  obtain ⟨g, hGlobal, hSame⟩ := (Option.any_eq_true _ _).1 hp
  obtain ⟨g', hGlobal', hSame'⟩ := (Option.any_eq_true _ _).1 hq
  obtain rfl : g = g' := Option.some.inj (hGlobal.symm.trans hGlobal')
  exact Path.same_trans hSame (by rwa [Path.same_comm])

/-- Only the walk finds the file in the home directory in front of another one. -/
theorem localFiles_of_global_before (h : env.discover directory = front ++ p :: behind)
    (hGlobal : env.isGlobalPath p = true) (hBehind : behind ≠ []) :
    env.localFiles directory = front ++ p :: behind := by
  rw [discover_eq] at h
  split at h
  · rename_i hAppended
    obtain ⟨l, last, rfl⟩ := (List.eq_nil_or_concat' behind).resolve_left hBehind
    rw [← List.cons_append, ← List.append_assoc] at h
    have hLocal : env.localFiles directory = front ++ p :: l := (List.append_inj' h rfl).1
    have hNotGlobal := (hAppended.1 p (by simp [hLocal])).2
    rw [hGlobal] at hNotGlobal
    cases hNotGlobal
  · rw [← h, List.append_nil]

theorem hasFilesAboveHome_iff : env.HasFilesAboveHome directory ↔
    ∃ front p behind, env.discover directory = front ++ p :: behind ∧ env.isGlobalPath p = true ∧ behind ≠ [] := by
  constructor
  · rintro ⟨below, home, above, hAncestors, hHome, hFile, hRoots, hAbove⟩
    have hLocal : env.localFiles directory = env.filesAmong below ++ home.child settingsName ::
        throughFirst env.isRoot (env.filesAmong above) := by
      rw [localFiles, hAncestors, List.append_cons, filesAmong_append, throughFirst_append hRoots, filesAmong_append,
        filesAmong_cons_of_isFile hFile]
      simp [filesAmong]
    obtain ⟨first, rest, hRest⟩ := List.exists_cons_of_ne_nil hAbove
    rw [discover_eq, hLocal, List.append_assoc, List.cons_append]
    refine ⟨env.filesAmong below, home.child settingsName, _, rfl, isGlobalPath_child_iff.2 hHome, ?_⟩
    simp [hRest, throughFirst_cons]
  · rintro ⟨front, p, behind, hDiscover, hGlobal, hBehind⟩
    have hLocal : env.localFiles directory = (front ++ [p]) ++ behind := by
      rw [localFiles_of_global_before hDiscover hGlobal hBehind, List.append_cons]
    obtain ⟨cut, hCut⟩ := isPrefix_throughFirst env.isRoot (env.filesAmong directory.ancestors)
    have hFiles : env.filesAmong directory.ancestors = front ++ p :: (behind ++ cut) := by
      rw [← hCut, ← localFiles, hLocal]
      simp
    obtain ⟨below, home, above, hAncestors, hBelow, rfl, hFile, hAbove⟩ := exists_of_filesAmong_eq hFiles
    refine ⟨below, home, above, hAncestors, isGlobalPath_child_iff.1 hGlobal, hFile, fun q hq => ?_, by simp [hAbove, hBehind]⟩
    rw [filesAmong_append, hBelow, filesAmong_cons_of_isFile hFile] at hq
    exact stop_eq_false_of_throughFirst hLocal hBehind hq

/-- The file in the home directory is found once. -/
theorem isGlobalPath_eq_false_of_discover (h : env.discover directory = front ++ p :: behind)
    (hGlobal : env.isGlobalPath p = true) (hq : q ∈ front ++ behind) : env.isGlobalPath q = false := by
  have hOnce := env.pairwise_discover directory
  rw [h, List.pairwise_middle fun hSame => by rw [Path.same_comm, hSame], List.pairwise_cons] at hOnce
  rw [Bool.eq_false_iff]
  intro hOther
  have hSame : p.same q = true := same_of_isGlobalPath hGlobal hOther
  rw [hOnce.1 q hq] at hSame
  cases hSame

/-- The file in the home directory comes last, and every other file is laid over it, unless the way up leads through the
home directory to further files.  Those are behind it, and it is laid over them. -/
theorem globalPath_last_iff (env : Environment) (directory : Path) :
    ((∀ front p behind, env.discover directory = front ++ p :: behind → env.isGlobalPath p = true → behind = []) ↔
      ¬ env.HasFilesAboveHome directory) ∧
    ∀ front p behind, env.discover directory = front ++ p :: behind → env.isGlobalPath p = true →
      (∀ q ∈ front ++ behind, env.isGlobalPath q = false) ∧
      ∀ c, Configuration.load env directory = .ok c → ∀ s, c.options.get s =
        ((front.findSome? (env.setting? s)).or
          ((env.setting? s p).or (behind.findSome? (env.setting? s)))).getD true := by
  constructor
  · rw [hasFilesAboveHome_iff]
    simp only [not_exists, not_and, ne_eq, not_not]
  · intro front p behind hDiscover hGlobal
    refine ⟨fun q hq => isGlobalPath_eq_false_of_discover hDiscover hGlobal hq, fun c hLoad s => ?_⟩
    rcases Configuration.load_cases env directory with
      ⟨-, c', hLoad', -, hOptions⟩ | ⟨-, -, -, e, -, -, -, hLoad'⟩
    · rw [hLoad'] at hLoad
      cases hLoad
      rw [hOptions, hDiscover, List.findSome?_append, List.findSome?_cons]
      cases env.setting? s p <;> rfl
    · rw [hLoad'] at hLoad
      cases hLoad

/-- Outside the home directory the file in it is the last one, and what the working directory says counts first. -/
theorem globalPath_last_outside_home : ∃ (env : Environment) (directory : Path),
    ¬ env.HasFilesAboveHome directory ∧
    env.discover directory = [Path.ofText "/w/.sift.toml".toList] ++ Path.ofText "/h/.sift.toml".toList :: [] ∧
    env.isGlobalPath (Path.ofText "/h/.sift.toml".toList) = true ∧
    (∀ front p behind, env.discover directory = front ++ p :: behind → env.isGlobalPath p = true → behind = []) ∧
    ∃ c, Configuration.load env directory = .ok c ∧ c.options.get .ignoreCase = true ∧
      c.options.get .wholeWords = false := by
  let env : Environment := ⟨.ofFiles [(["h".toList, settingsName],
      "[matching]\nignore_case = false\nwhole_words = false\n".toList),
    (["w".toList, settingsName], "[matching]\nignore_case = true\n".toList)], [], Path.ofText "/h".toList⟩
  let directory := Path.ofText "/w".toList
  have hOutside : ¬ env.HasFilesAboveHome directory := by
    intro hAbove
    obtain ⟨home, hHome, hNames⟩ := hAbove.names_home
    obtain rfl := Option.some.inj hHome
    exact absurd hNames (by decide)
  have hDiscover : env.discover directory =
      [Path.ofText "/w/.sift.toml".toList] ++ Path.ofText "/h/.sift.toml".toList :: [] := by decide +kernel
  have hGlobal : env.isGlobalPath (Path.ofText "/h/.sift.toml".toList) = true := by decide
  have hLoad : Configuration.load env directory = .ok ⟨⟨true, true, false⟩,
      [Path.ofText "/w/.sift.toml".toList, Path.ofText "/h/.sift.toml".toList]⟩ := by decide +kernel
  have hOptions := ((env.globalPath_last_iff directory).2 _ _ _ hDiscover hGlobal).2 _ hLoad
  refine ⟨env, directory, hOutside, hDiscover, hGlobal, (env.globalPath_last_iff directory).1.2 hOutside, _, hLoad, ?_, ?_⟩
  · rw [hOptions]
    decide +kernel
  · rw [hOptions]
    decide +kernel

/-- In the home directory, with another settings file above it: both are on the way up, the one in the home directory comes
first, and its value counts against that of the other. -/
theorem globalPath_not_last_below_files : ∃ (env : Environment) (directory p q : Path) (c : Configuration),
    env.isGlobalPath p = true ∧ q ∈ env.localFiles directory ∧ env.discover directory = [p, q] ∧
    Configuration.load env directory = .ok c ∧ env.setting? .ignoreCase q = some true ∧
    c.options.get .ignoreCase = false := by
  let env : Environment := ⟨.ofFiles [(["home".toList, settingsName], "[matching]\nignore_case = false\n".toList),
    ([settingsName], "[matching]\nignore_case = true\n".toList)], [], Path.ofText "/home".toList⟩
  refine ⟨env, Path.ofText "/home".toList, Path.ofText "/home/.sift.toml".toList, Path.ofText "/.sift.toml".toList,
    ⟨⟨false, true, true⟩, [Path.ofText "/home/.sift.toml".toList, Path.ofText "/.sift.toml".toList]⟩, ?_⟩
  decide +kernel

end TextQuery.Environment
