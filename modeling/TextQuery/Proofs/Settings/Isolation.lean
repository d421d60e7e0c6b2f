import TextQuery.Proofs.Settings.Precedence

/-!
# What a root keeps out

The search for settings files ends at a root (`discover_of_root`).  So what is found, and what is loaded, depends on
nothing but the settings files as far as that root: neither on those above it nor on the one in the home directory
(`root_isolates`).
-/

namespace TextQuery

namespace Environment

variable {env other : Environment} {directory root p : Path} {directories below above : List Path}

/-! ### The same file -/

/-- Whether a path leads to a file in two environments or in neither, and what can be read there is the same. -/
structure AgreesAt (env other : Environment) (p : Path) : Prop where
  isFile_eq : env.isFile p = other.isFile p
  read_eq : env.isFile p = true → env.read p = other.read p

theorem agreesAt_of_entry_iff
    (h : ∀ e, env.files.entry env.cwd p = .ok e ↔ other.files.entry other.cwd p = .ok e) : env.AgreesAt other p := by
  constructor
  · rw [Bool.eq_iff_iff, isFile, isFile, FileTree.isFile_iff, FileTree.isFile_iff]
    simp only [h]
  · intro hFile
    obtain ⟨c, access, hEntry⟩ := FileTree.isFile_iff.1 hFile
    rw [read, read, FileTree.read, FileTree.read, hEntry, (h _).1 hEntry]

theorem AgreesAt.isRoot_eq (h : env.AgreesAt other p) : env.isRoot p = other.isRoot p := by
  cases hFile : env.isFile p with
  | true => rw [isRoot, isRoot, settingsAt?, settingsAt?, h.read_eq hFile]
  | false =>
    -- a root is a file
    have hNoRoot {e : Environment} (hNoFile : e.isFile p = false) : e.isRoot p = false := by
      rw [Bool.eq_false_iff]
      intro hRoot
      cases hNoFile.symm.trans (isFile_of_isRoot hRoot)
    rw [hNoRoot hFile, hNoRoot (h.isFile_eq ▸ hFile)]

theorem AgreesAt.settings_eq (h : env.AgreesAt other p) (hFile : env.isFile p = true) :
    env.settings p = other.settings p := by
  rw [settings, settings, h.read_eq hFile]

/-! ### As far as the root -/

theorem filesAmong_congr (h : ∀ d ∈ directories, env.AgreesAt other (d.child settingsName)) :
    env.filesAmong directories = other.filesAmong directories := by
  apply List.filter_congr
  intro p hp
  obtain ⟨d, hd, rfl⟩ := List.mem_map.1 hp
  exact (h d hd).isFile_eq

/-- Whatever lies above a root, only the files as far as the root are found. -/
theorem discover_of_root (hAncestors : directory.ancestors = below ++ root :: above)
    (hRoot : env.isRoot (root.child settingsName) = true) :
    env.discover directory = throughFirst env.isRoot (env.filesAmong (below ++ [root])) := by
  have hMem : root.child settingsName ∈ env.filesAmong (below ++ [root]) := by
    simp [filesAmong, isFile_of_isRoot hRoot]
  have hLocal : env.localFiles directory = throughFirst env.isRoot (env.filesAmong (below ++ [root])) := by
    rw [localFiles, hAncestors, List.append_cons, filesAmong_append, throughFirst_append_of_mem hMem hRoot]
  have hMet : ¬ ∀ p ∈ env.localFiles directory, env.isRoot p = false ∧ env.isGlobalPath p = false := by
    intro hNone
    have hAny : (env.localFiles directory).any env.isRoot = true := by
      rw [hLocal, any_throughFirst]
      exact List.any_eq_true.2 ⟨_, hMem, hRoot⟩
    obtain ⟨p, hp, hStop⟩ := List.any_eq_true.1 hAny
    rw [(hNone p hp).1] at hStop
    cases hStop
  rw [discover_eq, if_neg fun h => hMet h.1, List.append_nil, hLocal]

end Environment

/-! ### The same configuration -/

theorem Configuration.ofPaths_congr {env other : Environment} {paths : List Path}
    (h : ∀ p ∈ paths, env.settings p = other.settings p) : ofPaths env paths = ofPaths other paths := by
  have hSources : sourcesAt env paths = sourcesAt other paths := by
    induction paths with
    | nil => rfl
    | cons p paths ih =>
      have hFirst := h p List.mem_cons_self
      have hRest := ih fun q hq => h q (List.mem_cons_of_mem p hq)
      cases hSettings : env.settings p with
      | error e => rw [sourcesAt_cons_of_error hSettings, sourcesAt_cons_of_error (hFirst ▸ hSettings)]
      | ok f => rw [sourcesAt_cons_of_ok hSettings, sourcesAt_cons_of_ok (hFirst ▸ hSettings), hRest]
  exact congrArg (Except.map merge) hSources

namespace Environment

/-- A root isolates what lies below it.  Two environments that have the same settings files from a directory up to one that
is a root, that one included, find the same files and load the same configuration or report the same error; all the files
are among these.  What lies above the root may differ in any way, and so may the home directory and the file in it. -/
theorem root_isolates {env other : Environment} {directory root : Path} {below above : List Path}
    (hAncestors : directory.ancestors = below ++ root :: above)
    (hRoot : env.isRoot (root.child settingsName) = true)
    (hAgree : ∀ d ∈ below ++ [root], env.AgreesAt other (d.child settingsName)) :
    env.discover directory = other.discover directory ∧
      Configuration.load env directory = Configuration.load other directory ∧
      ∀ p ∈ env.discover directory, ∃ d ∈ below ++ [root], p = d.child settingsName := by
  have hRoot' : other.isRoot (root.child settingsName) = true := by
    rw [← (hAgree root (by simp)).isRoot_eq, hRoot]
  have hFound : ∀ p ∈ env.filesAmong (below ++ [root]),
      env.isFile p = true ∧ ∃ d ∈ below ++ [root], p = d.child settingsName := by
    intro p hp
    obtain ⟨hPath, hFile⟩ := List.mem_filter.1 hp
    obtain ⟨d, hd, rfl⟩ := List.mem_map.1 hPath
    exact ⟨hFile, d, hd, rfl⟩
  have hDiscover : env.discover directory = other.discover directory := by
    rw [discover_of_root hAncestors hRoot, discover_of_root hAncestors hRoot', ← filesAmong_congr hAgree]
    apply throughFirst_congr
    intro p hp
    obtain ⟨-, d, hd, rfl⟩ := hFound p hp
    exact (hAgree d hd).isRoot_eq
  have hAmong : ∀ p ∈ env.discover directory, p ∈ env.filesAmong (below ++ [root]) := by
    rw [discover_of_root hAncestors hRoot]
    exact (isPrefix_throughFirst _ _).subset
  refine ⟨hDiscover, ?_, fun p hp => (hFound p (hAmong p hp)).2⟩
  rw [Configuration.load, Configuration.load, ← hDiscover]
  apply Configuration.ofPaths_congr
  intro p hp
  obtain ⟨hFile, d, hd, rfl⟩ := hFound p (hAmong p hp)
  exact (hAgree d hd).settings_eq hFile

/-- Above the root a file is malformed, and so is the one in the home directory of one of the environments.  Without them the
configuration can be loaded, and so it can be with them. -/
theorem root_isolates_from_malformed : ∃ (env other : Environment) (directory : Path) (c : Configuration),
    other.isFile other.globalPath = true ∧ ¬ other.Usable other.globalPath ∧
    ¬ other.Usable (Path.ofText "/.sift.toml".toList) ∧ env.isFile env.globalPath = false ∧
    Configuration.load env directory = .ok c ∧ Configuration.load other directory = .ok c ∧
    c.sources = [Path.ofText "/w/a/.sift.toml".toList, Path.ofText "/w/.sift.toml".toList] := by
  let near : Location × Text := (["w".toList, "a".toList, settingsName], "[matching]\nignore_case = false\n".toList)
  let far : Location × Text := (["w".toList, settingsName], "root = true\n".toList)
  let broken := "root = [".toList
  let env : Environment := ⟨.ofFiles [near, far], [], Path.ofText "/g".toList⟩
  let other : Environment := ⟨.ofFiles [near, far, ([settingsName], broken), (["h".toList, settingsName], broken)],
    ["h".toList], Path.ofText "/h".toList⟩
  let directory := Path.ofText "/w/a".toList
  have hAncestors : directory.ancestors =
      [directory] ++ Path.ofText "/w".toList :: [⟨.root, []⟩] := by
    have hParent : directory.parent? = some (Path.ofText "/w".toList) := by decide
    have hTop : (Path.ofText "/w".toList).parent? = some ⟨.root, []⟩ := by decide
    rw [Path.ancestors_of_some hParent, Path.ancestors_of_some hTop, Path.ancestors_of_none rfl]
    rfl
  have hRoot : env.isRoot ((Path.ofText "/w".toList).child settingsName) = true := by decide +kernel
  have hAgree : ∀ d ∈ [directory] ++ [Path.ofText "/w".toList], env.AgreesAt other (d.child settingsName) := by
    intro d hd
    have hEntry : env.files.entry env.cwd (d.child settingsName) = other.files.entry other.cwd (d.child settingsName) := by
      rcases List.mem_cons.1 hd with rfl | hd
      · decide
      · rw [List.mem_singleton.1 hd]
        decide
    exact agreesAt_of_entry_iff fun e => by rw [hEntry]
  have hMalformed : ∀ p, other.settings p = .error (.malformed p .malformed) → ¬ other.Usable p := by
    intro p hSettings hUsable
    rcases other.settings_cases p with ⟨f, hOk, -⟩ | ⟨e, -, hUnusable⟩
    · rw [hSettings] at hOk
      cases hOk
    · exact hUsable.not_unusable hUnusable
  have hLoad : Configuration.load env directory = .ok ⟨⟨false, true, true⟩,
      [Path.ofText "/w/a/.sift.toml".toList, Path.ofText "/w/.sift.toml".toList]⟩ := by decide +kernel
  have hSame := (root_isolates hAncestors hRoot hAgree).2.1
  exact ⟨env, other, directory, _, by decide, hMalformed _ (by decide), hMalformed _ (by decide),
    by decide, hLoad, hSame ▸ hLoad, rfl⟩

end Environment

end TextQuery
