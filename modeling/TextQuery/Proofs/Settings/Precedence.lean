import TextQuery.Command.Arguments
import TextQuery.Proofs.Settings.Discovery
import TextQuery.Settings.Configuration

/-!
# Which settings are in force

Every setting has the value of the first settings file that gives one, whatever the other settings are, and is on when no
file does (`get_merge`).  A configuration can be loaded when all its files can be used; otherwise the first that cannot be
used is reported (`load_cases`).  Flags come in front of all files (`options_in_force`).
-/

namespace TextQuery

/-- The settings: the matching options by their names. -/
inductive Setting where
  | ignoreCase
  | ignoreAccents
  | wholeWords
  deriving DecidableEq, Repr

/-- The value of a setting. -/
def Options.get (o : Options) : Setting → Bool
  | .ignoreCase => o.ignoreCase
  | .ignoreAccents => o.ignoreAccents
  | .wholeWords => o.wholeWords

/-- The value given for a setting, if there is one. -/
def PartialOptions.get? (given : PartialOptions) : Setting → Option Bool
  | .ignoreCase => given.ignoreCase
  | .ignoreAccents => given.ignoreAccents
  | .wholeWords => given.wholeWords

/-- The value that a settings file gives for a setting, if it gives one. -/
def SettingsFile.get? (f : SettingsFile) (s : Setting) : Option Bool := f.matching.bind (·.get? s)

/-- The value that the settings file at a path gives for a setting, if it can be used and gives one. -/
def Environment.setting? (env : Environment) (s : Setting) (p : Path) : Option Bool :=
  (env.settingsAt? p).bind (·.get? s)

/-- The value that flags give for a setting, if they give one.  Letter case can be told apart or ignored; accents can only
be kept, and words only be left. -/
def MatchFlags.get? (f : MatchFlags) : Setting → Option Bool
  | .ignoreCase => if f.caseSensitive then some false else if f.ignoreCase then some true else none
  | .ignoreAccents => if f.keepAccents then some false else none
  | .wholeWords => if f.substring then some false else none

variable {s : Setting} {o : Options}

theorem PartialOptions.get_override (given : PartialOptions) :
    (given.override o).get s = (given.get? s).getD (o.get s) := by
  cases s <;> rfl

theorem MatchFlags.get_override (f : MatchFlags) : (f.override o).get s = (f.get? s).getD (o.get s) := by
  obtain ⟨caseSensitive, ignoreCase, keepAccents, substring⟩ := f
  cases s with
  | ignoreCase => cases caseSensitive <;> cases ignoreCase <;> rfl
  | ignoreAccents => cases keepAccents <;> simp [override, Options.get, get?]
  | wholeWords => cases substring <;> simp [override, Options.get, get?]

/-! ### One file over another -/

namespace Configuration

theorem get_overlay (f : SourcedSettings) : (overlay f o).get s = (f.settings.get? s).getD (o.get s) := by
  unfold overlay SettingsFile.get?
  cases f.settings.matching with
  | none => rfl
  | some given => exact given.get_override

private theorem get_foldr_overlay (sources : List SourcedSettings) :
    (sources.foldr overlay o).get s = (sources.findSome? (·.settings.get? s)).getD (o.get s) := by
  induction sources with
  | nil => rfl
  | cons f sources ih =>
    rw [List.foldr_cons, get_overlay, ih, List.findSome?_cons]
    cases f.settings.get? s <;> rfl

/-- A setting has the value of the first file that gives one, and is on when none does. -/
theorem get_merge (sources : List SourcedSettings) :
    (merge sources).options.get s = (sources.findSome? (·.settings.get? s)).getD true := by
  have hDefault : ({} : Options).get s = true := by cases s <;> rfl
  rw [merge, get_foldr_overlay, hDefault]

end Configuration

/-! ### One file after another -/

namespace Environment

variable {env : Environment} {p : Path}

/-- Whether there is a text at a path, and it is a settings file. -/
def Usable (env : Environment) (p : Path) : Prop := ∃ t f, env.read p = .ok t ∧ SettingsFile.ofText t = .ok f

/-- Whether an error tells why the settings file at a path cannot be used. -/
def Unusable (env : Environment) (p : Path) (e : ConfigurationError) : Prop :=
  (∃ cause, env.read p = .error cause ∧ e = .unreadable p cause) ∨
    ∃ t fault, env.read p = .ok t ∧ SettingsFile.ofText t = .error fault ∧ e = .malformed p fault

theorem Usable.not_unusable {e : ConfigurationError} (h : env.Usable p) : ¬ env.Unusable p e := by
  obtain ⟨t, f, hRead, hText⟩ := h
  rintro (⟨cause, hRead', -⟩ | ⟨t', fault, hRead', hText', -⟩)
  · rw [hRead] at hRead'
    cases hRead'
  · rw [hRead] at hRead'
    cases hRead'
    rw [hText] at hText'
    cases hText'

/-- A settings file is used, with what it says, or there is an error. -/
theorem settings_cases (env : Environment) (p : Path) :
    (∃ f, env.settings p = .ok f ∧ env.Usable p ∧ ∀ s, f.get? s = env.setting? s p) ∨
      ∃ e, env.settings p = .error e ∧ env.Unusable p e := by
  unfold settings setting? settingsAt? SettingsFile.ofSource
  cases hRead : env.read p with
  | error cause => exact .inr ⟨_, rfl, .inl ⟨cause, hRead, rfl⟩⟩
  | ok t =>
    cases hText : SettingsFile.ofText t with
    | error fault => exact .inr ⟨_, by simp [hText, Except.mapError], .inr ⟨t, fault, hRead, hText, rfl⟩⟩
    | ok f =>
      exact .inl ⟨f, by simp [hText, Except.mapError], ⟨t, f, hRead, hText⟩, fun s => by simp [hText, Except.toOption]⟩

end Environment

namespace Configuration

/-- The settings files at some paths, as far as they can be used. -/
def sourcesAt (env : Environment) (paths : List Path) : Except ConfigurationError (List SourcedSettings) :=
  paths.mapM fun path => return ⟨path, ← env.settings path⟩

theorem sourcesAt_cons_of_ok {env : Environment} {p : Path} {f : SettingsFile} (h : env.settings p = .ok f)
    (paths : List Path) : sourcesAt env (p :: paths) = (sourcesAt env paths).map (⟨p, f⟩ :: ·) := by
  unfold sourcesAt
  rw [List.mapM_cons, h]
  rfl

theorem sourcesAt_cons_of_error {env : Environment} {p : Path} {e : ConfigurationError}
    (h : env.settings p = .error e) (paths : List Path) : sourcesAt env (p :: paths) = .error e := by
  unfold sourcesAt
  rw [List.mapM_cons, h]
  rfl

/-- All files are used, each with its path, or the first that cannot be used is reported. -/
theorem sourcesAt_cases (env : Environment) (paths : List Path) :
    ((∀ p ∈ paths, env.Usable p) ∧ ∃ sources, sourcesAt env paths = .ok sources ∧ sources.map (·.path) = paths ∧
      ∀ s, sources.findSome? (·.settings.get? s) = paths.findSome? (env.setting? s)) ∨
    ∃ front p behind e, paths = front ++ p :: behind ∧ (∀ q ∈ front, env.Usable q) ∧ env.Unusable p e ∧
      sourcesAt env paths = .error e := by
  induction paths with
  | nil => exact .inl ⟨List.forall_mem_nil _, [], rfl, rfl, fun _ => rfl⟩
  | cons p paths ih =>
    rcases env.settings_cases p with ⟨f, hSettings, hUsable, hGet⟩ | ⟨e, hSettings, hUnusable⟩
    · rcases ih with ⟨hAll, sources, hSources, hPaths, hFirst⟩ | ⟨front, q, behind, e, hSplit, hFront, hUnusable, hSources⟩
      · refine .inl ⟨List.forall_mem_cons.2 ⟨hUsable, hAll⟩, ⟨p, f⟩ :: sources, ?_, ?_, fun s => ?_⟩
        · rw [sourcesAt_cons_of_ok hSettings, hSources]
          rfl
        · rw [List.map_cons, hPaths]
        · rw [List.findSome?_cons, List.findSome?_cons, hGet, hFirst]
      · refine .inr ⟨p :: front, q, behind, e, ?_, List.forall_mem_cons.2 ⟨hUsable, hFront⟩, hUnusable, ?_⟩
        · rw [hSplit, List.cons_append]
        · rw [sourcesAt_cons_of_ok hSettings, hSources]
          rfl
    · exact .inr ⟨[], p, paths, e, rfl, List.forall_mem_nil _, hUnusable, sourcesAt_cons_of_error hSettings paths⟩

/-- What configuration there is for a directory.  When all the files that are found can be used, its sources are those
files, and each setting has the value of the first of them that gives one, and is on when none does.  Otherwise the first
file that cannot be used is reported. -/
theorem load_cases (env : Environment) (directory : Path) :
    ((∀ p ∈ env.discover directory, env.Usable p) ∧ ∃ c, load env directory = .ok c ∧
      c.sources = env.discover directory ∧
      ∀ s, c.options.get s = ((env.discover directory).findSome? (env.setting? s)).getD true) ∨
    ∃ front p behind e, env.discover directory = front ++ p :: behind ∧ (∀ q ∈ front, env.Usable q) ∧
      env.Unusable p e ∧ load env directory = .error e := by
  have hLoad : load env directory = (sourcesAt env (env.discover directory)).map merge := rfl
  rw [hLoad]
  rcases sourcesAt_cases env (env.discover directory) with
    ⟨hAll, sources, hSources, hPaths, hFirst⟩ | ⟨front, p, behind, e, hSplit, hFront, hUnusable, hSources⟩
  · rw [hSources]
    exact .inl ⟨hAll, merge sources, rfl, hPaths, fun s => by rw [get_merge, hFirst]⟩
  · rw [hSources]
    exact .inr ⟨front, p, behind, e, hSplit, hFront, hUnusable, rfl⟩

end Configuration

/-- Which settings are in force.  There is a configuration exactly when all the settings files that are found can be used.
Its sources are those files.  Each setting has the value of the first of them that gives one, whatever the other settings
are, and is on when none does; flags come in front of all files.  When there is no configuration, the first file that
cannot be used is reported. -/
theorem options_in_force (env : Environment) (directory : Path) :
    ((∃ c, Configuration.load env directory = .ok c) ↔ ∀ p ∈ env.discover directory, env.Usable p) ∧
    (∀ c, Configuration.load env directory = .ok c → c.sources = env.discover directory ∧ ∀ s,
      c.options.get s = ((env.discover directory).findSome? (env.setting? s)).getD true ∧
      ∀ flags : MatchFlags, (flags.override c.options).get s = (flags.get? s).getD (c.options.get s)) ∧
    ∀ e, Configuration.load env directory = .error e → ∃ front p behind,
      env.discover directory = front ++ p :: behind ∧ (∀ q ∈ front, env.Usable q) ∧ env.Unusable p e := by
  rcases Configuration.load_cases env directory with
    ⟨hAll, c, hLoad, hSources, hOptions⟩ | ⟨front, p, behind, e, hSplit, hFront, hUnusable, hLoad⟩
  · rw [hLoad]
    refine ⟨iff_of_true ⟨c, rfl⟩ hAll, ?_, fun e h => nomatch h⟩
    rintro _ ⟨⟩
    exact ⟨hSources, fun s => ⟨hOptions s, fun flags => flags.get_override⟩⟩
  · rw [hLoad]
    refine ⟨iff_of_false (fun ⟨c, h⟩ => nomatch h) fun hAll => ?_, (fun c h => nomatch h), ?_⟩
    · exact (hAll p (by simp [hSplit])).not_unusable hUnusable
    · rintro _ ⟨⟩
      exact ⟨front, p, behind, hSplit, hFront, hUnusable⟩

/-- The near file gives the letter case, the far one the words, and a flag the accents.  When the far file is malformed,
the near one does not help. -/
theorem options_in_force_of_nested_files :
    (∃ (env : Environment) (directory : Path) (c : Configuration), Configuration.load env directory = .ok c ∧
      c.sources = [Path.ofText "/w/a/.sift.toml".toList, Path.ofText "/w/.sift.toml".toList] ∧
      c.options = ⟨false, true, false⟩ ∧
      (MatchFlags.override { keepAccents := true } c.options).get .ignoreAccents = false) ∧
    ∃ (env : Environment) (directory : Path) (e : ConfigurationError), Configuration.load env directory = .error e ∧
      e = .malformed (Path.ofText "/w/.sift.toml".toList) .malformed ∧ ∃ front p behind,
        env.discover directory = front ++ p :: behind ∧ (∀ q ∈ front, env.Usable q) ∧ env.Unusable p e := by
  let near := "[matching]\nignore_case = false\n".toList
  let far := "[matching]\nignore_case = true\nwhole_words = false\n".toList
  let treeOf (far : Text) : FileTree :=
    .ofFiles [(["w".toList, "a".toList, Environment.settingsName], near), (["w".toList, Environment.settingsName], far)]
  let directory := Path.ofText "/w/a".toList
  let env : Environment := ⟨treeOf far, [], Path.ofText "/h".toList⟩
  let broken : Environment := ⟨treeOf "root = 1\n".toList, [], Path.ofText "/h".toList⟩
  constructor
  · have hLoad : Configuration.load env directory = .ok ⟨⟨false, true, false⟩,
        [Path.ofText "/w/a/.sift.toml".toList, Path.ofText "/w/.sift.toml".toList]⟩ := by decide +kernel
    have hOptions := (options_in_force env directory).2.1 _ hLoad
    refine ⟨env, directory, _, hLoad, rfl, rfl, ?_⟩
    rw [(hOptions.2 .ignoreAccents).2]
    rfl
  · have hLoad : Configuration.load broken directory =
        .error (.malformed (Path.ofText "/w/.sift.toml".toList) .malformed) := by decide +kernel
    exact ⟨broken, directory, _, hLoad, rfl, (options_in_force broken directory).2.2 _ hLoad⟩

end TextQuery
