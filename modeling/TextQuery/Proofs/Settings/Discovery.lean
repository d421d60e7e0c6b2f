import TextQuery.Proofs.Files.Path
import TextQuery.Proofs.Files.Tree
import TextQuery.Settings.Discovery

/-!
# Which settings files are found

The settings files on the way up are found as far as the first root, that one included (`localFiles`).  The file in the
home directory comes behind them when there is no root and when it is not among them (`discover_eq`).  No file is found
twice, and only the last of those on the way up can be a root (`discover_chain`).
-/

namespace TextQuery

/-! ### Cutting behind the first -/

section

variable {α : Type} {stop : α → Bool}

/-- The elements of a list as far as the first one that stops, that one included. -/
def throughFirst (stop : α → Bool) (l : List α) : List α :=
  l.takeWhile (fun a => !stop a) ++ (l.dropWhile fun a => !stop a).take 1

theorem throughFirst_cons (a : α) (l : List α) :
    throughFirst stop (a :: l) = a :: if stop a = true then [] else throughFirst stop l := by
  unfold throughFirst
  cases h : stop a <;> simp [h]

theorem isPrefix_throughFirst (stop : α → Bool) (l : List α) : throughFirst stop l <+: l := by
  unfold throughFirst
  conv => rhs; rw [← List.takeWhile_append_dropWhile (p := fun a => !stop a) (l := l)]
  exact (List.prefix_append_right_inj _).2 (List.take_prefix _ _)

/-- The first element that stops is kept, if there is one. -/
theorem any_throughFirst (stop : α → Bool) (l : List α) : (throughFirst stop l).any stop = l.any stop := by
  induction l with
  | nil => rfl
  | cons a l ih =>
    rw [throughFirst_cons, List.any_cons, List.any_cons]
    cases h : stop a <;> simp [ih]

/-- Nothing is cut off behind elements that do not stop. -/
theorem throughFirst_append {l : List α} (hl : ∀ a ∈ l, stop a = false) (m : List α) :
    throughFirst stop (l ++ m) = l ++ throughFirst stop m := by
  induction l with
  | nil => rfl
  | cons a l ih =>
    have ha : stop a = false := hl a List.mem_cons_self
    rw [List.cons_append, throughFirst_cons, ha, if_neg Bool.false_ne_true,
      ih fun b hb => hl b (List.mem_cons_of_mem a hb), List.cons_append]

/-- Everything is cut off behind elements that one stops among. -/
theorem throughFirst_append_of_mem {l : List α} {a : α} (ha : a ∈ l) (hStop : stop a = true) (m : List α) :
    throughFirst stop (l ++ m) = throughFirst stop l := by
  induction l with
  | nil => cases ha
  | cons b l ih =>
    rw [List.cons_append, throughFirst_cons, throughFirst_cons]
    by_cases hb : stop b = true
    · rw [if_pos hb, if_pos hb]
    · have hRest : a ∈ l := by
        rcases List.mem_cons.1 ha with rfl | hRest
        · exact absurd hStop hb
        · exact hRest
      rw [if_neg hb, if_neg hb, ih hRest]

theorem throughFirst_congr {stop' : α → Bool} {l : List α} (h : ∀ a ∈ l, stop a = stop' a) :
    throughFirst stop l = throughFirst stop' l := by
  induction l with
  | nil => rfl
  | cons a l ih =>
    have hRest := ih fun b hb => h b (List.mem_cons_of_mem a hb)
    rw [throughFirst_cons, throughFirst_cons, h a List.mem_cons_self, hRest]

/-- Elements that do not stop can be left out before or after the cut. -/
theorem filter_throughFirst {keep : α → Bool} (hKeep : ∀ a, keep a = false → stop a = false) (l : List α) :
    (throughFirst stop l).filter keep = throughFirst stop (l.filter keep) := by
  induction l with
  | nil => rfl
  | cons a l ih =>
    rw [throughFirst_cons]
    cases hKept : keep a with
    | true =>
      rw [List.filter_cons_of_pos hKept, List.filter_cons_of_pos hKept, throughFirst_cons]
      by_cases hStop : stop a = true
      · rw [if_pos hStop, if_pos hStop, List.filter_nil]
      · rw [if_neg hStop, if_neg hStop, ih]
    | false =>
      have hDropped : ¬ keep a = true := by simp [hKept]
      rw [List.filter_cons_of_neg hDropped, List.filter_cons_of_neg hDropped, hKeep a hKept, if_neg Bool.false_ne_true, ih]

/-- What has another element behind it does not stop. -/
theorem stop_eq_false_of_throughFirst {l front behind : List α} (h : throughFirst stop l = front ++ behind)
    (hBehind : behind ≠ []) {a : α} (ha : a ∈ front) : stop a = false := by
  induction l generalizing front with
  | nil =>
    have hNil : front = [] := (List.nil_eq_append_iff.1 h).1
    rw [hNil] at ha
    cases ha
  | cons b l ih =>
    rw [throughFirst_cons] at h
    cases front with
    | nil => cases ha
    | cons c front =>
      obtain ⟨rfl, hRest⟩ := List.cons.inj h
      by_cases hStop : stop b = true
      · rw [if_pos hStop] at hRest
        exact absurd (List.nil_eq_append_iff.1 hRest).2 hBehind
      · rw [if_neg hStop] at hRest
        rcases List.mem_cons.1 ha with rfl | ha
        · exact Bool.eq_false_iff.2 hStop
        · exact ih hRest ha

end

namespace Environment

variable {env : Environment} {directory p : Path}

/-! ### The walk -/

theorem isName_settingsName : Path.isName settingsName = true := rfl

/-- The settings files in a list of directories. -/
def filesAmong (env : Environment) (directories : List Path) : List Path :=
  (directories.map (·.child settingsName)).filter env.isFile

/-- The settings files on the way up from a directory, as far as the first root. -/
def localFiles (env : Environment) (directory : Path) : List Path :=
  throughFirst env.isRoot (env.filesAmong directory.ancestors)

/-- A file is a root when its text says so. -/
theorem isRoot_iff : env.isRoot p = true ↔
    ∃ t s, env.read p = .ok t ∧ SettingsFile.ofText t = .ok s ∧ s.root = some true := by
  unfold isRoot settingsAt?
  cases hRead : env.read p with
  | error cause => simp
  | ok t => cases hText : SettingsFile.ofText t <;> simp [Except.toOption, hText]

theorem isFile_of_isRoot (h : env.isRoot p = true) : env.isFile p = true := by
  obtain ⟨t, -, hRead, -⟩ := isRoot_iff.1 h
  obtain ⟨access, hEntry, -⟩ := FileTree.read_eq_ok_iff.1 hRead
  exact FileTree.isFile_iff.2 ⟨.text t, access, hEntry⟩

theorem filesAmong_cons_of_isFile (h : env.isFile (p.child settingsName) = true) (l : List Path) :
    env.filesAmong (p :: l) = p.child settingsName :: env.filesAmong l := by
  simp [filesAmong, h]

theorem filesAmong_cons_of_not_isFile (h : env.isFile (p.child settingsName) = false) (l : List Path) :
    env.filesAmong (p :: l) = env.filesAmong l := by
  simp [filesAmong, h]

theorem filesAmong_append (env : Environment) (l m : List Path) :
    env.filesAmong (l ++ m) = env.filesAmong l ++ env.filesAmong m := by
  simp [filesAmong]

private theorem filesIn_eq (env : Environment) (directories : List Path) : env.filesIn directories =
    (throughFirst env.isRoot (env.filesAmong directories), (env.filesAmong directories).any env.isRoot) := by
  induction directories with
  | nil => rfl
  | cons d rest ih =>
    rw [filesIn, ih]
    cases hFile : env.isFile (d.child settingsName) with
    | true =>
      rw [filesAmong_cons_of_isFile hFile, throughFirst_cons, List.any_cons]
      cases hRoot : env.isRoot (d.child settingsName) <;> simp
    | false =>
      rw [filesAmong_cons_of_not_isFile hFile]
      simp

/-- Without a home directory there is no file in it. -/
theorem isFile_globalPath_of_none (h : env.globalPath? = none) : env.isFile env.globalPath = false := by
  rw [Bool.eq_false_iff]
  intro hFile
  obtain ⟨c, access, hEntry⟩ := FileTree.isFile_iff.1 hFile
  obtain ⟨location, hLocate, -⟩ := FileTree.entry_eq_ok_iff.1 hEntry
  rw [globalPath, h] at hLocate
  exact (FileTree.locate_eq_ok_iff.1 hLocate).2.2.1 rfl rfl

theorem isGlobalPath_of_isFile (h : env.isFile env.globalPath = true) (p : Path) :
    env.isGlobalPath p = p.same env.globalPath := by
  cases hHome : env.globalPath? with
  | none => cases (isFile_globalPath_of_none hHome).symm.trans h
  | some g => rw [isGlobalPath, globalPath, hHome, Option.any_some, Option.getD_some]

/-- The file in the home directory comes last when there is no root, and when it is not on the way up. -/
theorem discover_eq (env : Environment) (directory : Path) : env.discover directory = env.localFiles directory ++
    if (∀ p ∈ env.localFiles directory, env.isRoot p = false ∧ env.isGlobalPath p = false) ∧
      env.isFile env.globalPath = true then [env.globalPath] else [] := by
  have hFiles : env.filesIn directory.ancestors =
      (env.localFiles directory, (env.localFiles directory).any env.isRoot) := by
    rw [filesIn_eq, ← any_throughFirst]
    rfl
  rw [discover, hFiles]
  cases hHome : env.globalPath? with
  | none =>
    rw [if_neg fun h => Bool.false_ne_true ((isFile_globalPath_of_none hHome).symm.trans h.2), List.append_nil]
  | some g =>
    have hPath : env.globalPath = g := by rw [globalPath, hHome, Option.getD_some]
    have hSame : ∀ p, env.isGlobalPath p = p.same g := fun p => by rw [isGlobalPath, hHome, Option.any_some]
    have hCondition : (!(env.localFiles directory).any env.isRoot && env.isFile g &&
        !(env.localFiles directory).any g.same) = true ↔
        (∀ p ∈ env.localFiles directory, env.isRoot p = false ∧ p.same g = false) ∧ env.isFile g = true := by
      simp only [Bool.and_eq_true, Bool.not_eq_true', List.any_eq_false, Bool.not_eq_true, Path.same_comm g]
      grind
    simp only [hPath, hSame]
    by_cases h : (∀ p ∈ env.localFiles directory, env.isRoot p = false ∧ p.same g = false) ∧ env.isFile g = true
    · rw [if_pos (hCondition.2 h), if_pos h]
    · rw [if_neg (mt hCondition.1 h), if_neg h, List.append_nil]

theorem discover_of_homeless (h : env.home = none) (directory : Path) :
    env.discover directory = env.localFiles directory := by
  have hNone : env.globalPath? = none := by rw [globalPath?, h, Option.map_none]
  rw [discover_eq, isFile_globalPath_of_none hNone, if_neg fun hGlobal => Bool.false_ne_true hGlobal.2, List.append_nil]

theorem isFile_of_mem_discover (h : p ∈ env.discover directory) : env.isFile p = true := by
  rw [discover_eq, List.mem_append] at h
  rcases h with h | h
  · have hMem := (isPrefix_throughFirst _ _).subset h
    exact (List.mem_filter.1 hMem).2
  · split at h
    · rename_i hGlobal
      rw [List.mem_singleton.1 h]
      exact hGlobal.2
    · cases h

/-! ### No file twice -/

theorem pairwise_filesAmong_ancestors (env : Environment) (directory : Path) :
    (env.filesAmong directory.ancestors).Pairwise fun p q => p.same q = false := by
  refine List.Pairwise.filter _ ?_
  rw [List.pairwise_map]
  refine directory.pairwise_ancestors.imp fun {d e} h => ?_
  rw [Bool.eq_false_iff, ne_eq, Path.same_child_iff isName_settingsName, h]
  exact Bool.false_ne_true

theorem pairwise_discover (env : Environment) (directory : Path) :
    (env.discover directory).Pairwise fun p q => p.same q = false := by
  rw [discover_eq, List.pairwise_append]
  refine ⟨(env.pairwise_filesAmong_ancestors directory).sublist (isPrefix_throughFirst _ _).sublist, ?_, ?_⟩
  · split
    · exact List.pairwise_singleton _ _
    · exact List.Pairwise.nil
  · intro p hp q hq
    split at hq
    · rename_i h
      rw [List.mem_singleton.1 hq, ← isGlobalPath_of_isFile h.2]
      exact (h.1 p hp).2
    · cases hq

/-- The settings files that are found.  They are the files on the way up, in the directory itself, in its parent, and so
on, as far as the first that says it is a root; and behind them the file in the home directory, if there is one, when none
of them is a root or the same file.  Without a home directory they are those on the way up.  So no file is found twice, and
of those on the way up only the last can be a root. -/
theorem discover_chain (env : Environment) (directory : Path) :
    (env.discover directory = env.localFiles directory ++
      if (∀ p ∈ env.localFiles directory, env.isRoot p = false ∧ env.isGlobalPath p = false) ∧
        env.isFile env.globalPath = true then [env.globalPath] else []) ∧
    (env.home = none → env.discover directory = env.localFiles directory) ∧
    (∀ n, directory.ancestors[n]? = (fun d : Option Path => d.bind Path.parent?)^[n] (some directory)) ∧
    (∀ p, env.isRoot p = true ↔
      ∃ t s, env.read p = .ok t ∧ SettingsFile.ofText t = .ok s ∧ s.root = some true) ∧
    ((env.discover directory).Pairwise fun p q => p.same q = false) ∧
    ∀ p ∈ (env.localFiles directory).dropLast, env.isRoot p = false := by
  refine ⟨env.discover_eq directory, fun hHome => discover_of_homeless hHome directory, directory.getElem?_ancestors,
    fun _ => isRoot_iff, env.pairwise_discover directory, ?_⟩
  intro p hp
  have hNonempty : env.localFiles directory ≠ [] := by
    intro hNil
    rw [hNil] at hp
    cases hp
  have hLast := (List.dropLast_concat_getLast hNonempty).symm
  exact stop_eq_false_of_throughFirst hLast (List.cons_ne_nil _ _) hp

/-- A directory has the name of a settings file, and is passed over.  The root ends the search, so the file in the home
directory does not count. -/
theorem discover_chain_to_root : ∃ env : Environment, env.home = Path.ofText "/h".toList ∧
    env.isFile env.globalPath = true ∧
    env.discover (Path.ofText "/w/a//b/.".toList) =
      [Path.ofText "/w/a/.sift.toml".toList, Path.ofText "/.sift.toml".toList] ∧
    env.isRoot (Path.ofText "/w/a/.sift.toml".toList) = false := by
  let files : FileTree := .ofFiles [(["h".toList, settingsName], "root = false".toList),
    (["w".toList, "a".toList, settingsName], "[matching]\nignore_case = false\n".toList),
    (["w".toList, settingsName, "x".toList], []), ([settingsName], "root = true\n".toList)]
  let env : Environment := ⟨files, ["w".toList], Path.ofText "/h".toList⟩
  have hFirst : Path.ofText "/w/a/.sift.toml".toList ∈
      (env.localFiles (Path.ofText "/w/a//b/.".toList)).dropLast := by decide +kernel
  obtain ⟨-, -, -, -, -, hRoots⟩ := env.discover_chain (Path.ofText "/w/a//b/.".toList)
  exact ⟨env, rfl, by decide, by decide +kernel, hRoots _ hFirst⟩

end Environment

end TextQuery
