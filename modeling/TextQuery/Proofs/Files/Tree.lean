import TextQuery.Files.Tree

/-!
# Where paths lead

A path leads to a location when there are directories all the way that let names be followed, and the names on it alone
decide to which (`locate_eq_of_same`).  A file that is written where no directory is changes where no path leads
(`locate_put_iff`), and it is all that the paths which lead to it find (`entry_put_of_leads`).
-/

namespace TextQuery.FileTree

variable {tree : FileTree} {cwd location next goal : Location} {p q : Path} {segments rest : List Text} {s : Text}
  {e : Entry} {c : Contents} {access : Access} {t : Text}

/-- The tree with the given files, and with the directories that they lie in. -/
def ofFiles (files : List (Location × Text)) : FileTree where
  entryAt location :=
    match files.lookup location with
    | some t => some (.file (.text t))
    | none => if files.any fun file => location.isPrefixOf file.1 then some .directory else none

/-! ### What stands at a location -/

theorem found?_of_ne_nil (h : location ≠ []) : tree.found? location = tree.entryAt location := by
  unfold found?
  split
  · next hEntry => rw [hEntry]
  · exact if_neg h

/-- Whether there is a directory at a location. -/
def HasDirectory (tree : FileTree) (location : Location) : Prop := ∃ access, tree.found? location = some (.directory access)

theorem hasDirectory_nil (tree : FileTree) : tree.HasDirectory [] := by
  unfold HasDirectory found?
  split
  · next access _ => exact ⟨access, rfl⟩
  · exact ⟨{}, if_pos rfl⟩

theorem ne_nil_of_not_hasDirectory (h : ¬ tree.HasDirectory location) : location ≠ [] := by
  rintro rfl
  exact h tree.hasDirectory_nil

theorem not_hasDirectory_of_found? (h : tree.found? location = none) : ¬ tree.HasDirectory location := by
  rintro ⟨access, hFound⟩
  rw [h] at hFound
  cases hFound

/-! ### Following segments -/

/-- Whether a segment can be followed from a location.  An empty one does not have to be looked up. -/
def LetsFollow (tree : FileTree) (location : Location) (s : Text) : Prop :=
  ∃ access, tree.found? location = some (.directory access) ∧ (s ≠ [] → access.searchable = true)

/-- Where one segment leads. -/
def step? (location : Location) (s : Text) : Option Location :=
  if s = [] ∨ s = ['.'] then some location
  else if s = ['.', '.'] then some location.dropLast
  else if nameLimit < s.utf8Size then none
  else some (location ++ [s])

theorem follow_cons_eq_ok_iff : tree.follow location (s :: rest) = .ok goal ↔
    tree.LetsFollow location s ∧ ∃ next, step? location s = some next ∧ tree.follow next rest = .ok goal := by
  rw [follow, LetsFollow]
  cases hFound : tree.found? location with
  | none => simp
  | some e =>
    cases e with
    | file c access => simp
    | directory access =>
      by_cases hEmpty : s = []
      · simp [hEmpty, step?]
      · cases hSearch : access.searchable with
        | false => simp [hEmpty, hSearch]
        | true =>
          by_cases hDot : s = ['.']
          · simp [hDot, hSearch, step?]
          · by_cases hUp : s = ['.', '.']
            · simp [hUp, hSearch, step?]
            · by_cases hLong : nameLimit < s.utf8Size <;> simp [hEmpty, hDot, hUp, hLong, hSearch, step?]

private theorem step?_of_not_isName (h : Path.isName s = false) : step? location s = some location := by
  unfold step?
  rw [if_pos]
  rw [Path.isName, Bool.and_eq_false_iff] at h
  rcases h with h | h
  · exact .inl (by simpa using h)
  · exact .inr (by simpa using h)

private theorem foldlM_step?_of_follow (h : tree.follow location segments = .ok goal) :
    (segments.filter Path.isName).foldlM step? location = some goal := by
  -- segments that are no names need a directory, but lead nowhere else
  induction segments generalizing location with
  | nil =>
    cases h
    rfl
  | cons s rest ih =>
    obtain ⟨-, next, hStep, hRest⟩ := follow_cons_eq_ok_iff.1 h
    have hGoal := ih hRest
    cases hName : Path.isName s with
    | true => rw [List.filter_cons_of_pos hName, List.foldlM_cons, hStep, Option.bind_eq_bind, Option.bind_some, hGoal]
    | false =>
      have hStay : next = location := by
        rw [step?_of_not_isName hName] at hStep
        exact (Option.some.inj hStep).symm
      rw [List.filter_cons_of_neg (by simp [hName]), ← hStay, hGoal]

/-! ### Where a path leads -/

/-- Where the segments of a path begin. -/
def start (cwd : Location) (p : Path) : Location := if p.anchor = .root then [] else cwd

theorem locate_eq_ok_iff : tree.locate cwd p = .ok goal ↔
    '\x00' ∉ p.toText ∧ p.toText.utf8Size ≤ pathLimit ∧ (p.anchor = .relative → p.toText ≠ []) ∧
      tree.follow (start cwd p) p.segments = .ok goal := by
  unfold locate start
  by_cases hNul : '\x00' ∈ p.toText
  · simp [hNul, bind, Except.bind, throw, throwThe, MonadExceptOf.throw]
  · by_cases hLong : pathLimit < p.toText.utf8Size
    · simp [hNul, hLong, Nat.not_le.2 hLong, bind, Except.bind, throw, throwThe, MonadExceptOf.throw]
    · have hShort := Nat.not_lt.1 hLong
      cases hAnchor : p.anchor with
      | relative => by_cases hEmpty : p.toText = [] <;> simp [hNul, hLong, hShort, hEmpty]
      | here => simp [hNul, hLong, hShort]
      | root => simp [hNul, hLong, hShort]

/-- Paths that are the same lead to one location, as far as they lead anywhere. -/
theorem locate_eq_of_same (hSame : p.same q = true) (hp : tree.locate cwd p = .ok location)
    (hq : tree.locate cwd q = .ok goal) : location = goal := by
  simp only [Path.same, Bool.and_eq_true, beq_iff_eq] at hSame
  obtain ⟨hAnchor, hNames⟩ := hSame
  have hLocation := foldlM_step?_of_follow (locate_eq_ok_iff.1 hp).2.2.2
  have hGoal := foldlM_step?_of_follow (locate_eq_ok_iff.1 hq).2.2.2
  have hStart : start cwd p = start cwd q := by rw [start, start, hAnchor]
  rw [← Path.names, hNames, hStart] at hLocation
  rw [← Path.names, hLocation] at hGoal
  exact Option.some.inj hGoal

/-! ### What a path finds -/

theorem entry_eq_ok_iff :
    tree.entry cwd p = .ok e ↔ ∃ location, tree.locate cwd p = .ok location ∧ tree.found? location = some e := by
  unfold entry
  cases tree.locate cwd p with
  | error cause => simp [bind, Except.bind]
  | ok location =>
    cases hFound : tree.found? location <;>
      simp [hFound, bind, Except.bind, pure, Except.pure, throw, throwThe, MonadExceptOf.throw]

theorem isFile_iff : tree.isFile cwd p = true ↔ ∃ c access, tree.entry cwd p = .ok (.file c access) := by
  unfold isFile
  split <;> simp_all

theorem read_of_entry (h : tree.entry cwd p = .ok (.file c access)) (hReadable : access.readable = true) :
    tree.read cwd p = c.read := by
  rw [read, h]
  exact if_pos hReadable

theorem read_eq_ok_iff : tree.read cwd p = .ok t ↔
    ∃ access, tree.entry cwd p = .ok (.file (.text t) access) ∧ access.readable = true := by
  constructor
  · intro h
    cases hEntry : tree.entry cwd p with
    | error cause =>
      rw [read, hEntry] at h
      cases h
    | ok e =>
      cases e with
      | directory access =>
        rw [read, hEntry] at h
        cases h
      | file c access =>
        cases hReadable : access.readable with
        | false =>
          rw [read, hEntry] at h
          simp [hReadable, bind, Except.bind, throw, throwThe, MonadExceptOf.throw] at h
        | true =>
          rw [read_of_entry hEntry hReadable] at h
          cases c with
          | text u =>
            cases h
            exact ⟨access, rfl, hReadable⟩
          | undecodable => cases h
  · rintro ⟨access, hEntry, hReadable⟩
    rw [read_of_entry hEntry hReadable]
    rfl

/-! ### A new file -/

theorem found?_eq_none_iff : tree.found? location = none ↔ location ≠ [] ∧ tree.entryAt location = none := by
  constructor
  · intro h
    have hSome : location ≠ [] := ne_nil_of_not_hasDirectory (not_hasDirectory_of_found? h)
    exact ⟨hSome, found?_of_ne_nil hSome ▸ h⟩
  · rintro ⟨hSome, hEntry⟩
    rw [found?_of_ne_nil hSome, hEntry]

/-- A text can be written where a file is that can be written to, and where a new file can be put. -/
theorem accessWritten_eq_ok_iff : tree.accessWritten location = .ok access ↔
    (access.writable = true ∧ ∃ c, tree.found? location = some (.file c access)) ∨
      (tree.found? location = none ∧ tree.takesFiles location.dropLast = true ∧ access = {}) := by
  unfold accessWritten
  cases tree.found? location with
  | none => by_cases hTakes : tree.takesFiles location.dropLast = true <;> simp [hTakes, @eq_comm _ access]
  | some e =>
    cases e with
    | directory a => simp
    | file c a =>
      constructor
      · intro h
        by_cases hWritable : a.writable = true
        · obtain rfl := Except.ok.inj ((if_pos hWritable).symm.trans h)
          exact .inl ⟨hWritable, c, rfl⟩
        · cases (if_neg hWritable).symm.trans h
      · rintro (⟨hWritable, c', hFile⟩ | ⟨hNone, -⟩)
        · cases hFile
          exact if_pos hWritable
        · cases hNone

theorem not_hasDirectory_of_accessWritten (h : tree.accessWritten location = .ok access) :
    ¬ tree.HasDirectory location := by
  rintro ⟨a, hDirectory⟩
  rcases accessWritten_eq_ok_iff.1 h with ⟨-, c, hFile⟩ | ⟨hNone, -⟩
  · cases hFile.symm.trans hDirectory
  · cases hNone.symm.trans hDirectory

theorem write_eq_ok_iff {tree' : FileTree} : tree.write cwd p t = .ok tree' ↔ ∃ new access,
    tree.locate cwd p = .ok new ∧ tree.accessWritten new = .ok access ∧ tree' = tree.put new (.file (.text t) access) := by
  unfold write
  cases tree.locate cwd p with
  | error cause => simp [bind, Except.bind]
  | ok new =>
    cases hAccess : tree.accessWritten new <;> simp [hAccess, bind, Except.bind, pure, Except.pure, eq_comm]

/-- A file that may be written to but not read, in a directory that takes no new files. -/
example :
    let tree : FileTree := ((ofFiles []).put [['d']] (.directory { writable := false })).put [['d'], ['f']]
      (.file (.text ['x']) { readable := false })
    tree.read [] (.ofText "d/f".toList) = .error .permissionDenied ∧
      (tree.write [] (.ofText "d/f".toList) []).isOk = true ∧
      (tree.write [] (.ofText "d/g".toList) []).map (fun _ => ()) = .error .permissionDenied := by
  exact ⟨rfl, rfl, rfl⟩

variable {new : Location}

theorem found?_put_of_ne (h : location ≠ new) :
    (tree.put new (.file c access)).found? location = tree.found? location := by
  have hEntry : (tree.put new (.file c access)).entryAt location = tree.entryAt location := if_neg h
  rw [found?, found?, hEntry]

section

variable (hNew : ¬ tree.HasDirectory new)

include hNew

theorem found?_put_self : (tree.put new (.file c access)).found? new = some (.file c access) := by
  rw [found?_of_ne_nil (ne_nil_of_not_hasDirectory hNew)]
  exact if_pos rfl

/-- No directory comes or goes. -/
theorem found?_put_eq_directory_iff {a : Access} :
    (tree.put new (.file c access)).found? location = some (.directory a) ↔ tree.found? location = some (.directory a) := by
  by_cases h : location = new
  · subst h
    rw [found?_put_self hNew]
    exact iff_of_false nofun fun hDirectory => hNew ⟨a, hDirectory⟩
  · rw [found?_put_of_ne h]

private theorem follow_put_iff :
    (tree.put new (.file c access)).follow location segments = .ok goal ↔ tree.follow location segments = .ok goal := by
  induction segments generalizing location with
  | nil => rfl
  | cons s rest ih => simp only [follow_cons_eq_ok_iff, LetsFollow, found?_put_eq_directory_iff hNew, ih]

theorem locate_put_iff :
    (tree.put new (.file c access)).locate cwd p = .ok goal ↔ tree.locate cwd p = .ok goal := by
  rw [locate_eq_ok_iff, locate_eq_ok_iff, follow_put_iff hNew]

theorem entry_put_of_leads (hLeads : tree.locate cwd p = .ok new) :
    (tree.put new (.file c access)).entry cwd p = .ok (.file c access) :=
  entry_eq_ok_iff.2 ⟨new, (locate_put_iff hNew).2 hLeads, found?_put_self hNew⟩

/-- Any other path finds what it has found before. -/
theorem entry_put_iff_of_not_leads (hLeads : tree.locate cwd p ≠ .ok new) :
    (tree.put new (.file c access)).entry cwd p = .ok e ↔ tree.entry cwd p = .ok e := by
  have hElsewhere : ∀ location, tree.locate cwd p = .ok location →
      (tree.put new (.file c access)).found? location = tree.found? location := by
    intro location hLocation
    exact found?_put_of_ne fun h => hLeads (h ▸ hLocation)
  simp only [entry_eq_ok_iff, locate_put_iff hNew]
  constructor
  · rintro ⟨location, hLocation, hFound⟩
    exact ⟨location, hLocation, hElsewhere location hLocation ▸ hFound⟩
  · rintro ⟨location, hLocation, hFound⟩
    exact ⟨location, hLocation, (hElsewhere location hLocation).trans hFound⟩

end

/-- What is written a second time changes nothing. -/
theorem put_eq_self (h : tree.entryAt location = some e) : tree.put location e = tree := by
  refine congrArg FileTree.mk (funext fun l => ?_)
  split
  · next hl => rw [hl, h]
  · rfl

/-- Where a path leads to nothing, no file and no directory is. -/
theorem found?_of_not_isThere (hThere : tree.isThere cwd p = false) (hLocate : tree.locate cwd p = .ok location) :
    tree.found? location = none := by
  cases hFound : tree.found? location with
  | none => rfl
  | some e =>
    rw [isThere, entry_eq_ok_iff.2 ⟨location, hLocate, hFound⟩] at hThere
    cases hThere

end TextQuery.FileTree
