import Mathlib.Data.List.Infix
import Mathlib.Logic.Function.Iterate
import TextQuery.Files.Path

/-!
# Paths and their names

Two paths are the same when they begin at one place and step through the same names.  A file in a directory has one name
more than the directory (`names_child`).  One step up takes the last name away, and at the end the leading dot
(`parent?_cases`), so the paths on the way up are all different (`pairwise_ancestors`), and they are those that step
through the first of the names (`exists_mem_ancestors_iff`).
-/

namespace TextQuery.Path

/-! ### Segments that name a step -/

private theorem filter_trimmed (segments : List Text) : (trimmed segments).filter isName = segments.filter isName := by
  induction segments with
  | nil => rfl
  | cons s rest ih =>
    rw [trimmed]
    split
    · rename_i hRest
      rw [hRest] at ih
      cases hName : isName s <;> simp [hName, ← ih]
    · rw [List.filter_cons, List.filter_cons, ih]

private theorem isName_getLast_trimmed {segments l : List Text} {s : Text} (h : trimmed segments = l ++ [s]) :
    isName s = true := by
  induction segments generalizing l with
  | nil =>
    rw [trimmed] at h
    simp at h
  | cons first rest ih =>
    rw [trimmed] at h
    split at h
    · by_cases hName : isName first = true
      · rw [if_pos hName] at h
        have hLast : first = s := by simpa using congrArg List.getLast? h
        exact hLast ▸ hName
      · rw [if_neg hName] at h
        simp at h
    · rename_i hKept
      cases l with
      | nil =>
        obtain ⟨-, hNil⟩ := List.cons.inj h
        exact absurd hNil hKept
      | cons _ l => exact ih (List.cons.inj h).2

/-- The last segment that is left names a step. -/
private theorem filter_dropLast_trimmed (segments : List Text) :
    (trimmed segments).dropLast.filter isName = (segments.filter isName).dropLast := by
  rw [← filter_trimmed segments]
  rcases List.eq_nil_or_concat' (trimmed segments) with hNil | ⟨l, s, hKept⟩
  · rw [hNil]
    rfl
  · simp [hKept, isName_getLast_trimmed hKept]

private theorem trimmed_eq_nil_iff {segments : List Text} : trimmed segments = [] ↔ segments.filter isName = [] := by
  rw [← filter_trimmed]
  rcases List.eq_nil_or_concat' (trimmed segments) with hNil | ⟨l, s, hKept⟩
  · simp [hNil]
  · simp [hKept, isName_getLast_trimmed hKept]

/-! ### Paths that are the same -/

variable {p q : Path}

theorem same_iff : p.same q = true ↔ p.anchor = q.anchor ∧ p.names = q.names := by simp [same]

theorem same_comm (p q : Path) : p.same q = q.same p := by
  rw [Bool.eq_iff_iff, same_iff, same_iff]
  exact and_congr eq_comm eq_comm

theorem same_trans {r : Path} (hpq : p.same q = true) (hqr : q.same r = true) : p.same r = true := by
  obtain ⟨hAnchor, hNames⟩ := same_iff.1 hpq
  obtain ⟨hAnchor', hNames'⟩ := same_iff.1 hqr
  exact same_iff.2 ⟨hAnchor.trans hAnchor', hNames.trans hNames'⟩

/-! ### Files in a directory -/

@[simp] theorem anchor_child (p : Path) (name : Text) : (p.child name).anchor = p.anchor := by
  unfold child
  split <;> rfl

/-- A file in a directory has one name more than the directory. -/
theorem names_child (p : Path) {name : Text} (hName : isName name = true) : (p.child name).names = p.names ++ [name] := by
  unfold child names
  split
  · rename_i hLast
    -- the empty segment behind a final slash, which the name takes the place of, is no name
    obtain ⟨l, hSegments⟩ := List.getLast?_eq_some_iff.1 hLast
    have hEmpty : isName [] = false := rfl
    simp [hSegments, hName, hEmpty]
  · simp [hName]

theorem same_child_iff {name : Text} (hName : isName name = true) :
    (p.child name).same (q.child name) = true ↔ p.same q = true := by
  simp [same_iff, names_child _ hName]

/-! ### One step up -/

theorem parent?_eq_none_iff : p.parent? = none ↔ p.names = [] ∧ p.anchor ≠ .here := by
  unfold parent? names
  rw [← trimmed_eq_nil_iff]
  split
  · rename_i hNil
    by_cases hHere : p.anchor = .here <;> simp [hNil, hHere]
  · rename_i hKept
    exact ⟨fun h => (Option.some_ne_none _ h).elim, fun h => absurd h.1 hKept⟩

/-- One step up takes the last name away.  If there is none, it leads from the leading dot to the empty path. -/
theorem parent?_cases (h : p.parent? = some q) :
    (p.names ≠ [] ∧ q.anchor = p.anchor ∧ q.names = p.names.dropLast) ∨
      (p.names = [] ∧ p.anchor = .here ∧ q.anchor = .relative ∧ q.names = []) := by
  unfold parent? at h
  split at h
  · rename_i hNil
    by_cases hHere : p.anchor = .here
    · rw [if_pos hHere] at h
      cases h
      exact .inr ⟨trimmed_eq_nil_iff.1 hNil, hHere, rfl, rfl⟩
    · rw [if_neg hHere] at h
      cases h
  · rename_i hKept
    cases h
    refine .inl ⟨fun hNames => hKept (trimmed_eq_nil_iff.2 hNames), rfl, ?_⟩
    rw [names, filter_trimmed, filter_dropLast_trimmed]
    rfl

/-! ### The way up -/

theorem ancestors_of_none (h : p.parent? = none) : p.ancestors = [p] := by
  rw [ancestors]
  split
  · rfl
  · rename_i hSome
    rw [h] at hSome
    cases hSome

theorem ancestors_of_some (h : p.parent? = some q) : p.ancestors = p :: q.ancestors := by
  rw [ancestors]
  split
  · rename_i hNone
    rw [h] at hNone
    cases hNone
  · rename_i hSome
    rw [h] at hSome
    cases hSome
    rfl

/-- The paths on the way up are the path itself, its parent, the parent of that, and so on until there is none. -/
theorem getElem?_ancestors (p : Path) (n : Nat) :
    p.ancestors[n]? = (fun d : Option Path => d.bind parent?)^[n] (some p) := by
  have hNone : ∀ n, (fun d : Option Path => d.bind parent?)^[n] none = none := fun n => Function.iterate_fixed rfl n
  induction n generalizing p with
  | zero => cases h : p.parent? <;> simp [ancestors_of_none, ancestors_of_some, h]
  | succ n ih =>
    rw [Function.iterate_succ_apply, Option.bind_some]
    cases h : p.parent? with
    | none => rw [ancestors_of_none h, hNone, List.getElem?_cons_succ, List.getElem?_nil]
    | some q => rw [ancestors_of_some h, List.getElem?_cons_succ, ih]

/-- How many steps lead up from a path. -/
private def stepsUp (p : Path) : Nat := p.names.length + if p.anchor = .here then 1 else 0

private theorem stepsUp_parent? (h : p.parent? = some q) : q.stepsUp < p.stepsUp := by
  unfold stepsUp
  rcases parent?_cases h with ⟨hNames, hAnchor, hParent⟩ | ⟨hNames, hHere, hAnchor, hParent⟩
  · have hPos := List.length_pos_iff.2 hNames
    rw [hParent, hAnchor, List.length_dropLast]
    omega
  · simp [hNames, hHere, hAnchor, hParent]

private theorem stepsUp_le_of_mem_ancestors {d : Path} (h : d ∈ p.ancestors) : d.stepsUp ≤ p.stepsUp := by
  induction p using ancestors.induct with
  | case1 p ih =>
    cases hParent : p.parent? with
    | none =>
      rw [ancestors_of_none hParent, List.mem_singleton] at h
      exact Nat.le_of_eq (congrArg stepsUp h)
    | some q =>
      rw [ancestors_of_some hParent, List.mem_cons] at h
      rcases h with rfl | h
      · exact Nat.le_refl _
      · have := ih q hParent h
        have := stepsUp_parent? hParent
        omega

private theorem same_eq_false_of_stepsUp_lt (h : q.stepsUp < p.stepsUp) : p.same q = false := by
  rw [Bool.eq_false_iff, ne_eq, same_iff]
  rintro ⟨hAnchor, hNames⟩
  unfold stepsUp at h
  rw [hAnchor, hNames] at h
  exact Nat.lt_irrefl _ h

/-- No path comes twice on the way up. -/
theorem pairwise_ancestors (p : Path) : p.ancestors.Pairwise fun d e => d.same e = false := by
  induction p using ancestors.induct with
  | case1 p ih =>
    cases hParent : p.parent? with
    | none =>
      rw [ancestors_of_none hParent]
      exact List.pairwise_singleton _ _
    | some q =>
      rw [ancestors_of_some hParent, List.pairwise_cons]
      refine ⟨fun d hd => same_eq_false_of_stepsUp_lt ?_, ih q hParent⟩
      exact Nat.lt_of_le_of_lt (stepsUp_le_of_mem_ancestors hd) (stepsUp_parent? hParent)

/-- The paths on the way up step through the first of the names.  Behind a leading dot, the empty path is one of them. -/
theorem exists_mem_ancestors_iff : (∃ d ∈ p.ancestors, d.same q = true) ↔
    (q.anchor = p.anchor ∧ q.names <+: p.names) ∨ (p.anchor = .here ∧ q.anchor = .relative ∧ q.names = []) := by
  induction p using ancestors.induct with
  | case1 p ih =>
    cases hParent : p.parent? with
    | none =>
      obtain ⟨hNames, hAnchor⟩ := parent?_eq_none_iff.1 hParent
      simp only [ancestors_of_none hParent, List.mem_singleton, exists_eq_left, same_iff, hNames, List.prefix_nil]
      grind
    | some up =>
      rw [ancestors_of_some hParent, List.exists_mem_cons_iff, ih up hParent, same_iff]
      rcases parent?_cases hParent with ⟨hNames, hAnchor, hUp⟩ | ⟨hNames, hHere, hAnchor, hUp⟩
      · obtain ⟨l, name, hLast⟩ := (List.eq_nil_or_concat' p.names).resolve_left hNames
        rw [hAnchor, hUp, hLast, List.dropLast_concat, List.prefix_concat_iff]
        grind
      · rw [hNames, hHere, hAnchor, hUp, List.prefix_nil]
        grind

end TextQuery.Path
