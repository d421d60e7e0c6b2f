import TextQuery.Formula.Basic

/-!
# Leaves by their positions

The leaves of a formula are counted from left to right (`leaves_positions`).  So a formula can be read with truth values
that are listed in the order of its leaves, and both sides of every operator looked at (`holds_iff_says_positions`).
-/

namespace TextQuery.Formula

variable {α β : Type}

/-- The formula of the same shape with the leaves counted from left to right, from `n` on. -/
def positionsFrom (n : Nat) : Formula α → Formula Nat
  | leaf _ => leaf n
  | not f => not (f.positionsFrom n)
  | and f g => and (f.positionsFrom n) (g.positionsFrom (n + f.leaves.length))
  | or f g => or (f.positionsFrom n) (g.positionsFrom (n + f.leaves.length))

/-- The formula with every leaf replaced by its position. -/
def positions (f : Formula α) : Formula Nat := f.positionsFrom 0

/-- What a formula says when its leaves are statements. -/
def Says (truth : α → Prop) : Formula α → Prop
  | leaf a => truth a
  | not f => ¬ f.Says truth
  | and f g => f.Says truth ∧ g.Says truth
  | or f g => f.Says truth ∨ g.Says truth

private theorem leaves_positionsFrom (n : Nat) (f : Formula α) :
    (f.positionsFrom n).leaves = List.range' n f.leaves.length := by
  induction f generalizing n with
  | leaf a => rfl
  | not f ih => exact ih n
  | and f g ihf ihg => rw [positionsFrom, leaves, leaves, ihf, ihg, List.range'_append_1, List.length_append]
  | or f g ihf ihg => rw [positionsFrom, leaves, leaves, ihf, ihg, List.range'_append_1, List.length_append]

theorem leaves_positions (f : Formula α) : f.positions.leaves = List.range f.leaves.length := by
  rw [positions, leaves_positionsFrom, List.range_eq_range']

private theorem positionsFrom_map (n : Nat) (h : α → β) (f : Formula α) :
    (f.map h).positionsFrom n = f.positionsFrom n := by
  induction f generalizing n with
  | leaf a => rfl
  | not f ih => rw [map, positionsFrom, positionsFrom, ih]
  | and f g ihf ihg => rw [map, positionsFrom, positionsFrom, ihf, ihg, leaves_map, List.length_map]
  | or f g ihf ihg => rw [map, positionsFrom, positionsFrom, ihf, ihg, leaves_map, List.length_map]

theorem positions_map (h : α → β) (f : Formula α) : (f.map h).positions = f.positions :=
  positionsFrom_map 0 h f

/-- A leaf is found by its position, also where more leaves stand around those of the formula. -/
private theorem map_positionsFrom {f : Formula α} {n : Nat} {l : List α} (front back : List α)
    (hFront : front.length = n) (hLeaves : l = front ++ f.leaves ++ back) :
    (f.positionsFrom n).map (l[·]?) = f.map some := by
  induction f generalizing n front back with
  | leaf a => simp [positionsFrom, leaves, map, ← hFront, hLeaves]
  | not f ih => rw [positionsFrom, map, map, ih front back hFront hLeaves]
  | and f g ihf ihg =>
    have hSides : l = front ++ f.leaves ++ g.leaves ++ back := by simpa [leaves] using hLeaves
    have hBehind : (front ++ f.leaves).length = n + f.leaves.length := by rw [List.length_append, hFront]
    rw [positionsFrom, map, map, ihf front (g.leaves ++ back) hFront (by simpa using hSides), ihg _ back hBehind hSides]
  | or f g ihf ihg =>
    have hSides : l = front ++ f.leaves ++ g.leaves ++ back := by simpa [leaves] using hLeaves
    have hBehind : (front ++ f.leaves).length = n + f.leaves.length := by rw [List.length_append, hFront]
    rw [positionsFrom, map, map, ihf front (g.leaves ++ back) hFront (by simpa using hSides), ihg _ back hBehind hSides]

theorem map_positions (f : Formula α) : f.positions.map (f.leaves[·]?) = f.map some :=
  map_positionsFrom [] [] rfl (by simp)

variable {truth : α → Bool} {f : Formula α}

/-- Nothing is missed where the right side of an operator is not looked at. -/
theorem holds_iff_says : f.holds truth = true ↔ f.Says fun a => truth a = true := by
  induction f with
  | leaf a => rfl
  | not f ih => rw [holds, Says, ← ih, Bool.not_eq_true', Bool.eq_false_iff]
  | and f g ihf ihg => rw [holds, Says, ← ihf, ← ihg, Bool.and_eq_true]
  | or f g ihf ihg => rw [holds, Says, ← ihf, ← ihg, Bool.or_eq_true]

theorem holds_iff_says_positions :
    f.holds truth = true ↔ f.positions.Says fun i => ∃ a, f.leaves[i]? = some a ∧ truth a = true := by
  have hFound : f.holds truth = f.positions.holds fun i => f.leaves[i]?.any truth :=
    calc f.holds truth = (f.map some).holds (·.any truth) := by rw [holds_map]; rfl
      _ = (f.positions.map (f.leaves[·]?)).holds (·.any truth) := by rw [map_positions]
      _ = f.positions.holds fun i => f.leaves[i]?.any truth := holds_map _ _ _
  rw [hFound, holds_iff_says]
  simp only [Option.any_eq_true]

end TextQuery.Formula
