/-!
# Formulas

Boolean formulas over leaves of any kind: the pieces of a query, or the terms they are compiled to.  Both operators
have two sides; a chain is nested.
-/

namespace TextQuery

/-- A boolean formula whose leaves carry values of type `α`. -/
inductive Formula (α : Type) where
  | leaf (a : α)
  | not (f : Formula α)
  | and (f g : Formula α)
  | or (f g : Formula α)
  deriving DecidableEq, Repr

namespace Formula

variable {α β : Type}

/-- The number of nodes on the longest way from the top to a leaf. -/
def depth : Formula α → Nat
  | leaf _ => 1
  | not f => 1 + f.depth
  | and f g => 1 + max f.depth g.depth
  | or f g => 1 + max f.depth g.depth

/-- The leaves from left to right. -/
def leaves : Formula α → List α
  | leaf a => [a]
  | not f => f.leaves
  | and f g => f.leaves ++ g.leaves
  | or f g => f.leaves ++ g.leaves

/-- The formula of the same shape with every leaf replaced by its image. -/
def map (h : α → β) : Formula α → Formula β
  | leaf a => leaf (h a)
  | not f => not (f.map h)
  | and f g => and (f.map h) (g.map h)
  | or f g => or (f.map h) (g.map h)

/-- The truth value of a formula, given the truth value of its leaves.  The right side of an operator is not looked at
when the left side decides. -/
def holds (truth : α → Bool) : Formula α → Bool
  | leaf a => truth a
  | not f => !f.holds truth
  | and f g => f.holds truth && g.holds truth
  | or f g => f.holds truth || g.holds truth

@[simp] theorem holds_map (h : α → β) (truth : β → Bool) (f : Formula α) :
    (f.map h).holds truth = f.holds (truth ∘ h) := by
  induction f with
  | leaf a => rfl
  | not f ih => simp [map, holds, ih]
  | and f g ihf ihg => simp [map, holds, ihf, ihg]
  | or f g ihf ihg => simp [map, holds, ihf, ihg]

@[simp] theorem leaves_map (h : α → β) (f : Formula α) : (f.map h).leaves = f.leaves.map h := by
  induction f with
  | leaf a => rfl
  | not f ih => simp [map, leaves, ih]
  | and f g ihf ihg => simp [map, leaves, ihf, ihg]
  | or f g ihf ihg => simp [map, leaves, ihf, ihg]

end Formula

end TextQuery
