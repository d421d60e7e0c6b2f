import Mathlib.Algebra.Ring.Parity
import TextQuery.Formula.Basic

/-!
# Leaves under negations

A leaf under an even number of negations makes a formula true by being true, one under an odd number by being false.  So
a formula stays true when truth is added to leaves of the first kind and taken from those of the second
(`holds_of_polarity`).
-/

namespace TextQuery.Formula

variable {α : Type}

/-- The leaves from left to right, each with the number of negations that it stands under. -/
def negations : Formula α → List (α × Nat)
  | leaf a => [(a, 0)]
  | not f => f.negations.map fun p => (p.1, p.2 + 1)
  | and f g => f.negations ++ g.negations
  | or f g => f.negations ++ g.negations

theorem map_fst_negations (f : Formula α) : f.negations.map Prod.fst = f.leaves := by
  induction f with
  | leaf a => rfl
  | not f ih =>
    rw [negations, List.map_map]
    exact ih
  | and f g ihf ihg => rw [negations, leaves, List.map_append, ihf, ihg]
  | or f g ihf ihg => rw [negations, leaves, List.map_append, ihf, ihg]

variable {f : Formula α} {truth truth' : α → Bool}

/-- Whether a leaf under some number of negations speaks no less for the formula than before. -/
def Favours (truth truth' : α → Bool) (p : α × Nat) : Prop :=
  (Even p.2 → truth p.1 = true → truth' p.1 = true) ∧ (Odd p.2 → truth' p.1 = true → truth p.1 = true)

/-- Below a negation the two truth values change places. -/
private theorem Favours.under_not {a : α} {n : Nat} (h : Favours truth truth' (a, n + 1)) :
    Favours truth' truth (a, n) :=
  ⟨fun hn => h.2 hn.add_one, fun hn => h.1 hn.add_one⟩

/-- A formula stays true when every leaf changes in its favour. -/
theorem holds_of_polarity (h : ∀ p ∈ f.negations, Favours truth truth' p) (hHolds : f.holds truth = true) :
    f.holds truth' = true := by
  induction f generalizing truth truth' with
  | leaf a => exact (h _ (List.mem_singleton_self _)).1 Even.zero hHolds
  | not f ih =>
    have hSwapped : ∀ p ∈ f.negations, Favours truth' truth p := fun p hp =>
      Favours.under_not (h (p.1, p.2 + 1) (List.mem_map_of_mem hp))
    simp only [holds, Bool.not_eq_true'] at hHolds ⊢
    rw [Bool.eq_false_iff] at hHolds ⊢
    exact fun hTrue => hHolds (ih hSwapped hTrue)
  | and f g ihf ihg =>
    simp only [holds, Bool.and_eq_true] at hHolds ⊢
    exact ⟨ihf (fun p hp => h p (List.mem_append_left _ hp)) hHolds.1,
      ihg (fun p hp => h p (List.mem_append_right _ hp)) hHolds.2⟩
  | or f g ihf ihg =>
    simp only [holds, Bool.or_eq_true] at hHolds ⊢
    exact hHolds.imp (ihf fun p hp => h p (List.mem_append_left _ hp))
      (ihg fun p hp => h p (List.mem_append_right _ hp))

end TextQuery.Formula
