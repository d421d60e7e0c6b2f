import TextQuery.Proofs.Formula.Polarity

/-!
# Formulas without negation

What a formula without negation says can only become true when more of its leaves are (`holds_mono`).  If it is put
together from leaves by `or` alone, it says that one of them is true (`holds_iff_of_isDisjunctionOf`).
-/

namespace TextQuery.Formula

variable {α : Type}

/-- The formulas without `not`. -/
def NegationFree : Formula α → Prop
  | leaf _ => True
  | not _ => False
  | and f g => f.NegationFree ∧ g.NegationFree
  | or f g => f.NegationFree ∧ g.NegationFree

/-- The formulas without `not` and `and`, over leaves of one kind. -/
def IsDisjunctionOf (P : α → Prop) : Formula α → Prop
  | leaf a => P a
  | not _ => False
  | and _ _ => False
  | or f g => f.IsDisjunctionOf P ∧ g.IsDisjunctionOf P

variable {P : α → Prop} {f : Formula α} {truth truth' : α → Bool}

private theorem NegationFree.eq_zero (hFree : f.NegationFree) : ∀ p ∈ f.negations, p.2 = 0 := by
  induction f with
  | leaf a => simp [negations]
  | not f _ => exact hFree.elim
  | and f g ihf ihg => exact List.forall_mem_append.2 ⟨ihf hFree.1, ihg hFree.2⟩
  | or f g ihf ihg => exact List.forall_mem_append.2 ⟨ihf hFree.1, ihg hFree.2⟩

/-- A formula without negation stays true when true leaves stay true. -/
theorem holds_mono (hFree : f.NegationFree) (h : ∀ a ∈ f.leaves, truth a = true → truth' a = true)
    (hHolds : f.holds truth = true) : f.holds truth' = true := by
  refine holds_of_polarity (fun p hp => ⟨fun _ => h p.1 ?_, fun hOdd => ?_⟩) hHolds
  · rw [← map_fst_negations]
    exact List.mem_map_of_mem hp
  · rw [hFree.eq_zero p hp] at hOdd
    exact absurd hOdd Nat.not_odd_zero

/-- A disjunction is true when one of its leaves is. -/
theorem holds_iff_of_isDisjunctionOf (hf : f.IsDisjunctionOf P) :
    f.holds truth = true ↔ ∃ a ∈ f.leaves, truth a = true := by
  induction f with
  | leaf a => simp [holds, leaves]
  | not f _ => exact hf.elim
  | and f g _ _ => exact hf.elim
  | or f g ihf ihg => simp [holds, leaves, ihf hf.1, ihg hf.2, or_and_right, exists_or]

theorem IsDisjunctionOf.of_mem_leaves (hf : f.IsDisjunctionOf P) {a : α} (ha : a ∈ f.leaves) : P a := by
  induction f with
  | leaf b =>
    obtain rfl := List.mem_singleton.1 ha
    exact hf
  | not f _ => exact hf.elim
  | and f g _ _ => exact hf.elim
  | or f g ihf ihg => exact (List.mem_append.1 ha).elim (ihf hf.1) (ihg hf.2)

end TextQuery.Formula
