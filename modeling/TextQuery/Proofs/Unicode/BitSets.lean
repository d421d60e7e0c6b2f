import Mathlib.Data.List.Chain
import Mathlib.Data.Nat.Bitwise
import TextQuery.Unicode.Ranges

/-!
# Sets of code points as numbers

A set of code points is a number with these bits.  Whether a character is in the set is a question about one bit, and
two sets are compared by one operation on their numbers.  So facts about whole tables can be left to the kernel, which
computes with large numbers at once but walks along lists slowly.
-/

namespace TextQuery.Unicode

/-- The bits of all sets that belong to the items of a list. -/
def union {α : Type} (set : α → Nat) (items : List α) : Nat := items.foldr (fun x n => set x ||| n) 0

theorem testBit_union {α : Type} {set : α → Nat} {items : List α} {n : Nat} :
    (union set items).testBit n = true ↔ ∃ x ∈ items, (set x).testBit n = true := by
  induction items with
  | nil => simp [union]
  | cons x items ih =>
    have hStep : union set (x :: items) = set x ||| union set items := rfl
    rw [hStep, Nat.testBit_or, Bool.or_eq_true, ih, List.exists_mem_cons_iff]

/-- The number whose bits are the code points in the ranges. -/
def bits (ranges : List (Nat × Nat)) : Nat := union (fun r => (2 ^ (r.2 + 1 - r.1) - 1) <<< r.1) ranges

theorem testBit_bits {n : Nat} {ranges : List (Nat × Nat)} :
    (bits ranges).testBit n = true ↔ ∃ r ∈ ranges, r.1 ≤ n ∧ n ≤ r.2 := by
  rw [bits, testBit_union]
  refine exists_congr fun r => and_congr_right fun _ => ?_
  rw [Nat.testBit_shiftLeft, Nat.testBit_two_pow_sub_one, Bool.and_eq_true, decide_eq_true_eq, decide_eq_true_eq]
  omega

/-- What the search in ranges finds is a bit. -/
theorem testBit_of_inRanges {n : Nat} {ranges : List (Nat × Nat)} (h : inRanges n ranges = true) :
    (bits ranges).testBit n = true :=
  testBit_bits.2 (exists_mem_of_inRanges h)

/-- In ranges in increasing order the search finds all bits. -/
theorem inRanges_eq_testBit {ranges : List (Nat × Nat)} (h : (ranges.map Prod.fst).IsChain (· ≤ ·)) (n : Nat) :
    inRanges n ranges = (bits ranges).testBit n := by
  rw [Bool.eq_iff_iff]
  refine ⟨testBit_of_inRanges, fun hBit => ?_⟩
  obtain ⟨r, hr, hFirst, hLast⟩ := testBit_bits.1 hBit
  have hOrder : (ranges.map Prod.fst).Pairwise (· ≤ ·) := List.isChain_iff_pairwise.1 h
  clear h hBit
  induction ranges with
  | nil => cases hr
  | cons s rest ih =>
    rw [List.map_cons, List.pairwise_cons] at hOrder
    simp only [inRanges, Bool.and_eq_true, Bool.or_eq_true, Nat.ble_eq]
    rcases List.mem_cons.1 hr with rfl | hRest
    · exact ⟨hFirst, .inl hLast⟩
    · have := hOrder.1 r.1 (List.mem_map_of_mem hRest)
      exact ⟨by omega, .inr (ih hRest hOrder.2)⟩

/-- The number whose bits are the first multiples of `stride`. -/
def multiples (stride : Nat) : Nat → Nat
  | 0 => 0
  | count + 1 => multiples stride count <<< stride ||| 1

theorem testBit_multiples {stride count i : Nat} (h : i < count) :
    (multiples stride count).testBit (stride * i) = true := by
  induction count generalizing i with
  | zero => omega
  | succ count ih =>
    rw [multiples, Nat.testBit_or, Bool.or_eq_true]
    cases i with
    | zero =>
      rw [Nat.mul_zero]
      exact .inr rfl
    | succ i =>
      rw [Nat.mul_succ, Nat.testBit_shiftLeft, Nat.add_sub_cancel, ih (Nat.lt_of_succ_lt_succ h), Bool.and_true,
        decide_eq_true_eq]
      exact .inl (Nat.le_add_left stride (stride * i))

variable {a b n : Nat}

/-- A number that has nothing outside another one is a subset of it. -/
theorem testBit_of_and_eq (h : a &&& b = a) (ha : a.testBit n = true) : b.testBit n = true := by
  rw [← h, Nat.testBit_and, Bool.and_eq_true] at ha
  exact ha.2

/-- Numbers that have nothing in common are disjoint sets. -/
theorem testBit_of_and_eq_zero (h : a &&& b = 0) (ha : a.testBit n = true) : b.testBit n = false := by
  have hBit := congrArg (fun k => k.testBit n) h
  simpa only [Nat.testBit_and, ha, Bool.true_and, Nat.zero_testBit] using hBit

/-- What lies in ranges does not lie in ranges that have nothing in common with them. -/
theorem inRanges_eq_false {ranges others : List (Nat × Nat)} (h : bits ranges &&& bits others = 0)
    (hn : inRanges n ranges = true) : inRanges n others = false := by
  by_contra hOther
  have hApart := testBit_of_and_eq_zero h (testBit_of_inRanges hn)
  rw [testBit_of_inRanges (Bool.eq_true_of_not_eq_false hOther)] at hApart
  cases hApart

end TextQuery.Unicode
