/-!
# Sets of characters as ranges

A property of characters is given by the ranges of code points that have it, in increasing order.
-/

namespace TextQuery.Unicode

/-- Whether a code point lies in one of the ranges.  The ranges are in increasing order, so the search stops at the
first range that begins after the code point. -/
def inRanges (n : Nat) : List (Nat × Nat) → Bool
  | [] => false
  | (first, last) :: rest => Nat.ble first n && (Nat.ble n last || inRanges n rest)

/-- A code point found by the search lies in one of the ranges. -/
theorem exists_mem_of_inRanges {n : Nat} {ranges : List (Nat × Nat)} (h : inRanges n ranges = true) :
    ∃ r ∈ ranges, r.1 ≤ n ∧ n ≤ r.2 := by
  induction ranges with
  | nil => simp [inRanges] at h
  | cons r rest ih =>
    simp only [inRanges, Bool.and_eq_true, Bool.or_eq_true, Nat.ble_eq] at h
    rcases h with ⟨hFirst, hLast | hRest⟩
    · exact ⟨r, List.mem_cons_self, hFirst, hLast⟩
    · obtain ⟨s, hs, hn⟩ := ih hRest
      exact ⟨s, List.mem_cons_of_mem _ hs, hn⟩

end TextQuery.Unicode
