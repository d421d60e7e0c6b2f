import TextQuery.Proofs.Unicode.Decomposition

/-!
# What small letters are

A small letter is its own small form (`toLower_of_mem_toLower`), and the small form of a character without accents has
none (`IsBare.of_mem_toLower`).
-/

namespace TextQuery.Unicode

/-- The characters that are left as they are when accents are dropped. -/
def IsBare (c : Char) : Prop := decompose c = [c] ∧ isMark c = false

instance (c : Char) : Decidable (IsBare c) := inferInstanceAs (Decidable (_ ∧ _))

private theorem small_letters_alone :
    smallLetters &&& (capitals ||| bits [(0x130, 0x130)]) = 0 ∧
      (caseRuns.all fun run =>
        let marked := run.distances &&& (decomposable ||| bits markRanges) >>> run.image
        marked &&& decomposable >>> run.first == marked) = true := by
  decide +kernel

/-- Only the small letter of a character that is decomposed is a mark or decomposed. -/
private theorem IsListedCapital.decomposable {n m : Nat} (h : IsListedCapital n m)
    (hm : (Unicode.decomposable ||| bits markRanges).testBit m = true) : Unicode.decomposable.testBit n = true := by
  obtain ⟨run, hRun, d, -, hDistance, rfl, rfl⟩ := h
  have hChecked := beq_iff_eq.1 (List.all_eq_true.1 small_letters_alone.2 run hRun)
  rw [← Nat.testBit_shiftRight]
  refine testBit_of_and_eq hChecked ?_
  rw [Nat.testBit_and, hDistance, Bool.true_and, Nat.testBit_shiftRight]
  exact hm

/-- A small letter is its own small form. -/
theorem toLower_of_mem_toLower {c d : Char} (h : d ∈ toLower c) : toLower d = [d] := by
  rcases toLower_cases c with ⟨-, hDotted⟩ | ⟨m, hListed, hSmall⟩ | hSame
  · rw [hDotted] at h
    rcases List.mem_cons.1 h with rfl | h
    · rfl
    · obtain rfl := List.mem_singleton.1 h
      rfl
  · rw [hSmall] at h
    obtain rfl := List.mem_singleton.1 h
    have hAlone := testBit_of_and_eq_zero small_letters_alone.1 hListed.testBit_smallLetters
    rw [Nat.testBit_or, Bool.or_eq_false_iff] at hAlone
    rcases toLower_cases (Char.ofNat m) with ⟨hDotted, -⟩ | ⟨k, hCapital, -⟩ | hSame
    · have hCode : m = 0x130 := by rw [← hListed.toNat_ofNat, hDotted]; rfl
      rw [hCode] at hAlone
      cases hAlone.2
    · rw [hListed.toNat_ofNat] at hCapital
      rw [hCapital.testBit_capitals] at hAlone
      cases hAlone.1
    · exact hSame
  · rw [hSame] at h
    obtain rfl := List.mem_singleton.1 h
    exact hSame

/-- The small form of a character without accents has none. -/
theorem IsBare.of_mem_toLower {c d : Char} (hc : IsBare c) (h : d ∈ toLower c) : IsBare d := by
  rcases toLower_cases c with ⟨rfl, -⟩ | ⟨m, hListed, hSmall⟩ | hSame
  · exact absurd hc (by decide)
  · rw [hSmall] at h
    obtain rfl := List.mem_singleton.1 h
    have hSelf := decompose_eq_self_iff.1 hc.1
    have hBare : ¬ (decomposable ||| bits markRanges).testBit m = true := fun hm => by
      rw [hListed.decomposable hm] at hSelf
      cases hSelf
    rw [Bool.not_eq_true, Nat.testBit_or, Bool.or_eq_false_iff] at hBare
    rw [← hListed.toNat_ofNat] at hBare
    exact ⟨decompose_of_testBit hBare.1, (isMark_eq_testBit _).trans hBare.2⟩
  · rw [hSame] at h
    obtain rfl := List.mem_singleton.1 h
    exact hc

/-- The character is left of what it is decomposed to, unless it is a mark. -/
theorem isBare_of_mem_decompose {c d : Char} (h : d ∈ decompose c) (hMark : isMark d = false) : IsBare d :=
  ⟨decompose_of_mem_decompose h, hMark⟩

end TextQuery.Unicode
