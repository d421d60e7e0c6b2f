import TextQuery.Proofs.Unicode.Tables

/-!
# What characters are decomposed to

Marks are decomposed to marks (`isMark_of_mem_decompose`), and what a character is decomposed to is not decomposed again
(`decompose_of_mem_decompose`).  The first is a matter of marks only, the second of characters that have a decomposition
of their own, listed or as a Hangul syllable.
-/

namespace TextQuery.Unicode

/-! ### Decompositions of marks -/

/-- The characters of a run. -/
def DecompositionRun.range (run : DecompositionRun) : Nat × Nat := (run.first, run.last)

/-- The Hangul syllables. -/
def hangulRange : Nat × Nat := (0xAC00, 0xD7A3)

theorem isHangulSyllable_eq_testBit (n : Nat) : isHangulSyllable n = (bits [hangulRange]).testBit n := by
  rw [Bool.eq_iff_iff, testBit_bits]
  simp [isHangulSyllable, hangulRange]

private theorem marks_decompose_to_marks :
    bits [hangulRange] &&& bits markRanges = 0 ∧
      (decompositionRuns.all fun run => bits [run.range] &&& bits markRanges == 0 ||
        run.images.all fun image => image.all (bits markRanges).testBit) = true := by
  decide +kernel

private theorem IsListedImage.isMark {n : Nat} {image : List Nat} (h : IsListedImage n image)
    (hn : (bits markRanges).testBit n = true) : ∀ m ∈ image, (bits markRanges).testBit m = true := by
  obtain ⟨run, hRun, d, rfl, hLast, hImage⟩ := h
  have hChecked := List.all_eq_true.1 marks_decompose_to_marks.2 run hRun
  rw [Bool.or_eq_true, beq_iff_eq] at hChecked
  rcases hChecked with hNone | hAll
  · have hRange : (bits [run.range]).testBit (run.first + d) = true :=
      testBit_bits.2 ⟨_, List.mem_singleton_self _, Nat.le_add_right run.first d, hLast⟩
    rw [testBit_of_and_eq_zero hNone hRange] at hn
    cases hn
  · exact List.all_eq_true.1 (List.all_eq_true.1 hAll image (List.mem_of_getElem? hImage))

/-- Marks are decomposed to marks. -/
theorem isMark_of_mem_decompose {c d : Char} (hc : isMark c = true) (h : d ∈ decompose c) : isMark d = true := by
  rw [isMark_eq_testBit] at hc
  rcases decompose_cases c with ⟨hHangul, -⟩ | ⟨image, hListed, hImage⟩ | ⟨-, -, hSame⟩
  · rw [isHangulSyllable_eq_testBit] at hHangul
    rw [testBit_of_and_eq_zero marks_decompose_to_marks.1 hHangul] at hc
    cases hc
  · rw [hImage] at h
    obtain ⟨n, hn, rfl⟩ := List.mem_map.1 h
    rw [isMark_eq_testBit, hListed.toNat_ofNat hn]
    exact hListed.isMark hc n hn
  · rw [hSame] at h
    obtain rfl := List.mem_singleton.1 h
    rw [isMark_eq_testBit]
    exact hc

/-! ### Decompositions are full -/

/-- The characters that are decomposed. -/
def decomposable : Nat := bits (hangulRange :: decompositionRuns.map DecompositionRun.range)

private theorem testBit_decomposable {n : Nat} :
    decomposable.testBit n = true ↔ isHangulSyllable n = true ∨ ∃ run ∈ decompositionRuns, run.first ≤ n ∧ n ≤ run.last := by
  rw [decomposable, testBit_bits, List.exists_mem_cons_iff]
  refine or_congr ?_ ?_
  · simp [isHangulSyllable, hangulRange]
  · simp [DecompositionRun.range]

theorem decompose_of_testBit {c : Char} (h : decomposable.testBit c.toNat = false) : decompose c = [c] := by
  rw [Bool.eq_false_iff, ne_eq, testBit_decomposable, not_or] at h
  rcases decompose_cases c with ⟨hHangul, -⟩ | ⟨image, ⟨run, hRun, d, hFirst, hLast, -⟩, -⟩ | ⟨-, -, hSame⟩
  · exact absurd hHangul h.1
  · exact absurd ⟨run, hRun, by omega, hLast⟩ h.2
  · exact hSame

/-- Whether runs are in increasing order from a code point on, and have an image for each of their code points. -/
private def areOrdered (start : Nat) : List DecompositionRun → Bool
  | [] => true
  | run :: rest =>
    Nat.ble start run.first && run.first + run.images.length == run.last + 1 && areOrdered (run.last + 1) rest

private theorem images_full :
    bits [(0x1100, 0x11FF)] &&& decomposable = 0 ∧
      (decompositionRuns.all fun run => run.images.all fun image => image.all fun n => !decomposable.testBit n) = true ∧
      areOrdered 0 decompositionRuns = true := by
  decide +kernel

private theorem IsListedImage.testBit_decomposable {n m : Nat} {image : List Nat} (h : IsListedImage n image)
    (hm : m ∈ image) : decomposable.testBit m = false := by
  obtain ⟨run, hRun, d, -, -, hImage⟩ := h
  have hImages := List.all_eq_true.1 images_full.2.1 run hRun
  have hFull := List.all_eq_true.1 (List.all_eq_true.1 hImages image (List.mem_of_getElem? hImage)) m hm
  rwa [Bool.not_eq_true'] at hFull

/-- The letters of Hangul are characters by themselves. -/
theorem toNat_of_mem_hangulLetters {c : Char} (hc : isHangulSyllable c.toNat = true) {n : Nat}
    (hn : n ∈ hangulLetters c.toNat) :
    (Char.ofNat n).toNat = n ∧ (bits [(0x1100, 0x11FF)]).testBit n = true := by
  simp only [isHangulSyllable, Bool.and_eq_true, Nat.ble_eq] at hc
  have hBounds := hangulLetters_bounds hc.2 hn
  have hRange : isTextRange 0x1100 0x11FF = true := rfl
  exact ⟨toNat_ofNat_of_isTextRange hRange hBounds.1 hBounds.2, testBit_bits.2 ⟨_, List.mem_singleton_self _, hBounds⟩⟩

/-- What a character is decomposed to is not decomposed again. -/
theorem decompose_of_mem_decompose {c d : Char} (h : d ∈ decompose c) : decompose d = [d] := by
  rcases decompose_cases c with ⟨hHangul, hLetters⟩ | ⟨image, hListed, hImage⟩ | ⟨-, -, hSame⟩
  · rw [hLetters] at h
    obtain ⟨n, hn, rfl⟩ := List.mem_map.1 h
    obtain ⟨hNat, hLetter⟩ := toNat_of_mem_hangulLetters hHangul hn
    refine decompose_of_testBit ?_
    rw [hNat]
    exact testBit_of_and_eq_zero images_full.1 hLetter
  · rw [hImage] at h
    obtain ⟨n, hn, rfl⟩ := List.mem_map.1 h
    refine decompose_of_testBit ?_
    rw [hListed.toNat_ofNat hn]
    exact hListed.testBit_decomposable hn
  · rw [hSame] at h
    obtain rfl := List.mem_singleton.1 h
    exact hSame

/-! ### What is listed is decomposed -/

private theorem isSome_imageInRuns {start n : Nat} {runs : List DecompositionRun} (h : areOrdered start runs = true)
    (hn : ∃ run ∈ runs, run.first ≤ n ∧ n ≤ run.last) : start ≤ n ∧ (imageInRuns n runs).isSome = true := by
  induction runs generalizing start with
  | nil =>
    obtain ⟨run, hRun, -⟩ := hn
    cases hRun
  | cons run rest ih =>
    simp only [areOrdered, Bool.and_eq_true, Nat.ble_eq, beq_iff_eq] at h
    obtain ⟨⟨hStart, hLength⟩, hRest⟩ := h
    rw [List.exists_mem_cons_iff] at hn
    rw [imageInRuns]
    rcases hn with ⟨hFirst, hLast⟩ | hn
    · have hBehind : ¬ Nat.blt n run.first = true := by
        rw [Nat.blt_eq]
        omega
      have hImage : n - run.first < run.images.length := by omega
      rw [if_neg hBehind, if_pos (Nat.ble_eq_true_of_le hLast), List.getElem?_eq_getElem hImage]
      exact ⟨hStart.trans hFirst, rfl⟩
    · obtain ⟨hBehind, hSome⟩ := ih hRest hn
      have hFirst : ¬ Nat.blt n run.first = true := by
        rw [Nat.blt_eq]
        omega
      have hLast : ¬ Nat.ble n run.last = true := by
        rw [Nat.ble_eq]
        omega
      rw [if_neg hFirst, if_neg hLast]
      exact ⟨by omega, hSome⟩

/-- The characters that are decomposed are the Hangul syllables and the listed ones. -/
theorem decompose_eq_self_iff {c : Char} : decompose c = [c] ↔ decomposable.testBit c.toNat = false := by
  refine ⟨fun h => ?_, decompose_of_testBit⟩
  have hSelf : c ∈ decompose c := by
    rw [h]
    exact List.mem_singleton_self c
  rcases decompose_cases c with ⟨hHangul, hLetters⟩ | ⟨image, hListed, hImage⟩ | ⟨hHangul, hNone, -⟩
  · rw [hLetters] at hSelf
    obtain ⟨n, hn, hSame⟩ := List.mem_map.1 hSelf
    obtain ⟨hNat, hLetter⟩ := toNat_of_mem_hangulLetters hHangul hn
    rw [hSame] at hNat
    rw [hNat]
    exact testBit_of_and_eq_zero images_full.1 hLetter
  · rw [hImage] at hSelf
    obtain ⟨n, hn, hSame⟩ := List.mem_map.1 hSelf
    have hNat := hListed.toNat_ofNat hn
    rw [hSame] at hNat
    rw [hNat]
    exact hListed.testBit_decomposable hn
  · rw [Bool.eq_false_iff, ne_eq, testBit_decomposable, not_or]
    refine ⟨by rw [hHangul]; exact Bool.false_ne_true, fun hIn => ?_⟩
    have hSome := (isSome_imageInRuns images_full.2.2 hIn).2
    rw [hNone] at hSome
    cases hSome

end TextQuery.Unicode
