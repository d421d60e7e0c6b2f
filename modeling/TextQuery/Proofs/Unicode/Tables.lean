import TextQuery.Proofs.Unicode.BitSets
import TextQuery.Unicode.Alphanumeric
import TextQuery.Unicode.Blank
import TextQuery.Unicode.CombiningClass
import TextQuery.Unicode.Decomposition
import TextQuery.Unicode.LetterCase
import TextQuery.Unicode.Mark

/-!
# What the tables of characters have in common

Facts about characters that hold because of how the tables lie to each other: only marks have a combining class
(`isMark_of_combiningClass`), only letters and numbers have a small letter of their own (`toLower_of_not_alphanumeric`),
and neither decomposition nor small letters bring control characters in.  Sets of characters are compared as numbers,
and the two tables of images are checked run by run.
-/

namespace TextQuery.Unicode

/-! ### How the sets lie to each other -/

/-- How far the capitals of a run are behind its first one, as bits. -/
def CaseRun.distances (run : CaseRun) : Nat := multiples run.stride ((run.last - run.first) / run.stride + 1)

/-- The listed capitals. -/
def capitals : Nat := union (fun run => run.distances <<< run.first) caseRuns

/-- The small letters of the listed capitals. -/
def smallLetters : Nat := union (fun run => run.distances <<< run.image) caseRuns

/-- The characters with a combining class. -/
private def withCombiningClass : Nat := bits (combiningClassRanges.map fun r => (r.1, r.2.1))

/-- The ranges that are searched stand in order, some sets are parts of others, and white space is apart from all. -/
private theorem sets_agree :
    ((markRanges.map Prod.fst).IsChain (· ≤ ·) ∧ (alphanumericRanges.map Prod.fst).IsChain (· ≤ ·)) ∧
      (withCombiningClass &&& bits markRanges = withCombiningClass ∧
        capitals &&& bits alphanumericRanges = capitals ∧
        bits casedRanges &&& bits alphanumericRanges = bits casedRanges) ∧
      (bits blankRanges &&& bits markRanges = 0 ∧ bits blankRanges &&& bits alphanumericRanges = 0 ∧
        bits blankRanges &&& bits casedRanges = 0 ∧ bits blankRanges &&& bits caseIgnorableRanges = 0) := by
  decide +kernel

theorem isMark_eq_testBit (c : Char) : isMark c = (bits markRanges).testBit c.toNat :=
  inRanges_eq_testBit sets_agree.1.1 c.toNat

theorem isAlphanumeric_eq_testBit (c : Char) : isAlphanumeric c = (bits alphanumericRanges).testBit c.toNat :=
  inRanges_eq_testBit sets_agree.1.2 c.toNat

/-! ### Characters one by one -/

/-- A property of the white space characters in the table is one of all white space. -/
theorem forall_blank {P : Char → Prop}
    (h : ∀ r ∈ blankRanges, ∀ i < r.2 + 1 - r.1, P (Char.ofNat (r.1 + i))) {c : Char} (hc : isBlank c = true) :
    P c := by
  obtain ⟨r, hr, hFirst, hLast⟩ := exists_mem_of_inRanges hc
  have hc := h r hr (c.toNat - r.1) (by omega)
  rw [Nat.add_sub_cancel' hFirst, Char.ofNat_toNat] at hc
  exact hc

/-! ### Combining classes -/

private theorem exists_of_classInRanges {n : Nat} {ranges : List (Nat × Nat × Nat)} (h : classInRanges n ranges ≠ 0) :
    ∃ r ∈ ranges, r.1 ≤ n ∧ n ≤ r.2.1 := by
  induction ranges with
  | nil => exact absurd rfl h
  | cons r rest ih =>
    obtain ⟨first, last, k⟩ := r
    rw [classInRanges] at h
    by_cases hFirst : Nat.blt n first = true
    · rw [if_pos hFirst] at h
      exact absurd rfl h
    · rw [if_neg hFirst] at h
      by_cases hLast : Nat.ble n last = true
      · rw [Nat.blt_eq, Nat.not_lt] at hFirst
        exact ⟨_, List.mem_cons_self, hFirst, Nat.le_of_ble_eq_true hLast⟩
      · rw [if_neg hLast] at h
        obtain ⟨r, hr, hIn⟩ := ih h
        exact ⟨r, List.mem_cons_of_mem _ hr, hIn⟩

/-- Only marks have a combining class. -/
theorem isMark_of_combiningClass {c : Char} (h : combiningClass c ≠ 0) : isMark c = true := by
  obtain ⟨-, ⟨hMarks, -, -⟩, -⟩ := sets_agree
  obtain ⟨r, hr, hFirst, hLast⟩ := exists_of_classInRanges h
  rw [isMark_eq_testBit]
  exact testBit_of_and_eq hMarks (testBit_bits.2 ⟨_, List.mem_map_of_mem hr, hFirst, hLast⟩)

/-! ### Small letters -/

/-- The code point `n` is listed as that of a capital with the small letter `m`. -/
def IsListedCapital (n m : Nat) : Prop :=
  ∃ run ∈ caseRuns, ∃ d ≤ run.last - run.first, run.distances.testBit d = true ∧ n = run.first + d ∧ m = run.image + d

private theorem testBit_shiftLeft_add {s d : Nat} (h : s.testBit d = true) (n : Nat) :
    (s <<< n).testBit (n + d) = true := by
  rw [Nat.testBit_shiftLeft, Nat.add_sub_cancel_left, h, Bool.and_true, decide_eq_true_eq]
  exact Nat.le_add_right n d

theorem IsListedCapital.testBit_capitals {n m : Nat} (h : IsListedCapital n m) : capitals.testBit n = true := by
  obtain ⟨run, hRun, d, -, hDistance, rfl, -⟩ := h
  exact testBit_union.2 ⟨run, hRun, testBit_shiftLeft_add hDistance run.first⟩

theorem IsListedCapital.testBit_smallLetters {n m : Nat} (h : IsListedCapital n m) :
    smallLetters.testBit m = true := by
  obtain ⟨run, hRun, d, -, hDistance, -, rfl⟩ := h
  exact testBit_union.2 ⟨run, hRun, testBit_shiftLeft_add hDistance run.image⟩

private theorem CaseRun.testBit_distances {run : CaseRun} {d : Nat} (hLast : d ≤ run.last - run.first)
    (hStride : d % run.stride = 0) : run.distances.testBit d = true := by
  have hPlace : run.stride * (d / run.stride) = d := Nat.mul_div_cancel' (Nat.dvd_of_mod_eq_zero hStride)
  have hBound : d / run.stride ≤ (run.last - run.first) / run.stride := Nat.div_le_div_right hLast
  have hBit : run.distances.testBit (run.stride * (d / run.stride)) = true :=
    testBit_multiples (Nat.lt_succ_of_le hBound)
  rwa [hPlace] at hBit

private theorem exists_run_of_lowerInRuns {n : Nat} {runs : List CaseRun} (h : lowerInRuns n runs ≠ n) :
    ∃ run ∈ runs, ∃ d ≤ run.last - run.first,
      run.distances.testBit d = true ∧ n = run.first + d ∧ lowerInRuns n runs = run.image + d := by
  induction runs with
  | nil => exact absurd rfl h
  | cons run rest ih =>
    rw [lowerInRuns] at h ⊢
    by_cases hFirst : Nat.blt n run.first = true
    · rw [if_pos hFirst] at h
      exact absurd rfl h
    · rw [if_neg hFirst] at h ⊢
      by_cases hLast : Nat.ble n run.last = true
      · rw [if_pos hLast] at h ⊢
        by_cases hStride : Nat.beq ((n - run.first) % run.stride) 0 = true
        · rw [if_pos hStride]
          rw [Nat.blt_eq, Nat.not_lt] at hFirst
          have hDistance : n - run.first ≤ run.last - run.first :=
            Nat.sub_le_sub_right (Nat.le_of_ble_eq_true hLast) run.first
          exact ⟨run, List.mem_cons_self, n - run.first, hDistance,
            CaseRun.testBit_distances hDistance (Nat.eq_of_beq_eq_true hStride), by omega, rfl⟩
        · rw [if_neg hStride] at h
          exact absurd rfl h
      · rw [if_neg hLast] at h ⊢
        obtain ⟨run, hRun, hListed⟩ := ih h
        exact ⟨run, List.mem_cons_of_mem _ hRun, hListed⟩

/-- The characters of a small form: those of the dotted capital I, a listed small letter, or the character itself. -/
theorem toLower_cases (c : Char) :
    (c = '\u0130' ∧ toLower c = ['i', '\u0307']) ∨
      (∃ m, IsListedCapital c.toNat m ∧ toLower c = [Char.ofNat m]) ∨ toLower c = [c] := by
  unfold toLower
  by_cases hDotted : c = '\u0130'
  · exact .inl ⟨hDotted, if_pos hDotted⟩
  · rw [if_neg hDotted]
    by_cases hLower : lowerInRuns c.toNat caseRuns = c.toNat
    · rw [hLower, Char.ofNat_toNat]
      exact .inr (.inr rfl)
    · obtain ⟨run, hRun, d, hd, hDistance, hCapital, hSmall⟩ := exists_run_of_lowerInRuns hLower
      exact .inr (.inl ⟨_, ⟨run, hRun, d, hd, hDistance, hCapital, hSmall⟩, rfl⟩)

/-- A character that is no letter and no number is its own small letter. -/
theorem toLower_of_not_alphanumeric {c : Char} (hc : isAlphanumeric c = false) : toLower c = [c] := by
  obtain ⟨-, ⟨-, hLetters, -⟩, -⟩ := sets_agree
  rcases toLower_cases c with ⟨rfl, -⟩ | ⟨m, hListed, -⟩ | hSame
  · have hLetter : isAlphanumeric '\u0130' = true := rfl
    rw [hLetter] at hc
    cases hc
  · rw [isAlphanumeric_eq_testBit, testBit_of_and_eq hLetters hListed.testBit_capitals] at hc
    cases hc
  · exact hSame

/-- A cased character is a letter, or a number such as a Roman numeral. -/
theorem isAlphanumeric_of_isCased {c : Char} (hc : isCased c = true) : isAlphanumeric c = true := by
  obtain ⟨-, ⟨-, -, hLetters⟩, -⟩ := sets_agree
  rw [isAlphanumeric_eq_testBit]
  exact testBit_of_and_eq hLetters (testBit_of_inRanges hc)

/-! ### Control characters -/

/-- Whether all numbers from `first` to `last` are code points of characters behind the control characters. -/
def isTextRange (first last : Nat) : Bool :=
  Nat.ble 32 first && (Nat.blt last 0xD800 || (Nat.blt 0xDFFF first && Nat.blt last 0x110000))

theorem toNat_ofNat_of_isTextRange {first last n : Nat} (h : isTextRange first last = true) (hFirst : first ≤ n)
    (hLast : n ≤ last) : (Char.ofNat n).toNat = n := by
  simp only [isTextRange, Bool.and_eq_true, Bool.or_eq_true, Nat.ble_eq, Nat.blt_eq] at h
  have hValid : n.isValidChar := by
    unfold Nat.isValidChar
    omega
  rw [Char.ofNat, dif_pos hValid]
  rfl

private theorem le_toNat_of_isTextRange {first last n : Nat} (h : isTextRange first last = true) (hFirst : first ≤ n)
    (hLast : n ≤ last) : 32 ≤ (Char.ofNat n).toNat := by
  rw [toNat_ofNat_of_isTextRange h hFirst hLast]
  simp only [isTextRange, Bool.and_eq_true, Nat.ble_eq] at h
  omega

theorem hangulLetters_bounds {n k : Nat} (hn : n ≤ 0xD7A3) (hk : k ∈ hangulLetters n) :
    0x1100 ≤ k ∧ k ≤ 0x11FF := by
  unfold hangulLetters at hk
  dsimp only at hk
  split at hk <;> simp only [List.mem_cons, List.not_mem_nil, or_false] at hk <;> omega

/-- The code point `n` is listed with the decomposition `image`. -/
def IsListedImage (n : Nat) (image : List Nat) : Prop :=
  ∃ run ∈ decompositionRuns, ∃ d, run.first + d = n ∧ n ≤ run.last ∧ run.images[d]? = some image

private theorem exists_run_of_imageInRuns {n : Nat} {image : List Nat} {runs : List DecompositionRun}
    (h : imageInRuns n runs = some image) :
    ∃ run ∈ runs, ∃ d, run.first + d = n ∧ n ≤ run.last ∧ run.images[d]? = some image := by
  induction runs with
  | nil => cases h
  | cons run rest ih =>
    rw [imageInRuns] at h
    by_cases hFirst : Nat.blt n run.first = true
    · rw [if_pos hFirst] at h
      cases h
    · rw [if_neg hFirst] at h
      by_cases hLast : Nat.ble n run.last = true
      · rw [if_pos hLast] at h
        rw [Nat.blt_eq, Nat.not_lt] at hFirst
        exact ⟨run, List.mem_cons_self, n - run.first, by omega, Nat.le_of_ble_eq_true hLast, h⟩
      · rw [if_neg hLast] at h
        obtain ⟨run, hRun, hListed⟩ := ih h
        exact ⟨run, List.mem_cons_of_mem _ hRun, hListed⟩

/-- A character is decomposed as a Hangul syllable, as it is listed, or not at all. -/
theorem decompose_cases (c : Char) :
    (isHangulSyllable c.toNat = true ∧ decompose c = (hangulLetters c.toNat).map Char.ofNat) ∨
      (∃ image, IsListedImage c.toNat image ∧ decompose c = image.map Char.ofNat) ∨
      (isHangulSyllable c.toNat = false ∧ imageInRuns c.toNat decompositionRuns = none ∧ decompose c = [c]) := by
  unfold decompose
  by_cases hHangul : isHangulSyllable c.toNat = true
  · exact .inl ⟨hHangul, if_pos hHangul⟩
  · rw [if_neg hHangul]
    cases hImage : imageInRuns c.toNat decompositionRuns with
    | some image => exact .inr (.inl ⟨image, exists_run_of_imageInRuns hImage, rfl⟩)
    | none => exact .inr (.inr ⟨Bool.eq_false_iff.2 hHangul, rfl, rfl⟩)

/-- Both tables give code points of characters behind the control characters. -/
private theorem images_text :
    (decompositionRuns.all fun run => run.images.all fun image => image.all fun n => isTextRange n n) = true ∧
      (caseRuns.all fun run => isTextRange run.image (run.image + (run.last - run.first))) = true := by
  decide +kernel

private theorem IsListedImage.isTextRange {n m : Nat} {image : List Nat} (h : IsListedImage n image) (hm : m ∈ image) :
    isTextRange m m = true := by
  obtain ⟨run, hRun, d, -, -, hImage⟩ := h
  have hImages := List.all_eq_true.1 images_text.1 run hRun
  exact List.all_eq_true.1 (List.all_eq_true.1 hImages image (List.mem_of_getElem? hImage)) m hm

/-- Listed decompositions are those of their code points. -/
theorem IsListedImage.toNat_ofNat {n m : Nat} {image : List Nat} (h : IsListedImage n image) (hm : m ∈ image) :
    (Char.ofNat m).toNat = m :=
  toNat_ofNat_of_isTextRange (h.isTextRange hm) (Nat.le_refl m) (Nat.le_refl m)

private theorem IsListedCapital.exists_textRange {n m : Nat} (h : IsListedCapital n m) :
    ∃ first last, isTextRange first last = true ∧ first ≤ m ∧ m ≤ last := by
  obtain ⟨run, hRun, d, hd, -, -, rfl⟩ := h
  exact ⟨_, _, List.all_eq_true.1 images_text.2 run hRun, Nat.le_add_right run.image d, Nat.add_le_add_left hd run.image⟩

/-- Listed small letters are those of their code points. -/
theorem IsListedCapital.toNat_ofNat {n m : Nat} (h : IsListedCapital n m) : (Char.ofNat m).toNat = m := by
  obtain ⟨first, last, hText, hFirst, hLast⟩ := h.exists_textRange
  exact toNat_ofNat_of_isTextRange hText hFirst hLast

/-- Decomposition brings no control characters in. -/
theorem eq_of_mem_decompose {c d : Char} (h : d ∈ decompose c) (hd : d.toNat < 32) : d = c := by
  rcases decompose_cases c with ⟨hHangul, hLetters⟩ | ⟨image, hListed, hImage⟩ | ⟨-, -, hSame⟩
  · rw [hLetters] at h
    obtain ⟨n, hn, rfl⟩ := List.mem_map.1 h
    simp only [isHangulSyllable, Bool.and_eq_true, Nat.ble_eq] at hHangul
    have hBounds := hangulLetters_bounds hHangul.2 hn
    have hRange : isTextRange 0x1100 0x11FF = true := rfl
    have hText := le_toNat_of_isTextRange hRange hBounds.1 hBounds.2
    omega
  · rw [hImage] at h
    obtain ⟨n, hn, rfl⟩ := List.mem_map.1 h
    have hText := le_toNat_of_isTextRange (hListed.isTextRange hn) (Nat.le_refl n) (Nat.le_refl n)
    omega
  · rw [hSame] at h
    exact List.mem_singleton.1 h

/-- Small letters bring no control characters in. -/
theorem eq_of_mem_toLower {c d : Char} (h : d ∈ toLower c) (hd : d.toNat < 32) : d = c := by
  rcases toLower_cases c with ⟨-, hDotted⟩ | ⟨m, hListed, hSmall⟩ | hSame
  · rw [hDotted] at h
    rcases List.mem_cons.1 h with rfl | h
    · exact absurd hd (by decide)
    · obtain rfl := List.mem_singleton.1 h
      exact absurd hd (by decide)
  · rw [hSmall] at h
    obtain rfl := List.mem_singleton.1 h
    obtain ⟨first, last, hText, hFirst, hLast⟩ := hListed.exists_textRange
    have := le_toNat_of_isTextRange hText hFirst hLast
    omega
  · rw [hSame] at h
    exact List.mem_singleton.1 h

/-! ### White space -/

private theorem blank_images : ∀ r ∈ blankRanges, ∀ i < r.2 + 1 - r.1,
    (decompose (Char.ofNat (r.1 + i))).length = 1 ∧ (decompose (Char.ofNat (r.1 + i))).all isBlank = true := by
  decide +kernel

/-- White space is decomposed to white space, and is no mark, no letter, not cased and not passed over by case. -/
theorem blank_properties {c : Char} (hc : isBlank c = true) :
    (∃ d, decompose c = [d] ∧ isBlank d = true) ∧ isMark c = false ∧ isAlphanumeric c = false ∧ isCased c = false ∧
      isCaseIgnorable c = false := by
  obtain ⟨hLength, hBlank⟩ := forall_blank (P := fun c => (decompose c).length = 1 ∧
    (decompose c).all isBlank = true) blank_images hc
  obtain ⟨d, hd⟩ := List.length_eq_one_iff.1 hLength
  rw [hd] at hBlank
  obtain ⟨-, -, hMarks, hLetters, hCased, hIgnorable⟩ := sets_agree
  exact ⟨⟨d, hd, by simpa using hBlank⟩, inRanges_eq_false hMarks hc, inRanges_eq_false hLetters hc,
    inRanges_eq_false hCased hc, inRanges_eq_false hIgnorable hc⟩

/-! ### ASCII -/

private theorem ascii_table : ∀ n < 128, decompose (Char.ofNat n) = [Char.ofNat n] ∧ isMark (Char.ofNat n) = false ∧
    ((65 ≤ n ∧ n ≤ 90) ∨ toLower (Char.ofNat n) = [Char.ofNat n]) := by
  decide

/-- ASCII characters are no marks and their own decomposition, and but for the capitals their own small letters. -/
theorem ascii_properties {c : Char} (hc : c.toNat < 128) :
    decompose c = [c] ∧ isMark c = false ∧ ((65 ≤ c.toNat ∧ c.toNat ≤ 90) ∨ toLower c = [c]) := by
  have h := ascii_table c.toNat hc
  rw [Char.ofNat_toNat] at h
  exact h

end TextQuery.Unicode
