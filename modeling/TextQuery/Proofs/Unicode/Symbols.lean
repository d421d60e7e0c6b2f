import TextQuery.Proofs.Unicode.Decomposition

/-!
# What symbols are decomposed to

Symbols are here all characters that are no letters, numbers or marks: punctuation, signs, emoji, white space.  A
symbol that is decomposed is one other symbol and marks behind it (`exists_base_of_isSymbol`), such as `≠`, which is
`=` with a stroke.  Nothing else is decomposed to symbols (`isSymbol_of_mem_decompose`).
-/

namespace TextQuery.Unicode

/-- Whether a character is no letter, no number and no mark. -/
def isSymbol (c : Char) : Bool := !isAlphanumeric c && !isMark c

/-- All characters but the symbols. -/
private def words : Nat := bits alphanumericRanges ||| bits markRanges

private theorem isSymbol_eq_testBit (c : Char) : isSymbol c = !words.testBit c.toNat := by
  rw [isSymbol, isAlphanumeric_eq_testBit, isMark_eq_testBit, words, Nat.testBit_or, Bool.not_or]

/-- Whether all that is left of a decomposition without its marks is one symbol. -/
private def leavesSymbol (image : List Nat) : Bool :=
  match image.filter fun n => !(bits markRanges).testBit n with
  | [n] => !words.testBit n
  | _ => false

/-- Whether a character is decomposed to no symbols, or is a symbol and decomposed to one other and marks. -/
private def keepsSymbols (n : Nat) (image : List Nat) : Bool :=
  if words.testBit n then image.all words.testBit else leavesSymbol image

private theorem symbols_by_themselves :
    bits [hangulRange] &&& words = bits [hangulRange] ∧ bits [(0x1100, 0x11FF)] &&& words = bits [(0x1100, 0x11FF)] ∧
      (decompositionRuns.all fun run => run.images.zipIdx.all fun (image, d) => keepsSymbols (run.first + d) image) =
        true := by
  decide +kernel

private theorem IsListedImage.keepsSymbols {n : Nat} {image : List Nat} (h : IsListedImage n image) :
    keepsSymbols n image = true := by
  obtain ⟨run, hRun, d, rfl, -, hImage⟩ := h
  have hRuns := List.all_eq_true.1 symbols_by_themselves.2.2 run hRun
  exact List.all_eq_true.1 hRuns (image, d) (List.mem_zipIdx_iff_getElem?.2 hImage)

/-- Only symbols are decomposed to symbols. -/
theorem isSymbol_of_mem_decompose {c d : Char} (h : d ∈ decompose c) (hd : isSymbol d = true) : isSymbol c = true := by
  rw [isSymbol_eq_testBit, Bool.not_eq_true'] at hd ⊢
  rcases decompose_cases c with ⟨hHangul, hLetters⟩ | ⟨image, hListed, hImage⟩ | ⟨-, -, hSame⟩
  · rw [hLetters] at h
    obtain ⟨n, hn, rfl⟩ := List.mem_map.1 h
    obtain ⟨hNat, hLetter⟩ := toNat_of_mem_hangulLetters hHangul hn
    rw [hNat, testBit_of_and_eq symbols_by_themselves.2.1 hLetter] at hd
    cases hd
  · rw [hImage] at h
    obtain ⟨n, hn, rfl⟩ := List.mem_map.1 h
    rw [hListed.toNat_ofNat hn] at hd
    by_contra hWord
    have hKept := hListed.keepsSymbols
    rw [keepsSymbols, if_pos (Bool.eq_true_of_not_eq_false hWord), List.all_eq_true] at hKept
    rw [hKept n hn] at hd
    cases hd
  · rw [hSame] at h
    obtain rfl := List.mem_singleton.1 h
    exact hd

private theorem exists_of_leavesSymbol {image : List Nat} (h : leavesSymbol image = true) :
    ∃ n, image.filter (fun n => !(bits markRanges).testBit n) = [n] ∧ words.testBit n = false := by
  unfold leavesSymbol at h
  split at h
  · rename_i n hKept
    exact ⟨n, hKept, by simpa using h⟩
  · cases h

/-- One symbol is left of a symbol without its marks. -/
theorem exists_base_of_isSymbol {c : Char} (hc : isSymbol c = true) :
    ∃ d, isSymbol d = true ∧ (decompose c).filter (fun d => !isMark d) = [d] := by
  have hBit := hc
  rw [isSymbol_eq_testBit, Bool.not_eq_true'] at hBit
  rcases decompose_cases c with ⟨hHangul, -⟩ | ⟨image, hListed, hImage⟩ | ⟨-, -, hSame⟩
  · rw [isHangulSyllable_eq_testBit] at hHangul
    rw [testBit_of_and_eq symbols_by_themselves.1 hHangul] at hBit
    cases hBit
  · have hLeaves := hListed.keepsSymbols
    rw [keepsSymbols, if_neg (Bool.not_eq_true _ ▸ hBit)] at hLeaves
    obtain ⟨n, hKept, hSymbol⟩ := exists_of_leavesSymbol hLeaves
    have hn : n ∈ image := List.mem_of_mem_filter (hKept ▸ List.mem_singleton_self n)
    have hMarks : image.filter (fun n => !isMark (Char.ofNat n)) =
        image.filter fun n => !(bits markRanges).testBit n := by
      refine List.filter_congr fun n hn => ?_
      rw [isMark_eq_testBit, hListed.toNat_ofNat hn]
    refine ⟨Char.ofNat n, ?_, ?_⟩
    · rw [isSymbol_eq_testBit, hListed.toNat_ofNat hn, hSymbol]
      rfl
    · rw [hImage, List.filter_map]
      exact congrArg (List.map Char.ofNat) (hMarks.trans hKept)
  · refine ⟨c, hc, ?_⟩
    rw [isSymbol, Bool.and_eq_true] at hc
    rw [hSame, List.filter_singleton, hc.2]
    rfl

end TextQuery.Unicode
