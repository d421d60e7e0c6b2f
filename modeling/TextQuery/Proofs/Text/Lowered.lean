import TextQuery.Proofs.Text.SmallLetters
import TextQuery.Proofs.Unicode.LetterCase

/-!
# Small letters by their surroundings

Whether a capital sigma becomes a final one is a question about the whole text in front of it and the whole text behind
it (`IsFinalSigma`).  Answered at every place for itself, this gives the small letters of a text
(`withoutCase_eq_lowered`).  A text in small letters has no capital left, and so no place where the surroundings matter:
it stays as it is (`withoutCase_withoutCase`).
-/

namespace TextQuery.Text

/-- Whether a capital sigma between two texts is a final one: a cased letter stands before it and none behind it, when
the characters that are passed over do not count. -/
def IsFinalSigma (l r : Text) : Prop := casedAtEnd l = some true ∧ casedAtStart r ≠ some true

instance (l r : Text) : Decidable (IsFinalSigma l r) := inferInstanceAs (Decidable (_ ∧ _))

/-- The small letters of what stands behind a text, every character seen between all that is before it and behind it. -/
def loweredBehind (l : Text) : Text → Text
  | [] => []
  | c :: r =>
    (if c = 'Σ' then [if IsFinalSigma l r then 'ς' else 'σ'] else Unicode.toLower c) ++ loweredBehind (l ++ [c]) r

/-- The small letters of a text. -/
def lowered (t : Text) : Text := loweredBehind [] t

/-! ### The small letters of the whole text -/

private theorem isFinalSigma_iff (l r : Text) :
    ((l.foldl casedAfter false && !beginsCased (r ++ [])) = true) ↔ IsFinalSigma l r := by
  rw [foldl_casedAfter, beginsCased_append, IsFinalSigma]
  cases casedAtEnd l <;> cases casedAtStart r <;> simp [beginsCased]

private theorem smallPart_eq_loweredBehind (l r : Text) :
    smallPart (l.foldl casedAfter false) [] r = loweredBehind l r := by
  induction r generalizing l with
  | nil => rfl
  | cons c r ih =>
    have hRest := ih (l ++ [c])
    rw [List.foldl_concat] at hRest
    rw [smallPart, loweredBehind, hRest, smallForm]
    simp only [isFinalSigma_iff]

/-- The small letters of a text, by the short way for ASCII texts too. -/
theorem withoutCase_eq_lowered (t : Text) : t.withoutCase = t.lowered := by
  rw [withoutCase_eq]
  exact smallPart_eq_loweredBehind [] t

/-! ### Small letters once more -/

private theorem toLower_of_mem_withoutCase {t : Text} {d : Char} (h : d ∈ t.withoutCase) : Unicode.toLower d = [d] := by
  rw [withoutCase_eq] at h
  obtain ⟨c, -, hLower | ⟨-, rfl⟩⟩ := exists_of_mem_smallPart h
  · exact Unicode.toLower_of_mem_toLower hLower
  · decide

private theorem smallPart_of_small {t : Text} (h : ∀ c ∈ t, Unicode.toLower c = [c]) (before : Bool) (behind : Text) :
    smallPart before behind t = t := by
  induction t generalizing before with
  | nil => rfl
  | cons c t ih =>
    have hc := h c List.mem_cons_self
    have hSigma : c ≠ 'Σ' := by
      rintro rfl
      exact absurd hc (by decide)
    rw [smallPart, smallForm_of_ne_sigma hSigma, hc, ih fun d hd => h d (List.mem_cons_of_mem c hd)]
    rfl

/-- A text in small letters stays as it is. -/
theorem withoutCase_withoutCase (t : Text) : t.withoutCase.withoutCase = t.withoutCase := by
  rw [withoutCase_eq t.withoutCase]
  exact smallPart_of_small (fun d hd => toLower_of_mem_withoutCase hd) false []

/-- Small letters bring no accents in. -/
theorem isBare_of_mem_withoutCase {t : Text} (h : ∀ c ∈ t, Unicode.IsBare c) {d : Char} (hd : d ∈ t.withoutCase) :
    Unicode.IsBare d := by
  rw [withoutCase_eq] at hd
  obtain ⟨c, hc, hLower | ⟨-, rfl⟩⟩ := exists_of_mem_smallPart hd
  · exact (h c hc).of_mem_toLower hLower
  · decide

end TextQuery.Text
