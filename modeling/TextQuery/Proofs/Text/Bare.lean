import TextQuery.Proofs.Text.Accents
import TextQuery.Proofs.Unicode.LetterCase

/-!
# Texts that have no accents

What is left of a text without its accents has none (`isBare_of_mem_withoutAccents`), and a text that has none is left as
it is (`withoutAccents_of_isBare`).  With the way in which accents are dropped, character by character, this is all that
there is to know (`withoutAccents_characterwise`): parts of a text can be taken one by one, and the second time nothing
happens.
-/

namespace TextQuery.Text

theorem base_of_isBare {c : Char} (hc : Unicode.IsBare c) : base c = [c] := by
  rw [base, hc.1, dropMarks, List.filter_singleton, hc.2]
  rfl

theorem isBare_of_mem_base {c d : Char} (h : d ∈ base c) : Unicode.IsBare d := by
  obtain ⟨hDecompose, hMark⟩ := List.mem_filter.1 h
  exact Unicode.isBare_of_mem_decompose hDecompose (by simpa using hMark)

/-- Nothing with an accent is left. -/
theorem isBare_of_mem_withoutAccents {t : Text} {d : Char} (h : d ∈ t.withoutAccents) : Unicode.IsBare d := by
  rw [withoutAccents_eq] at h
  obtain ⟨c, -, hBase⟩ := List.mem_flatMap.1 h
  exact isBare_of_mem_base hBase

/-- A text that has no accents loses nothing. -/
theorem withoutAccents_of_isBare {t : Text} (h : ∀ c ∈ t, Unicode.IsBare c) : t.withoutAccents = t := by
  rw [withoutAccents_eq]
  calc t.flatMap base = t.flatMap fun c => [c] := List.flatMap_congr fun c hc => base_of_isBare (h c hc)
    _ = t := List.flatMap_singleton' t

theorem withoutAccents_append (t u : Text) : (t ++ u).withoutAccents = t.withoutAccents ++ u.withoutAccents := by
  rw [withoutAccents_eq, withoutAccents_eq, withoutAccents_eq, List.flatMap_append]

/-- Accents are dropped character by character, by the short way for ASCII texts as well as by the long way over the
canonical decomposition of the text.  So they are dropped in every part by itself, and all at once. -/
theorem withoutAccents_characterwise (t u : Text) :
    t.withoutAccents = t.flatMap (fun c => dropMarks (Unicode.decompose c)) ∧
      dropMarks t.decomposition = t.flatMap (fun c => dropMarks (Unicode.decompose c)) ∧
      (t ++ u).withoutAccents = t.withoutAccents ++ u.withoutAccents ∧
      t.withoutAccents.withoutAccents = t.withoutAccents := by
  have hAgain : t.withoutAccents.withoutAccents = t.withoutAccents :=
    withoutAccents_of_isBare fun d hd => isBare_of_mem_withoutAccents hd
  exact ⟨withoutAccents_eq t, dropMarks_decomposition t, withoutAccents_append t u, hAgain⟩

end TextQuery.Text
