import TextQuery.Matching.Options
import TextQuery.Proofs.Text.Bare
import TextQuery.Proofs.Text.Lowered

/-!
# Preparing without short ways

Three short ways are taken when a text is prepared: an ASCII text is not decomposed, one without capitals is not
written in small letters, and where no small letters are written the text without accents is handed on.  None of them can
be told from the outcome (`prepare_in_full`).  What is prepared is prepared for good: accents have gone and do not come
back with the small letters, and no capital is left.
-/

namespace TextQuery.Options

/-- A text in the form in which it is compared, on the long way: decomposed and rid of its marks where accents are ignored,
then brought to small letters where letter case is. -/
def prepareInFull (o : Options) (t : Text) : Text :=
  let bare := if o.ignoreAccents then t.decomposition.dropMarks else t
  if o.ignoreCase then bare.lowered else bare

/-- Where no small letters are written, nothing is lost by writing them. -/
private theorem prepare_eq (o : Options) (t : Text) :
    o.prepare t = if o.ignoreCase then (if o.ignoreAccents then t.withoutAccents else t).withoutCase
      else if o.ignoreAccents then t.withoutAccents else t := by
  unfold prepare
  cases o.ignoreCase <;> rfl

private theorem withoutAccents_eq_inFull (t : Text) : t.withoutAccents = t.decomposition.dropMarks := by
  rw [Text.withoutAccents_eq, Text.dropMarks_decomposition]

private theorem prepare_eq_inFull (o : Options) (t : Text) : o.prepare t = o.prepareInFull t := by
  rw [prepare_eq, withoutAccents_eq_inFull, Text.withoutCase_eq_lowered]
  rfl

/-! ### Preparing once more -/

/-- Nothing happens to a text without accents in small letters, or with what is told apart. -/
private theorem prepare_of_plain {o : Options} {t : Text} (hBare : o.ignoreAccents = true → ∀ c ∈ t, Unicode.IsBare c)
    (hSmall : o.ignoreCase = true → t.withoutCase = t) : o.prepare t = t := by
  have hAccents : (if o.ignoreAccents then t.withoutAccents else t) = t := by
    split
    · next h => exact Text.withoutAccents_of_isBare (hBare h)
    · rfl
  rw [prepare_eq, hAccents]
  split
  · next h => exact hSmall h
  · rfl

private theorem isBare_of_mem_prepare {o : Options} (hAccents : o.ignoreAccents = true) {t : Text} {c : Char}
    (hc : c ∈ o.prepare t) : Unicode.IsBare c := by
  rw [prepare_eq, hAccents, if_pos rfl] at hc
  split at hc
  · exact Text.isBare_of_mem_withoutCase (fun d hd => Text.isBare_of_mem_withoutAccents hd) hc
  · exact Text.isBare_of_mem_withoutAccents hc

private theorem withoutCase_prepare {o : Options} (hCase : o.ignoreCase = true) (t : Text) :
    (o.prepare t).withoutCase = o.prepare t := by
  rw [prepare_eq, if_pos hCase, Text.withoutCase_withoutCase]

/-- Accents are dropped, small letters written and texts prepared as on the long way, whatever short ways are taken.  And
preparing a text once more does not change it. -/
theorem prepare_in_full (o : Options) (t : Text) :
    t.withoutAccents = t.decomposition.dropMarks ∧ t.withoutCase = t.lowered ∧ o.prepare t = o.prepareInFull t ∧
      o.prepare (o.prepare t) = o.prepare t := by
  refine ⟨withoutAccents_eq_inFull t, t.withoutCase_eq_lowered, prepare_eq_inFull o t, ?_⟩
  refine prepare_of_plain (fun hAccents c hc => ?_) fun hCase => ?_
  · exact isBare_of_mem_prepare hAccents hc
  · exact withoutCase_prepare hCase t

end TextQuery.Options
