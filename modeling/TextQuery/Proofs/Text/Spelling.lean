import TextQuery.Proofs.Text.Accents
import TextQuery.Proofs.Unicode.Decomposition

/-!
# Texts that are equal up to accents

A text is changed in its accents only when marks are put in or taken out, and when it is spelled in another way that has
the same canonical decomposition.  The texts that become equal without their accents are just those that such changes
turn into each other (`equalUpToAccents_iff`).
-/

namespace TextQuery.Text

/-- Whether a text is turned into another one by changes of its accents. -/
inductive EqualUpToAccents : Text → Text → Prop
  /-- A mark is taken out. -/
  | mark (a b : Text) {c : Char} (hc : Unicode.isMark c = true) : EqualUpToAccents (a ++ c :: b) (a ++ b)
  /-- The text is spelled in another way. -/
  | spelling {t u : Text} (h : t.decomposition = u.decomposition) : EqualUpToAccents t u
  | symm {t u : Text} (h : EqualUpToAccents t u) : EqualUpToAccents u t
  | trans {t u v : Text} (h : EqualUpToAccents t u) (h' : EqualUpToAccents u v) : EqualUpToAccents t v

/-! ### Changes of accents do not matter -/

/-- Nothing is left of a mark. -/
theorem base_of_isMark {c : Char} (hc : Unicode.isMark c = true) : base c = [] := by
  rw [base, dropMarks, List.filter_eq_nil_iff]
  intro d hd
  rw [Unicode.isMark_of_mem_decompose hc hd]
  exact Bool.false_ne_true

/-- Texts with one canonical decomposition are the same without their accents, also when one of them is an ASCII text
and not decomposed at all. -/
theorem withoutAccents_congr {t u : Text} (h : t.decomposition = u.decomposition) :
    t.withoutAccents = u.withoutAccents := by
  rw [withoutAccents_eq, withoutAccents_eq, ← dropMarks_decomposition, ← dropMarks_decomposition, h]

theorem EqualUpToAccents.withoutAccents_eq {t u : Text} (h : t.EqualUpToAccents u) :
    t.withoutAccents = u.withoutAccents := by
  induction h with
  | mark a b hc =>
    simp only [Text.withoutAccents_eq, List.flatMap_append, List.flatMap_cons]
    rw [base_of_isMark hc, List.nil_append]
  | spelling h => exact withoutAccents_congr h
  | symm _ ih => exact ih.symm
  | trans _ _ ih ih' => exact ih.trans ih'

/-! ### Nothing else is lost -/

private theorem flatMap_decompose_twice (t : Text) :
    (t.flatMap Unicode.decompose).flatMap Unicode.decompose = t.flatMap Unicode.decompose := by
  rw [List.flatMap_assoc]
  refine List.flatMap_congr fun c _ => ?_
  calc (Unicode.decompose c).flatMap Unicode.decompose
      = (Unicode.decompose c).flatMap fun d => [d] :=
        List.flatMap_congr fun d hd => Unicode.decompose_of_mem_decompose hd
    _ = Unicode.decompose c := List.flatMap_singleton' _

private theorem equalUpToAccents_decomposed (t : Text) : t.EqualUpToAccents (t.flatMap Unicode.decompose) := by
  refine .spelling ?_
  rw [decomposition, decomposition, flatMap_decompose_twice]

private theorem equalUpToAccents_dropMarks (a t : Text) : (a ++ t).EqualUpToAccents (a ++ dropMarks t) := by
  induction t generalizing a with
  | nil => exact .spelling rfl
  | cons c t ih =>
    by_cases hc : Unicode.isMark c = true
    · rw [dropMarks_cons_of_isMark hc]
      exact (EqualUpToAccents.mark a t hc).trans (ih a)
    · have hKept : dropMarks (c :: t) = c :: dropMarks t := List.filter_cons_of_pos (by simpa using hc)
      have hRest := ih (a ++ [c])
      rwa [List.append_assoc, List.append_assoc, List.singleton_append, List.singleton_append, ← hKept] at hRest

/-- A text is equal to what it is without its accents, up to accents. -/
theorem equalUpToAccents_withoutAccents (t : Text) : t.EqualUpToAccents t.withoutAccents := by
  have hBare : t.withoutAccents = dropMarks (t.flatMap Unicode.decompose) := by
    rw [withoutAccents_eq, dropMarks, List.filter_flatMap]
    rfl
  rw [hBare]
  exact (equalUpToAccents_decomposed t).trans (equalUpToAccents_dropMarks [] _)

/-- Two texts are equal up to accents when they are the same without them. -/
theorem equalUpToAccents_iff {t u : Text} : t.EqualUpToAccents u ↔ t.withoutAccents = u.withoutAccents := by
  refine ⟨EqualUpToAccents.withoutAccents_eq, fun h => ?_⟩
  have hRight := equalUpToAccents_withoutAccents u
  rw [← h] at hRight
  exact (equalUpToAccents_withoutAccents t).trans hRight.symm

end TextQuery.Text
