import TextQuery.Proofs.Unicode.Tables
import TextQuery.Text.Accents

/-!
# Accents are dropped character by character

Canonical order moves marks only, and marks are dropped, so what is left of a text without its accents is what is left
of its characters one by one (`withoutAccents_eq`).
-/

namespace TextQuery.Text

/-- What is left of a character without its accents. -/
def base (c : Char) : Text := dropMarks (Unicode.decompose c)

theorem dropMarks_cons_of_isMark {c : Char} (hc : Unicode.isMark c = true) (t : Text) :
    dropMarks (c :: t) = dropMarks t := by
  simp [dropMarks, hc]

private theorem dropMarks_insertMark {c : Char} (hc : Unicode.isMark c = true) (t : Text) :
    dropMarks (insertMark c t) = dropMarks t := by
  induction t with
  | nil => exact dropMarks_cons_of_isMark hc []
  | cons d rest ih =>
    rw [insertMark]
    split
    · rename_i hBehind
      rw [dropMarks_cons_of_isMark (Unicode.isMark_of_combiningClass hBehind.1), ih,
        dropMarks_cons_of_isMark (Unicode.isMark_of_combiningClass hBehind.1)]
    · exact dropMarks_cons_of_isMark hc (d :: rest)

private theorem dropMarks_insertInOrder (c : Char) (t : Text) :
    dropMarks (insertInOrder c t) = dropMarks (c :: t) := by
  unfold insertInOrder
  by_cases hClass : Unicode.combiningClass c = 0
  · rw [if_pos hClass]
  · have hMark := Unicode.isMark_of_combiningClass hClass
    rw [if_neg hClass, dropMarks_insertMark hMark, dropMarks_cons_of_isMark hMark]

/-- Canonical order does not matter where marks are dropped. -/
private theorem dropMarks_canonicalOrder (t : Text) : dropMarks (canonicalOrder t) = dropMarks t := by
  induction t with
  | nil => rfl
  | cons c t ih =>
    have hStep : canonicalOrder (c :: t) = insertInOrder c (canonicalOrder t) := rfl
    rw [hStep, dropMarks_insertInOrder]
    unfold dropMarks at ih ⊢
    rw [List.filter_cons, List.filter_cons, ih]

private theorem base_of_ascii {c : Char} (hc : c.toNat < 128) : base c = [c] := by
  obtain ⟨hDecompose, hMark, -⟩ := Unicode.ascii_properties hc
  rw [base, hDecompose, dropMarks, List.filter_singleton, hMark]
  rfl

/-- What is left of the canonical decomposition of a text is what is left of its characters. -/
theorem dropMarks_decomposition (t : Text) : dropMarks t.decomposition = t.flatMap base := by
  rw [decomposition, dropMarks_canonicalOrder, dropMarks, List.filter_flatMap]
  rfl

/-- Accents are dropped character by character, by the short way for ASCII texts too. -/
theorem withoutAccents_eq (t : Text) : t.withoutAccents = t.flatMap base := by
  unfold withoutAccents
  split
  · rename_i hAscii
    rw [isAscii, List.all_eq_true] at hAscii
    induction t with
    | nil => rfl
    | cons c t ih =>
      have hc : Nat.blt c.toNat 128 = true := hAscii c List.mem_cons_self
      rw [Nat.blt_eq] at hc
      have hRest := ih fun d hd => hAscii d (List.mem_cons_of_mem c hd)
      rw [List.flatMap_cons, base_of_ascii hc, ← hRest]
      rfl
  · exact dropMarks_decomposition t

/-- White space stays white space. -/
theorem base_of_isBlank {c : Char} (hc : Unicode.isBlank c = true) :
    ∃ d, base c = [d] ∧ Unicode.isBlank d = true := by
  obtain ⟨⟨d, hDecompose, hd⟩, -⟩ := Unicode.blank_properties hc
  obtain ⟨-, hMark, -⟩ := Unicode.blank_properties hd
  refine ⟨d, ?_, hd⟩
  rw [base, hDecompose, dropMarks, List.filter_singleton, hMark]
  rfl

/-- A control character is left only of itself. -/
theorem eq_of_mem_base {c d : Char} (h : d ∈ base c) (hd : d.toNat < 32) : d = c :=
  Unicode.eq_of_mem_decompose (List.mem_of_mem_filter h) hd

end TextQuery.Text
