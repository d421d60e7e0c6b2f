import TextQuery.Proofs.Matching.Verbatim

/-!
# Accents that are kept

A letter with an accent can be one character, or a letter with a mark behind it.  The one character differs from the
letter, so a term with the plain letter is not found there.  A mark only keeps a term from being found when it belongs
to words, and most marks do not.  So the plain term is found in front of the others (`Term.isIn_before_marks`).
-/

namespace TextQuery

/-- A mark that belongs to no word is not changed, and does not change what is in front of it. -/
theorem Options.prepare_concat_mark {o : Options} (hAccents : o.ignoreAccents = false) {m : Char}
    (hm : Unicode.isAlphanumeric m = false) (t : Text) : o.prepare (t ++ [m]) = o.prepare t ++ [m] := by
  have hHeeding : ∀ u, o.heedingCase.prepare u = u := by
    intro u
    unfold heedingCase prepare
    simp only [hAccents, Bool.false_eq_true, if_false, Option.getD_none]
  rcases o.heeds_or_ignores_case with hCase | hCase
  · rw [hCase, hHeeding, hHeeding]
  · have hCased : Unicode.isCased m = false := by
      rw [Bool.eq_false_iff]
      intro hCased
      rw [Unicode.isAlphanumeric_of_isCased hCased] at hm
      cases hm
    have hBehind : Text.beginsCased ([m] ++ []) = Text.beginsCased [] := by
      simp only [List.append_nil, Text.beginsCased, hCased, ite_self]
    rw [hCase, prepare_ignoringCase, prepare_ignoringCase, hHeeding, hHeeding, Text.withoutCase_eq, Text.withoutCase_eq,
      Text.smallPart_append, Text.smallPart_congr hBehind, Text.smallPart, Text.smallForm_of_not_alphanumeric hm]
    rfl

namespace Term

/-- Whether every occurrence of a term in a text has a mark directly behind it. -/
def MarkBehindEach (term : Term) (t : Text) : Prop :=
  ∀ a b, t = a ++ (term.pattern ++ b) → b.head?.any Unicode.isMark = true

instance (term : Term) (t : Text) : Decidable (term.MarkBehindEach t) :=
  decidable_of_iff (∀ i < t.length + 1, term.pattern <+: t.drop i →
      ((t.drop i).drop term.pattern.length).head?.any Unicode.isMark = true) (by
    constructor
    · rintro h a b rfl
      have hPlace := h a.length (by simp only [List.length_append]; omega)
      rw [List.drop_left, List.drop_left] at hPlace
      exact hPlace (List.prefix_append _ _)
    · rintro h i - ⟨b, hb⟩
      rw [← hb, List.drop_left]
      exact h (t.take i) b (by rw [hb, List.take_append_drop]))

/-- The empty pattern occurs at the end of the text too, where no mark is behind it. -/
theorem MarkBehindEach.pattern_ne_nil {term : Term} {t : Text} (h : term.MarkBehindEach t) : term.pattern ≠ [] := by
  intro hPattern
  have hEnd := h t [] (by rw [hPattern, List.append_nil, List.append_nil])
  cases hEnd

theorem isInWord_of_isMark {m : Char} (hm : Unicode.isMark m = true) : isInWord m = Unicode.isAlphanumeric m := by
  have hUnderscore : m ≠ '_' := by
    rintro rfl
    cases hm
  simp [isInWord, hUnderscore]

/-- A mark is a boundary unless it is counted among the letters. -/
theorem isBoundary_of_isMark {m : Char} (hm : Unicode.isMark m = true) :
    isBoundary (some m) = !Unicode.isAlphanumeric m := by
  rw [isBoundary, Option.any_some, isInWord_of_isMark hm]

/-- Where all occurrences of a whole word have marks behind them, it is missed exactly if the marks belong to words. -/
theorem isIn_eq_false_iff_of_markBehindEach {term : Term} (hWhole : term.wholeWords = true) {t : Text}
    (hMarks : term.MarkBehindEach t) : term.isIn t = false ↔
      ∀ a m b, t = a ++ (term.pattern ++ m :: b) → isBoundary a.getLast? = true → Unicode.isAlphanumeric m = true := by
  rw [Bool.eq_false_iff, ne_eq, isIn_iff]
  constructor
  · intro hMissed a m b hText hFront
    have hm : Unicode.isMark m = true := hMarks a (m :: b) hText
    by_contra hLetter
    rw [Bool.not_eq_true] at hLetter
    have hBack : isBoundary (some m) = true := by rw [isBoundary_of_isMark hm, hLetter]; rfl
    exact hMissed ⟨hMarks.pattern_ne_nil, a, m :: b, hText, fun _ => ⟨hFront, hBack⟩⟩
  · rintro hWords ⟨-, a, b, hText, hCounts⟩
    obtain ⟨hFront, hBack⟩ := hCounts hWhole
    cases b with
    | nil => cases hMarks a [] hText
    | cons m b =>
      have hm : Unicode.isMark m = true := hMarks a (m :: b) hText
      have hBoundary : isBoundary (some m) = true := hBack
      rw [isBoundary_of_isMark hm, hWords a m b hText hFront] at hBoundary
      cases hBoundary

/-- A mark that belongs to no word does not keep the term in front of it from being found. -/
theorem isIn_before_mark {o : Options} (hAccents : o.ignoreAccents = false) {p u v : Text} {m : Char}
    (hPattern : (ofText o p).pattern ≠ []) (hu : u.ClearAtEnd) (hv : v.ClearAtStart) (hMark : Unicode.isMark m = true)
    (hm : Unicode.isAlphanumeric m = false) : (ofText o p).isIn (o.prepare (u ++ (p.trim ++ m :: v))) = true := by
  obtain ⟨a, b, ha, -, hBetween⟩ := o.prepare_between hu hv
  have hText : o.prepare (u ++ (p.trim ++ m :: v)) = a ++ ((ofText o p).pattern ++ m :: b) := by
    rw [List.append_cons, hBetween, Options.prepare_concat_mark hAccents hm, List.append_assoc]
    rfl
  have hBack : isBoundary (some m) = true := by rw [isBoundary_of_isMark hMark, hm]; rfl
  exact isIn_iff.2 ⟨hPattern, a, m :: b, hText, fun _ => ⟨isBoundary_of_forall_isBlank ha, hBack⟩⟩

/-- Let all occurrences of a whole word have marks behind them.  Then it is missed exactly if every occurrence that
begins on a boundary has a mark of the kind that belongs to words.  In front of a mark of the other kind it is found
wherever it is found alone. -/
theorem isIn_before_marks {o : Options} (hAccents : o.ignoreAccents = false) (hWhole : o.wholeWords = true) (p : Text) :
    (∀ t, (ofText o p).MarkBehindEach (o.prepare t) → ((ofText o p).isIn (o.prepare t) = false ↔
      ∀ a m b, o.prepare t = a ++ ((ofText o p).pattern ++ m :: b) → isBoundary a.getLast? = true →
        Unicode.isAlphanumeric m = true)) ∧
    ∀ (u : Text) m (v : Text), (ofText o p).pattern ≠ [] → u.ClearAtEnd → v.ClearAtStart → Unicode.isMark m = true →
      Unicode.isAlphanumeric m = false → (ofText o p).isIn (o.prepare (u ++ (p.trim ++ m :: v))) = true :=
  ⟨fun _ hMarks => isIn_eq_false_iff_of_markBehindEach hWhole hMarks,
    fun _ _ _ hPattern hu hv hMark hm => isIn_before_mark hAccents hPattern hu hv hMark hm⟩

/-- The iota below a letter belongs to the word, the acute above it does not. -/
theorem isIn_before_marks_at_iota_and_acute :
    (ofText { ignoreAccents := false } "ΛΩ ".toList).isIn
        (Options.prepare { ignoreAccents := false } "λω\u0345".toList) = false ∧
      (ofText { ignoreAccents := false } "ΛΩ ".toList).isIn
        (Options.prepare { ignoreAccents := false } ("λω ".toList ++ (Text.trim "ΛΩ ".toList ++ '\u0301' :: []))) =
          true := by
  obtain ⟨hMissed, hFound⟩ := isIn_before_marks (o := { ignoreAccents := false }) rfl rfl "ΛΩ ".toList
  have hWords : (Options.prepare { ignoreAccents := false } "λω\u0345".toList).all Unicode.isAlphanumeric = true := by
    decide
  refine ⟨(hMissed "λω\u0345".toList (by decide)).2 fun a m b hText _ => List.all_eq_true.1 hWords m ?_, ?_⟩
  · rw [hText]
    exact List.mem_append_right a (List.mem_append_right _ List.mem_cons_self)
  · exact hFound _ _ _ (by decide) (by decide) (by decide) rfl rfl

/-- The accent is no different from none when it is written with a mark of its own. -/
theorem isIn_before_acute :
    "cafe".toList.getLast?.any Unicode.isAlphanumeric = true ∧
      (ofText { ignoreAccents := false } "cafe".toList).MarkBehindEach
        (Options.prepare { ignoreAccents := false } "cafe\u0301".toList) ∧
      (ofText { ignoreAccents := false } "cafe".toList).isIn
        (Options.prepare { ignoreAccents := false } "cafe\u0301".toList) = true ∧
      (ofText { ignoreAccents := false } "cafe".toList).isIn
        (Options.prepare { ignoreAccents := false } "caf\u00E9".toList) = false := by
  decide

end Term

end TextQuery
