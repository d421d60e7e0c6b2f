import TextQuery.Proofs.Formula.Polarity
import TextQuery.Proofs.Matching.Occurrence
import TextQuery.Query.Basic

/-!
# Whole words and parts of words

A term that is found as a whole word is found anywhere, in the same prepared text (`Term.isIn_anywhere`).  What this
means for a query is a matter of the negations above its terms (`accepts_anywhere`): where their number is even, every
text that matches with whole words matches without, and where it is odd, the other way round.
-/

namespace TextQuery

/-- The options with terms found only where words begin and end. -/
def Options.wholly (o : Options) : Options := { o with wholeWords := true }

/-- The options with terms found inside words too. -/
def Options.anywhere (o : Options) : Options := { o with wholeWords := false }

/-- What is found as a whole word is found anywhere.  Pattern and text are prepared alike for both. -/
theorem Term.isIn_anywhere {o : Options} {p t : Text} (h : (ofText o.wholly p).isIn (o.wholly.prepare t) = true) :
    (ofText o.anywhere p).isIn (o.anywhere.prepare t) = true := by
  obtain ⟨hPattern, a, b, hText, -⟩ := isIn_iff.1 h
  have hAnywhere : (ofText o.anywhere p).CountsBetween a b := fun hWhole => absurd hWhole Bool.false_ne_true
  exact isIn_iff.2 ⟨hPattern, a, b, hText, hAnywhere⟩

/-- A query whose terms all stand under an even number of negations keeps its matches when parts of words count too.
One whose terms all stand under an odd number keeps them when only whole words count. -/
theorem accepts_anywhere (raw : Text) (o : Options) (e : Expr) (t : Text) :
    ((∀ p ∈ e.negations, Even p.2) →
        Query.accepts ⟨raw, o.wholly, e⟩ t = true → Query.accepts ⟨raw, o.anywhere, e⟩ t = true) ∧
      ((∀ p ∈ e.negations, Odd p.2) →
        Query.accepts ⟨raw, o.anywhere, e⟩ t = true → Query.accepts ⟨raw, o.wholly, e⟩ t = true) := by
  rw [Query.accepts_eq, Query.accepts_eq]
  constructor
  · intro hEven
    refine Formula.holds_of_polarity fun p hp => ⟨fun _ => Term.isIn_anywhere, fun hOdd => ?_⟩
    exact absurd (hEven p hp) (Nat.not_even_iff_odd.2 hOdd)
  · intro hOdd
    refine Formula.holds_of_polarity fun p hp => ⟨fun hEven => ?_, fun _ => Term.isIn_anywhere⟩
    exact absurd (hOdd p hp) (Nat.not_odd_iff_even.2 hEven)

/-- The first occurrence stands behind a letter, the one that overlaps it is a whole word.  What the second query is
against is no part of the text at all, and so no whole word in it. -/
theorem accepts_anywhere_at_overlap :
    Query.accepts ⟨[], ({} : Options).anywhere, .not (.not (.leaf (.phrase "a a".toList)))⟩ "bà a A".toList = true ∧
      Query.accepts ⟨[], ({} : Options).wholly, .not (.or (.leaf (.words "cat".toList)) (.leaf (.words "Dog".toList)))⟩
        "birds".toList = true := by
  obtain ⟨hEven, -⟩ := accepts_anywhere [] {} (.not (.not (.leaf (.phrase "a a".toList)))) "bà a A".toList
  obtain ⟨-, hOdd⟩ :=
    accepts_anywhere [] {} (.not (.or (.leaf (.words "cat".toList)) (.leaf (.words "Dog".toList)))) "birds".toList
  exact ⟨hEven (by decide) (by decide), hOdd (by decide) (by decide)⟩

end TextQuery
