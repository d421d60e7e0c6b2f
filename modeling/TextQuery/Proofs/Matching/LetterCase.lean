import TextQuery.Proofs.Formula.Negation
import TextQuery.Proofs.Matching.Occurrence
import TextQuery.Proofs.Matching.Preparation
import TextQuery.Proofs.Query.Acceptance
import TextQuery.Query.Basic

/-!
# Ignoring letter case

A match in a text is a match in its small letters, provided that the pattern settles its sigmas
(`Term.isIn_withoutCase`).  The small form of a capital sigma depends on the letters around it, and the pattern is
brought to small letters alone but the text as a whole, so a pattern that leaves a sigma open is lost in some text
(`Term.settlesSigmas_of_isIn_withoutCase`).  For queries without negation, `accepts_ignoringCase` says the same.
-/

namespace TextQuery

open TextQuery.Parser

namespace Term

/-- The term that looks for the small letters of a pattern. -/
def withoutCase (term : Term) : Term := { term with pattern := Text.withoutCase term.pattern }

private theorem isAlphanumeric_of_isBoundary {c : Char} (h : isBoundary (some c) = true) :
    Unicode.isAlphanumeric c = false := by
  simp [isBoundary, isInWord] at h
  exact h.1

private theorem isBoundary_head?_smallPart {b : Text} (h : isBoundary b.head? = true) (before : Bool) (behind : Text) :
    isBoundary (Text.smallPart before behind b).head? = true := by
  cases b with
  | nil => rfl
  | cons c b =>
    rw [Text.smallPart, Text.smallForm_of_not_alphanumeric (isAlphanumeric_of_isBoundary h)]
    exact h

private theorem isBoundary_getLast?_smallPart {a : Text} (h : isBoundary a.getLast? = true) (before : Bool)
    (behind : Text) : isBoundary (Text.smallPart before behind a).getLast? = true := by
  rcases List.eq_nil_or_concat' a with rfl | ⟨a, c, rfl⟩
  · rfl
  · rw [List.getLast?_concat] at h
    rw [Text.smallPart_append, Text.smallPart, Text.smallForm_of_not_alphanumeric (isAlphanumeric_of_isBoundary h),
      Text.smallPart, List.append_nil, List.getLast?_concat]
    exact h

/-- A match stays one in small letters when the pattern settles its sigmas. -/
theorem isIn_withoutCase {term : Term} (hSigmas : Text.SettlesSigmas term.pattern) {t : Text}
    (h : term.isIn t = true) : term.withoutCase.isIn t.withoutCase = true := by
  obtain ⟨hPattern, a, b, rfl, hCounts⟩ := isIn_iff.1 h
  obtain ⟨before, behind, hText⟩ := Text.withoutCase_around_settled hSigmas a b
  refine isIn_iff.2 ⟨?_, _, _, hText, fun hWhole => ?_⟩
  · show Text.withoutCase term.pattern ≠ []
    rw [Text.withoutCase_eq]
    exact Text.smallPart_ne_nil hPattern false []
  · obtain ⟨hFront, hBack⟩ := hCounts hWhole
    exact ⟨isBoundary_getLast?_smallPart hFront _ _, isBoundary_head?_smallPart hBack _ _⟩

private theorem isIn_alone_between {term : Term} (hPattern : term.pattern ≠ []) {a b : Text}
    (ha : isBoundary a.getLast? = true) (hb : isBoundary b.head? = true) :
    term.isIn (a ++ (term.pattern ++ b)) = true :=
  isIn_iff.2 ⟨hPattern, a, b, rfl, fun _ => ⟨ha, hb⟩⟩

private theorem infix_of_isIn_withoutCase {term : Term} {t : Text}
    (h : term.withoutCase.isIn t.withoutCase = true) :
    Text.smallPart false [] term.pattern <:+: Text.smallPart false [] t := by
  obtain ⟨-, a, b, hText, -⟩ := isIn_iff.1 h
  rw [← Text.withoutCase_eq, ← Text.withoutCase_eq, hText]
  exact ⟨a, b, List.append_assoc _ _ _⟩

/-- Otherwise a match is lost when a sentence ends in front of the pattern, or when one begins behind it. -/
theorem settlesSigmas_of_isIn_withoutCase {term : Term}
    (hFront : term.isIn (['a', '.'] ++ term.pattern) = true →
      term.withoutCase.isIn (Text.withoutCase (['a', '.'] ++ term.pattern)) = true)
    (hBack : term.isIn (term.pattern ++ ['.', 'a']) = true →
      term.withoutCase.isIn (Text.withoutCase (term.pattern ++ ['.', 'a'])) = true) :
    Text.SettlesSigmas term.pattern := by
  by_cases hPattern : term.pattern = []
  · rw [hPattern]
    exact Text.settlesSigmas_of_not_mem List.not_mem_nil
  · have hBehind : term.isIn (['a', '.'] ++ (term.pattern ++ [])) = true := isIn_alone_between hPattern rfl rfl
    have hBefore : term.isIn ([] ++ (term.pattern ++ ['.', 'a'])) = true := isIn_alone_between hPattern rfl rfl
    rw [List.append_nil] at hBehind
    exact Text.settlesSigmas_of_infix (infix_of_isIn_withoutCase (hFront hBehind))
      (infix_of_isIn_withoutCase (hBack hBefore))

end Term

/-! ### Queries -/

private theorem ofText_ignoringCase (o : Options) (t : Text) :
    Term.ofText o.ignoringCase t = (Term.ofText o.heedingCase t).withoutCase := rfl

private theorem prepare_sentence (o : Options) {u : Text} (hu : u = ['a', '.'] ∨ u = ['.', 'a']) :
    o.heedingCase.prepare u = u := by
  unfold Options.heedingCase Options.prepare
  rcases hu with rfl | rfl <;> cases o.ignoreAccents <;> rfl

/-- A query without negation that matches a text matches it without regard to letter case too, when its patterns
settle their sigmas.  A query of one piece loses a match in some text when its pattern does not. -/
theorem accepts_ignoringCase {raw : Text} {o : Options} {q : Query} (h : Query.ofText raw o.heedingCase = .ok q) :
    ∃ q', Query.ofText raw o.ignoringCase = .ok q' ∧
      (q.expr.NegationFree → (∀ term ∈ q.compiled.leaves, Text.SettlesSigmas term.pattern) →
        ∀ t, q.accepts t = true → q'.accepts t = true) ∧
      (∀ leaf, q.expr = .leaf leaf → (∀ t, q.accepts t = true → q'.accepts t = true) →
        ∀ term ∈ q.compiled.leaves, Text.SettlesSigmas term.pattern) := by
  obtain ⟨e, hParse, rfl⟩ := Query.ofText_eq_ok_iff.1 h
  refine ⟨_, Query.ofText_of_parse hParse o.ignoringCase, ?_, ?_⟩
  · intro hFree hSigmas t hAccepts
    rw [Query.accepts_eq] at hAccepts ⊢
    refine Formula.holds_mono hFree (fun leaf hLeaf hIn => ?_) hAccepts
    have hTerm : Term.ofText o.heedingCase leaf.text ∈ (e.compile o.heedingCase).leaves := by
      rw [Expr.compile, Formula.leaves_map]
      exact List.mem_map_of_mem hLeaf
    rw [ofText_ignoringCase, Options.prepare_ignoringCase]
    exact Term.isIn_withoutCase (hSigmas _ hTerm) hIn
  · rintro leaf rfl hKept term hTerm
    obtain rfl := List.mem_singleton.1 hTerm
    have hKept : ∀ t, (Term.ofText o.heedingCase leaf.text).isIn (o.heedingCase.prepare t) = true →
        (Term.ofText o.heedingCase leaf.text).withoutCase.isIn (Text.withoutCase (o.heedingCase.prepare t)) = true := by
      intro t
      have hFound := hKept t
      rw [Query.accepts_eq, Query.accepts_eq] at hFound
      exact hFound
    -- both texts are prepared texts
    have hFront := hKept (['a', '.'] ++ leaf.text.trim)
    have hBack := hKept (leaf.text.trim ++ ['.', 'a'])
    rw [Options.heedingCase_prepare_append, prepare_sentence o (.inl rfl)] at hFront
    rw [Options.heedingCase_prepare_append, prepare_sentence o (.inr rfl)] at hBack
    exact Term.settlesSigmas_of_isIn_withoutCase hFront hBack

/-- The sigma of the second pattern is settled: it is a final one, whatever is around the pattern. -/
theorem accepts_ignoringCase_at_settled_sigma :
    ∃ q q', Query.ofText "x OR ΟΔΟΣ 5".toList ({} : Options).heedingCase = .ok q ∧
      Query.ofText "x OR ΟΔΟΣ 5".toList ({} : Options).ignoringCase = .ok q' ∧
      q.accepts "ΣΟΦΙΑ, ΟΔΟΣ 5.".toList = true ∧ q'.accepts "ΣΟΦΙΑ, ΟΔΟΣ 5.".toList = true := by
  have hTokens : Lexer.tokens "x OR ΟΔΟΣ 5".toList =
      .ok [⟨.word ['x'], 0⟩, ⟨.word "OR".toList, 2⟩, ⟨.word "ΟΔΟΣ".toList, 5⟩, ⟨.word ['5'], 14⟩] := rfl
  have hParse := parse_eq_of_formula hTokens (e := .or (.leaf (.words ['x'])) (.leaf (.words "ΟΔΟΣ 5".toList))) rfl
  have hQuery := Query.ofText_of_parse hParse ({} : Options).heedingCase
  obtain ⟨q', hQuery', hKept, -⟩ := accepts_ignoringCase hQuery
  have hAccepts := hKept ⟨trivial, trivial⟩ (by decide) "ΣΟΦΙΑ, ΟΔΟΣ 5.".toList (by decide)
  exact ⟨_, q', hQuery, hQuery', by decide, hAccepts⟩

/-- A sigma at the end of a pattern is a final one there, but none in front of a full stop and a letter. -/
theorem accepts_ignoringCase_fails_at_open_sigma :
    ∃ q q', Query.ofText "ΑΣ".toList ({} : Options).heedingCase = .ok q ∧
      Query.ofText "ΑΣ".toList ({} : Options).ignoringCase = .ok q' ∧ q.expr.NegationFree ∧
      q.accepts "ΑΣ.Α".toList = true ∧ q'.accepts "ΑΣ.Α".toList = false := by
  have hTokens : Lexer.tokens "ΑΣ".toList = .ok [⟨.word "ΑΣ".toList, 0⟩] := rfl
  have hParse := parse_eq_of_formula hTokens (e := .leaf (.words "ΑΣ".toList)) rfl
  exact ⟨_, _, Query.ofText_of_parse hParse _, Query.ofText_of_parse hParse _, trivial, by decide,
    by decide⟩

end TextQuery
