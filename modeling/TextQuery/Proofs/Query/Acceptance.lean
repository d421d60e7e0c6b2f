import TextQuery.Proofs.Query.Carrying
import TextQuery.Proofs.Query.Verdict

/-!
# Accepted queries

A query is read as a formula when it carries tokens that the grammar yields that formula from (`parse_eq_ok_iff`).

The texts that are a part of a query are put together by the rules of the grammar, with the operators in any letters
(`IsPart.negated`, `IsPart.conjoined`, `IsPart.disjoined`), and every query in parentheses is a part of every kind
(`IsPart.enclosed`).  An operand is a text that is read in the same way behind and in front of every operator.
-/

namespace TextQuery

open Lexer Grammar TextQuery.Parser

/-- A query is read as the formula that the grammar yields from its tokens. -/
theorem parse_eq_ok_iff {raw : Text} {e : Expr} : parse raw = .ok e ↔ ∃ ts, Carries raw ts ∧ Yields ts e := by
  constructor
  · intro h
    cases hBlank : raw.isBlank with
    | true =>
      unfold parse at h
      rw [hBlank] at h
      cases h
    | false =>
      unfold parse at h
      simp only [hBlank, Bool.false_eq_true, if_false] at h
      cases hTokens : tokens raw with
      | error quote =>
        rw [hTokens] at h
        cases h
      | ok laid =>
        simp only [hTokens] at h
        cases hFormula : formula laid with
        | error fault =>
          rw [hFormula] at h
          cases h
        | ok f =>
          rw [hFormula] at h
          obtain rfl := Except.ok.inj h
          exact ⟨_, (tokens_eq_ok_iff.1 hTokens).carries, formula_eq_ok_iff.1 hFormula⟩
  · rintro ⟨_, hCarries, hYields⟩
    obtain ⟨laid, hLaid, rfl⟩ := hCarries 0
    -- a blank text carries no tokens, and no query is without tokens
    have hBlank : raw.isBlank = false := by
      rw [Bool.eq_false_iff]
      intro hBlank
      obtain rfl := hLaid.eq_nil_of_isBlank hBlank
      exact hYields.ne_nil rfl
    simp only [parse, hBlank, Bool.false_eq_true, if_false, tokens_eq_ok_iff.2 hLaid, formula_eq_ok_iff.2 hYields]
    rfl

/-- A text whose tokens the parser reads is a query. -/
theorem parse_eq_of_formula {raw : Text} {ts : List Located} {e : Expr} (hTokens : tokens raw = .ok ts)
    (hFormula : formula ts = .ok e) : parse raw = .ok e :=
  parse_eq_ok_iff.2 ⟨_, (tokens_eq_ok_iff.1 hTokens).carries, formula_eq_ok_iff.1 hFormula⟩

/-! ### Parts of a query -/

/-- Whether a text, all of it, is the part of a query that is read as the formula. -/
def IsPart (part : Part) (raw : Text) (e : Expr) : Prop := ∃ ts, Carries raw ts ∧ Derives part none ts e

section

variable {a b w : Text} {e f : Expr}

theorem isPart_disjunction_iff : IsPart .disjunction a e ↔ parse a = .ok e := parse_eq_ok_iff.symm

theorem IsPart.weaker {part part' : Part} (h : IsPart part a e) (hPart : part ≠ .operand)
    (hLe : part'.strength ≤ part.strength) : IsPart part' a e := by
  obtain ⟨ts, hCarries, hDerives⟩ := h
  exact ⟨ts, hCarries, hDerives.weaker (fun hOperand => absurd hOperand hPart) hLe⟩

/-- In parentheses, a query is a part of every kind. -/
theorem IsPart.enclosed (h : IsPart .disjunction a e) (part : Part) : IsPart part ('(' :: (a ++ [')'])) e := by
  obtain ⟨ts, hCarries, hDerives⟩ := h
  have hGroup : Derives .operand none (.openParen :: (ts ++ [.closeParen])) e := .group (hDerives.in_front_of rfl)
  have hStrongest : part.strength ≤ Part.operand.strength := by cases part <;> decide
  exact ⟨_, hCarries.enclosed, hGroup.weaker (fun _ => rfl) hStrongest⟩

theorem IsPart.negated (hw : Keyword.not.spells w = true) (h : IsPart .negation a e) :
    IsPart .negation (w ++ ' ' :: a) (.not e) := by
  obtain ⟨ts, hCarries, hDerives⟩ := h
  exact ⟨_, hCarries.behind (isWord_of_spells hw), .not hw hDerives⟩

theorem IsPart.conjoined (ha : IsPart .conjunction a e) (hw : Keyword.and.spells w = true)
    (hb : IsPart .negation b f) : IsPart .conjunction (a ++ ' ' :: (w ++ ' ' :: b)) (.and e f) := by
  obtain ⟨ts, hCarries, hLeft⟩ := ha
  obtain ⟨us, hCarries', hRight⟩ := hb
  have hAnd : (Token.word w).spells .and = true := hw
  have hLeft' := hLeft.in_front_of (continuesRun_of_spells hAnd (by decide))
  exact ⟨_, hCarries.joined (isWord_of_spells hw) hCarries', .and hLeft' hAnd hRight⟩

theorem IsPart.disjoined (ha : IsPart .disjunction a e) (hw : Keyword.or.spells w = true)
    (hb : IsPart .conjunction b f) : IsPart .disjunction (a ++ ' ' :: (w ++ ' ' :: b)) (.or e f) := by
  obtain ⟨ts, hCarries, hLeft⟩ := ha
  obtain ⟨us, hCarries', hRight⟩ := hb
  have hOr : (Token.word w).spells .or = true := hw
  have hLeft' := hLeft.in_front_of (continuesRun_of_spells hOr (by decide))
  exact ⟨_, hCarries.joined (isWord_of_spells hw) hCarries', .or hLeft' hOr hRight⟩

end

/-! ### Operands -/

/-- Whether the tokens of a text are a negation, which may stand on both sides of every operator. -/
def IsOperand (raw : Text) (e : Expr) : Prop := ∃ ts, Carries raw ts ∧ Derives .negation none ts e

section

variable {a b : Text} {e f : Expr}

theorem IsOperand.isPart {part : Part} (h : IsOperand a e) (hLe : part.strength ≤ Part.negation.strength) :
    IsPart part a e :=
  IsPart.weaker h (by decide) hLe

theorem IsOperand.parse_eq (h : IsOperand a e) : parse a = .ok e := isPart_disjunction_iff.1 (h.isPart (by decide))

/-- A query in parentheses. -/
theorem isOperand_enclosed (h : parse a = .ok e) : IsOperand ('(' :: (a ++ [')'])) e :=
  (isPart_disjunction_iff.2 h).enclosed .negation

theorem IsOperand.negated (h : IsOperand a e) : IsOperand (Keyword.not.spelling ++ ' ' :: a) (.not e) :=
  (h.isPart (by decide)).negated (by decide)

theorem parse_and (ha : IsOperand a e) (hb : IsOperand b f) :
    parse (a ++ ' ' :: (Keyword.and.spelling ++ ' ' :: b)) = .ok (.and e f) := by
  have hAnd : IsPart .conjunction (a ++ ' ' :: (Keyword.and.spelling ++ ' ' :: b)) (.and e f) :=
    (ha.isPart (by decide)).conjoined (by decide) (hb.isPart (by decide))
  exact isPart_disjunction_iff.1 (hAnd.weaker (by decide) (by decide))

theorem parse_or (ha : IsOperand a e) (hb : IsOperand b f) :
    parse (a ++ ' ' :: (Keyword.or.spelling ++ ' ' :: b)) = .ok (.or e f) := by
  have hOr : IsPart .disjunction (a ++ ' ' :: (Keyword.or.spelling ++ ' ' :: b)) (.or e f) :=
    (ha.isPart (by decide)).disjoined (by decide) (hb.isPart (by decide))
  exact isPart_disjunction_iff.1 hOr

end

end TextQuery
