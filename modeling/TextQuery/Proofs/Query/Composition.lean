import TextQuery.Proofs.Query.Acceptance
import TextQuery.Query.Basic

/-!
# Queries made of queries

Accepted queries in parentheses can be joined and negated, and the composite is read as the operator on the parts
(`parse_composites`).  So what a composite answers about a text is the boolean operator on the answers of its parts,
whatever the options are.
-/

namespace TextQuery

open TextQuery.Parser

/-- A query in parentheses. -/
def enclosed (a : Text) : Text := "(".toList ++ a ++ ")".toList

/-- The negation of a query. -/
def negated (a : Text) : Text := "NOT (".toList ++ a ++ ")".toList

/-- The conjunction of two queries. -/
def conjoined (a b : Text) : Text := "(".toList ++ a ++ ") AND (".toList ++ b ++ ")".toList

/-- The disjunction of two queries. -/
def disjoined (a b : Text) : Text := "(".toList ++ a ++ ") OR (".toList ++ b ++ ")".toList

/-- What a query that can be read answers about a text. -/
def answer (raw : Text) (o : Options) (t : Text) : Option Bool := (Query.ofText raw o).toOption.map (·.accepts t)

/-! ### The parts and the whole -/

section

variable {a b : Text} {e f : Expr}

theorem parse_enclosed (ha : parse a = .ok e) : parse (enclosed a) = .ok e :=
  (isOperand_enclosed ha).parse_eq

theorem parse_negated (ha : parse a = .ok e) : parse (negated a) = .ok (.not e) :=
  (isOperand_enclosed ha).negated.parse_eq

theorem parse_conjoined (ha : parse a = .ok e) (hb : parse b = .ok f) : parse (conjoined a b) = .ok (.and e f) := by
  have hParse := parse_and (isOperand_enclosed ha) (isOperand_enclosed hb)
  have hText : conjoined a b =
      '(' :: (a ++ [')']) ++ ' ' :: (Keyword.and.spelling ++ ' ' :: '(' :: (b ++ [')'])) := by
    simp [conjoined, Keyword.spelling]
  rw [hText]
  exact hParse

theorem parse_disjoined (ha : parse a = .ok e) (hb : parse b = .ok f) : parse (disjoined a b) = .ok (.or e f) := by
  have hParse := parse_or (isOperand_enclosed ha) (isOperand_enclosed hb)
  have hText : disjoined a b =
      '(' :: (a ++ [')']) ++ ' ' :: (Keyword.or.spelling ++ ' ' :: '(' :: (b ++ [')'])) := by
    simp [disjoined, Keyword.spelling]
  rw [hText]
  exact hParse

theorem answer_eq (o : Options) (t : Text) (ha : parse a = .ok e) :
    answer a o t = some ((e.compile o).holdsIn (o.prepare t)) := by
  unfold answer Query.ofText
  rw [ha]
  rfl

end

/-! ### Composites as operators -/

/-- Composites are read as operators on their parts, and answer as these operators do.  The negation of a disjunction
and the conjunction of the negations answer alike, though they are read differently. -/
theorem parse_composites {a b : Text} {e f : Expr} (ha : parse a = .ok e) (hb : parse b = .ok f) :
    (parse (conjoined a b) = .ok (.and e f) ∧ parse (disjoined a b) = .ok (.or e f) ∧
      parse (negated a) = .ok (.not e) ∧ parse (enclosed a) = .ok e) ∧
    (∀ (o : Options) (t : Text), ∃ x y, answer a o t = some x ∧ answer b o t = some y ∧
      answer (conjoined a b) o t = some (x && y) ∧ answer (disjoined a b) o t = some (x || y) ∧
      answer (negated a) o t = some (!x) ∧ answer (enclosed a) o t = some x ∧
      answer (negated (disjoined a b)) o t = some (!x && !y) ∧
      answer (conjoined (negated a) (negated b)) o t = some (!x && !y)) ∧
    parse (negated (disjoined a b)) ≠ parse (conjoined (negated a) (negated b)) := by
  have hAnd := parse_conjoined ha hb
  have hOr := parse_disjoined ha hb
  have hNot := parse_negated ha
  have hNeither := parse_negated hOr
  have hBothNot := parse_conjoined hNot (parse_negated hb)
  refine ⟨⟨hAnd, hOr, hNot, parse_enclosed ha⟩, ?_, ?_⟩
  · intro o t
    refine ⟨_, _, answer_eq o t ha, answer_eq o t hb, answer_eq o t hAnd, answer_eq o t hOr, answer_eq o t hNot,
      answer_eq o t (parse_enclosed ha), ?_, answer_eq o t hBothNot⟩
    -- De Morgan's law, for the answers
    rw [answer_eq o t hNeither, ← Bool.not_or]
    rfl
  · rw [hNeither, hBothNot]
    intro h
    cases h

/-- A negation and a disjunction under a conjunction. -/
theorem parse_composites_of_or :
    parse "x OR y".toList = .ok (.or (.leaf (.words ['x'])) (.leaf (.words ['y']))) ∧
      parse "not z".toList = .ok (.not (.leaf (.words ['z']))) ∧
      parse "(x OR y) AND (not z)".toList =
        .ok (.and (.or (.leaf (.words ['x'])) (.leaf (.words ['y']))) (.not (.leaf (.words ['z'])))) := by
  have hTokens : Lexer.tokens "x OR y".toList =
      .ok [⟨.word ['x'], 0⟩, ⟨.word "OR".toList, 2⟩, ⟨.word ['y'], 5⟩] := rfl
  have hOr := parse_eq_of_formula hTokens (e := .or (.leaf (.words ['x'])) (.leaf (.words ['y']))) rfl
  have hTokens' : Lexer.tokens "not z".toList = .ok [⟨.word "not".toList, 0⟩, ⟨.word ['z'], 4⟩] := rfl
  have hNot := parse_eq_of_formula hTokens' (e := .not (.leaf (.words ['z']))) rfl
  have hText : conjoined "x OR y".toList "not z".toList = "(x OR y) AND (not z)".toList := by decide
  exact ⟨hOr, hNot, hText ▸ (parse_composites hOr hNot).1.1⟩

end TextQuery
