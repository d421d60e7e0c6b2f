import TextQuery.Command.Explain
import TextQuery.Proofs.Formula.Positions
import TextQuery.Proofs.Query.Acceptance

/-!
# Explanations and matching

An explanation compiles every piece of a query on its own, and matching goes through a formula that was compiled as a
whole.  The terms are the same in the same order, so what an explanation lists decides what a query accepts
(`explanation_agrees`).
-/

namespace TextQuery

namespace Explain

/-- The terms that an explanation lists. -/
def listed (q : Query) : List Term := q.expr.leaves.map fun leaf => Term.ofText q.options leaf.text

/-- The line that shows a piece of a query with a pattern. -/
def shown (piece pattern : Text) : Text :=
  "   ".toList ++ piece.quoted ++ [' '] ++ Style.aside "->".toList ++ [' '] ++ pattern.quoted

theorem listed_eq_leaves (q : Query) : listed q = q.compiled.leaves := (Formula.leaves_map _ _).symm

/-- The terms stand in a block of their own, one a line. -/
theorem explanation_split (q : Query) : ∃ above below,
    explanation q =
        above ++ List.zipWith shown (q.expr.leaves.map Leaf.text) ((listed q).map (·.pattern)) ++ below ∧
      above.getLast? = some (Style.heading "Compiled terms:".toList) ∧ below.head? = some [] := by
  have hTerms : List.zipWith shown (q.expr.leaves.map Leaf.text) ((listed q).map (·.pattern)) =
      q.expr.leaves.map fun leaf => termLine q.options leaf.text := by
    rw [listed, List.map_map, List.zipWith_map, List.zipWith_self]
    rfl
  rw [hTerms]
  exact ⟨_, _, rfl, rfl, rfl⟩

end Explain

open Explain (listed shown)

theorem Query.accepts_iff_says_positions (q : Query) (t : Text) : q.accepts t = true ↔
    q.expr.positions.Says fun i => ∃ term, (listed q)[i]? = some term ∧ term.isIn (q.options.prepare t) = true := by
  have hPositions : q.compiled.positions = q.expr.positions := Formula.positions_map _ _
  rw [← hPositions, Explain.listed_eq_leaves]
  exact Formula.holds_iff_says_positions

/-- The patterns that an explanation lists are those of the compiled query, from left to right.  A text is accepted when
the query is true with its leaves, counted from left to right, as true as the terms that are listed at their positions. -/
theorem explanation_agrees {query : Text} {flags : MatchFlags} {configured : Options} {q : Query}
    (h : Query.ofText query (flags.override configured) = .ok q) :
    (∃ above below,
      Explain.run query flags configured =
          { status := 0
            output := (above ++ List.zipWith shown (q.expr.leaves.map Leaf.text) ((listed q).map (·.pattern)) ++
              below).flatMap Style.line } ∧
        above.getLast? = some (Style.heading "Compiled terms:".toList) ∧ below.head? = some []) ∧
      (listed q).map (·.pattern) = q.compiled.leaves.map (·.pattern) ∧
      (q.expr.positions.map (q.expr.leaves[·]?) = q.expr.map some ∧
        q.expr.positions.leaves = List.range (listed q).length) ∧
      ∀ t, q.accepts t = true ↔ q.expr.positions.Says fun i =>
        ∃ term, (listed q)[i]? = some term ∧ term.isIn (q.options.prepare t) = true := by
  refine ⟨?_, ?_, ⟨Formula.map_positions _, ?_⟩, q.accepts_iff_says_positions⟩
  · obtain ⟨above, below, hLines, hAbove, hBelow⟩ := Explain.explanation_split q
    refine ⟨above, below, ?_, hAbove, hBelow⟩
    rw [Explain.run, h, ← hLines]
  · rw [Explain.listed_eq_leaves]
  · rw [Formula.leaves_positions, listed, List.length_map]

/-- A pattern that is listed twice, once for a word and once for a phrase. -/
theorem explanation_agrees_on_repeated_pattern :
    ∃ q, Query.ofText "x AND NOT y OR \" X\"".toList (({} : MatchFlags).override {}) = .ok q ∧
      q.compiled.leaves.map (·.pattern) = [['x'], ['y'], ['x']] ∧
      ∀ t, q.accepts t = true ↔
        ((Term.mk ['x'] true).isIn (q.options.prepare t) = true ∧
            ¬ (Term.mk ['y'] true).isIn (q.options.prepare t) = true) ∨
          (Term.mk ['x'] true).isIn (q.options.prepare t) = true := by
  have hTokens : Lexer.tokens "x AND NOT y OR \" X\"".toList =
      .ok [⟨.word ['x'], 0⟩, ⟨.word "AND".toList, 2⟩, ⟨.word "NOT".toList, 6⟩, ⟨.word ['y'], 10⟩, ⟨.word "OR".toList, 12⟩,
        ⟨.phrase " X".toList, 15⟩] := rfl
  have hParse := parse_eq_of_formula hTokens
    (e := .or (.and (.leaf (.words ['x'])) (.not (.leaf (.words ['y'])))) (.leaf (.phrase " X".toList))) rfl
  have hQuery := Query.ofText_of_parse hParse (({} : MatchFlags).override {})
  obtain ⟨-, hPatterns, -, hAccepts⟩ := explanation_agrees hQuery
  have hListed : listed ⟨"x AND NOT y OR \" X\"".toList, ({} : MatchFlags).override {},
      .or (.and (.leaf (.words ['x'])) (.not (.leaf (.words ['y'])))) (.leaf (.phrase " X".toList))⟩ =
      [⟨['x'], true⟩, ⟨['y'], true⟩, ⟨['x'], true⟩] := by decide +kernel
  rw [hListed] at hPatterns hAccepts
  refine ⟨_, hQuery, hPatterns.symm, fun t => (hAccepts t).trans ?_⟩
  simp [Formula.positions, Formula.positionsFrom, Formula.leaves, Formula.Says]

end TextQuery
