import TextQuery.Proofs.Query.Canonical

/-!
# Queries without needless parentheses

A formula can be written with parentheses only where the precedence of the operators, or the way chains are read,
would give another formula: around a disjunction under a conjunction, around both under a negation, and around the
right side of a chain that is a chain of the same operator.  So written, with every operator in letters of its own, a
well-formed formula is read back (`parse_concise`).
-/

namespace TextQuery

open Grammar

/-- A keyword in capitals, small letters or both. -/
structure Keyword.Spelling (k : Keyword) where
  word : Text
  spells : k.spells word = true

/-- The keyword in capitals. -/
def Keyword.inCapitals (k : Keyword) : k.Spelling := ⟨k.spelling, by cases k <;> decide⟩

/-- The keyword in small letters. -/
def Keyword.inSmallLetters (k : Keyword) : k.Spelling := ⟨k.spelling.map Char.toLower, by cases k <;> decide⟩

/-- The sides of an operator.  What is negated stands on the right of its operator. -/
inductive Side where
  | left
  | right
  deriving DecidableEq, Repr

/-- The letters that the operators of a formula are spelled in.  An operator is found by the sides on the way to it,
from the top. -/
abbrev Spellings := List Side → (k : Keyword) → k.Spelling

/-- The letters of the operators on one side. -/
def Spellings.on (spell : Spellings) (side : Side) : Spellings := fun way => spell (side :: way)

namespace Expr

/-- The strongest part of a query that a formula can be without parentheses around it. -/
def part : Expr → Part
  | .leaf _ => .negation
  | .not _ => .negation
  | .and _ _ => .conjunction
  | .or _ _ => .disjunction

/-- The text of a formula in the place of a part: in parentheses when the formula is weaker than the part. -/
def placed (place : Part) (e : Expr) (t : Text) : Text :=
  if e.part.strength < place.strength then '(' :: (t ++ [')']) else t

/-- A query with no more parentheses than it needs. -/
def concise : Expr → Spellings → Text
  | .leaf a, _ => a.canonical
  | .not f, spell => (spell [] .not).word ++ ' ' :: placed .negation f (concise f (spell.on .right))
  | .and f g, spell =>
    placed .conjunction f (concise f (spell.on .left)) ++
      ' ' :: ((spell [] .and).word ++ ' ' :: placed .negation g (concise g (spell.on .right)))
  | .or f g, spell =>
    placed .disjunction f (concise f (spell.on .left)) ++
      ' ' :: ((spell [] .or).word ++ ' ' :: placed .conjunction g (concise g (spell.on .right)))

theorem part_ne_operand (e : Expr) : e.part ≠ .operand := by
  cases e <;> simp [part]

/-- A formula can be put in the place of every part. -/
theorem isPart_placed {e : Expr} {t : Text} (h : IsPart e.part t e) (place : Part) :
    IsPart place (placed place e t) e := by
  unfold placed
  split
  · exact (h.weaker e.part_ne_operand (Nat.zero_le _)).enclosed place
  · next hStrong => exact h.weaker e.part_ne_operand (Nat.not_lt.1 hStrong)

theorem WellFormed.isPart_concise {e : Expr} (h : e.WellFormed) (spell : Spellings) :
    IsPart e.part (e.concise spell) e := by
  induction e generalizing spell with
  | leaf a => exact h.isOperand
  | not f ih =>
    have hf := isPart_placed (ih (wellFormed_not.1 h) (spell.on .right)) .negation
    exact hf.negated (spell [] .not).spells
  | and f g ihf ihg =>
    obtain ⟨hWf, hWg⟩ := wellFormed_and.1 h
    have hf := isPart_placed (ihf hWf (spell.on .left)) .conjunction
    have hg := isPart_placed (ihg hWg (spell.on .right)) .negation
    exact hf.conjoined (spell [] .and).spells hg
  | or f g ihf ihg =>
    obtain ⟨hWf, hWg⟩ := wellFormed_or.1 h
    have hf := isPart_placed (ihf hWf (spell.on .left)) .disjunction
    have hg := isPart_placed (ihg hWg (spell.on .right)) .conjunction
    exact hf.disjoined (spell [] .or).spells hg

end Expr

/-- A well-formed formula is read back from the text without needless parentheses, in whatever letters each of its
operators is spelled. -/
theorem parse_concise {e : Expr} (h : e.WellFormed) (spell : Spellings) :
    TextQuery.parse (e.concise spell) = .ok e := by
  have hQuery : IsPart .disjunction (e.concise spell) e :=
    (h.isPart_concise spell).weaker e.part_ne_operand (Nat.zero_le e.part.strength)
  exact isPart_disjunction_iff.1 hQuery

/-- The first word, and `or not`, are no operators here.  Neither negation in front of a negation, nor a conjunction
under the disjunction, is in parentheses. -/
theorem parse_concise_of_and :
    parse "and and NOT not or not OR NOT (x or y) and (x AND \"a or b\")".toList =
      .ok (.or (.and (.leaf (.words "and".toList)) (.not (.not (.leaf (.words "or not".toList)))))
        (.and (.not (.or (.leaf (.words ['x'])) (.leaf (.words ['y']))))
          (.and (.leaf (.words ['x'])) (.leaf (.phrase "a or b".toList))))) := by
  have hAnd : Leaf.WellFormed (.words "and".toList) := ⟨"and".toList, [], rfl, by decide⟩
  have hOrNot : Leaf.WellFormed (.words "or not".toList) := ⟨"or".toList, ["not".toList], rfl, by decide⟩
  have hx : Leaf.WellFormed (.words ['x']) := ⟨['x'], [], rfl, by decide⟩
  have hy : Leaf.WellFormed (.words ['y']) := ⟨['y'], [], rfl, by decide⟩
  have hPhrase : Leaf.WellFormed (.phrase "a or b".toList) := ⟨by decide, by decide⟩
  have hLeft := Expr.wellFormed_and.2
    ⟨Expr.wellFormed_leaf.2 hAnd, Expr.wellFormed_not.2 (Expr.wellFormed_not.2 (Expr.wellFormed_leaf.2 hOrNot))⟩
  have hNeither := Expr.wellFormed_not.2 (Expr.wellFormed_or.2 ⟨Expr.wellFormed_leaf.2 hx, Expr.wellFormed_leaf.2 hy⟩)
  have hBoth := Expr.wellFormed_and.2 ⟨Expr.wellFormed_leaf.2 hx, Expr.wellFormed_leaf.2 hPhrase⟩
  have hWhole := Expr.wellFormed_or.2 ⟨hLeft, Expr.wellFormed_and.2 ⟨hNeither, hBoth⟩⟩
  -- the letters change from one operator to the next below it
  exact parse_concise hWhole fun way k => if way.length % 2 = 0 then k.inCapitals else k.inSmallLetters

end TextQuery
