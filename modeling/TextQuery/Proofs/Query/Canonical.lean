import TextQuery.Proofs.Query.Acceptance

/-!
# The canonical form of a formula

A formula is read back from its canonical form exactly when it is well-formed, and the parser builds well-formed
formulas only (`parse_canonical`).  Well-formedness is about the leaves alone: a phrase is not blank and has no
quotation mark, and a run of words does not begin like a negation and has no operator behind its first word.
-/

namespace TextQuery

open Lexer Grammar TextQuery.Parser

/-- Words that are read as one run, joined by single spaces. -/
structure IsRun (first : Text) (more : List Text) : Prop where
  isWord : ∀ w ∈ first :: more, IsWord w
  /-- Otherwise the words would be read as the negation of what is behind the first. -/
  noNegation : Keyword.not.spells first = false
  /-- Otherwise the run would end in front of an operator. -/
  noOperator : ∀ w ∈ more, Keyword.and.spells w = false ∧ Keyword.or.spells w = false

instance (first : Text) (more : List Text) : Decidable (IsRun first more) :=
  decidable_of_iff ((∀ w ∈ first :: more, IsWord w) ∧ Keyword.not.spells first = false ∧
    ∀ w ∈ more, Keyword.and.spells w = false ∧ Keyword.or.spells w = false)
    ⟨fun h => ⟨h.1, h.2.1, h.2.2⟩, fun h => ⟨h.1, h.2, h.3⟩⟩

/-- The pieces that a query can have. -/
def Leaf.WellFormed : Leaf → Prop
  | .words t => ∃ first more, t = List.intercalate [' '] (first :: more) ∧ IsRun first more
  | .phrase t => '"' ∉ t ∧ t.isBlank = false

/-- The formulas whose leaves are all well-formed. -/
def Expr.WellFormed (e : Expr) : Prop := ∀ a ∈ e.leaves, a.WellFormed

namespace Expr

theorem wellFormed_leaf {a : Leaf} : WellFormed (.leaf a) ↔ a.WellFormed := by
  simp [WellFormed, Formula.leaves]

theorem wellFormed_not {e : Expr} : WellFormed (.not e) ↔ e.WellFormed := Iff.rfl

theorem wellFormed_and {e f : Expr} : WellFormed (.and e f) ↔ e.WellFormed ∧ f.WellFormed := by
  simp [WellFormed, Formula.leaves, or_imp, forall_and]

theorem wellFormed_or {e f : Expr} : WellFormed (.or e f) ↔ e.WellFormed ∧ f.WellFormed := by
  simp [WellFormed, Formula.leaves, or_imp, forall_and]

end Expr

/-! ### The tokens of a canonical form -/

private theorem carries_intercalate {first : Text} {more : List Text} (h : ∀ w ∈ first :: more, IsWord w) :
    Carries (List.intercalate [' '] (first :: more)) ((first :: more).map .word) := by
  induction more generalizing first with
  | nil => exact List.intercalate_singleton ▸ carries_word (h first List.mem_cons_self)
  | cons second more ih =>
    have hFirst : Carries first [.word first] := carries_word (h first List.mem_cons_self)
    have hMore := ih (fun w hw => h w (List.mem_cons_of_mem first hw))
    rw [List.intercalate_cons_cons, List.append_assoc, List.singleton_append]
    exact hFirst.append (endsWord_cons.2 (by decide)) (hMore.blank (by decide))

/-- The canonical form of a well-formed formula is an operand. -/
theorem Expr.WellFormed.isOperand {e : Expr} (h : e.WellFormed) : IsOperand e.canonical e := by
  induction e with
  | leaf a =>
    have hLeaf := wellFormed_leaf.1 h
    cases a with
    | words t =>
      obtain ⟨first, more, rfl, hRun⟩ := hLeaf
      exact ⟨_, carries_intercalate hRun.isWord, .operand (.run hRun.noOperator rfl) hRun.noNegation⟩
    | phrase t => exact ⟨_, carries_phrase hLeaf.1, .operand (.phrase hLeaf.2) rfl⟩
  | not e ih =>
    have hNegated := (ih (wellFormed_not.1 h)).negated
    exact isOperand_enclosed hNegated.parse_eq
  | and e f ihe ihf =>
    obtain ⟨he, hf⟩ := wellFormed_and.1 h
    have hEnclosed := isOperand_enclosed (parse_and (ihe he) (ihf hf))
    rw [List.append_assoc] at hEnclosed
    exact hEnclosed
  | or e f ihe ihf =>
    obtain ⟨he, hf⟩ := wellFormed_or.1 h
    have hEnclosed := isOperand_enclosed (parse_or (ihe he) (ihf hf))
    rw [List.append_assoc] at hEnclosed
    exact hEnclosed

/-! ### The formulas that the parser builds -/

/-- What is derived from tokens that can stand in a text is well-formed.  A run that begins with `NOT` would be
derived as an operand, but not as a part of a query. -/
private theorem wellFormed_of_derives {part : Part} {next : Option Token} {ts : List Token} {e : Expr}
    (h : Derives part next ts e) (hPart : part = .operand → nextSpells .not ts.head? = false)
    (hStand : ∀ t ∈ ts, CanStand t) : e.WellFormed := by
  induction h with
  | conjunction _ ih => exact ih (fun h => by cases h) hStand
  | or _ _ _ ihLeft ihRight =>
    obtain ⟨hLeft, hRight⟩ := List.forall_mem_append.1 hStand
    have hRight := (List.forall_mem_cons.1 hRight).2
    exact Expr.wellFormed_or.2 ⟨ihLeft (fun h => by cases h) hLeft, ihRight (fun h => by cases h) hRight⟩
  | negation _ ih => exact ih (fun h => by cases h) hStand
  | and _ _ _ ihLeft ihRight =>
    obtain ⟨hLeft, hRight⟩ := List.forall_mem_append.1 hStand
    have hRight := (List.forall_mem_cons.1 hRight).2
    exact Expr.wellFormed_and.2 ⟨ihLeft (fun h => by cases h) hLeft, ihRight (fun h => by cases h) hRight⟩
  | not _ _ ih => exact Expr.wellFormed_not.2 (ih (fun h => by cases h) (List.forall_mem_cons.1 hStand).2)
  | operand _ hNot ih => exact ih (fun _ => hNot) hStand
  | group _ ih =>
    have hInside := (List.forall_mem_append.1 (List.forall_mem_cons.1 hStand).2).1
    exact ih (fun h => by cases h) hInside
  | @phrase _ text hBlank => exact Expr.wellFormed_leaf.2 ⟨hStand _ List.mem_cons_self, hBlank⟩
  | @run _ word more hMore _ =>
    -- the run stands for an operand here, so its first word is known not to be `NOT`
    refine Expr.wellFormed_leaf.2 ⟨word, more, rfl, ?_, hPart rfl, hMore⟩
    intro w hw
    exact hStand (.word w) (List.mem_map_of_mem hw)

/-- The parser builds well-formed formulas only. -/
theorem wellFormed_of_parse {raw : Text} {e : Expr} (h : parse raw = .ok e) : e.WellFormed := by
  obtain ⟨ts, hCarries, hYields⟩ := parse_eq_ok_iff.1 h
  obtain ⟨laid, hLaid, rfl⟩ := hCarries 0
  exact wellFormed_of_derives hYields (fun h => by cases h) hLaid.canStand

/-- The formulas that are read back from their canonical form are the well-formed ones, and every formula that is
read from a query is one of them. -/
theorem parse_canonical :
    (∀ e : Expr, parse e.canonical = .ok e ↔ e.WellFormed) ∧
      (∀ (raw : Text) (e : Expr), parse raw = .ok e → e.WellFormed) ∧
      ∀ (raw : Text) (e : Expr), parse raw = .ok e → parse e.canonical = .ok e :=
  ⟨fun _ => ⟨wellFormed_of_parse, fun h => h.isOperand.parse_eq⟩, fun _ _ => wellFormed_of_parse,
    fun _ _ h => (wellFormed_of_parse h).isOperand.parse_eq⟩

/-- Three of these words are no operators, and stay so in the canonical form. -/
theorem parse_canonical_of_or :
    ∃ e, parse "and OR or not".toList = .ok e ∧ Expr.canonical e = "(and OR or not)".toList ∧
      parse e.canonical = .ok e := by
  have hTokens : tokens "and OR or not".toList =
      .ok [⟨.word "and".toList, 0⟩, ⟨.word "OR".toList, 4⟩, ⟨.word "or".toList, 7⟩, ⟨.word "not".toList, 10⟩] :=
    rfl
  have hFormula :
      formula [⟨.word "and".toList, 0⟩, ⟨.word "OR".toList, 4⟩, ⟨.word "or".toList, 7⟩, ⟨.word "not".toList, 10⟩] =
        .ok (.or (.leaf (.words "and".toList)) (.leaf (.words "or not".toList))) := rfl
  have hParse := parse_eq_of_formula hTokens hFormula
  exact ⟨_, hParse, rfl, parse_canonical.2.2 _ _ hParse⟩

end TextQuery
