import TextQuery.Proofs.Query.Verdict

/-!
# Beginnings of queries

A query is refused as early as it can be.  What stands before the place where reading breaks off begins some query
(`Refuses.isBeginning`), and no query goes on with the token that stands there (`Refuses.not_isBeginning`).
-/

namespace TextQuery.Parser

open Grammar

/-- Whether some query that can be read begins with these tokens. -/
def IsBeginning (ts : List Token) : Prop :=
  ∃ (ls : List Located) (e : Expr), ts <+: ls.map Located.token ∧ formula ls = .ok e

theorem isBeginning_of_yields {ts us : List Token} {e : Expr} (h : Yields (ts ++ us) e) : IsBeginning ts := by
  refine ⟨(ts ++ us).map fun t => ⟨t, 0⟩, e, ?_, ?_⟩
  · rw [map_token_at_zero]
    exact List.prefix_append ts us
  · rw [formula_eq_ok_iff, map_token_at_zero]
    exact h

/-! ### What is read can be completed -/

/-- A word that completes whatever lacks an operand. -/
private def filler : Token := .word ['x']

private theorem derives_filler (part : Part) : ∃ e, Derives part none [filler] e := by
  have hOperand : Derives .operand none [filler] (.leaf (.words ['x'])) := .word ['x'] rfl
  have hNegation := Derives.operand hOperand rfl
  cases part with
  | disjunction => exact ⟨_, .conjunction (.negation hNegation)⟩
  | conjunction => exact ⟨_, .negation hNegation⟩
  | negation => exact ⟨_, hNegation⟩
  | operand => exact ⟨_, hOperand⟩

/-- What is read of a part before reading breaks off can be completed to a part. -/
theorem Breaks.exists_completion {part : Part} {before rest : List Located} {fault : SyntaxFault}
    (h : Breaks part before rest fault) : ∃ us e, Derives part none (before.map Located.token ++ us) e := by
  induction h with
  | inConjunction _ ih =>
    obtain ⟨us, e, hDerives⟩ := ih
    exact ⟨us, e, .conjunction hDerives⟩
  | @behindOr left rest t e fault hLeft ht _ =>
    obtain ⟨f, hRight⟩ := derives_filler .conjunction
    refine ⟨[filler], .or e f, ?_⟩
    rw [List.map_append, List.append_assoc]
    exact .or hLeft ht hRight
  | @inDisjunct left before rest t e fault hLeft ht _ _ ih =>
    obtain ⟨us, f, hRight⟩ := ih
    refine ⟨us, .or e f, ?_⟩
    rw [List.map_append, List.append_assoc]
    exact .or hLeft ht hRight
  | inNegation _ ih =>
    obtain ⟨us, e, hDerives⟩ := ih
    exact ⟨us, e, .negation hDerives⟩
  | @behindAnd left rest t e fault hLeft ht _ =>
    obtain ⟨f, hRight⟩ := derives_filler .negation
    refine ⟨[filler], .and e f, ?_⟩
    rw [List.map_append, List.append_assoc]
    exact .and hLeft ht hRight
  | @inConjunct left before rest t e fault hLeft ht _ _ ih =>
    obtain ⟨us, f, hRight⟩ := ih
    refine ⟨us, .and e f, ?_⟩
    rw [List.map_append, List.append_assoc]
    exact .and hLeft ht hRight
  | behindNot ht _ =>
    obtain ⟨e, hInner⟩ := derives_filler .negation
    exact ⟨[filler], .not e, .not ht hInner⟩
  | inNegated ht _ _ ih =>
    obtain ⟨us, e, hInner⟩ := ih
    exact ⟨us, .not e, .not ht hInner⟩
  | @inOperand before rest fault hNot _ ih =>
    cases before with
    | nil =>
      -- nothing is read yet, and what comes next need not be kept
      obtain ⟨e, hDerives⟩ := derives_filler .negation
      exact ⟨[filler], e, hDerives⟩
    | cons t before =>
      obtain ⟨us, e, hDerives⟩ := ih
      exact ⟨us, e, .operand hDerives hNot⟩
  | @behindParen rest t fault ht _ =>
    obtain ⟨e, hInner⟩ := derives_filler .disjunction
    refine ⟨[filler, .closeParen], e, ?_⟩
    rw [List.map_singleton, ht]
    exact .group (hInner.in_front_of rfl)
  | @inGroup before rest t fault ht _ _ ih =>
    obtain ⟨us, e, hInner⟩ := ih
    refine ⟨us ++ [.closeParen], e, ?_⟩
    rw [List.map_cons, ht, List.cons_append, ← List.append_assoc]
    exact .group (hInner.in_front_of rfl)
  | @behindGroup inner rest t e ht hInner _ _ =>
    refine ⟨[.closeParen], e, ?_⟩
    rw [List.map_cons, ht, List.cons_append]
    exact .group (hInner.in_front_of rfl)
  | blankPhrase _ _ =>
    obtain ⟨e, hDerives⟩ := derives_filler .operand
    exact ⟨[filler], e, hDerives⟩
  | strayClose _ =>
    obtain ⟨e, hDerives⟩ := derives_filler .operand
    exact ⟨[filler], e, hDerives⟩
  | nothingToRead =>
    obtain ⟨e, hDerives⟩ := derives_filler .operand
    exact ⟨[filler], e, hDerives⟩

/-- What is read of a query before it is refused begins some query. -/
theorem Refuses.isBeginning {before rest : List Located} {fault : SyntaxFault} (h : Refuses before rest fault) :
    IsBeginning (before.map Located.token) := by
  cases h with
  | inside hBreaks =>
    obtain ⟨us, e, hDerives⟩ := hBreaks.exists_completion
    exact isBeginning_of_yields hDerives
  | @behind rest t e hDerives _ =>
    have hYields : Yields (before.map Located.token ++ []) e := by
      rw [List.append_nil]
      exact hDerives.in_front_of rfl
    exact isBeginning_of_yields hYields

/-! ### The next token decides -/

private theorem next_append_cons (before rest rest' : List Located) (t : Located) :
    next (before ++ t :: rest) = next (before ++ t :: rest') := by
  cases before <;> rfl

private theorem expectOperand_ok_congr {after : Opener} {before rest rest' : List Located} {t : Located}
    (h : expectOperand after (before ++ t :: rest) = .ok ()) :
    expectOperand after (before ++ t :: rest') = .ok () := by
  rw [expectOperand_eq_ok_iff, next_append_cons before rest' rest]
  exact expectOperand_eq_ok_iff.1 h

private theorem expectOperand_error_congr {after : Opener} {rest : List Located} {t : Located}
    {fault : SyntaxFault} (rest' : List Located) (h : expectOperand after (t :: rest) = .error fault) :
    ∃ fault', expectOperand after (t :: rest') = .error fault' := by
  by_cases hClose : t.token = .closeParen
  · exact ⟨_, by rw [expectOperand, if_pos hClose]⟩
  · rw [expectOperand, if_neg hClose] at h
    cases h

/-- Where reading breaks off in front of a token, it does so whatever comes behind the token. -/
theorem Breaks.exists_of_cons {part : Part} {before rest : List Located} {t : Located} {fault : SyntaxFault}
    (h : Breaks part before (t :: rest) fault) (rest' : List Located) :
    ∃ fault', Breaks part before (t :: rest') fault' := by
  generalize hr : t :: rest = r at h
  induction h with
  | inConjunction _ ih =>
    obtain ⟨fault', h⟩ := ih hr
    exact ⟨fault', .inConjunction h⟩
  | behindOr hLeft ht hMissing =>
    subst hr
    obtain ⟨fault', hMissing⟩ := expectOperand_error_congr rest' hMissing
    exact ⟨fault', .behindOr hLeft ht hMissing⟩
  | inDisjunct hLeft ht hPresent _ ih =>
    obtain ⟨fault', h⟩ := ih hr
    subst hr
    exact ⟨fault', .inDisjunct hLeft ht (expectOperand_ok_congr hPresent) h⟩
  | inNegation _ ih =>
    obtain ⟨fault', h⟩ := ih hr
    exact ⟨fault', .inNegation h⟩
  | behindAnd hLeft ht hMissing =>
    subst hr
    obtain ⟨fault', hMissing⟩ := expectOperand_error_congr rest' hMissing
    exact ⟨fault', .behindAnd hLeft ht hMissing⟩
  | inConjunct hLeft ht hPresent _ ih =>
    obtain ⟨fault', h⟩ := ih hr
    subst hr
    exact ⟨fault', .inConjunct hLeft ht (expectOperand_ok_congr hPresent) h⟩
  | behindNot ht hMissing =>
    subst hr
    obtain ⟨fault', hMissing⟩ := expectOperand_error_congr rest' hMissing
    exact ⟨fault', .behindNot ht hMissing⟩
  | inNegated ht hPresent _ ih =>
    obtain ⟨fault', h⟩ := ih hr
    subst hr
    exact ⟨fault', .inNegated ht (expectOperand_ok_congr hPresent) h⟩
  | @inOperand before r fault hNot _ ih =>
    obtain ⟨fault', h⟩ := ih hr
    subst hr
    refine ⟨fault', .inOperand ?_ h⟩
    rw [next_append_cons before rest' rest]
    exact hNot
  | behindParen ht hMissing =>
    subst hr
    obtain ⟨fault', hMissing⟩ := expectOperand_error_congr rest' hMissing
    exact ⟨fault', .behindParen ht hMissing⟩
  | inGroup ht hPresent _ ih =>
    obtain ⟨fault', h⟩ := ih hr
    subst hr
    exact ⟨fault', .inGroup ht (expectOperand_ok_congr hPresent) h⟩
  | behindGroup ht hInner hStops hClose =>
    subst hr
    exact ⟨_, @Breaks.behindGroup _ (t :: rest') _ _ ht hInner hStops hClose⟩
  | blankPhrase ht hBlank =>
    obtain ⟨rfl, -⟩ := List.cons.inj hr
    exact ⟨_, .blankPhrase ht hBlank⟩
  | strayClose ht =>
    obtain ⟨rfl, -⟩ := List.cons.inj hr
    exact ⟨_, .strayClose ht⟩
  | nothingToRead => cases hr

/-- No query goes on with a token that is refused. -/
theorem Refuses.not_isBeginning {before rest : List Located} {t : Located} {fault : SyntaxFault}
    (h : Refuses before (t :: rest) fault) : ¬ IsBeginning ((before ++ [t]).map Located.token) := by
  rintro ⟨ls, e, ⟨us, hus⟩, hRead⟩
  have hAny : ∀ rest', ∃ fault', Refuses before (t :: rest') fault' := by
    intro rest'
    cases h with
    | inside hBreaks =>
      obtain ⟨fault', hBreaks⟩ := hBreaks.exists_of_cons rest'
      exact ⟨fault', .inside hBreaks⟩
    | behind hDerives hStops => exact ⟨_, .behind hDerives hStops⟩
  -- the tokens of the query that is said to go on so
  obtain ⟨fault', hRefuses⟩ := hAny (us.map fun u => ⟨u, 0⟩)
  have hError := formula_eq_error_iff.2 ⟨before, _, rfl, hRefuses⟩
  rw [formula_eq_ok_iff, ← hus] at hRead
  have hOk : formula (before ++ t :: us.map fun u => ⟨u, 0⟩) = .ok e := by
    rw [formula_eq_ok_iff, List.map_append, List.map_cons, map_token_at_zero]
    simpa using hRead
  rw [hError] at hOk
  cases hOk

end TextQuery.Parser
