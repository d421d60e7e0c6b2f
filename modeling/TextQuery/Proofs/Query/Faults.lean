import TextQuery.Proofs.Query.Beginnings
import TextQuery.Proofs.Query.Nesting

/-!
# The place of a mistake

A mistake is reported at the token where reading breaks off, or at the end of the query when it breaks off there.  The
one exception is a missing closing parenthesis, which is reported at the last opening parenthesis that is not closed
(`Refuses.sits`).  The messages tell the three apart (`message_eq_unclosed_iff`, `suffix_message_iff`).
-/

namespace TextQuery.Parser

open Grammar

/-! ### Where a mistake is reported -/

/-- What a mistake is reported at. -/
inductive Site where
  | token
  | ending
  | opening
  deriving DecidableEq, Repr

/-- What a mistake is reported at, by its cause. -/
def site : SyntaxFault.Cause → Site
  | .missingAtEnd _ => .ending
  | .nothingToRead => .ending
  | .unclosedParen => .opening
  | .missingBeforeClose _ => .token
  | .strayClose => .token
  | .emptyPhrase => .token
  | .missingOperator _ => .token
  | .outOfFuel => .token

/-- How the place of a mistake lies to the place where reading breaks off. -/
inductive Sits : List Located → List Located → SyntaxFault → Prop where
  | token {before rest : List Located} {t : Located} {cause : SyntaxFault.Cause} (h : site cause = .token) :
      Sits before (t :: rest) ⟨cause, t :: rest⟩
  | ending {before : List Located} {cause : SyntaxFault.Cause} (h : site cause = .ending) : Sits before [] ⟨cause, []⟩
  /-- Behind the parenthesis the query is complete but for a closing one. -/
  | opening {outside inside : List Located} {t : Located} {e : Expr} (ht : t.token = .openParen)
      (hInside : Derives .disjunction none (inside.map Located.token) e) :
      Sits (outside ++ t :: inside) [] ⟨.unclosedParen, t :: inside⟩

theorem Sits.append {before rest : List Located} {fault : SyntaxFault} (h : Sits before rest fault)
    (outside : List Located) : Sits (outside ++ before) rest fault := by
  cases h with
  | token h => exact .token h
  | ending h => exact .ending h
  | opening ht hInside =>
    rw [← List.append_assoc]
    exact .opening ht hInside

private theorem sits_of_expectOperand {after : Opener} {before rest : List Located} {fault : SyntaxFault}
    (h : expectOperand after rest = .error fault) : Sits before rest fault := by
  rcases expectOperand_eq_error_iff.1 h with ⟨rfl, rfl⟩ | ⟨t, behind, rfl, -, rfl⟩
  · exact .ending rfl
  · exact .token rfl

theorem Breaks.sits {part : Part} {before rest : List Located} {fault : SyntaxFault}
    (h : Breaks part before rest fault) : Sits before rest fault := by
  induction h with
  | inConjunction _ ih => exact ih
  | behindOr _ _ hMissing => exact sits_of_expectOperand hMissing
  | inDisjunct _ _ _ _ ih =>
    rw [List.append_cons]
    exact ih.append _
  | inNegation _ ih => exact ih
  | behindAnd _ _ hMissing => exact sits_of_expectOperand hMissing
  | inConjunct _ _ _ _ ih =>
    rw [List.append_cons]
    exact ih.append _
  | behindNot _ hMissing => exact sits_of_expectOperand hMissing
  | @inNegated _ _ t _ _ _ _ ih => exact ih.append [t]
  | inOperand _ _ ih => exact ih
  | behindParen _ hMissing => exact sits_of_expectOperand hMissing
  | @inGroup _ _ t _ _ _ _ ih => exact ih.append [t]
  | @behindGroup inner rest t e ht hInner _ _ =>
    cases rest with
    | nil =>
      -- the innermost of the open parentheses is reported
      rw [List.append_nil]
      exact @Sits.opening [] inner t e ht hInner
    | cons u rest => exact .token rfl
  | blankPhrase _ _ => exact .token rfl
  | strayClose _ => exact .token rfl
  | nothingToRead => exact .ending rfl

theorem Refuses.sits {before rest : List Located} {fault : SyntaxFault} (h : Refuses before rest fault) :
    Sits before rest fault := by
  cases h with
  | inside hBreaks => exact hBreaks.sits
  | @behind rest t _ _ _ =>
    refine .token ?_
    by_cases hClose : t.token = .closeParen
    · rw [if_pos hClose]
      rfl
    · rw [if_neg hClose]
      rfl

/-! ### What a fault says of the next token -/

/-- Whether a cause agrees with the tokens from the place on where reading breaks off: a missing operator is missing in
front of the first of them.  The fuel is never the cause. -/
def Agrees (rest : List Located) : SyntaxFault.Cause → Prop
  | .missingOperator found => next rest = some found
  | .outOfFuel => False
  | _ => True

private theorem agrees_of_expectOperand {after : Opener} {rest : List Located} {fault : SyntaxFault}
    (h : expectOperand after rest = .error fault) : Agrees rest fault.cause := by
  rcases expectOperand_eq_error_iff.1 h with ⟨-, rfl⟩ | ⟨t, behind, -, -, rfl⟩
  · trivial
  · trivial

theorem Breaks.agrees {part : Part} {before rest : List Located} {fault : SyntaxFault}
    (h : Breaks part before rest fault) : Agrees rest fault.cause := by
  induction h with
  | inConjunction _ ih => exact ih
  | behindOr _ _ hMissing => exact agrees_of_expectOperand hMissing
  | inDisjunct _ _ _ _ ih => exact ih
  | inNegation _ ih => exact ih
  | behindAnd _ _ hMissing => exact agrees_of_expectOperand hMissing
  | inConjunct _ _ _ _ ih => exact ih
  | behindNot _ hMissing => exact agrees_of_expectOperand hMissing
  | inNegated _ _ _ ih => exact ih
  | inOperand _ _ ih => exact ih
  | behindParen _ hMissing => exact agrees_of_expectOperand hMissing
  | inGroup _ _ _ ih => exact ih
  | @behindGroup _ rest _ _ _ _ _ _ =>
    cases rest with
    | nil => trivial
    | cons u rest => rfl
  | blankPhrase _ _ => trivial
  | strayClose _ => trivial
  | nothingToRead => trivial

theorem Refuses.agrees {before rest : List Located} {fault : SyntaxFault} (h : Refuses before rest fault) :
    Agrees rest fault.cause := by
  cases h with
  | inside hBreaks => exact hBreaks.agrees
  | @behind rest t _ _ _ =>
    by_cases hClose : t.token = .closeParen
    · rw [if_pos hClose]
      trivial
    · rw [if_neg hClose]
      rfl

/-! ### What messages tell of the place -/

private theorem getLast?_of_suffix {s t : Text} (h : s <:+ t) (hs : s ≠ []) : t.getLast? = s.getLast? := by
  obtain ⟨u, rfl⟩ := h
  rw [List.getLast?_append]
  cases hLast : s.getLast? with
  | none => exact absurd (List.getLast?_eq_none_iff.1 hLast) hs
  | some c => rfl

private theorem getLast?_describe (t : Token) : t.describe.getLast? = some '\'' ∨ t.describe.getLast? = some '"' := by
  cases t with
  | word text => exact .inl List.getLast?_concat
  | phrase text => exact .inr List.getLast?_concat
  | openParen => exact .inl rfl
  | closeParen => exact .inl rfl

/-- The message about an unclosed parenthesis is given for nothing else. -/
theorem message_eq_unclosed_iff {cause : SyntaxFault.Cause} :
    cause.message = "expected closing parenthesis for '('".toList ↔ site cause = .opening := by
  constructor
  · intro h
    -- no other message has a `c` for its tenth character
    have h9 : cause.message[9]? = some 'c' := by rw [h]; rfl
    cases cause with
    | missingAtEnd after => exact absurd h9 (show some 'a' ≠ some 'c' by decide)
    | missingBeforeClose after => exact absurd h9 (show some 'a' ≠ some 'c' by decide)
    | nothingToRead => exact absurd h9 (by decide)
    | strayClose => exact absurd h9 (by decide)
    | emptyPhrase => exact absurd h9 (by decide)
    | missingOperator found => exact absurd h9 (show some 'A' ≠ some 'c' by decide)
    | unclosedParen => rfl
    | outOfFuel => exact absurd h9 (by decide)
  · intro h
    cases cause with
    | unclosedParen => rfl
    | _ => cases h

/-- The messages that name the end of the query are those about it. -/
theorem suffix_message_iff {cause : SyntaxFault.Cause} :
    "found end of query".toList <:+ cause.message ↔ site cause = .ending := by
  constructor
  · intro h
    have hLast : cause.message.getLast? = some 'y' := getLast?_of_suffix h (by decide)
    cases cause with
    | missingAtEnd after => rfl
    | missingBeforeClose after =>
      have hQuote : ", found ')'".toList.getLast? = some '\'' := by decide
      change ("expected a term after ".toList ++ after.describe ++ ", found ')'".toList).getLast? = some 'y' at hLast
      rw [List.getLast?_append, hQuote, Option.some_or] at hLast
      exact absurd hLast (by decide)
    | nothingToRead => rfl
    | strayClose => exact absurd hLast (by decide)
    | emptyPhrase => exact absurd hLast (by decide)
    | missingOperator found =>
      change ("expected AND or OR, found ".toList ++ found.describe).getLast? = some 'y' at hLast
      rw [List.getLast?_append] at hLast
      rcases getLast?_describe found with hFound | hFound
      · rw [hFound, Option.some_or] at hLast
        exact absurd hLast (by decide)
      · rw [hFound, Option.some_or] at hLast
        exact absurd hLast (by decide)
    | unclosedParen => exact absurd hLast (by decide)
    | outOfFuel => exact absurd hLast (by decide)
  · intro h
    cases cause with
    | missingAtEnd after =>
      have hComma : ", found end of query".toList = ", ".toList ++ "found end of query".toList := by decide
      change _ <:+ "expected a term after ".toList ++ after.describe ++ ", found end of query".toList
      rw [hComma, ← List.append_assoc]
      exact List.suffix_append _ _
    | nothingToRead => exact ⟨"expected a term, ".toList, rfl⟩
    | _ => cases h

/-! ### Refused queries -/

/-- A query that divides into tokens is refused for a mistake in their order. -/
theorem exists_fault_of_parse {raw : Text} {ts : List Located} {err : QueryError} (hBlank : raw.isBlank = false)
    (hTokens : Lexer.tokens raw = .ok ts) (hParse : parse raw = .error err) :
    ∃ fault, formula ts = .error fault ∧ err = .ofSyntaxFault raw fault := by
  simp only [parse, hBlank, hTokens, Bool.false_eq_true, if_false] at hParse
  cases hFormula : formula ts with
  | error fault =>
    rw [hFormula] at hParse
    exact ⟨fault, rfl, (Except.error.inj hParse).symm⟩
  | ok e =>
    rw [hFormula] at hParse
    cases hParse

/-- Whether `t` is the last opening parenthesis that is not closed. -/
def IsLastUnclosed (ts : List Located) (t : Located) : Prop :=
  ∃ outside inside, ts = outside ++ t :: inside ∧ t.token = .openParen ∧ ¬ IsClosed (inside.map Located.token) ∧
    ∀ between u behind, inside = between ++ u :: behind → u.token = .openParen →
      IsClosed (behind.map Located.token)

private theorem isLastUnclosed_of_derives {outside inside : List Located} {t : Located} {e : Expr}
    (ht : t.token = .openParen) (h : Derives .disjunction none (inside.map Located.token) e) :
    IsLastUnclosed (outside ++ t :: inside) t := by
  refine ⟨outside, inside, rfl, ht, h.nested.not_isClosed, ?_⟩
  intro between u behind hInside hu
  have hNested := h.nested
  rw [hInside, List.map_append, List.map_cons, hu] at hNested
  exact hNested.isClosed

/-- A refused query is refused as early as it can be.  A missing closing parenthesis is reported at the last opening
one that is not closed, a missing operand at the end of the query, and in both cases the query can be completed.  Any
other mistake is reported at the first token with which the query can no longer be completed. -/
theorem parse_refuses_earliest {raw : Text} {ts : List Located} {err : QueryError} (hBlank : raw.isBlank = false)
    (hTokens : Lexer.tokens raw = .ok ts) (hParse : parse raw = .error err) :
    (err.message = "expected closing parenthesis for '('".toList →
      (∃ t, IsLastUnclosed ts t ∧ err.position = some t.offset) ∧ IsBeginning (ts.map Located.token)) ∧
    ("found end of query".toList <:+ err.message →
      err.position = some raw.utf8Size ∧ IsBeginning (ts.map Located.token)) ∧
    (err.message ≠ "expected closing parenthesis for '('".toList → ¬ "found end of query".toList <:+ err.message →
      ∃ before t behind, ts = before ++ t :: behind ∧ err.position = some t.offset ∧
        IsBeginning (before.map Located.token) ∧ ¬ IsBeginning ((before ++ [t]).map Located.token)) := by
  obtain ⟨fault, hFormula, rfl⟩ := exists_fault_of_parse hBlank hTokens hParse
  obtain ⟨before, rest, rfl, hRefuses⟩ := formula_eq_error_iff.1 hFormula
  have hBeginning := hRefuses.isBeginning
  show (fault.cause.message = _ → _) ∧ (_ <:+ fault.cause.message → _) ∧
    (fault.cause.message ≠ _ → ¬ _ <:+ fault.cause.message → _)
  rw [Ne, message_eq_unclosed_iff, suffix_message_iff]
  cases hRefuses.sits with
  | @token _ behind t cause hSite =>
    rw [hSite]
    refine ⟨fun h => absurd h (by decide), fun h => absurd h (by decide), fun _ _ => ?_⟩
    exact ⟨before, t, behind, rfl, rfl, hBeginning, hRefuses.not_isBeginning⟩
  | ending hSite =>
    rw [hSite, List.append_nil]
    exact ⟨fun h => absurd h (by decide), fun _ => ⟨rfl, hBeginning⟩, fun _ h => absurd rfl h⟩
  | @opening outside inside t e ht hInside =>
    rw [List.append_nil]
    refine ⟨fun _ => ⟨⟨t, isLastUnclosed_of_derives ht hInside, rfl⟩, hBeginning⟩, fun h => ?_, fun h => absurd rfl h⟩
    cases h

/-- The second parenthesis cannot stand behind a word. -/
theorem parse_refuses_earliest_at_paren :
    Text.isBlank "(a (b".toList = false ∧
      Lexer.tokens "(a (b".toList =
        .ok [⟨.openParen, 0⟩, ⟨.word ['a'], 1⟩, ⟨.openParen, 3⟩, ⟨.word ['b'], 4⟩] ∧
      ∃ err, parse "(a (b".toList = .error err ∧ err.position = some 3 ∧
        ∃ before t behind,
          [⟨.openParen, 0⟩, ⟨.word ['a'], 1⟩, ⟨.openParen, 3⟩, ⟨.word ['b'], 4⟩] = before ++ t :: behind ∧
          err.position = some t.offset ∧
          IsBeginning (before.map Located.token) ∧ ¬ IsBeginning ((before ++ [t]).map Located.token) := by
  have hBlank : Text.isBlank "(a (b".toList = false := rfl
  have hTokens : Lexer.tokens "(a (b".toList =
      .ok [⟨.openParen, 0⟩, ⟨.word ['a'], 1⟩, ⟨.openParen, 3⟩, ⟨.word ['b'], 4⟩] := rfl
  have hFormula : formula [⟨.openParen, 0⟩, ⟨.word ['a'], 1⟩, ⟨.openParen, 3⟩, ⟨.word ['b'], 4⟩] =
      .error ⟨.missingOperator .openParen, [⟨.openParen, 3⟩, ⟨.word ['b'], 4⟩]⟩ := rfl
  have hParse : parse "(a (b".toList =
      .error ⟨.syntactic "expected AND or OR, found '('".toList (some 3), "(a (b".toList⟩ := by
    simp only [parse, hBlank, hTokens, hFormula]
    rfl
  exact ⟨hBlank, hTokens, _, hParse, rfl,
    (parse_refuses_earliest hBlank hTokens hParse).2.2 (by decide) (by decide)⟩

end TextQuery.Parser
