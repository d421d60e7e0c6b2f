import TextQuery.Proofs.Query.Agreement
import TextQuery.Proofs.Query.Faults
import TextQuery.Proofs.Query.Progress

/-!
# Missing operands

What an operand has to follow is an operator or an opening parenthesis, or the beginning of the query.  Behind the
first two a missing operand is noticed before any function is called for it (`formula_of_awaitsOperand`), so a function
is called only in front of what can begin an operand, or where the query begins (`IsStack.begins`).
-/

namespace TextQuery

/-- Whether a token can be what an operand is missing behind. -/
def Opener.IsAt : Opener → Token → Prop
  | .keyword k, t => t.spells k = true
  | .paren, t => t = .openParen

namespace Parser

open Grammar

/-- Whether an operand has to come next: some query begins with the tokens, but they are none, and no query goes on
with a closing parenthesis. -/
def AwaitsOperand (ts : List Token) : Prop :=
  IsBeginning ts ∧ (∀ e, ¬ Yields ts e) ∧ ¬ IsBeginning (ts ++ [.closeParen])

/-- Whether no operand begins with what is left. -/
def LacksOperand (rest : List Located) : Prop := ∀ t, next rest = some t → t = .closeParen

/-- Whether the last of the tokens is one that an operand has to follow, and a fault is what is wrong with the rest. -/
def MissesOperand (before rest : List Located) (fault : SyntaxFault) : Prop :=
  ∃ outside t after, before = outside ++ [t] ∧ after.IsAt t.token ∧ expectOperand after rest = .error fault

theorem MissesOperand.append {before rest : List Located} {fault : SyntaxFault} (h : MissesOperand before rest fault)
    (outside : List Located) : MissesOperand (outside ++ before) rest fault := by
  obtain ⟨inside, t, after, rfl, ht, hMissing⟩ := h
  exact ⟨outside ++ inside, t, after, (List.append_assoc ..).symm, ht, hMissing⟩

private theorem LacksOperand.not_present {after : Opener} {rest : List Located} (h : LacksOperand rest) :
    expectOperand after rest ≠ .ok () := by
  intro hPresent
  obtain ⟨t, ht, hClose⟩ := expectOperand_eq_ok_iff.1 hPresent
  exact hClose (h t ht)

/-! ### How reading breaks off where no operand begins -/

/-- Where no operand begins, reading breaks off before any token is taken, or behind a token that an operand has to
follow, or where a closing parenthesis is all that is missing. -/
theorem Breaks.of_lacksOperand {part : Part} {before rest : List Located} {fault : SyntaxFault}
    (h : Breaks part before rest fault) (hLacks : LacksOperand rest) :
    before = [] ∨ MissesOperand before rest fault ∨
      (fault.cause = .unclosedParen ∧
        ∃ us e, Derives part none (before.map Located.token ++ .closeParen :: us) e) := by
  induction h with
  | inConjunction _ ih =>
    refine (ih hLacks).imp_right (.imp_right ?_)
    rintro ⟨hCause, us, e, hDerives⟩
    exact ⟨hCause, us, e, .conjunction hDerives⟩
  | @behindOr left rest t e fault _ ht hMissing => exact .inr (.inl ⟨left, t, .keyword .or, rfl, ht, hMissing⟩)
  | @inDisjunct left before rest t e fault hLeft ht hPresent _ ih =>
    rcases ih hLacks with rfl | hMisses | ⟨hCause, us, f, hRight⟩
    · exact absurd hPresent hLacks.not_present
    · rw [List.append_cons]
      exact .inr (.inl (hMisses.append _))
    · refine .inr (.inr ⟨hCause, us, .or e f, ?_⟩)
      rw [List.map_append, List.append_assoc]
      exact .or hLeft ht hRight
  | inNegation _ ih =>
    refine (ih hLacks).imp_right (.imp_right ?_)
    rintro ⟨hCause, us, e, hDerives⟩
    exact ⟨hCause, us, e, .negation hDerives⟩
  | @behindAnd left rest t e fault _ ht hMissing => exact .inr (.inl ⟨left, t, .keyword .and, rfl, ht, hMissing⟩)
  | @inConjunct left before rest t e fault hLeft ht hPresent _ ih =>
    rcases ih hLacks with rfl | hMisses | ⟨hCause, us, f, hRight⟩
    · exact absurd hPresent hLacks.not_present
    · rw [List.append_cons]
      exact .inr (.inl (hMisses.append _))
    · refine .inr (.inr ⟨hCause, us, .and e f, ?_⟩)
      rw [List.map_append, List.append_assoc]
      exact .and hLeft ht hRight
  | @behindNot rest t fault ht hMissing => exact .inr (.inl ⟨[], t, .keyword .not, rfl, ht, hMissing⟩)
  | @inNegated before rest t fault ht hPresent _ ih =>
    rcases ih hLacks with rfl | hMisses | ⟨hCause, us, e, hInner⟩
    · exact absurd hPresent hLacks.not_present
    · exact .inr (.inl (hMisses.append [t]))
    · exact .inr (.inr ⟨hCause, us, .not e, .not ht hInner⟩)
  | @inOperand before rest fault hNot _ ih =>
    cases before with
    | nil => exact .inl rfl
    | cons t before =>
      refine (ih hLacks).imp_right (.imp_right ?_)
      rintro ⟨hCause, us, e, hDerives⟩
      exact ⟨hCause, us, e, .operand hDerives hNot⟩
  | @behindParen rest t fault ht hMissing => exact .inr (.inl ⟨[], t, .paren, rfl, ht, hMissing⟩)
  | @inGroup before rest t fault ht hPresent _ ih =>
    rcases ih hLacks with rfl | hMisses | ⟨hCause, us, e, hInner⟩
    · exact absurd hPresent hLacks.not_present
    · exact .inr (.inl (hMisses.append [t]))
    · -- the parentheses outside are closed behind what completes the inside
      have hGroup : Derives .operand none
          (.openParen :: ((before.map Located.token ++ .closeParen :: us) ++ [.closeParen])) e :=
        .group (hInner.in_front_of rfl)
      refine .inr (.inr ⟨hCause, us ++ [.closeParen], e, ?_⟩)
      rw [List.map_cons, ht]
      simpa using hGroup
  | @behindGroup inner rest t e ht hInner _ hClose =>
    cases rest with
    | nil =>
      refine .inr (.inr ⟨rfl, [], e, ?_⟩)
      rw [List.map_cons, ht, List.cons_append]
      exact .group (hInner.in_front_of rfl)
    | cons u rest => exact absurd (congrArg some (hLacks u.token rfl)) hClose
  | blankPhrase _ _ => exact .inl rfl
  | strayClose _ => exact .inl rfl
  | nothingToRead => exact .inl rfl

/-! ### Where a missing operand is noticed -/

theorem IsBeginning.of_append {ts us : List Token} (h : IsBeginning (ts ++ us)) : IsBeginning ts := by
  obtain ⟨ls, e, hPrefix, hRead⟩ := h
  exact ⟨ls, e, (List.prefix_append ts us).trans hPrefix, hRead⟩

/-- A query is refused just in front of what lacks the operand that has to come next. -/
theorem refuses_of_awaitsOperand {before rest : List Located} (hAwaits : AwaitsOperand (before.map Located.token))
    (hLacks : LacksOperand rest) : ∃ fault, formula (before ++ rest) = .error fault ∧ Refuses before rest fault := by
  obtain ⟨hBeginning, hYields, hClose⟩ := hAwaits
  have hBehind : ∀ c more, rest = c :: more → ¬ IsBeginning ((before ++ [c]).map Located.token) := by
    rintro c more rfl
    rw [List.map_append, List.map_singleton, hLacks c.token rfl]
    exact hClose
  cases hRead : formula (before ++ rest) with
  | ok e =>
    have hAll := formula_eq_ok_iff.1 hRead
    cases rest with
    | nil =>
      rw [List.append_nil] at hAll
      exact absurd hAll (hYields e)
    | cons c more =>
      rw [List.append_cons, List.map_append] at hAll
      exact absurd (isBeginning_of_yields hAll) (hBehind c more rfl)
  | error fault =>
    obtain ⟨before', rest', hSplit, hRefuses⟩ := formula_eq_error_iff.1 hRead
    refine ⟨fault, rfl, ?_⟩
    -- what is read before the query is refused is neither more nor less than `before`
    rcases List.append_eq_append_iff.1 hSplit with ⟨more, rfl, rfl⟩ | ⟨more, rfl, rfl⟩
    · cases more with
      | nil =>
        rw [List.append_nil] at hRefuses
        exact hRefuses
      | cons c more =>
        have hMore := hRefuses.isBeginning
        rw [List.append_cons, List.map_append] at hMore
        exact absurd hMore.of_append (hBehind c _ rfl)
    · cases more with
      | nil =>
        rw [List.append_nil]
        exact hRefuses
      | cons c more =>
        rw [List.append_cons, List.map_append] at hBeginning
        exact absurd hBeginning.of_append hRefuses.not_isBeginning

/-- What lacks the operand that has to come next is refused for that, behind the token that it has to follow. -/
theorem formula_of_awaitsOperand {before rest : List Located} (hAwaits : AwaitsOperand (before.map Located.token))
    (hBefore : before ≠ []) (hLacks : LacksOperand rest) :
    ∃ fault, formula (before ++ rest) = .error fault ∧ MissesOperand before rest fault := by
  obtain ⟨fault, hRead, hRefuses⟩ := refuses_of_awaitsOperand hAwaits hLacks
  obtain ⟨-, hYields, hClose⟩ := hAwaits
  refine ⟨fault, hRead, ?_⟩
  cases hRefuses with
  | inside hBreaks =>
    rcases hBreaks.of_lacksOperand hLacks with hNone | hMisses | ⟨-, us, e, hDerives⟩
    · exact absurd hNone hBefore
    · exact hMisses
    · rw [List.append_cons] at hDerives
      exact absurd (isBeginning_of_yields hDerives) hClose
  | @behind rest t e hDerives _ => exact absurd (hDerives.in_front_of rfl) (hYields e)

/-- What is said of a missing operand: what it has to follow, and what is found in its place. -/
theorem expectOperand_says {after : Opener} {rest : List Located} {fault : SyntaxFault}
    (h : expectOperand after rest = .error fault) :
    fault.rest = rest ∧ fault.cause.message = "expected a term after ".toList ++ after.describe ++
      if rest = [] then ", found end of query".toList else ", found ')'".toList := by
  rcases expectOperand_eq_error_iff.1 h with ⟨rfl, rfl⟩ | ⟨t, behind, rfl, -, rfl⟩
  · exact ⟨rfl, rfl⟩
  · exact ⟨rfl, rfl⟩

/-! ### Where the query is at its end -/

/-- The message about a query that is at its end where an operand begins is given for nothing else. -/
theorem eq_nothingToRead_of_message {cause : SyntaxFault.Cause}
    (h : cause.message = "expected a term, found end of query".toList) : cause = .nothingToRead := by
  -- no other message has a comma for its sixteenth character
  have h15 : cause.message[15]? = some ',' := by rw [h]; rfl
  cases cause with
  | missingAtEnd after => exact absurd h15 (show some ' ' ≠ some ',' by decide)
  | missingBeforeClose after => exact absurd h15 (show some ' ' ≠ some ',' by decide)
  | nothingToRead => rfl
  | strayClose => exact absurd h15 (by decide)
  | emptyPhrase => exact absurd h15 (by decide)
  | missingOperator found => exact absurd h15 (show some ' ' ≠ some ',' by decide)
  | unclosedParen => exact absurd h15 (by decide)
  | outOfFuel => exact absurd h15 (by decide)

/-- Tokens are never at their end where an operand begins, unless there are none. -/
theorem eq_nil_of_nothingToRead {ts : List Located} {fault : SyntaxFault} (h : formula ts = .error fault)
    (hCause : fault.cause = .nothingToRead) : ts = [] := by
  obtain ⟨before, rest, rfl, hRefuses⟩ := formula_eq_error_iff.1 h
  have hEnd : rest = [] := by
    cases hRefuses.sits with
    | token hSite =>
      obtain rfl : _ = SyntaxFault.Cause.nothingToRead := hCause
      cases hSite
    | ending _ => rfl
    | opening _ _ => rfl
  subst hEnd
  cases hRefuses with
  | inside hBreaks =>
    rcases hBreaks.of_lacksOperand nofun with rfl | ⟨_, _, after, _, _, hMissing⟩ | ⟨hUnclosed, -⟩
    · rfl
    · obtain rfl := Except.error.inj hMissing
      cases hCause
    · rw [hCause] at hUnclosed
      cases hUnclosed

theorem message_ne_nothingToRead {raw : Text} {err : QueryError} (h : parse raw = .error err) :
    err.message ≠ "expected a term, found end of query".toList := by
  intro hMessage
  rcases parse_cases raw with ⟨-, hParse⟩ | ⟨-, quote, -, hParse⟩ | ⟨hBlank, ts, hTokens, -⟩
  · obtain rfl := Except.error.inj (hParse.symm.trans h)
    exact absurd hMessage (show "no query provided".toList ≠ _ by decide)
  · obtain rfl := Except.error.inj (hParse.symm.trans h)
    exact absurd hMessage (show "unclosed quote".toList ≠ _ by decide)
  · obtain ⟨fault, hRead, rfl⟩ := exists_fault_of_parse hBlank hTokens h
    obtain rfl := eq_nil_of_nothingToRead hRead (eq_nothingToRead_of_message hMessage)
    rw [tokens_eq_nil_iff.1 hTokens] at hBlank
    cases hBlank

/-! ### Where functions are called -/

namespace Recorded

/-- A function is called where the outermost one is, or in front of what may begin an operand. -/
theorem IsStack.begins {c bottom : Call} {stack : List Call} (h : IsStack (c :: stack))
    (hBottom : (c :: stack).getLast? = some bottom) :
    c.isTurn = true ∨ c.left = bottom.left ∨ ∃ t, next c.left = some t ∧ t ≠ .closeParen := by
  induction stack generalizing c with
  | nil =>
    obtain rfl := Option.some.inj hBottom
    exact .inr (.inl rfl)
  | cons d stack ih =>
    obtain ⟨hCalls, hStack⟩ := List.isChain_cons_cons.1 h
    rw [List.getLast?_cons_cons] at hBottom
    cases hCalls with
    | @here r r' isTurn isTurn' ts hRank =>
      rcases ih hStack hBottom with hTurn | hSame | hNext
      · -- a turn of a loop calls nothing before it takes a token
        obtain rfl : isTurn = true := hTurn
        exact absurd hRank (Nat.not_lt_zero _)
      · exact .inr (.inl hSame)
      · exact .inr (.inr hNext)
    | behind _ hNext => exact hNext.imp_right .inr

/-- The calls in the reading of a query are those in the reading of a disjunction. -/
theorem isStack_of_formula {ts : List Located} {stack : List Call} (h : .call stack ∈ (formula ts).events) :
    IsStack stack ∧ [⟨.disjunction, false, ts⟩] <:+ stack := by
  rw [formula] at h
  rcases (events_bind _ _ _).1 h with hRead | ⟨⟨e, rest⟩, -, hEnd⟩
  · exact (disjunction_orderly (fuelFor ts) [] ts (.singleton _)).1 _ hRead
  · cases rest <;> cases hEnd

end Recorded

/-- Operands are looked for only where one begins.  The function that reads them is never called at the end of a query,
and in front of a closing parenthesis only where the query begins with it; so the end of the query is never found in
place of a term that nothing is in front of.  Wherever else an operand has to come next and none does, the check behind
the token in front of it says so, and names that token. -/
theorem operands_checked (raw : Text) :
    (∀ err, parse raw = .error err → err.message ≠ "expected a term, found end of query".toList) ∧
    ∀ ts, raw.isBlank = false → Lexer.tokens raw = .ok ts →
      ((Recorded.formula ts).result = formula ts ∧ parse raw = (formula ts).mapError (.ofSyntaxFault raw)) ∧
      (∀ left stack, .call (⟨.operand, false, left⟩ :: stack) ∈ (Recorded.formula ts).events →
        ∃ t rest, left = t :: rest ∧ (t.token = .closeParen → left = ts)) ∧
      ∀ before rest, ts = before ++ rest → before ≠ [] → AwaitsOperand (before.map Located.token) → LacksOperand rest →
        ∃ (outside : List Located) (t : Located) (after : Opener) (fault : SyntaxFault),
          before = outside ++ [t] ∧ after.IsAt t.token ∧ expectOperand after rest = .error fault ∧
          parse raw = .error (.ofSyntaxFault raw fault) ∧
          fault.cause.message = "expected a term after ".toList ++ after.describe ++
            (if rest = [] then ", found end of query".toList else ", found ')'".toList) ∧
          fault.position raw.utf8Size = match rest with
            | [] => raw.utf8Size
            | c :: _ => c.offset := by
  refine ⟨fun err hParse => message_ne_nothingToRead hParse, fun ts hBlank hTokens => ?_⟩
  have hParse : parse raw = (formula ts).mapError (.ofSyntaxFault raw) := by
    simp only [parse, hBlank, hTokens, Bool.false_eq_true, if_false]
  refine ⟨⟨Recorded.formula_result ts, hParse⟩, ?_, ?_⟩
  · intro left stack hCall
    obtain ⟨hStack, inner, hBottom⟩ := Recorded.isStack_of_formula hCall
    have hLast : (⟨.operand, false, left⟩ :: stack).getLast? = some ⟨.disjunction, false, ts⟩ := by
      rw [← hBottom, List.getLast?_concat]
    rcases hStack.begins hLast with hTurn | hSame | ⟨t, hNext, hClose⟩
    · cases hTurn
    · obtain rfl : left = ts := hSame
      have hSome : left ≠ [] := by
        rintro rfl
        rw [tokens_eq_nil_iff.1 hTokens] at hBlank
        cases hBlank
      obtain ⟨t, rest, rfl⟩ := List.exists_cons_of_ne_nil hSome
      exact ⟨t, rest, rfl, fun _ => rfl⟩
    · obtain ⟨offset, rest, rfl⟩ := Recorded.exists_cons_of_next hNext
      exact ⟨⟨t, offset⟩, rest, rfl, fun h => absurd h hClose⟩
  · rintro before rest rfl hBefore hAwaits hLacks
    obtain ⟨fault, hRead, outside, t, after, hSplit, ht, hMissing⟩ := formula_of_awaitsOperand hAwaits hBefore hLacks
    obtain ⟨hRest, hMessage⟩ := expectOperand_says hMissing
    refine ⟨outside, t, after, fault, hSplit, ht, hMissing, by rw [hParse, hRead]; rfl, hMessage, ?_⟩
    cases rest with
    | nil => rw [SyntaxFault.position, hRest]
    | cons c more => rw [SyntaxFault.position, hRest]

/-- A closing parenthesis behind an operator, inside of a group. -/
theorem operands_checked_behind_or :
    let raw : Text := "(a OR )".toList
    let ts : List Located := [⟨.openParen, 0⟩, ⟨.word ['a'], 1⟩, ⟨.word ['O', 'R'], 3⟩, ⟨.closeParen, 6⟩]
    let stack : List Recorded.Call := [⟨.negation, false, ts.drop 1⟩, ⟨.conjunction, false, ts.drop 1⟩,
      ⟨.disjunction, false, ts.drop 1⟩, ⟨.group, false, ts⟩, ⟨.operand, false, ts⟩, ⟨.negation, false, ts⟩,
      ⟨.conjunction, false, ts⟩, ⟨.disjunction, false, ts⟩]
    raw.isBlank = false ∧ Lexer.tokens raw = .ok ts ∧
      (.call (⟨.operand, false, ts.drop 1⟩ :: stack) ∈ (Recorded.formula ts).events ∧
        ∃ t rest, ts.drop 1 = t :: rest ∧ (t.token = .closeParen → ts.drop 1 = ts)) ∧
      AwaitsOperand ((ts.take 3).map Located.token) ∧ LacksOperand (ts.drop 3) ∧
      ∃ (outside : List Located) (t : Located) (after : Opener) (fault : SyntaxFault),
        ts.take 3 = outside ++ [t] ∧ after.IsAt t.token ∧ parse raw = .error (.ofSyntaxFault raw fault) ∧
        fault.cause.message = "expected a term after ".toList ++ after.describe ++ ", found ')'".toList ∧
        fault.position raw.utf8Size = 6 ∧
        (QueryError.ofSyntaxFault raw fault).message ≠ "expected a term, found end of query".toList := by
  intro raw ts stack
  have hBlank : raw.isBlank = false := rfl
  have hTokens : Lexer.tokens raw = .ok ts := rfl
  have hCall : .call (⟨.operand, false, ts.drop 1⟩ :: stack) ∈ (Recorded.formula ts).events := by decide
  have hWord : Derives .operand (some (.word ['O', 'R'])) [.word ['a']] (.leaf (.words ['a'])) := .word ['a'] rfl
  have hOr : Breaks .disjunction ([⟨.word ['a'], 1⟩] ++ [⟨.word ['O', 'R'], 3⟩]) [⟨.closeParen, 6⟩]
      ⟨.missingBeforeClose (.keyword .or), [⟨.closeParen, 6⟩]⟩ :=
    .behindOr (.conjunction (.negation (.operand hWord rfl))) rfl rfl
  have hRefuses : Refuses (ts.take 3) (ts.drop 3) ⟨.missingBeforeClose (.keyword .or), ts.drop 3⟩ :=
    .inside (.inConjunction (.inNegation (.inOperand rfl (.inGroup rfl rfl hOr))))
  have hAwaits : AwaitsOperand ((ts.take 3).map Located.token) := by
    refine ⟨hRefuses.isBeginning, fun e hYields => ?_, hRefuses.not_isBeginning⟩
    have hRead : formula (ts.take 3) = .error ⟨.missingAtEnd (.keyword .or), []⟩ := rfl
    rw [formula_eq_ok_iff.2 hYields] at hRead
    cases hRead
  have hLacks : LacksOperand (ts.drop 3) := fun t ht => (Option.some.inj ht).symm
  obtain ⟨hMessages, hReadings⟩ := operands_checked raw
  obtain ⟨-, hCalls, hMissing⟩ := hReadings ts hBlank hTokens
  obtain ⟨outside, t, after, fault, hSplit, ht, -, hParse, hMessage, hPosition⟩ :=
    hMissing (ts.take 3) (ts.drop 3) rfl (List.cons_ne_nil _ _) hAwaits hLacks
  exact ⟨hBlank, hTokens, ⟨hCall, hCalls _ _ hCall⟩, hAwaits, hLacks, outside, t, after, fault, hSplit, ht, hParse,
    hMessage, hPosition, hMessages _ hParse⟩

end Parser

end TextQuery
