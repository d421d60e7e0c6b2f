import TextQuery.Proofs.Query.Agreement
import TextQuery.Proofs.Query.Faults

/-!
# Hints

The hint on a refused query is found by words in the message, and every message has the words of some hint.  A message
can also name a token of the query.  A word cannot hold the words that call for a hint, as these have spaces and
parentheses, but a phrase can.  So the hint is that of the mistake which the message seems to be about
(`Mistake.apparent`), and it fits the mistake that was made unless the message names such a phrase
(`hint_fits_unless_phrase_misleads`).
-/

namespace TextQuery

open TextQuery.Parser

/-! ### Mistakes and their hints -/

/-- The mistakes that queries are refused for. -/
inductive Mistake where
  | noQuery
  | unclosedQuote
  | unclosedParen
  | strayClose
  | missingOperator (found : Token)
  | missingOperand
  | emptyPhrase
  deriving DecidableEq, Repr

namespace Mistake

/-- The hint that belongs to a mistake. -/
def advice : Mistake → Text
  | noQuery => "Provide at least one term, e.g., 'rust AND golang'".toList
  | unclosedQuote => "Add a closing quote (\") to complete the phrase".toList
  | unclosedParen => "Add a closing parenthesis ) to match the opening one".toList
  | strayClose => "Remove the extra ) or add a matching (".toList
  | missingOperator _ => "Join terms with AND or OR, or quote them as one phrase".toList
  | missingOperand => "Operators need an operand, e.g., 'rust AND NOT golang'".toList
  | emptyPhrase => "Put some text between the quotes or remove them".toList

theorem advice_missingOperator (found : Token) :
    (missingOperator found).advice = "Join terms with AND or OR, or quote them as one phrase".toList := rfl

end Mistake

/-- The words in a message that call for the hint on a missing closing parenthesis. -/
def closingWords : Text := "closing parenthesis".toList

/-- The words in a message that call for the hint on an extra closing parenthesis. -/
def strayWords : Text := "unexpected ')'".toList

namespace Mistake

/-- The mistake that the message on a mistake seems to be about.  A phrase that is named there can have the words of
another message in it. -/
def apparent : Mistake → Mistake
  | missingOperator (.phrase text) =>
    if Text.hasPart closingWords text then unclosedParen
    else if Text.hasPart strayWords text then strayClose
    else missingOperator (.phrase text)
  | mistake => mistake

theorem apparent_phrase (text : Text) : (missingOperator (.phrase text)).apparent =
    if Text.hasPart closingWords text then unclosedParen
    else if Text.hasPart strayWords text then strayClose
    else missingOperator (.phrase text) := rfl

end Mistake

/-- The mistake that a fault in the order of tokens comes from. -/
def SyntaxFault.Cause.mistake? : SyntaxFault.Cause → Option Mistake
  | missingAtEnd _ => some .missingOperand
  | missingBeforeClose _ => some .missingOperand
  | nothingToRead => some .missingOperand
  | strayClose => some .strayClose
  | emptyPhrase => some .emptyPhrase
  | missingOperator found => some (.missingOperator found)
  | unclosedParen => some .unclosedParen
  | outOfFuel => none

/-- The mistake that a query is refused for, by the check that refuses it. -/
def mistake? (raw : Text) : Option Mistake :=
  if raw.isBlank then some .noQuery
  else match Lexer.tokens raw with
    | .error _ => some .unclosedQuote
    | .ok ts => match formula ts with
      | .error fault => fault.cause.mistake?
      | .ok _ => none

/-! ### Faults and mistakes -/

namespace Parser

/-- A fault comes from a mistake, and the token in front of which an operator is missing is one of the query. -/
theorem exists_mistake_of_formula {ts : List Located} {fault : SyntaxFault} (h : formula ts = .error fault) :
    ∃ mistake, fault.cause.mistake? = some mistake ∧
      ∀ found, mistake = .missingOperator found → found ∈ ts.map Located.token := by
  obtain ⟨before, rest, rfl, hRefuses⟩ := formula_eq_error_iff.1 h
  have hAgrees := hRefuses.agrees
  cases hCause : fault.cause with
  | missingOperator found =>
    rw [hCause] at hAgrees
    refine ⟨_, rfl, ?_⟩
    rintro _ ⟨⟩
    obtain ⟨t, ht, rfl⟩ := Option.map_eq_some_iff.1 hAgrees
    exact List.mem_map_of_mem (List.mem_append_right before (List.mem_of_mem_head? ht))
  | outOfFuel =>
    rw [hCause] at hAgrees
    exact hAgrees.elim
  | _ => exact ⟨_, rfl, nofun⟩

end Parser

/-! ### Words in messages -/

namespace Text

private theorem prefix_around {part a b : Text} {w : Char} (hw : w ∉ part) (h : part <+: a ++ w :: b) :
    part <+: a := by
  have hFront : a ++ [w] <+: a ++ w :: b := (List.prefix_append_right_inj a).2 (by simp)
  have hMem : w ∈ a ++ [w] := List.mem_append_right a (List.mem_singleton_self w)
  rcases List.prefix_or_prefix_of_prefix h hFront with hPart | hPart
  · rcases List.prefix_concat_iff.1 hPart with rfl | hPart
    · exact absurd hMem hw
    · exact hPart
  · exact absurd (hPart.subset hMem) hw

/-- A part without a character that a text has stands in front of it or behind it. -/
theorem infix_around_iff {part a b : Text} {w : Char} (hw : w ∉ part) :
    part <:+: a ++ w :: b ↔ part <:+: a ∨ part <:+: b := by
  induction a with
  | nil =>
    rw [List.nil_append, List.infix_cons_iff]
    refine or_congr_left ⟨fun h => (prefix_around (a := []) hw h).isInfix, fun h => ?_⟩
    rw [List.infix_nil.1 h]
    exact List.nil_prefix
  | cons c a ih =>
    rw [List.cons_append, List.infix_cons_iff, ih, List.infix_cons_iff, or_assoc]
    exact or_congr_left
      ⟨fun h => prefix_around (a := c :: a) hw h, fun h => h.trans (List.prefix_append (c :: a) _)⟩

end Text

private theorem hint_syntactic (message : Text) (position : Option Nat) (query : Text) :
    QueryError.hint ⟨.syntactic message position, query⟩ =
      (QueryError.syntaxHints.find? fun (words, _) => Text.hasPart words message).map (·.2) := rfl

private theorem hint_cons (message words hint : Text) (more : List (Text × Text)) :
    (((words, hint) :: more).find? fun (words, _) => Text.hasPart words message).map (·.2) =
      if Text.hasPart words message then some hint
      else (more.find? fun (words, _) => Text.hasPart words message).map (·.2) := by
  by_cases h : Text.hasPart words message = true
  · simp [h]
  · simp [h]

/-- The message on a missing operator calls for its own hint, unless it has the words for an earlier one. -/
private theorem hint_missingOperator (raw : Text) (found : Token) (rest : List Located) :
    (QueryError.ofSyntaxFault raw ⟨.missingOperator found, rest⟩).hint =
      if Text.hasPart closingWords (SyntaxFault.Cause.missingOperator found).message then
        some Mistake.unclosedParen.advice
      else if Text.hasPart strayWords (SyntaxFault.Cause.missingOperator found).message then
        some Mistake.strayClose.advice
      else some (Mistake.missingOperator found).advice := by
  have hOwn : Text.hasPart "expected AND or OR".toList (SyntaxFault.Cause.missingOperator found).message = true :=
    Text.hasPart_eq_true_iff.2 ⟨[], ", found ".toList ++ found.describe, rfl⟩
  rw [QueryError.ofSyntaxFault, hint_syntactic, QueryError.syntaxHints, hint_cons, hint_cons, hint_cons, if_pos hOwn]
  rfl

/-- A word of the query has no space, so it adds nothing that calls for another hint. -/
private theorem hasPart_message_word {w : Text} (hw : Lexer.IsWord w) :
    Text.hasPart closingWords (SyntaxFault.Cause.missingOperator (.word w)).message = false ∧
      Text.hasPart strayWords (SyntaxFault.Cause.missingOperator (.word w)).message = false := by
  have hMessage : (SyntaxFault.Cause.missingOperator (.word w)).message =
      "expected AND or OR, found ".toList ++ '\'' :: (w ++ '\'' :: []) := rfl
  constructor
  · rw [Bool.eq_false_iff, ne_eq, Text.hasPart_eq_true_iff, hMessage, Text.infix_around_iff (by decide),
      Text.infix_around_iff (by decide)]
    rintro (h | h | h)
    · exact absurd (Text.hasPart_eq_true_iff.2 h) (by decide)
    · have hSpace := hw.2 ' ' (h.subset (by decide))
      cases hSpace
    · exact absurd (Text.hasPart_eq_true_iff.2 h) (by decide)
  · rw [Bool.eq_false_iff, ne_eq, Text.hasPart_eq_true_iff, hMessage]
    intro h
    have hParen : ')' ∈ "expected AND or OR, found ".toList ++ '\'' :: (w ++ '\'' :: []) := h.subset (by decide)
    have hWord : ')' ∈ w := by simpa using hParen
    cases hw.2 ')' hWord

/-- A phrase may have any words but quotation marks. -/
private theorem hasPart_message_phrase {words : Text} (hQuote : '"' ∉ words)
    (hFront : Text.hasPart words ("expected AND or OR, found ".toList ++ "phrase ".toList) = false) (text : Text) :
    Text.hasPart words (SyntaxFault.Cause.missingOperator (.phrase text)).message = Text.hasPart words text := by
  have hPhrase : (Token.phrase text).describe = "phrase ".toList ++ '"' :: (text ++ '"' :: []) := rfl
  have hMessage : (SyntaxFault.Cause.missingOperator (.phrase text)).message =
      "expected AND or OR, found ".toList ++ (Token.phrase text).describe := rfl
  have hNil : words ≠ [] := by
    rintro rfl
    cases hFront
  rw [Bool.eq_iff_iff, Text.hasPart_eq_true_iff, Text.hasPart_eq_true_iff, hMessage, hPhrase, ← List.append_assoc,
    Text.infix_around_iff hQuote, Text.infix_around_iff hQuote, ← Text.hasPart_eq_true_iff, hFront, List.infix_nil]
  simp [hNil]

/-- The hint on a mistake in the order of tokens is that of the mistake which the message seems to be about. -/
theorem hint_ofSyntaxFault {raw : Text} {fault : SyntaxFault} {mistake : Mistake}
    (hMistake : fault.cause.mistake? = some mistake)
    (hWord : ∀ w, mistake = .missingOperator (.word w) → Lexer.IsWord w) :
    (QueryError.ofSyntaxFault raw fault).hint = some mistake.apparent.advice := by
  obtain ⟨cause, rest⟩ := fault
  cases cause with
  | missingAtEnd after | missingBeforeClose after =>
    obtain rfl := Option.some.inj hMistake
    cases after with
    | keyword k => cases k <;> rfl
    | paren => rfl
  | nothingToRead | strayClose | emptyPhrase | unclosedParen =>
    obtain rfl := Option.some.inj hMistake
    rfl
  | missingOperator found =>
    obtain rfl := Option.some.inj hMistake
    rw [hint_missingOperator]
    cases found with
    | word w =>
      obtain ⟨hClosing, hStray⟩ := hasPart_message_word (hWord w rfl)
      rw [hClosing, hStray]
      rfl
    | phrase text =>
      rw [hasPart_message_phrase (by decide) (by decide), hasPart_message_phrase (by decide) (by decide),
        Mistake.apparent_phrase]
      split
      · rfl
      · split <;> rfl
    | openParen | closeParen => rfl
  | outOfFuel => cases hMistake

/-- A query whose tokens are refused is refused for that fault. -/
theorem parse_eq_of_fault {raw : Text} {ts : List Located} {fault : SyntaxFault} (hBlank : raw.isBlank = false)
    (hTokens : Lexer.tokens raw = .ok ts) (hFormula : formula ts = .error fault) :
    parse raw = .error (.ofSyntaxFault raw fault) ∧ mistake? raw = fault.cause.mistake? := by
  unfold parse mistake?
  simp only [hBlank, hTokens, hFormula, Bool.false_eq_true, if_false]
  exact ⟨rfl, trivial⟩

/-- A refused query is refused for a mistake, and has the hint of the mistake that its message seems to be about. -/
theorem exists_mistake_of_parse {raw : Text} {err : QueryError} (h : parse raw = .error err) :
    ∃ mistake, mistake? raw = some mistake ∧ err.hint = some mistake.apparent.advice := by
  rcases parse_cases raw with ⟨hBlank, hParse⟩ | ⟨hBlank, quote, hTokens, hParse⟩ | ⟨hBlank, ts, hTokens, -⟩
  · obtain rfl := Except.error.inj (hParse.symm.trans h)
    exact ⟨.noQuery, by rw [mistake?, if_pos hBlank], rfl⟩
  · obtain rfl := Except.error.inj (hParse.symm.trans h)
    exact ⟨.unclosedQuote, by simp only [mistake?, hBlank, hTokens, Bool.false_eq_true, if_false], rfl⟩
  · obtain ⟨fault, hFormula, rfl⟩ := exists_fault_of_parse hBlank hTokens h
    obtain ⟨mistake, hMistake, hFound⟩ := exists_mistake_of_formula hFormula
    have hStand := (Lexer.tokens_eq_ok_iff.1 hTokens).canStand
    exact ⟨mistake, (parse_eq_of_fault hBlank hTokens hFormula).2.trans hMistake,
      hint_ofSyntaxFault hMistake fun w hw => hStand (.word w) (hFound _ hw)⟩

private theorem advice_apparent_iff {mistake : Mistake} :
    mistake.apparent.advice = mistake.advice ↔ ∀ text, mistake = .missingOperator (.phrase text) →
      ¬ closingWords <:+: text ∧ ¬ strayWords <:+: text := by
  cases mistake with
  | missingOperator found =>
    cases found with
    | phrase text =>
      have hOnly : (∀ u, Mistake.missingOperator (.phrase text) = .missingOperator (.phrase u) →
          ¬ closingWords <:+: u ∧ ¬ strayWords <:+: u) ↔ ¬ closingWords <:+: text ∧ ¬ strayWords <:+: text := by
        simp
      rw [hOnly, Mistake.apparent_phrase, ← Text.hasPart_eq_true_iff, ← Text.hasPart_eq_true_iff]
      split
      · next hClosing => exact iff_of_false (by rw [Mistake.advice_missingOperator]; decide) fun h => h.1 hClosing
      · next hClosing =>
        split
        · next hStray => exact iff_of_false (by rw [Mistake.advice_missingOperator]; decide) fun h => h.2 hStray
        · next hStray => exact iff_of_true rfl ⟨hClosing, hStray⟩
    | _ => exact iff_of_true rfl nofun
  | _ => exact iff_of_true rfl nofun

/-- Every refused query has a hint.  It fits the mistake unless an operator is missing in front of a phrase that has the
words for an earlier hint in it; then it is that hint. -/
theorem hint_fits_unless_phrase_misleads {raw : Text} {err : QueryError} (h : parse raw = .error err) :
    ∃ mistake, mistake? raw = some mistake ∧ err.hint = some mistake.apparent.advice ∧
      (err.hint = some mistake.advice ↔ ∀ text, mistake = .missingOperator (.phrase text) →
        ¬ closingWords <:+: text ∧ ¬ strayWords <:+: text) := by
  obtain ⟨mistake, hMistake, hHint⟩ := exists_mistake_of_parse h
  refine ⟨mistake, hMistake, hHint, ?_⟩
  rw [hHint, Option.some_inj]
  exact advice_apparent_iff

/-- Words that only come near to those of another message do not matter. -/
theorem hint_fits_before_harmless_phrase :
    ∃ err, parse "(göod \"closing )\" x".toList = .error err ∧
      mistake? "(göod \"closing )\" x".toList = some (.missingOperator (.phrase "closing )".toList)) ∧
      err.hint = some (Mistake.missingOperator (.phrase "closing )".toList)).advice := by
  have hTokens : Lexer.tokens "(göod \"closing )\" x".toList = .ok [⟨.openParen, 0⟩, ⟨.word "göod".toList, 1⟩,
      ⟨.phrase "closing )".toList, 7⟩, ⟨.word ['x'], 19⟩] := rfl
  have hFormula : formula [⟨.openParen, 0⟩, ⟨.word "göod".toList, 1⟩, ⟨.phrase "closing )".toList, 7⟩,
      ⟨.word ['x'], 19⟩] = .error ⟨.missingOperator (.phrase "closing )".toList),
        [⟨.phrase "closing )".toList, 7⟩, ⟨.word ['x'], 19⟩]⟩ := rfl
  obtain ⟨hParse, hMistake⟩ := parse_eq_of_fault rfl hTokens hFormula
  obtain ⟨mistake, hSame, -, hFits⟩ := hint_fits_unless_phrase_misleads hParse
  obtain rfl := Option.some.inj (hMistake.symm.trans hSame)
  refine ⟨_, hParse, hMistake, hFits.2 ?_⟩
  rintro _ ⟨⟩
  rw [← Text.hasPart_eq_true_iff, ← Text.hasPart_eq_true_iff]
  decide

/-- A phrase can ask for a parenthesis where none is missing. -/
theorem hint_misled_by_phrase :
    ∃ err, parse "a \"closing parenthesis\"".toList = .error err ∧
      mistake? "a \"closing parenthesis\"".toList =
        some (.missingOperator (.phrase "closing parenthesis".toList)) ∧
      err.hint = some Mistake.unclosedParen.advice ∧
      err.hint ≠ some (Mistake.missingOperator (.phrase "closing parenthesis".toList)).advice := by
  have hTokens : Lexer.tokens "a \"closing parenthesis\"".toList =
      .ok [⟨.word ['a'], 0⟩, ⟨.phrase "closing parenthesis".toList, 2⟩] := rfl
  have hFormula : formula [⟨.word ['a'], 0⟩, ⟨.phrase "closing parenthesis".toList, 2⟩] =
      .error ⟨.missingOperator (.phrase "closing parenthesis".toList),
        [⟨.phrase "closing parenthesis".toList, 2⟩]⟩ := rfl
  obtain ⟨hParse, hMistake⟩ := parse_eq_of_fault rfl hTokens hFormula
  exact ⟨_, hParse, hMistake, by decide, by decide⟩

end TextQuery
