import TextQuery.Query.Error
import TextQuery.Query.Leaf
import TextQuery.Query.Lexer

/-!
# From tokens to formulas

The grammar, from the weakest operator to the strongest:

* a disjunction is a chain of conjunctions, joined by `OR`;
* a conjunction is a chain of negations, joined by `AND`;
* a negation is `NOT` with a negation, or an operand;
* an operand is a disjunction in parentheses, a phrase that is not blank, or a run of words.

Chains are read from the left.  A word is an operator only where one can stand: `AND` and `OR` behind a complete
operand, `NOT` in front of one.  Elsewhere it is a word like any other.

The functions call each other with ever less fuel.  `parse` gives them enough for every query, so that it never runs
out.
-/

namespace TextQuery

/-- What an operand is missing behind. -/
inductive Opener where
  | keyword (k : Keyword)
  | paren
  deriving DecidableEq, Repr

/-- How a message names what comes before a missing operand. -/
def Opener.describe : Opener → Text
  | keyword k => k.spelling
  | paren => "'('".toList

/-- The mistakes in the order of tokens. -/
inductive SyntaxFault.Cause where
  /-- An operator or an opening parenthesis ends the query. -/
  | missingAtEnd (after : Opener)
  /-- An operator or an opening parenthesis is followed by a closing one. -/
  | missingBeforeClose (after : Opener)
  /-- The query is at its end where an operand begins. -/
  | nothingToRead
  /-- A closing parenthesis without an opening one. -/
  | strayClose
  /-- A phrase that is blank. -/
  | emptyPhrase
  /-- A token that does not continue a complete operand. -/
  | missingOperator (found : Token)
  /-- An opening parenthesis without a closing one. -/
  | unclosedParen
  /-- The fuel does not suffice. -/
  | outOfFuel
  deriving DecidableEq, Repr

/-- A mistake in the order of tokens, with the tokens from its place on. -/
structure SyntaxFault where
  cause : SyntaxFault.Cause
  rest : List Located
  deriving DecidableEq, Repr

namespace SyntaxFault

/-- What is wrong, in one line. -/
def Cause.message : Cause → Text
  | missingAtEnd after => "expected a term after ".toList ++ after.describe ++ ", found end of query".toList
  | missingBeforeClose after => "expected a term after ".toList ++ after.describe ++ ", found ')'".toList
  | nothingToRead => "expected a term, found end of query".toList
  | strayClose => "unexpected ')' without matching '('".toList
  | emptyPhrase => "empty phrase".toList
  | missingOperator found => "expected AND or OR, found ".toList ++ found.describe
  | unclosedParen => "expected closing parenthesis for '('".toList
  | outOfFuel => "query is too long".toList

/-- The offset of a mistake in a query of a given size: where its first token begins, or the end. -/
def position (size : Nat) (fault : SyntaxFault) : Nat :=
  match fault.rest with
  | [] => size
  | t :: _ => t.offset

end SyntaxFault

namespace Parser

/-- What reading a part of the tokens gives: a formula and the tokens behind it, or a mistake. -/
abbrev Reading := Except SyntaxFault (Expr × List Located)

/-- Refuses the end of the query and a closing parenthesis, where an operand has to begin. -/
def expectOperand (after : Opener) : List Located → Except SyntaxFault Unit
  | [] => .error ⟨.missingAtEnd after, []⟩
  | t :: rest => if t.token = .closeParen then .error ⟨.missingBeforeClose after, t :: rest⟩ else .ok ()

/-- The tokens behind a keyword, when they begin with it. -/
def afterKeyword? (k : Keyword) : List Located → Option (List Located)
  | [] => none
  | t :: rest => if t.token.spells k then some rest else none

/-- Whether a word is an operator behind a complete operand. -/
def joinsOperands (word : Text) : Bool := Keyword.and.spells word || Keyword.or.spells word

/-- The words that continue a run, and the tokens behind them. -/
def moreWords : List Located → List Text × List Located
  | [] => ([], [])
  | t :: rest =>
    match t.token with
    | .word text =>
      if joinsOperands text then ([], t :: rest)
      else
        let (words, rest') := moreWords rest
        (text :: words, rest')
    | _ => ([], t :: rest)

/-- A run of words as one leaf. -/
def joinWords (words : List Text) : Expr := .leaf (.words (List.intercalate [' '] words))

/-- What is wrong behind a complete operand inside parentheses that do not end there. -/
def unclosed (opening : List Located) : List Located → SyntaxFault
  | [] => ⟨.unclosedParen, opening⟩
  | t :: rest => ⟨.missingOperator t.token, t :: rest⟩

mutual

/-- Reads a disjunction. -/
def disjunction : Nat → List Located → Reading
  | 0, ts => .error ⟨.outOfFuel, ts⟩
  | fuel + 1, ts => do
    let (left, rest) ← conjunction fuel ts
    moreDisjuncts fuel left rest

/-- Reads on behind the left side of a disjunction. -/
def moreDisjuncts : Nat → Expr → List Located → Reading
  | 0, _, ts => .error ⟨.outOfFuel, ts⟩
  | fuel + 1, left, ts =>
    match afterKeyword? .or ts with
    | none => .ok (left, ts)
    | some rest => do
      expectOperand (.keyword .or) rest
      let (right, rest') ← conjunction fuel rest
      moreDisjuncts fuel (.or left right) rest'

/-- Reads a conjunction. -/
def conjunction : Nat → List Located → Reading
  | 0, ts => .error ⟨.outOfFuel, ts⟩
  | fuel + 1, ts => do
    let (left, rest) ← negation fuel ts
    moreConjuncts fuel left rest

/-- Reads on behind the left side of a conjunction. -/
def moreConjuncts : Nat → Expr → List Located → Reading
  | 0, _, ts => .error ⟨.outOfFuel, ts⟩
  | fuel + 1, left, ts =>
    match afterKeyword? .and ts with
    | none => .ok (left, ts)
    | some rest => do
      expectOperand (.keyword .and) rest
      let (right, rest') ← negation fuel rest
      moreConjuncts fuel (.and left right) rest'

/-- Reads a negation. -/
def negation : Nat → List Located → Reading
  | 0, ts => .error ⟨.outOfFuel, ts⟩
  | fuel + 1, ts =>
    match afterKeyword? .not ts with
    | none => operand fuel ts
    | some rest => do
      expectOperand (.keyword .not) rest
      let (inner, rest') ← negation fuel rest
      return (.not inner, rest')

/-- Reads an operand. -/
def operand : Nat → List Located → Reading
  | 0, ts => .error ⟨.outOfFuel, ts⟩
  | _ + 1, [] => .error ⟨.nothingToRead, []⟩
  | fuel + 1, t :: rest =>
    match t.token with
    | .word text =>
      let (words, rest') := moreWords rest
      .ok (joinWords (text :: words), rest')
    | .phrase text =>
      if text.isBlank then .error ⟨.emptyPhrase, t :: rest⟩ else .ok (.leaf (.phrase text), rest)
    | .openParen => group fuel (t :: rest) rest
    | .closeParen => .error ⟨.strayClose, t :: rest⟩

/-- Reads what stands between parentheses, behind the opening one.  `opening` is the query from that one on. -/
def group : Nat → List Located → List Located → Reading
  | 0, _, ts => .error ⟨.outOfFuel, ts⟩
  | fuel + 1, opening, ts => do
    expectOperand .paren ts
    let (inner, rest) ← disjunction fuel ts
    match rest with
    | ⟨.closeParen, _⟩ :: rest' => return (inner, rest')
    | _ => throw (unclosed opening rest)

end

/-- Enough fuel for so many tokens: six calls to a token at most. -/
def fuelFor (ts : List Located) : Nat := 6 * ts.length + 6

/-- Reads all tokens as one formula. -/
def formula (ts : List Located) : Except SyntaxFault Expr := do
  let (e, rest) ← disjunction (fuelFor ts) ts
  match rest with
  | [] => return e
  | t :: _ => throw ⟨if t.token = .closeParen then .strayClose else .missingOperator t.token, rest⟩

end Parser

/-- The error for a phrase without a closing quotation mark. -/
def QueryError.ofUnclosedQuote (query : Text) (quote : Lexer.UnclosedQuote) : QueryError :=
  ⟨.lexical "unclosed quote".toList quote.position, query⟩

/-- The error for a mistake in the order of tokens. -/
def QueryError.ofSyntaxFault (query : Text) (fault : SyntaxFault) : QueryError :=
  ⟨.syntactic fault.cause.message (some (fault.position query.utf8Size)), query⟩

/-- The formula that a query is read as. -/
def parse (query : Text) : Except QueryError Expr :=
  if query.isBlank then .error ⟨.empty, query⟩
  else match Lexer.tokens query with
    | .error quote => .error (.ofUnclosedQuote query quote)
    | .ok ts => (Parser.formula ts).mapError (.ofSyntaxFault query)

end TextQuery
