import TextQuery.Query.Token

/-!
# Errors in queries

A refused query is shown with a caret under the place of the mistake and, for the usual mistakes, a hint.  The hint is
chosen by what the message says.
-/

namespace TextQuery

/-- What is wrong with a query. -/
inductive QueryError.Kind where
  /-- There is nothing but white space. -/
  | empty
  /-- The query does not divide into tokens. -/
  | lexical (message : Text) (position : Nat)
  /-- The tokens do not form a query. -/
  | syntactic (message : Text) (position : Option Nat)
  deriving DecidableEq, Repr

/-- A refused query. -/
structure QueryError where
  kind : QueryError.Kind
  query : Text
  deriving DecidableEq, Repr

namespace QueryError

/-- What is wrong, in one line. -/
def message (e : QueryError) : Text :=
  match e.kind with
  | .empty => "no query provided".toList
  | .lexical message _ => message
  | .syntactic message _ => message

/-- The offset of the mistake, when it has a place. -/
def position (e : QueryError) : Option Nat :=
  match e.kind with
  | .empty => none
  | .lexical _ position => some position
  | .syntactic _ position => position

/-- The hints for messages about the form of a query, each with the words that call for it.  The first one whose words
occur in the message is given. -/
def syntaxHints : List (Text × Text) := [
  ("closing parenthesis".toList, "Add a closing parenthesis ) to match the opening one".toList),
  ("unexpected ')'".toList, "Remove the extra ) or add a matching (".toList),
  ("expected AND or OR".toList, "Join terms with AND or OR, or quote them as one phrase".toList),
  ("expected a term".toList, "Operators need an operand, e.g., 'rust AND NOT golang'".toList),
  ("empty phrase".toList, "Put some text between the quotes or remove them".toList)]

/-- How to mend the query. -/
def hint (e : QueryError) : Option Text :=
  match e.kind with
  | .empty => some "Provide at least one term, e.g., 'rust AND golang'".toList
  | .lexical message _ =>
    if Text.hasPart "unclosed quote".toList message then
      some "Add a closing quote (\") to complete the phrase".toList
    else none
  | .syntactic message _ =>
    (syntaxHints.find? fun (words, _) => Text.hasPart words message).map (·.2)

/-- The number of characters before an offset, when no character lies across it. -/
def charsBefore : Text → Nat → Option Nat
  | _, 0 => some 0
  | [], _ + 1 => none
  | c :: rest, n + 1 =>
    if c.utf8Size ≤ n + 1 then (charsBefore rest (n + 1 - c.utf8Size)).map (· + 1) else none

/-- The column of an offset.  An offset past the end stands for the end; an offset inside a character counts bytes. -/
def column (query : Text) (position : Nat) : Nat :=
  let offset := min position query.utf8Size
  (charsBefore query offset).getD offset

/-- The line with the caret. -/
def caretLine (query : Text) (position : Nat) : Text :=
  "  ".toList ++ List.replicate (column query position) ' ' ++ "^\n".toList

/-- The query with its mistake marked.  A blank query is not shown. -/
def excerpt (e : QueryError) : Text :=
  if e.query.isBlank then []
  else "  ".toList ++ e.query ++ "\n".toList ++ (e.position.map (caretLine e.query)).getD []

/-- The whole report: the message, the query, and the hint. -/
def display (e : QueryError) : Text :=
  "query syntax error: ".toList ++ e.message ++ "\n".toList ++ e.excerpt ++
    (e.hint.map ("hint: ".toList ++ ·)).getD []

end QueryError

end TextQuery
