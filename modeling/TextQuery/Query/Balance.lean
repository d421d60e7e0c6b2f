import TextQuery.Text.Basic

/-!
# Balance of a query

Parentheses and quotation marks are counted, without reading the query.  The counts describe what is wrong with many
queries that cannot be read.
-/

namespace TextQuery.Balance

/-- What the counts tell of a query. -/
inductive Issue where
  /-- There is nothing but white space. -/
  | noQuery
  /-- Opening and closing parentheses differ in number. -/
  | parentheses
  /-- The number of quotation marks is odd. -/
  | quotes
  deriving DecidableEq, Repr

/-- How an issue is reported. -/
def Issue.message : Issue → Text
  | noQuery => "No query provided".toList
  | parentheses => "Number of opening and closing parentheses do not match".toList
  | quotes => "Number of opening and closing quotation marks do not match".toList

/-- The issues of a query.  Parentheses come before quotation marks; a blank query has no other issue. -/
def issues (query : Text) : List Issue :=
  if query.isBlank then [.noQuery]
  else
    (if query.count '(' ≠ query.count ')' then [.parentheses] else []) ++
      if query.count '"' % 2 ≠ 0 then [.quotes] else []

/-- The outcome of counting. -/
structure Report where
  isValid : Bool
  messages : List Text
  deriving DecidableEq, Repr

/-- The report on a query.  A query without issues is valid. -/
def report (query : Text) : Report := ⟨(issues query).isEmpty, (issues query).map Issue.message⟩

end TextQuery.Balance
