import TextQuery.Command.Search
import TextQuery.Query.Balance

/-!
# Checking queries

A query is counted and read.  It passes when it is balanced and can be read.
-/

namespace TextQuery.Check

/-- The outcome of a check as JSON. -/
def listing (r : Balance.Report) (fault : Option QueryError) : Json := Json.ofFields [
  ("is_valid", .bool r.isValid),
  ("query_issues", .array (r.messages.map .string)),
  ("parse_error", Json.ofOption (fun e => .string e.message) fault)]

/-- The error that reading a query gives. -/
def fault? (query : Text) : Option QueryError :=
  match parse query with
  | .ok _ => none
  | .error e => some e

/-- Checks a query. -/
def run (query : Text) (json : Bool) : Report :=
  let r := Balance.report query
  let fault := fault? query
  let passes := r.isValid && fault.isNone
  { status := if passes then 0 else 1
    output :=
      if json then Style.line ((listing r fault).render 0)
      else
        (r.messages.flatMap fun m => Style.line (Style.alert ("issue: ".toList ++ m))) ++
          (fault.map fun e => Style.line e.display.trimEnd).getD [] ++
          if passes then Style.line (Style.goodNews "query is valid".toList) else [] }

end TextQuery.Check
