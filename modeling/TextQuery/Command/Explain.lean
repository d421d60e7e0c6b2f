import TextQuery.Command.Search
import TextQuery.Text.Quoted

/-!
# Explaining queries

An explanation shows the query in canonical form and as a tree, the pattern of every term, and the options in force.
-/

namespace TextQuery.Explain

/-- A term as it stands in the query, and the pattern it is compiled to. -/
def termLine (o : Options) (t : Text) : Text :=
  "   ".toList ++ t.quoted ++ [' '] ++ Style.aside "->".toList ++ [' '] ++ (Term.ofText o t).pattern.quoted

/-- An option with its value. -/
def optionLine (name : Text) (b : Bool) : Text := "   ".toList ++ name ++ " = ".toList ++ Text.ofBool b

/-- The lines of an explanation. -/
def explanation (q : Query) : List Text :=
  [Style.title q.raw, [],
    Style.heading "Canonical:".toList, "   ".toList ++ q.expr.canonical, [],
    Style.heading "Parsed AST:".toList, Style.block q.expr.tree, [],
    Style.heading "Compiled terms:".toList] ++
  (q.expr.leaves.map fun leaf => termLine q.options leaf.text) ++
  [[], Style.heading "Options:".toList,
    optionLine "ignore_case".toList q.options.ignoreCase,
    optionLine "ignore_accents".toList q.options.ignoreAccents,
    optionLine "whole_words".toList q.options.wholeWords]

/-- Explains a query under configured options. -/
def run (query : Text) (flags : MatchFlags) (configured : Options) : Report :=
  match Query.ofText query (flags.override configured) with
  | .error e => .ofQueryError e
  | .ok q => { status := 0, output := (explanation q).flatMap Style.line }

end TextQuery.Explain
