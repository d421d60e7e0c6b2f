import TextQuery.Matching.Term
import TextQuery.Query.Parser

/-!
# Queries

A query is read once and asked of many texts.
-/

namespace TextQuery

/-- The formula of terms that a query is compiled to. -/
def Expr.compile (o : Options) (e : Expr) : Formula Term := e.map fun leaf => Term.ofText o leaf.text

/-- Whether a formula of terms holds of a prepared text. -/
def Formula.holdsIn (f : Formula Term) (t : Text) : Bool := f.holds fun term => term.isIn t

/-- A query that could be read, with the options for asking it. -/
structure Query where
  raw : Text
  options : Options
  expr : Expr
  deriving DecidableEq, Repr

namespace Query

/-- Reads a query. -/
def ofText (raw : Text) (options : Options) : Except QueryError Query := do
  return ⟨raw, options, ← parse raw⟩

/-- The terms of a query, ready for matching. -/
def compiled (q : Query) : Formula Term := q.expr.compile q.options

/-- Whether a text satisfies a query. -/
def accepts (q : Query) (t : Text) : Bool := q.compiled.holdsIn (q.options.prepare t)

/-- The texts that satisfy a query, in their order.  The query is compiled once. -/
def filter (q : Query) (texts : List Text) : List Text :=
  let terms := q.compiled
  texts.filter fun t => terms.holdsIn (q.options.prepare t)

theorem ofText_eq_ok_iff {raw : Text} {o : Options} {q : Query} :
    ofText raw o = .ok q ↔ ∃ e, parse raw = .ok e ∧ q = ⟨raw, o, e⟩ := by
  unfold ofText
  cases parse raw with
  | error err => simp [bind, Except.bind]
  | ok e => simp [bind, Except.bind, pure, Except.pure, eq_comm]

theorem ofText_of_parse {raw : Text} {e : Expr} (h : parse raw = .ok e) (o : Options) :
    ofText raw o = .ok ⟨raw, o, e⟩ :=
  ofText_eq_ok_iff.2 ⟨e, h, rfl⟩

/-- A text is looked at piece by piece. -/
theorem accepts_eq (q : Query) (t : Text) :
    q.accepts t = q.expr.holds fun leaf => (Term.ofText q.options leaf.text).isIn (q.options.prepare t) :=
  Formula.holds_map _ _ _

theorem filter_eq (q : Query) (texts : List Text) : q.filter texts = texts.filter q.accepts := rfl

end Query

end TextQuery
