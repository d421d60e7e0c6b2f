import TextQuery.Formula.Basic
import TextQuery.Text.Quoted

/-!
# Pieces of a query

The leaves of a query are words and phrases.  A query is printed in two ways: canonically, as a query that reads back
as the same formula, and as a tree with one node a line.
-/

namespace TextQuery

/-- A piece of a query: a run of words, joined by single spaces, or a phrase. -/
inductive Leaf where
  | words (text : Text)
  | phrase (text : Text)
  deriving DecidableEq, Repr

/-- The formula that a query is read as. -/
abbrev Expr := Formula Leaf

namespace Leaf

/-- The text to look for. -/
def text : Leaf → Text
  | words t => t
  | phrase t => t

/-- A piece as it stands in a query. -/
def canonical : Leaf → Text
  | words t => t
  | phrase t => '"' :: (t ++ ['"'])

/-- A piece as it stands in a tree. -/
def label : Leaf → Text
  | words t => "Term(".toList ++ t.quoted ++ [')']
  | phrase t => "Phrase(".toList ++ t.quoted ++ [')']

end Leaf

namespace Expr

/-- A query with every operator in parentheses and in capitals. -/
def canonical : Expr → Text
  | .leaf a => a.canonical
  | .not f => "(NOT ".toList ++ (canonical f ++ [')'])
  | .and f g => '(' :: (canonical f ++ (" AND ".toList ++ (canonical g ++ [')'])))
  | .or f g => '(' :: (canonical f ++ (" OR ".toList ++ (canonical g ++ [')'])))

/-- The nodes of a query in preorder, one a line, each two columns to the right of the node above it. -/
def treeLines (level : Nat) : Expr → List Text
  | .leaf a => [List.replicate (2 * level) ' ' ++ a.label]
  | .not f => (List.replicate (2 * level) ' ' ++ "Not".toList) :: treeLines (level + 1) f
  | .and f g =>
    (List.replicate (2 * level) ' ' ++ "And".toList) :: (treeLines (level + 1) f ++ treeLines (level + 1) g)
  | .or f g =>
    (List.replicate (2 * level) ' ' ++ "Or".toList) :: (treeLines (level + 1) f ++ treeLines (level + 1) g)

/-- A query as a tree, every line ended by a line feed. -/
def tree (e : Expr) : Text := (e.treeLines 0).flatMap (· ++ ['\n'])

end Expr

end TextQuery
