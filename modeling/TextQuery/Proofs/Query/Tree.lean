import TextQuery.Command.Style
import TextQuery.Proofs.Text.Quoted
import TextQuery.Query.Leaf

/-!
# Trees can be read back

A query that is shown as a tree has one line for every node, and no other query is shown in the same way
(`tree_unambiguous`).  The lines of a tree are nodes in preorder, and the name of a node tells how many nodes are below
it, so the lines of one tree can be told from those that follow (`prefixFree_treeLines`).  The pieces of a query are
quoted, and so can imitate neither the end of a line nor another node.
-/

namespace TextQuery

/-- The number of nodes. -/
def Formula.size {α : Type} : Formula α → Nat
  | leaf _ => 1
  | not f => 1 + f.size
  | and f g => 1 + (f.size + g.size)
  | or f g => 1 + (f.size + g.size)

/-! ### The names of nodes -/

namespace Leaf

theorem label_inj {a b : Leaf} (h : a.label = b.label) : a = b := by
  cases a with
  | words t =>
    cases b with
    | words u =>
      have hQuoted := List.append_cancel_left (List.append_cancel_right h)
      rw [Text.quoted_inj hQuoted]
    | phrase u => cases h
  | phrase t =>
    cases b with
    | words u => cases h
    | phrase u =>
      have hQuoted := List.append_cancel_left (List.append_cancel_right h)
      rw [Text.quoted_inj hQuoted]

theorem lineEnd_not_mem_label (a : Leaf) : '\n' ∉ a.label ∧ '\r' ∉ a.label := by
  have hFrame : ∀ name ∈ ["Term(".toList, "Phrase(".toList], ∀ t : Text, '\n' ∉ t ∧ '\r' ∉ t →
      '\n' ∉ name ++ t ++ [')'] ∧ '\r' ∉ name ++ t ++ [')'] := by
    intro name hName t ht
    have hNames : ∀ name ∈ ["Term(".toList, "Phrase(".toList], '\n' ∉ name ∧ '\r' ∉ name := by decide
    obtain ⟨hFeed, hReturn⟩ := hNames name hName
    simp [hFeed, hReturn, ht.1, ht.2]
  cases a with
  | words t => exact hFrame _ (by simp) _ (Text.lineEnd_not_mem_quoted t)
  | phrase t => exact hFrame _ (by simp) _ (Text.lineEnd_not_mem_quoted t)

end Leaf

namespace Expr

/-! ### The lines of a tree -/

theorem length_treeLines (level : Nat) (e : Expr) : (treeLines level e).length = e.size := by
  induction e generalizing level with
  | leaf a => rfl
  | not f ih => simp [treeLines, Formula.size, ih, Nat.add_comm]
  | and f g ihf ihg => simp [treeLines, Formula.size, ihf, ihg, Nat.add_comm]
  | or f g ihf ihg => simp [treeLines, Formula.size, ihf, ihg, Nat.add_comm]

/-- The name of the topmost node. -/
def nodeName : Expr → Text
  | .leaf a => a.label
  | .not _ => "Not".toList
  | .and _ _ => "And".toList
  | .or _ _ => "Or".toList

/-- Queries with the same piece, or the same operator, at the top. -/
inductive SameTop : Expr → Expr → Prop where
  | leaf (a : Leaf) : SameTop (.leaf a) (.leaf a)
  | not (e f : Expr) : SameTop (.not e) (.not f)
  | and (e f e' f' : Expr) : SameTop (.and e f) (.and e' f')
  | or (e f e' f' : Expr) : SameTop (.or e f) (.or e' f')

/-- No piece of a query has the name of an operator. -/
theorem sameTop_of_nodeName {e f : Expr} (h : nodeName e = nodeName f) : SameTop e f := by
  cases e with
  | leaf a =>
    cases f with
    | leaf b => exact Leaf.label_inj h ▸ .leaf a
    | _ => cases a <;> cases h
  | not e =>
    cases f with
    | leaf b => cases b <;> cases h
    | not f => exact .not e f
    | _ => cases h
  | and e e' =>
    cases f with
    | leaf b => cases b <;> cases h
    | and f f' => exact .and e e' f f'
    | _ => cases h
  | or e e' =>
    cases f with
    | leaf b => cases b <;> cases h
    | or f f' => exact .or e e' f f'
    | _ => cases h

theorem exists_treeLines_cons (level : Nat) (e : Expr) :
    ∃ below, treeLines level e = (List.replicate (2 * level) ' ' ++ nodeName e) :: below := by
  cases e <;> exact ⟨_, rfl⟩

theorem treeLines_ne_nil (level : Nat) (e : Expr) : treeLines level e ≠ [] := by
  obtain ⟨below, h⟩ := exists_treeLines_cons level e
  rw [h]
  exact List.cons_ne_nil _ _

/-- Where the same lines begin, the same node is at the top. -/
theorem sameTop_of_treeLines {level : Nat} {e f : Expr} {s t : List Text}
    (h : treeLines level e ++ s = treeLines level f ++ t) : SameTop e f := by
  obtain ⟨below, he⟩ := exists_treeLines_cons level e
  obtain ⟨below', hf⟩ := exists_treeLines_cons level f
  rw [he, hf] at h
  exact sameTop_of_nodeName (List.append_cancel_left (List.cons.inj h).1)

/-- Two trees one behind the other can be told from the lines behind them, when each of them can. -/
private theorem eq_of_two_trees {level : Nat} {e e' f f' : Expr} {s t : List Text}
    (he : ∀ f s t, treeLines level e ++ s = treeLines level f ++ t → e = f ∧ s = t)
    (he' : ∀ f s t, treeLines level e' ++ s = treeLines level f ++ t → e' = f ∧ s = t)
    (h : treeLines level e ++ treeLines level e' ++ s = treeLines level f ++ treeLines level f' ++ t) :
    e = f ∧ e' = f' ∧ s = t := by
  rw [List.append_assoc, List.append_assoc] at h
  obtain ⟨rfl, hRight⟩ := he _ _ _ h
  exact ⟨rfl, he' _ _ _ hRight⟩

/-- The lines of a tree can be told from the lines behind them. -/
theorem prefixFree_treeLines (level : Nat) : Text.PrefixFree (treeLines level) := by
  intro e
  induction e generalizing level with
  | leaf a =>
    intro f s t h
    cases sameTop_of_treeLines h with
    | leaf => exact ⟨rfl, (List.cons.inj h).2⟩
  | not e ih =>
    intro f s t h
    cases sameTop_of_treeLines h with
    | not _ f =>
      obtain ⟨rfl, hRest⟩ := ih (level + 1) f s t (List.cons.inj h).2
      exact ⟨rfl, hRest⟩
  | and e e' ih ih' =>
    intro f s t h
    cases sameTop_of_treeLines h with
    | and _ _ f f' =>
      obtain ⟨rfl, rfl, hRest⟩ := eq_of_two_trees (ih (level + 1)) (ih' (level + 1)) (List.cons.inj h).2
      exact ⟨rfl, hRest⟩
  | or e e' ih ih' =>
    intro f s t h
    cases sameTop_of_treeLines h with
    | or _ _ f f' =>
      obtain ⟨rfl, rfl, hRest⟩ := eq_of_two_trees (ih (level + 1)) (ih' (level + 1)) (List.cons.inj h).2
      exact ⟨rfl, hRest⟩

theorem treeLines_inj {level : Nat} {e f : Expr} (h : treeLines level e = treeLines level f) : e = f :=
  (prefixFree_treeLines level e f [] [] (by rw [List.append_nil, List.append_nil, h])).1

/-- No line of a tree is broken. -/
theorem lineEnd_not_mem_treeLines (level : Nat) (e : Expr) :
    ∀ line ∈ treeLines level e, '\n' ∉ line ∧ '\r' ∉ line := by
  have hIndented (name : Text) (level : Nat) (hName : '\n' ∉ name ∧ '\r' ∉ name) :
      '\n' ∉ List.replicate (2 * level) ' ' ++ name ∧ '\r' ∉ List.replicate (2 * level) ' ' ++ name := by
    simp [hName.1, hName.2]
  induction e generalizing level with
  | leaf a => exact List.forall_mem_singleton.2 (hIndented _ level a.lineEnd_not_mem_label)
  | not e ih => exact List.forall_mem_cons.2 ⟨hIndented _ level (by decide), ih (level + 1)⟩
  | and e f ihe ihf =>
    exact List.forall_mem_cons.2
      ⟨hIndented _ level (by decide), List.forall_mem_append.2 ⟨ihe (level + 1), ihf (level + 1)⟩⟩
  | or e f ihe ihf =>
    exact List.forall_mem_cons.2
      ⟨hIndented _ level (by decide), List.forall_mem_append.2 ⟨ihe (level + 1), ihf (level + 1)⟩⟩

/-! ### Trees as texts -/

theorem lines_tree (e : Expr) : Text.lines e.tree = e.treeLines 0 :=
  Text.lines_ended (fun line hLine => (lineEnd_not_mem_treeLines 0 e line hLine).1)
    fun line hLine => (lineEnd_not_mem_treeLines 0 e line hLine).2

theorem count_feed_tree (e : Expr) : e.tree.count '\n' = e.size := by
  have hLines : ∀ lines : List Text, (∀ line ∈ lines, '\n' ∉ line) →
      (lines.flatMap (· ++ ['\n'])).count '\n' = lines.length := by
    intro lines
    induction lines with
    | nil => intro _; rfl
    | cons line lines ih =>
      intro h
      rw [List.forall_mem_cons] at h
      simp [ih h.2, List.count_eq_zero_of_not_mem h.1]
  rw [tree, hLines _ fun line hLine => (lineEnd_not_mem_treeLines 0 e line hLine).1, length_treeLines]

end Expr

/-- A query can be told from its tree, and from the tree behind a margin.  The tree has one line for every node. -/
theorem tree_unambiguous :
    (∀ e f : Expr, e.tree = f.tree ↔ e = f) ∧
      (∀ e : Expr, (Text.lines e.tree).length = e.size ∧ e.tree.count '\n' = e.size) ∧
      ∀ e f : Expr, Style.block e.tree = Style.block f.tree ↔ e = f := by
  have hLines (e f : Expr) (h : Text.lines e.tree = Text.lines f.tree) : e = f := by
    rw [Expr.lines_tree, Expr.lines_tree] at h
    exact Expr.treeLines_inj h
  have hSome (e : Expr) : Text.lines e.tree ≠ [] := by
    rw [Expr.lines_tree]
    exact Expr.treeLines_ne_nil 0 e
  refine ⟨fun e f => ⟨fun h => hLines e f (congrArg Text.lines h), congrArg Expr.tree⟩,
    fun e => ⟨?_, Expr.count_feed_tree e⟩, fun e f => ⟨fun h => ?_, fun h => h ▸ rfl⟩⟩
  · rw [Expr.lines_tree, Expr.length_treeLines]
  · exact hLines e f (Text.indentLines_inj (by decide) (hSome e) (hSome f) h)

/-- A phrase cannot bring in a node of its own. -/
example : Expr.tree (.not (.leaf (.phrase "a\")\n  Not".toList))) = "Not\n  Phrase(\"a\\\")\\n  Not\")\n".toList := rfl

end TextQuery
