import TextQuery.Query.Leaf
import TextQuery.Query.Token

/-!
# The grammar of queries

`Derives part next ts e` says that the tokens `ts`, standing in front of the token `next`, are a part of a query that
is read as `e`.  The token behind a part matters for runs of words alone: a run is as long as it can be, so it ends
where the next token would not go on with it (`Derives.in_front_of`).

A part is never empty and never begins with a closing parenthesis (`Derives.exists_head`).
-/

namespace TextQuery

/-- No word is spelled like two keywords. -/
theorem Token.spells_unique {k l : Keyword} {t : Token} (hk : t.spells k = true) (hl : t.spells l = true) : k = l := by
  cases t with
  | word text =>
    simp only [Token.spells, Keyword.spells, Text.sameIgnoringAsciiCase, beq_iff_eq] at hk hl
    have h : k.spelling.map Char.toLower = l.spelling.map Char.toLower := hk.trans hl.symm
    revert h
    cases k <;> cases l <;> decide
  | phrase text => cases hk
  | openParen => cases hk
  | closeParen => cases hk

namespace Grammar

/-- The parts of a query, from the weakest operator to the strongest. -/
inductive Part where
  | disjunction
  | conjunction
  | negation
  | operand
  deriving DecidableEq, Repr

/-- The place of a part in this order. -/
def Part.strength : Part → Nat
  | disjunction => 0
  | conjunction => 1
  | negation => 2
  | operand => 3

/-- Whether a run of words goes on with the next token: with any word that is no operator behind an operand. -/
def continuesRun : Option Token → Bool
  | some (.word text) => !Keyword.and.spells text && !Keyword.or.spells text
  | _ => false

/-- Whether the next token is a word that is spelled like a keyword. -/
def nextSpells (k : Keyword) (next : Option Token) : Bool := next.any (·.spells k)

/-- The parts of a query, with the formulas they are read as. -/
inductive Derives : Part → Option Token → List Token → Expr → Prop where
  | conjunction {next : Option Token} {ts : List Token} {e : Expr} (h : Derives .conjunction next ts e) :
      Derives .disjunction next ts e
  /-- A chain of conjunctions grows at its right end. -/
  | or {next : Option Token} {ts us : List Token} {t : Token} {e f : Expr}
      (left : Derives .disjunction (some t) ts e) (ht : t.spells .or = true)
      (right : Derives .conjunction next us f) : Derives .disjunction next (ts ++ t :: us) (.or e f)
  | negation {next : Option Token} {ts : List Token} {e : Expr} (h : Derives .negation next ts e) :
      Derives .conjunction next ts e
  /-- A chain of negations grows at its right end. -/
  | and {next : Option Token} {ts us : List Token} {t : Token} {e f : Expr}
      (left : Derives .conjunction (some t) ts e) (ht : t.spells .and = true)
      (right : Derives .negation next us f) : Derives .conjunction next (ts ++ t :: us) (.and e f)
  | not {next : Option Token} {ts : List Token} {t : Token} {e : Expr} (ht : t.spells .not = true)
      (h : Derives .negation next ts e) : Derives .negation next (t :: ts) (.not e)
  /-- An operand that begins with `NOT` would be a negation. -/
  | operand {next : Option Token} {ts : List Token} {e : Expr} (h : Derives .operand next ts e)
      (hNot : nextSpells .not ts.head? = false) : Derives .negation next ts e
  | group {next : Option Token} {ts : List Token} {e : Expr} (h : Derives .disjunction (some .closeParen) ts e) :
      Derives .operand next (.openParen :: (ts ++ [.closeParen])) e
  | phrase {next : Option Token} {text : Text} (hBlank : text.isBlank = false) :
      Derives .operand next [.phrase text] (.leaf (.phrase text))
  /-- A run of words ends only where it cannot go on.  Its first word may be any word; spaces join them. -/
  | run {next : Option Token} {word : Text} {more : List Text}
      (hMore : ∀ w ∈ more, Keyword.and.spells w = false ∧ Keyword.or.spells w = false)
      (hNext : continuesRun next = false) :
      Derives .operand next (.word word :: more.map .word) (.leaf (.words (List.intercalate [' '] (word :: more))))

/-- Whether the tokens, all of them, are a query that is read as `e`. -/
def Yields (ts : List Token) (e : Expr) : Prop := Derives .disjunction none ts e

/-- A single word is an operand where no run goes on. -/
theorem Derives.word {next : Option Token} (w : Text) (hNext : continuesRun next = false) :
    Derives .operand next [.word w] (.leaf (.words w)) := by
  have hRun : Derives .operand next [.word w] (.leaf (.words (List.intercalate [' '] [w]))) :=
    @Derives.run next w [] (List.forall_mem_nil _) hNext
  simpa [List.intercalate] using hRun

/-! ### The token behind a part -/

theorem continuesRun_of_spells {k : Keyword} {t : Token} (ht : t.spells k = true) (hk : k ≠ .not) :
    continuesRun (some t) = false := by
  cases t with
  | word text => cases k <;> simp_all [Token.spells, continuesRun]
  | phrase text => rfl
  | openParen => rfl
  | closeParen => rfl

/-- A part stays a part in front of any token that no run of words goes on with. -/
theorem Derives.in_front_of {part : Part} {next next' : Option Token} {ts : List Token} {e : Expr}
    (h : Derives part next ts e) (hNext : continuesRun next' = false) : Derives part next' ts e := by
  induction h with
  | conjunction _ ih => exact .conjunction ih
  | or left ht _ _ ih => exact .or left ht ih
  | negation _ ih => exact .negation ih
  | and left ht _ _ ih => exact .and left ht ih
  | not ht _ ih => exact .not ht ih
  | operand _ hNot ih => exact .operand ih hNot
  | group h => exact .group h
  | phrase hBlank => exact .phrase hBlank
  | run hMore _ => exact .run hMore hNext

/-! ### Stronger and weaker parts -/

/-- What is a strong part is a weak one too, but for operands that would be read as a negation. -/
theorem Derives.weaker {part part' : Part} {next : Option Token} {ts : List Token} {e : Expr}
    (h : Derives part next ts e) (hNot : part = .operand → nextSpells .not ts.head? = false)
    (hLe : part'.strength ≤ part.strength) : Derives part' next ts e := by
  have hNegation (hStrong : Part.negation.strength ≤ part.strength) : Derives .negation next ts e := by
    cases part with
    | negation => exact h
    | operand => exact .operand h (hNot rfl)
    | _ => exact absurd hStrong (by decide)
  have hConjunction (hStrong : Part.conjunction.strength ≤ part.strength) : Derives .conjunction next ts e := by
    cases part with
    | disjunction => exact absurd hStrong (by decide)
    | conjunction => exact h
    | _ => exact .negation (hNegation (by decide))
  cases part' with
  | disjunction =>
    cases part with
    | disjunction => exact h
    | _ => exact .conjunction (hConjunction (by decide))
  | conjunction => exact hConjunction hLe
  | negation => exact hNegation hLe
  | operand =>
    cases part with
    | operand => exact h
    | _ => exact absurd hLe (by decide)

/-! ### The first token of a part -/

/-- A part has a first token, which is no closing parenthesis. -/
theorem Derives.exists_head {part : Part} {next : Option Token} {ts : List Token} {e : Expr}
    (h : Derives part next ts e) : ∃ t, ts.head? = some t ∧ t ≠ .closeParen := by
  induction h with
  | conjunction _ ih => exact ih
  | or _ _ _ ih =>
    obtain ⟨t, ht, hClose⟩ := ih
    exact ⟨t, by rw [List.head?_append, ht, Option.some_or], hClose⟩
  | negation _ ih => exact ih
  | and _ _ _ ih =>
    obtain ⟨t, ht, hClose⟩ := ih
    exact ⟨t, by rw [List.head?_append, ht, Option.some_or], hClose⟩
  | @not _ _ t _ ht =>
    refine ⟨t, rfl, ?_⟩
    rintro rfl
    cases ht
  | operand _ _ ih => exact ih
  | group => exact ⟨.openParen, rfl, by decide⟩
  | @phrase _ text => exact ⟨.phrase text, rfl, by simp⟩
  | @run _ word => exact ⟨.word word, rfl, by simp⟩

theorem Derives.ne_nil {part : Part} {next : Option Token} {ts : List Token} {e : Expr}
    (h : Derives part next ts e) : ts ≠ [] := by
  rintro rfl
  obtain ⟨t, ht, -⟩ := h.exists_head
  cases ht

end Grammar

end TextQuery
