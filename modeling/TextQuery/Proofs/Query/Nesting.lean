import TextQuery.Proofs.Query.Grammar

/-!
# Nested parentheses

Parentheses are nested when no beginning of the tokens has more closing than opening ones, and there are as many of
one kind as of the other.  Parts of queries are nested (`Derives.nested`).  In nested tokens every opening parenthesis
is closed by what follows it (`Nested.isClosed`), and nested tokens close none that stands before them
(`Nested.not_isClosed`).
-/

namespace TextQuery.Grammar

/-- Whether the parentheses among the tokens belong together in pairs. -/
structure Nested (ts : List Token) : Prop where
  noSurplus : ∀ p, p <+: ts → p.count .closeParen ≤ p.count .openParen
  total : ts.count .closeParen = ts.count .openParen

/-- Whether an opening parenthesis in front of the tokens is closed by one of them: some beginning of the tokens has
more closing than opening parentheses, and the first one that has ends with the parenthesis that closes it. -/
def IsClosed (ts : List Token) : Prop := ∃ p, p <+: ts ∧ p.count .openParen < p.count .closeParen

/-! ### Pieces of nested tokens -/

theorem Nested.not_isClosed {ts : List Token} (h : Nested ts) : ¬ IsClosed ts := by
  rintro ⟨p, hp, hCount⟩
  have := h.noSurplus p hp
  omega

theorem Nested.isClosed {before behind : List Token} (h : Nested (before ++ .openParen :: behind)) :
    IsClosed behind := by
  obtain ⟨hBefore, hTotal⟩ := h
  refine ⟨behind, List.prefix_refl behind, ?_⟩
  have hCount := hBefore before (List.prefix_append _ _)
  rw [List.count_append, List.count_append, List.count_cons_self, List.count_cons_of_ne (by decide)] at hTotal
  -- what follows makes up for the opening parenthesis and for those that `before` leaves open
  omega

theorem nested_nil : Nested [] := ⟨fun p hp => by rw [List.prefix_nil.1 hp]; decide, rfl⟩

/-- A token that is no parenthesis may stand in front of nested tokens. -/
theorem Nested.cons {t : Token} {ts : List Token} (hOpen : t ≠ .openParen) (hClose : t ≠ .closeParen)
    (h : Nested ts) : Nested (t :: ts) := by
  obtain ⟨hBefore, hTotal⟩ := h
  constructor
  · intro p hp
    rcases List.prefix_cons_iff.1 hp with rfl | ⟨q, rfl, hq⟩
    · decide
    · rw [List.count_cons_of_ne hOpen, List.count_cons_of_ne hClose]
      exact hBefore q hq
  · rw [List.count_cons_of_ne hOpen, List.count_cons_of_ne hClose]
    exact hTotal

theorem Nested.append {ts us : List Token} (hl : Nested ts) (hr : Nested us) : Nested (ts ++ us) := by
  constructor
  · intro p hp
    -- the beginning ends in the first piece or in the second
    rcases List.prefix_or_prefix_of_prefix hp (List.prefix_append ts us) with hShort | ⟨q, rfl⟩
    · exact hl.noSurplus p hShort
    · have hq := hr.noSurplus q ((List.prefix_append_right_inj ts).1 hp)
      have hTotal := hl.total
      rw [List.count_append, List.count_append]
      omega
  · rw [List.count_append, List.count_append, hl.total, hr.total]

theorem Nested.group {ts : List Token} (h : Nested ts) : Nested (.openParen :: (ts ++ [.closeParen])) := by
  obtain ⟨hBefore, hTotal⟩ := h
  constructor
  · intro p hp
    rcases List.prefix_cons_iff.1 hp with rfl | ⟨q, rfl, hq⟩
    · decide
    rw [List.count_cons_self, List.count_cons_of_ne (by decide)]
    rcases List.prefix_concat_iff.1 hq with rfl | hShort
    · rw [List.count_append, List.count_append]
      have : List.count Token.closeParen [Token.closeParen] = 1 := rfl
      omega
    · have := hBefore q hShort
      omega
  · rw [List.count_cons_self, List.count_cons_of_ne (by decide), List.count_append, List.count_append, hTotal]
    rfl

theorem nested_words (words : List Text) : Nested (words.map .word) := by
  induction words with
  | nil => exact nested_nil
  | cons w words ih => exact ih.cons (by simp) (by simp)

theorem Nested.cons_keyword {k : Keyword} {t : Token} {ts : List Token} (ht : t.spells k = true) (h : Nested ts) :
    Nested (t :: ts) := by
  refine h.cons ?_ ?_ <;>
  · rintro rfl
    cases ht

/-! ### Parts of queries -/

/-- The parentheses in a part of a query are nested. -/
theorem Derives.nested {part : Part} {next : Option Token} {ts : List Token} {e : Expr}
    (h : Derives part next ts e) : Nested ts := by
  induction h with
  | conjunction _ ih => exact ih
  | or _ ht _ ihLeft ihRight => exact ihLeft.append (ihRight.cons_keyword ht)
  | negation _ ih => exact ih
  | and _ ht _ ihLeft ihRight => exact ihLeft.append (ihRight.cons_keyword ht)
  | not ht _ ih => exact ih.cons_keyword ht
  | operand _ _ ih => exact ih
  | group _ ih => exact ih.group
  | phrase => exact nested_nil.cons (by simp) (by simp)
  | @run _ word more => exact nested_words (word :: more)

end TextQuery.Grammar
