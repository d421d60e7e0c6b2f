import TextQuery.Proofs.Query.Acceptance
import TextQuery.Proofs.Query.Openings
import TextQuery.Query.Basic

/-!
# How deep the formula of a query is

A chain of operators is read from the left, so every operator adds a level to the formula.  The depth of a formula is
therefore not bounded by how deep a query nests parentheses and negations (`depth_not_bounded_by_nesting`).  It is bounded
by the nesting together with the longest chain, and the bound is reached for every nesting and every length of chains
(`depth_bounded`).
-/

namespace TextQuery

open Lexer Grammar

/-- The largest value at some places. -/
def largest (f : Place → Nat) (places : List Place) : Nat := (places.map f).foldr max 0

/-- The tokens of a query, when it can be scanned. -/
def tokensOf (raw : Text) : List Token :=
  match tokens raw with
  | .ok ts => ts.map Located.token
  | .error _ => []

/-- The largest number of parentheses and negations that are open at one token. -/
def nesting (raw : Text) : Nat := largest (·.pending.length) (Place.start.along (tokensOf raw))

/-- The largest number of `AND` and `OR` operators that stand in one pair of parentheses, or outside of all, and not in
further ones. -/
def chaining (raw : Text) : Nat := largest (·.joined) (Place.start.along (tokensOf raw))

/-- How deep formulas can be.  Every opening adds a level of its own, or as many as there are operators in a chain. -/
def depthBound (nesting chaining : Nat) : Nat := 1 + chaining + nesting * max 1 chaining

theorem depthBound_succ (k c : Nat) : depthBound (k + 1) c = depthBound k c + max 1 c := by
  rw [depthBound, depthBound, Nat.add_mul, Nat.one_mul, ← Nat.add_assoc]

theorem le_largest {f : Place → Nat} {places : List Place} {p : Place} (hp : p ∈ places) : f p ≤ largest f places := by
  induction places with
  | nil => cases hp
  | cons q places ih =>
    have hStep : largest f (q :: places) = max (f q) (largest f places) := rfl
    rcases List.mem_cons.1 hp with rfl | hp
    · omega
    · have hRest := ih hp
      omega

theorem largest_le {f : Place → Nat} {places : List Place} {n : Nat} (h : ∀ p ∈ places, f p ≤ n) :
    largest f places ≤ n := by
  induction places with
  | nil => exact Nat.zero_le n
  | cons q places ih =>
    rw [List.forall_mem_cons] at h
    exact Nat.max_le.2 ⟨h.1, ih h.2⟩

theorem tokensOf_of_carries {raw : Text} {ts : List Token} (h : Carries raw ts) : tokensOf raw = ts := by
  obtain ⟨laid, hLaid, rfl⟩ := h 0
  rw [tokensOf, tokens_eq_ok_iff.2 hLaid]

/-! ### The bound -/

section

variable {k c : Nat} {p : Place} {part : Part} {next : Option Token} {ts : List Token} {e : Expr}

/-- How deep an operand is that begins at a place. -/
private def budget (k c : Nat) (p : Place) : Nat := 1 + (k - p.pending.length) * max 1 c

/-- With one more opening, there is room for one level less, or for a chain of operators less. -/
private theorem budget_opening {x : Pending} {joined : Nat} (h : (p.opening x joined).pending.length ≤ k) :
    budget k c (p.opening x joined) + max 1 c = budget k c p := by
  rw [Place.length_pending_opening] at h
  obtain ⟨d, hd⟩ : ∃ d, k - p.pending.length = d + 1 := ⟨k - p.pending.length - 1, by omega⟩
  have hInside : k - (p.opening x joined).pending.length = d := by
    rw [Place.length_pending_opening]
    omega
  rw [budget, budget, hInside, hd, Nat.add_mul, Nat.one_mul, Nat.add_assoc]

/-- An operator adds one level to its two sides, and one operator to those on its level. -/
private theorem depth_joined {q r : Place} {d d' : Nat} (hPending : p.settled = p.pending)
    (hLeft : d + p.joined ≤ q.joined + budget k c p) (hOver : p.joined ≤ q.joined)
    (hRight : d' + (q.joined + 1) ≤ r.joined + budget k c (.joining p q)) (hBehind : q.joined + 1 ≤ r.joined) :
    1 + max d d' + p.joined ≤ r.joined + budget k c p := by
  have hSame : budget k c (.joining p q) = budget k c p := by
    rw [budget, budget, Place.joining, hPending]
  rw [hSame] at hRight
  omega

/-- Whether the operators in a part of a query, and what is open in it, bound the depth of its formula. -/
private def IsBounded (k c : Nat) (part : Part) (ts : List Token) (e : Expr) : Prop :=
  ∀ p : Place, p.wantsOperand = true → (part.isChain = true → p.settled = p.pending) →
    (part = .operand → nextSpells .not ts.head? = false) →
    (∀ q ∈ p.along ts, q.pending.length ≤ k ∧ q.joined ≤ c) → e.depth + p.joined ≤ (p.run ts).joined + budget k c p

/-- A chain has one operator more than its left side, and its formula is one level deeper than the deeper side. -/
private theorem isBounded_chain {part part' : Part} {us : List Token} {t : Token} {f both : Expr} {w : Keyword}
    (left : Derives part (some t) ts e) (ht : t.spells w = true) (hw : w ≠ .not) (right : Derives part' next us f)
    (hPart : part.isChain = true) (hPart' : part' ≠ .operand) (hDepth : both.depth = 1 + max e.depth f.depth)
    (hLeft : IsBounded k c part ts e) (hRight : IsBounded k c part' us f) : IsBounded k c part (ts ++ t :: us) both := by
  intro p hWants hChain _ hPlaces
  have hNot : part = .operand → nextSpells .not ts.head? = false := by
    rintro rfl
    cases hPart
  have hNot' : part' = .operand → nextSpells .not us.head? = false := fun h => absurd h hPart'
  have hPassed := (Place.run_of_derives left hWants hChain hNot).1
  have hStep := hPassed.operator ht hw
  rw [Place.along_append, Place.along_cons, hStep, List.forall_mem_append, List.forall_mem_cons] at hPlaces
  rw [Place.run_append, Place.run_cons, hStep, hDepth]
  have hSettled : (Place.joining p (p.run ts)).settled = p.settled := Place.settled_joining p _
  have hBehind := (Place.run_of_derives right (p := .joining p (p.run ts)) rfl (fun _ => hSettled) hNot').1.joined_le
  exact depth_joined (hChain hPart) (hLeft p hWants hChain hNot hPlaces.1) hPassed.joined_le
    (hRight _ rfl (fun _ => hSettled) hNot' hPlaces.2.2) hBehind

private theorem isBounded_of_derives (h : Derives part next ts e) : IsBounded k c part ts e := by
  induction h with
  | conjunction _ ih => exact fun p hWants hChain _ => ih p hWants (fun _ => hChain rfl) nofun
  | or left ht right ihLeft ihRight => exact isBounded_chain left ht (by decide) right rfl nofun rfl ihLeft ihRight
  | negation _ ih => exact fun p hWants _ _ => ih p hWants nofun nofun
  | and left ht right ihLeft ihRight => exact isBounded_chain left ht (by decide) right rfl nofun rfl ihLeft ihRight
  | @not _ ts t e ht h ih =>
    intro p hWants _ _ hPlaces
    rw [Place.along_cons, Place.step_not hWants ht, List.forall_mem_cons] at hPlaces
    rw [Place.run_cons, Place.step_not hWants ht]
    have hBudget := budget_opening (c := c) hPlaces.1.1
    have hInner := ih _ rfl nofun nofun hPlaces.2
    rw [Place.joined_opening] at hInner
    -- the negation is open inside, which leaves room for one level less
    rw [Formula.depth]
    omega
  | operand _ hFirst ih => exact fun p hWants _ _ => ih p hWants nofun (fun _ => hFirst)
  | @group next ts e h ih =>
    intro p hWants _ _ hPlaces
    rw [Place.along_cons, Place.step_openParen hWants, List.forall_mem_cons, Place.along_append,
      List.forall_mem_append] at hPlaces
    obtain ⟨hOpen, hInside, -⟩ := hPlaces
    have hBudget := budget_opening (c := c) hOpen.1
    have hInner := ih _ rfl (fun _ => rfl) nofun hInside
    -- the operators inside are no more than the longest chain has
    have hOperators := (hInside _ (Place.run_mem_along h.ne_nil)).2
    have hGroup : Derives .operand next (.openParen :: (ts ++ [.closeParen])) e := .group h
    have hJoined := (Place.run_of_derives hGroup hWants nofun (fun _ => rfl)).2 rfl
    rw [hJoined]
    omega
  | @phrase next text hBlank =>
    intro p hWants _ hNot _
    have hPhrase : Derives .operand next [.phrase text] (.leaf (.phrase text)) := .phrase hBlank
    have hJoined := (Place.run_of_derives hPhrase hWants nofun hNot).2 rfl
    rw [hJoined, Formula.depth, budget]
    omega
  | run hMore hNext =>
    intro p hWants _ hNot _
    have hJoined := (Place.run_of_derives (.run hMore hNext) hWants nofun hNot).2 rfl
    rw [hJoined, Formula.depth, budget]
    omega

end

theorem depth_le_of_parse {raw : Text} {e : Expr} (h : parse raw = .ok e) :
    e.depth ≤ depthBound (nesting raw) (chaining raw) := by
  obtain ⟨ts, hCarries, hYields⟩ := parse_eq_ok_iff.1 h
  have hPlaces : ∀ q ∈ Place.start.along ts, q.pending.length ≤ nesting raw ∧ q.joined ≤ chaining raw := by
    rw [nesting, chaining, tokensOf_of_carries hCarries]
    exact fun q hq => ⟨le_largest (f := (·.pending.length)) hq, le_largest (f := (·.joined)) hq⟩
  have hDepth := isBounded_of_derives hYields .start rfl (fun _ => rfl) nofun hPlaces
  have hOperators := (hPlaces _ (Place.run_mem_along hYields.ne_nil)).2
  have hBudget : budget (nesting raw) (chaining raw) .start = 1 + nesting raw * max 1 (chaining raw) := rfl
  rw [depthBound]
  omega

/-! ### Queries that reach the bound -/

/-- Whether some part of a query has a formula of depth `d`, opens at most `k` things at a time, and has chains of at most
`c` operators; `own` operators are on its own level. -/
def Reaches (c : Nat) (part : Part) (k own d : Nat) : Prop :=
  ∃ raw ts e, Carries raw ts ∧ Derives part none ts e ∧ e.depth = d ∧
    ∀ p : Place, p.wantsOperand = true → (part.isChain = true → p.settled = p.pending) →
      (p.run ts).joined = p.joined + own ∧
        ∀ q ∈ p.along ts, q.pending.length ≤ p.pending.length + k ∧ q.joined ≤ max c (p.joined + own)

namespace Reaches

variable {c k own d : Nat}

private def letter : Text := ['a']

private theorem derives_letter (next : Option Token) (hNext : continuesRun next = false) :
    Derives .negation next [.word letter] (.leaf (.words letter)) :=
  .operand (.word letter hNext) rfl

private theorem carries_letter : Carries letter [.word letter] := carries_word (by decide)

private theorem step_letter {p : Place} (hWants : p.wantsOperand = true) :
    p.step (.word letter) = { p with wantsOperand := false } :=
  Place.step_operand hWants rfl (by simp)

theorem word (c : Nat) : Reaches c .negation 0 0 1 := by
  refine ⟨letter, _, _, carries_letter, derives_letter none rfl, rfl, fun p hWants _ => ?_⟩
  rw [Place.run_cons, Place.along_cons, step_letter hWants, Place.along_nil, List.forall_mem_singleton]
  exact ⟨rfl, Nat.le_refl _, Nat.le_max_right _ _⟩

theorem negated (h : Reaches c .negation k 0 d) : Reaches c .negation (k + 1) 0 (1 + d) := by
  obtain ⟨raw, ts, e, hCarries, hDerives, hDepth, hPlaces⟩ := h
  have hNot : (Token.word Keyword.not.spelling).spells .not = true := by decide
  refine ⟨_, _, _, hCarries.behind (isWord_of_spells hNot), .not hNot hDerives, congrArg (1 + ·) hDepth, ?_⟩
  intro p hWants _
  obtain ⟨hJoined, hInside⟩ := hPlaces (p.opening .negation p.joined) rfl nofun
  simp only [Place.length_pending_opening, Place.joined_opening] at hInside
  rw [Place.run_cons, Place.along_cons, Place.step_not hWants hNot, List.forall_mem_cons, Place.length_pending_opening,
    Place.joined_opening]
  refine ⟨hJoined, ⟨by omega, by omega⟩, fun q hq => ?_⟩
  have hPlace := hInside q hq
  omega

theorem enclosed (h : Reaches c .conjunction k own d) (hOwn : own ≤ c) : Reaches c .negation (k + 1) 0 d := by
  obtain ⟨raw, ts, e, hCarries, hDerives, hDepth, hPlaces⟩ := h
  have hGroup : Derives .operand none (.openParen :: (ts ++ [.closeParen])) e :=
    .group (.conjunction (hDerives.in_front_of rfl))
  refine ⟨_, _, _, hCarries.enclosed, .operand hGroup rfl, hDepth, ?_⟩
  intro p hWants _
  have hPassed := (Place.run_of_derives hDerives (p := p.opening (.paren p.joined) 0) rfl (fun _ => rfl) nofun).1
  have hClosed := Place.step_closeParen hPassed.wantsOperand hPassed.settled
  obtain ⟨-, hInside⟩ := hPlaces (p.opening (.paren p.joined) 0) rfl (fun _ => rfl)
  simp only [Place.length_pending_opening, Place.joined_opening] at hInside
  rw [Place.run_cons, Place.along_cons, Place.step_openParen hWants, Place.run_append, Place.along_append, Place.run_cons,
    Place.along_cons, hClosed, List.forall_mem_cons, List.forall_mem_append, Place.along_nil, List.forall_mem_singleton,
    Place.length_pending_opening, Place.joined_opening]
  refine ⟨rfl, ⟨by omega, by omega⟩, fun q hq => ?_, Nat.le_add_right _ _, Nat.le_max_right _ _⟩
  have hPlace := hInside q hq
  omega

theorem alone (h : Reaches c .negation k 0 d) : Reaches c .conjunction k 0 d := by
  obtain ⟨raw, ts, e, hCarries, hDerives, hDepth, hPlaces⟩ := h
  exact ⟨raw, ts, e, hCarries, .negation hDerives, hDepth, fun p hWants _ => hPlaces p hWants nofun⟩

/-- One more operator at the end of a chain. -/
theorem conjoined (h : Reaches c .conjunction k own d) (hDepth : 1 ≤ d) :
    Reaches c .conjunction k (own + 1) (d + 1) := by
  obtain ⟨raw, ts, e, hCarries, hDerives, rfl, hPlaces⟩ := h
  have hAnd : (Token.word Keyword.and.spelling).spells .and = true := by decide
  have hLeft := hDerives.in_front_of (continuesRun_of_spells hAnd (by decide))
  refine ⟨_, _, _, hCarries.joined (isWord_of_spells hAnd) carries_letter, .and hLeft hAnd (derives_letter none rfl), ?_, ?_⟩
  · have hLetter : Formula.depth (.leaf (.words letter) : Expr) = 1 := rfl
    rw [Formula.depth, hLetter]
    omega
  · intro p hWants hChain
    obtain ⟨hJoined, hBefore⟩ := hPlaces p hWants hChain
    have hPassed := (Place.run_of_derives hDerives hWants hChain nofun).1
    rw [Place.run_append, Place.along_append, Place.run_cons, Place.along_cons, hPassed.operator hAnd (by decide),
      Place.run_cons, Place.along_cons, step_letter rfl, List.forall_mem_append, List.forall_mem_cons, Place.along_nil,
      List.forall_mem_singleton]
    simp only [Place.run_nil, Place.pending_joining, Place.joined_joining, hChain rfl, hJoined]
    refine ⟨by omega, fun q hq => ?_, ⟨by omega, by omega⟩, by omega, by omega⟩
    have hPlace := hBefore q hq
    omega

theorem chained (h : Reaches c .negation k 0 d) (hDepth : 1 ≤ d) (n : Nat) : Reaches c .conjunction k n (d + n) := by
  induction n with
  | zero => exact h.alone
  | succ n ih => exact ih.conjoined (by omega)

end Reaches

/-- The bound is reached for every nesting: with negations alone where there are no operators, otherwise with chains in
parentheses at the left end of chains. -/
theorem reaches_depthBound (k c : Nat) : Reaches c .conjunction k c (depthBound k c) := by
  cases c with
  | zero =>
    have hNegations : Reaches 0 .negation k 0 (depthBound k 0) := by
      induction k with
      | zero => exact .word 0
      | succ k ih =>
        have hNext : depthBound (k + 1) 0 = 1 + depthBound k 0 := by
          rw [depthBound_succ, Nat.max_eq_left (Nat.zero_le 1), Nat.add_comm]
        exact hNext ▸ ih.negated
    exact hNegations.alone
  | succ c =>
    induction k with
    | zero =>
      have hFirst : depthBound 0 (c + 1) = 1 + (c + 1) := by simp [depthBound]
      exact hFirst ▸ (Reaches.word (c + 1)).chained (Nat.le_refl 1) (c + 1)
    | succ k ih =>
      have hDeep : 1 ≤ depthBound k (c + 1) := by
        rw [depthBound]
        omega
      rw [depthBound_succ, Nat.max_eq_right (Nat.le_add_left 1 c)]
      exact (ih.enclosed (Nat.le_refl _)).chained hDeep (c + 1)

/-- No smaller nesting and no shorter chains allow for the same depth. -/
theorem eq_of_depthBound_le {k k' c c' : Nat} (hk : k' ≤ k) (hc : c' ≤ c) (h : depthBound k c ≤ depthBound k' c') :
    k' = k ∧ c' = c := by
  rw [depthBound, depthBound] at h
  have hProduct : k' * max 1 c' ≤ k * max 1 c := Nat.mul_le_mul hk (by omega)
  obtain rfl : c' = c := by omega
  have hOpen : k * max 1 c' ≤ k' * max 1 c' := by omega
  exact ⟨Nat.le_antisymm hk (Nat.le_of_mul_le_mul_right hOpen (by omega)), rfl⟩

theorem exists_depth_eq (k c : Nat) :
    ∃ raw e, parse raw = .ok e ∧ nesting raw = k ∧ chaining raw = c ∧ e.depth = depthBound k c := by
  obtain ⟨raw, ts, e, hCarries, hDerives, hDepth, hPlaces⟩ := reaches_depthBound k c
  have hParse : parse raw = .ok e := parse_eq_ok_iff.2 ⟨ts, hCarries, .conjunction hDerives⟩
  have hAlong := (hPlaces .start rfl (fun _ => rfl)).2
  have hNesting : nesting raw ≤ k := by
    rw [nesting, tokensOf_of_carries hCarries]
    refine largest_le fun q hq => ?_
    have hPlace := (hAlong q hq).1
    simpa [Place.start] using hPlace
  have hChaining : chaining raw ≤ c := by
    rw [chaining, tokensOf_of_carries hCarries]
    refine largest_le fun q hq => ?_
    have hPlace := (hAlong q hq).2
    simpa [Place.start] using hPlace
  have hBound := depth_le_of_parse hParse
  rw [hDepth] at hBound
  obtain ⟨hk, hc⟩ := eq_of_depthBound_le hNesting hChaining hBound
  exact ⟨raw, e, hParse, hk, hc, hDepth⟩

/-! ### The depth of formulas -/

theorem Formula.depth_map {α β : Type} (h : α → β) (f : Formula α) : (f.map h).depth = f.depth := by
  induction f with
  | leaf a => rfl
  | not f ih => rw [map, depth, depth, ih]
  | and f g ihf ihg => rw [map, depth, depth, ihf, ihg]
  | or f g ihf ihg => rw [map, depth, depth, ihf, ihg]

/-- The depth of the formula of a query, and of the terms it is compiled to, is bounded by the nesting of the query and
its longest chain.  No smaller bound holds for all queries. -/
theorem depth_bounded :
    (∀ (raw : Text) (e : Expr), parse raw = .ok e →
        e.depth ≤ depthBound (nesting raw) (chaining raw) ∧ ∀ o : Options, (e.compile o).depth = e.depth) ∧
      ∀ k c : Nat, ∃ raw e, parse raw = .ok e ∧ nesting raw = k ∧ chaining raw = c ∧ e.depth = depthBound k c :=
  ⟨fun _ _ h => ⟨depth_le_of_parse h, fun _ => Formula.depth_map _ _⟩, exists_depth_eq⟩

/-- Two openings, and two operators in the parentheses. -/
theorem depth_bounded_of_negated_chain :
    ∃ e, parse "NOT (a AND b OR c)".toList = .ok e ∧ nesting "NOT (a AND b OR c)".toList = 2 ∧
      chaining "NOT (a AND b OR c)".toList = 2 ∧ e.depth = 4 ∧ e.depth ≤ depthBound 2 2 := by
  have hTokens : tokens "NOT (a AND b OR c)".toList =
      .ok [⟨.word "NOT".toList, 0⟩, ⟨.openParen, 4⟩, ⟨.word ['a'], 5⟩, ⟨.word "AND".toList, 7⟩, ⟨.word ['b'], 11⟩,
        ⟨.word "OR".toList, 13⟩, ⟨.word ['c'], 16⟩, ⟨.closeParen, 17⟩] := rfl
  have hParse := parse_eq_of_formula hTokens
    (e := .not (.or (.and (.leaf (.words ['a'])) (.leaf (.words ['b']))) (.leaf (.words ['c'])))) rfl
  exact ⟨_, hParse, rfl, rfl, rfl, (depth_bounded.1 _ _ hParse).1⟩

/-- A chain of operators without parentheses and negations can be as deep as it is long. -/
theorem depth_not_bounded_by_nesting :
    ¬ ∃ bound : Nat → Nat, ∀ (raw : Text) (e : Expr), parse raw = .ok e → e.depth ≤ bound (nesting raw) := by
  rintro ⟨bound, hBound⟩
  obtain ⟨raw, e, hParse, hNesting, -, hDepth⟩ := exists_depth_eq 0 (bound 0)
  have hAbove := hBound raw e hParse
  rw [hNesting, hDepth, depthBound] at hAbove
  omega

end TextQuery
