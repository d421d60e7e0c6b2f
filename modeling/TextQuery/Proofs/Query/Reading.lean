import TextQuery.Proofs.Query.Grammar
import TextQuery.Query.Parser

/-!
# Reading derived parts

The functions of the parser read what the grammar derives (`read_of_derives`).  A chain is derived from its left end
but read in a loop, so the statement is about the state of that loop: with a derived chain in front, reading comes to
the point where the whole chain is the left side and the rest is still to be read (`goOn`).  Stopping there is a
matter of the next token alone.
-/

namespace TextQuery.Parser

open Grammar

/-- The token that comes next. -/
def next (ts : List Located) : Option Token := ts.head?.map Located.token

@[simp] theorem next_nil : next [] = none := rfl

@[simp] theorem next_cons (t : Located) (ts : List Located) : next (t :: ts) = some t.token := rfl

theorem next_append_of_ne_nil {ts : List Located} (h : ts ≠ []) (us : List Located) :
    next (ts ++ us) = next ts := by
  cases ts with
  | nil => exact absurd rfl h
  | cons t ts => rfl

theorem next_append_of_derives {part : Part} {nx : Option Token} {ts us : List Located} {e : Expr}
    (h : Derives part nx (ts.map Located.token) e) : next (ts ++ us) = next ts :=
  next_append_of_ne_nil (fun hNil => h.ne_nil (by rw [hNil, List.map_nil])) us

/-! ### What a single look at the next token decides -/

theorem joinsOperands_eq_false_iff {w : Text} :
    joinsOperands w = false ↔ Keyword.and.spells w = false ∧ Keyword.or.spells w = false :=
  Bool.or_eq_false_iff

theorem continuesRun_word (w : Text) : continuesRun (some (.word w)) = !joinsOperands w := (Bool.not_or ..).symm

theorem expectOperand_eq_ok_iff {after : Opener} {ts : List Located} :
    expectOperand after ts = .ok () ↔ ∃ t, next ts = some t ∧ t ≠ .closeParen := by
  cases ts with
  | nil => simp [expectOperand]
  | cons t ts =>
    by_cases hClose : t.token = .closeParen
    · simp [expectOperand, hClose]
    · simp [expectOperand, hClose]

/-- A fault names what an operand is missing behind, and the end of the query or the closing parenthesis in its place. -/
theorem expectOperand_eq_error_iff {after : Opener} {ts : List Located} {fault : SyntaxFault} :
    expectOperand after ts = .error fault ↔
      (ts = [] ∧ fault = ⟨.missingAtEnd after, []⟩) ∨
      ∃ t rest, ts = t :: rest ∧ t.token = .closeParen ∧ fault = ⟨.missingBeforeClose after, t :: rest⟩ := by
  constructor
  · intro h
    cases ts with
    | nil => exact .inl ⟨rfl, (Except.error.inj h).symm⟩
    | cons t rest =>
      by_cases hClose : t.token = .closeParen
      · rw [expectOperand, if_pos hClose] at h
        exact .inr ⟨t, rest, rfl, hClose, (Except.error.inj h).symm⟩
      · rw [expectOperand, if_neg hClose] at h
        cases h
  · rintro (⟨rfl, rfl⟩ | ⟨t, rest, rfl, hClose, rfl⟩)
    · rfl
    · rw [expectOperand, if_pos hClose]

/-- An operand is not missing where a part begins. -/
theorem expectOperand_of_derives {part : Part} {nx : Option Token} {ts us : List Located} {e : Expr}
    (after : Opener) (h : Derives part nx (ts.map Located.token) e) : expectOperand after (ts ++ us) = .ok () := by
  rw [expectOperand_eq_ok_iff, next_append_of_derives h]
  obtain ⟨t, ht, hClose⟩ := h.exists_head
  rw [List.head?_map] at ht
  exact ⟨t, ht, hClose⟩

theorem afterKeyword?_eq_none {k : Keyword} {ts : List Located} (h : nextSpells k (next ts) = false) :
    afterKeyword? k ts = none := by
  cases ts with
  | nil => rfl
  | cons t ts => simp_all [afterKeyword?, nextSpells]

theorem afterKeyword?_cons {k : Keyword} {t : Located} (ts : List Located) (h : t.token.spells k = true) :
    afterKeyword? k (t :: ts) = some ts := by
  simp [afterKeyword?, h]

theorem nextSpells_of_spells {k l : Keyword} {t : Token} (ht : t.spells k = true) (hkl : k ≠ l) :
    nextSpells l (some t) = false := by
  rw [nextSpells, Option.any_some, Bool.eq_false_iff]
  exact fun hl => hkl (Token.spells_unique ht hl)

/-! ### Parts as functions -/

/-- Reads a part of a query. -/
def read : Part → Nat → List Located → Reading
  | .disjunction => disjunction
  | .conjunction => conjunction
  | .negation => negation
  | .operand => operand

/-- Reads on behind what is read of a part: chains may go on, other parts are complete. -/
def goOn : Part → Nat → Expr → List Located → Reading
  | .disjunction => moreDisjuncts
  | .conjunction => moreConjuncts
  | .negation => fun _ e ts => .ok (e, ts)
  | .operand => fun _ e ts => .ok (e, ts)

/-- How many calls it takes from a part to its first operand, and two more. -/
def rank : Part → Nat
  | .disjunction => 5
  | .conjunction => 4
  | .negation => 3
  | .operand => 2

/-- Whether nothing that comes next would be read as more of a part. -/
def Stops : Part → Option Token → Prop
  | .disjunction, nx => nextSpells .and nx = false ∧ nextSpells .or nx = false
  | .conjunction, nx => nextSpells .and nx = false
  | .negation, _ => True
  | .operand, _ => True

theorem goOn_of_stops {part : Part} {fuel : Nat} {e : Expr} {ts : List Located} (hFuel : 1 ≤ fuel)
    (h : Stops part (next ts)) : goOn part fuel e ts = .ok (e, ts) := by
  obtain ⟨fuel, rfl⟩ := Nat.exists_eq_add_of_le' (show 1 ≤ fuel by omega)
  cases part with
  | disjunction => simp [goOn, moreDisjuncts, afterKeyword?_eq_none h.2]
  | conjunction => simp [goOn, moreConjuncts, afterKeyword?_eq_none h]
  | negation => rfl
  | operand => rfl

/-! ### Runs of words -/

theorem moreWords_append {run rest : List Located} {words : List Text} (hRun : run.map Located.token = words.map .word)
    (hWords : ∀ w ∈ words, Keyword.and.spells w = false ∧ Keyword.or.spells w = false)
    (hNext : continuesRun (next rest) = false) : moreWords (run ++ rest) = (words, rest) := by
  induction run generalizing words with
  | nil =>
    obtain rfl : words = [] := by simpa using hRun.symm
    cases rest with
    | nil => rfl
    | cons t rest =>
      obtain ⟨token, offset⟩ := t
      cases token <;> simp_all [moreWords, continuesRun_word]
  | cons t run ih =>
    cases words with
    | nil => simp at hRun
    | cons w words =>
      simp only [List.map_cons, List.cons.injEq] at hRun
      have hRest := ih hRun.2 (fun w hw => hWords w (List.mem_cons_of_mem _ hw))
      have hw := joinsOperands_eq_false_iff.2 (hWords w List.mem_cons_self)
      simp [moreWords, hRun.1, hw, hRest]

/-! ### Derived parts are read -/

private theorem eq_ok_of_goOn {part : Part} {fuel : Nat} {ts rest : List Located} {e : Expr}
    (h : ∃ fuel', 6 * rest.length + 1 ≤ fuel' ∧ read part fuel ts = goOn part fuel' e rest)
    (hStops : Stops part (next rest)) : read part fuel ts = .ok (e, rest) := by
  obtain ⟨fuel', hFuel', hRead⟩ := h
  rw [hRead]
  exact goOn_of_stops (by omega) hStops

theorem exists_succ {fuel n : Nat} {part : Part} (h : n + rank part ≤ fuel) :
    ∃ k, fuel = k + 1 ∧ n + rank part ≤ k + 1 := by
  refine ⟨fuel - 1, ?_, ?_⟩ <;> cases part <;> simp only [rank] at h ⊢ <;> omega

/-- With enough fuel, a derived part is read, up to the point where a chain might go on.  What comes behind a
disjunction must not go on with its last conjunction. -/
theorem read_of_derives {part : Part} {nx : Option Token} {ts : List Token} {e : Expr} (h : Derives part nx ts e) :
    ∀ {before rest : List Located} {fuel : Nat}, before.map Located.token = ts → next rest = nx →
      (part = .disjunction → nextSpells .and nx = false) →
      6 * (before ++ rest).length + rank part ≤ fuel →
      ∃ fuel', 6 * rest.length + 1 ≤ fuel' ∧ read part fuel (before ++ rest) = goOn part fuel' e rest := by
  induction h with
  | conjunction _ ih =>
    intro before rest fuel hts hnx hAnd hFuel
    obtain ⟨fuel, rfl, hFuel⟩ := exists_succ hFuel
    simp only [rank, List.length_append] at hFuel
    have hFuelC : 6 * (before ++ rest).length + rank .conjunction ≤ fuel := by
      simp only [rank, List.length_append]; omega
    have hRead : conjunction fuel (before ++ rest) = .ok (_, rest) :=
      eq_ok_of_goOn (ih hts hnx (by simp) hFuelC) (by rw [hnx]; exact hAnd rfl)
    refine ⟨fuel, by omega, ?_⟩
    rw [read, disjunction, hRead]
    rfl
  | @or nx ts us t e f _ ht right ihLeft ihRight =>
    -- the chain in front is the left side of the loop, and one turn of the loop reads the right side
    intro before rest fuel hts hnx hAnd hFuel
    obtain ⟨l, m, rfl, hl, hm⟩ := List.map_eq_append_iff.1 hts
    obtain ⟨u, r, rfl, rfl, rfl⟩ := List.map_eq_cons_iff.1 hm
    simp only [List.append_assoc, List.cons_append] at hFuel ⊢
    have hNext : next (u :: (r ++ rest)) = some u.token := rfl
    obtain ⟨fuel₁, hFuel₁, hLeft⟩ := ihLeft hl hNext (fun _ => nextSpells_of_spells ht (by decide)) hFuel
    obtain ⟨fuel₁, rfl⟩ := Nat.exists_eq_add_of_le' (show 1 ≤ fuel₁ by omega)
    simp only [List.length_cons, List.length_append] at hFuel₁
    have hFuelR : 6 * (r ++ rest).length + rank .conjunction ≤ fuel₁ := by
      simp only [rank, List.length_append]; omega
    have hRight : conjunction fuel₁ (r ++ rest) = .ok (f, rest) :=
      eq_ok_of_goOn (ihRight rfl hnx (by simp) hFuelR) (by rw [hnx]; exact hAnd rfl)
    refine ⟨fuel₁, by omega, ?_⟩
    rw [hLeft, goOn, moreDisjuncts, afterKeyword?_cons _ ht]
    simp only [expectOperand_of_derives _ right, hRight]
    rfl
  | negation _ ih =>
    intro before rest fuel hts hnx _ hFuel
    obtain ⟨fuel, rfl, hFuel⟩ := exists_succ hFuel
    simp only [rank, List.length_append] at hFuel
    have hFuelN : 6 * (before ++ rest).length + rank .negation ≤ fuel := by
      simp only [rank, List.length_append]; omega
    have hRead : negation fuel (before ++ rest) = .ok (_, rest) :=
      eq_ok_of_goOn (ih hts hnx (by simp) hFuelN) trivial
    refine ⟨fuel, by omega, ?_⟩
    rw [read, conjunction, hRead]
    rfl
  | @and nx ts us t e f _ ht right ihLeft ihRight =>
    intro before rest fuel hts hnx _ hFuel
    obtain ⟨l, m, rfl, hl, hm⟩ := List.map_eq_append_iff.1 hts
    obtain ⟨u, r, rfl, rfl, rfl⟩ := List.map_eq_cons_iff.1 hm
    simp only [List.append_assoc, List.cons_append] at hFuel ⊢
    have hNext : next (u :: (r ++ rest)) = some u.token := rfl
    obtain ⟨fuel₁, hFuel₁, hLeft⟩ := ihLeft hl hNext (by simp) hFuel
    obtain ⟨fuel₁, rfl⟩ := Nat.exists_eq_add_of_le' (show 1 ≤ fuel₁ by omega)
    simp only [List.length_cons, List.length_append] at hFuel₁
    have hFuelR : 6 * (r ++ rest).length + rank .negation ≤ fuel₁ := by
      simp only [rank, List.length_append]; omega
    have hRight : negation fuel₁ (r ++ rest) = .ok (f, rest) :=
      eq_ok_of_goOn (ihRight rfl hnx (by simp) hFuelR) trivial
    refine ⟨fuel₁, by omega, ?_⟩
    rw [hLeft, goOn, moreConjuncts, afterKeyword?_cons _ ht]
    simp only [expectOperand_of_derives _ right, hRight]
    rfl
  | @not nx ts t e ht h ih =>
    -- a negation does not go on, so any fuel will do behind it
    intro before rest fuel hts hnx _ hFuel
    obtain ⟨u, r, rfl, rfl, rfl⟩ := List.map_eq_cons_iff.1 hts
    obtain ⟨fuel, rfl, hFuel⟩ := exists_succ hFuel
    simp only [rank, List.length_append, List.length_cons] at hFuel
    have hFuelN : 6 * (r ++ rest).length + rank .negation ≤ fuel := by
      simp only [rank, List.length_append]; omega
    have hRead : negation fuel (r ++ rest) = .ok (e, rest) :=
      eq_ok_of_goOn (ih rfl hnx (by simp) hFuelN) trivial
    refine ⟨6 * rest.length + 1, by omega, ?_⟩
    rw [read, List.cons_append, negation, afterKeyword?_cons _ ht]
    simp only [expectOperand_of_derives _ h, hRead]
    rfl
  | @operand nx ts e h hNot ih =>
    intro before rest fuel hts hnx _ hFuel
    obtain ⟨fuel, rfl, hFuel⟩ := exists_succ hFuel
    simp only [rank, List.length_append] at hFuel
    have hFuelO : 6 * (before ++ rest).length + rank .operand ≤ fuel := by
      simp only [rank, List.length_append]; omega
    have hRead : operand fuel (before ++ rest) = .ok (e, rest) :=
      eq_ok_of_goOn (ih hts hnx (by simp) hFuelO) trivial
    subst hts
    have hFirst : nextSpells .not (next (before ++ rest)) = false := by
      rw [next_append_of_derives h, next, ← List.head?_map]
      exact hNot
    refine ⟨6 * rest.length + 1, by omega, ?_⟩
    rw [read, negation, afterKeyword?_eq_none hFirst]
    exact hRead
  | @group nx ts e h ih =>
    intro before rest fuel hts _ _ hFuel
    obtain ⟨o, m, rfl, ho, hm⟩ := List.map_eq_cons_iff.1 hts
    obtain ⟨l, n, rfl, rfl, hn⟩ := List.map_eq_append_iff.1 hm
    obtain ⟨c, n, rfl, hc, hNil⟩ := List.map_eq_cons_iff.1 hn
    obtain rfl := List.map_eq_nil_iff.1 hNil
    obtain ⟨c, offset⟩ := c
    obtain rfl : c = .closeParen := hc
    simp only [List.cons_append, List.append_assoc, List.nil_append] at hFuel ⊢
    -- the call for the operand, and the one for what stands between the parentheses
    obtain ⟨fuel, rfl, hFuel⟩ := exists_succ hFuel
    simp only [rank, List.length_cons, List.length_append] at hFuel
    obtain ⟨fuel, rfl⟩ := Nat.exists_eq_add_of_le' (show 1 ≤ fuel by omega)
    have hFuelD : 6 * (l ++ ⟨.closeParen, offset⟩ :: rest).length + rank .disjunction ≤ fuel := by
      simp only [rank, List.length_cons, List.length_append]; omega
    have hRead : disjunction fuel (l ++ ⟨.closeParen, offset⟩ :: rest) = .ok (e, ⟨.closeParen, offset⟩ :: rest) :=
      eq_ok_of_goOn (ih rfl rfl (fun _ => rfl) hFuelD) ⟨rfl, rfl⟩
    refine ⟨6 * rest.length + 1, by omega, ?_⟩
    rw [read, operand]
    simp only [ho, Parser.group, expectOperand_of_derives _ h, hRead]
    rfl
  | @phrase nx text hBlank =>
    intro before rest fuel hts _ _ hFuel
    obtain ⟨u, m, rfl, hu, hm⟩ := List.map_eq_cons_iff.1 hts
    obtain rfl := List.map_eq_nil_iff.1 hm
    obtain ⟨fuel, rfl, -⟩ := exists_succ hFuel
    refine ⟨6 * rest.length + 1, by omega, ?_⟩
    rw [read, List.cons_append, operand]
    simp [hu, hBlank, goOn]
  | @run nx word more hMore hNext =>
    intro before rest fuel hts hnx _ hFuel
    obtain ⟨u, m, rfl, hu, hm⟩ := List.map_eq_cons_iff.1 hts
    obtain ⟨fuel, rfl, -⟩ := exists_succ hFuel
    have hRun : moreWords (m ++ rest) = (more, rest) := moreWords_append hm hMore (by rw [hnx]; exact hNext)
    refine ⟨6 * rest.length + 1, by omega, ?_⟩
    rw [read, List.cons_append, operand]
    simp only [hu, hRun]
    rfl

/-- With enough fuel, a derived part is read, when what comes next is no more of it. -/
theorem read_eq_ok {part : Part} {before rest : List Located} {e : Expr} {fuel : Nat}
    (h : Derives part (next rest) (before.map Located.token) e) (hStops : Stops part (next rest))
    (hFuel : 6 * (before ++ rest).length + rank part ≤ fuel) : read part fuel (before ++ rest) = .ok (e, rest) := by
  refine eq_ok_of_goOn (read_of_derives h rfl rfl ?_ hFuel) hStops
  rintro rfl
  exact hStops.1

end TextQuery.Parser
