import TextQuery.Proofs.Query.Outcome

/-!
# The parser and its grammar

The explanations of what is read are exact: with enough fuel, reading breaks off where it can (`read_eq_error`).  With
this the parser is described without its fuel.  It reads what the grammar yields (`formula_eq_ok_iff`), and it refuses
tokens where they can be refused (`formula_eq_error_iff`).  As a function gives one answer, the grammar is unambiguous
(`yields_unique`).
-/

namespace TextQuery.Parser

open Grammar

/-! ### Every explanation is a reading -/

private theorem group_of_ok {fuel : Nat} {opening ts rest : List Located} {e : Expr}
    (hPresent : expectOperand .paren ts = .ok ()) (hInner : disjunction fuel ts = .ok (e, rest))
    (hClose : next rest ≠ some .closeParen) : group (fuel + 1) opening ts = .error (unclosed opening rest) := by
  rw [group, hPresent]
  simp only [hInner]
  cases rest with
  | nil => rfl
  | cons c rest =>
    obtain ⟨token, offset⟩ := c
    cases token <;> first | exact absurd rfl hClose | rfl

/-- With enough fuel, reading breaks off where it can. -/
theorem read_eq_error {part : Part} {before rest : List Located} {fault : SyntaxFault}
    (h : Breaks part before rest fault) :
    ∀ {fuel : Nat}, 6 * (before ++ rest).length + rank part ≤ fuel →
      read part fuel (before ++ rest) = .error fault := by
  induction h with
  | @inConjunction before rest fault _ ih =>
    intro fuel hFuel
    obtain ⟨fuel, rfl, hFuel⟩ := exists_succ hFuel
    have hRead : conjunction fuel (before ++ rest) = .error fault := ih (by simp only [rank] at hFuel ⊢; omega)
    rw [read, disjunction, hRead]
    rfl
  | @behindOr left rest t e fault hLeft ht hMissing =>
    intro fuel hFuel
    rw [← List.append_cons] at hFuel ⊢
    obtain ⟨fuel', hFuel', hRead⟩ := read_of_derives hLeft rfl (next_cons t rest)
      (fun _ => nextSpells_of_spells ht (by decide)) hFuel
    obtain ⟨fuel', rfl⟩ := Nat.exists_eq_add_of_le' (show 1 ≤ fuel' by omega)
    -- reading comes to the operator with the whole chain read, and finds no operand behind it
    rw [hRead, goOn, moreDisjuncts, afterKeyword?_cons _ ht]
    simp only [hMissing]
    rfl
  | @inDisjunct left before rest t e fault hLeft ht hPresent _ ih =>
    intro fuel hFuel
    rw [List.append_assoc, List.cons_append] at hFuel ⊢
    obtain ⟨fuel', hFuel', hRead⟩ := read_of_derives hLeft rfl (next_cons t (before ++ rest))
      (fun _ => nextSpells_of_spells ht (by decide)) hFuel
    obtain ⟨fuel', rfl⟩ := Nat.exists_eq_add_of_le' (show 1 ≤ fuel' by omega)
    rw [List.length_cons] at hFuel'
    have hRight : conjunction fuel' (before ++ rest) = .error fault := ih (by simp only [rank]; omega)
    rw [hRead, goOn, moreDisjuncts, afterKeyword?_cons _ ht]
    simp only [hPresent, hRight]
    rfl
  | @inNegation before rest fault _ ih =>
    intro fuel hFuel
    obtain ⟨fuel, rfl, hFuel⟩ := exists_succ hFuel
    have hRead : negation fuel (before ++ rest) = .error fault := ih (by simp only [rank] at hFuel ⊢; omega)
    rw [read, conjunction, hRead]
    rfl
  | @behindAnd left rest t e fault hLeft ht hMissing =>
    intro fuel hFuel
    rw [← List.append_cons] at hFuel ⊢
    obtain ⟨fuel', hFuel', hRead⟩ := read_of_derives hLeft rfl (next_cons t rest) (by simp) hFuel
    obtain ⟨fuel', rfl⟩ := Nat.exists_eq_add_of_le' (show 1 ≤ fuel' by omega)
    rw [hRead, goOn, moreConjuncts, afterKeyword?_cons _ ht]
    simp only [hMissing]
    rfl
  | @inConjunct left before rest t e fault hLeft ht hPresent _ ih =>
    intro fuel hFuel
    rw [List.append_assoc, List.cons_append] at hFuel ⊢
    obtain ⟨fuel', hFuel', hRead⟩ := read_of_derives hLeft rfl (next_cons t (before ++ rest)) (by simp) hFuel
    obtain ⟨fuel', rfl⟩ := Nat.exists_eq_add_of_le' (show 1 ≤ fuel' by omega)
    rw [List.length_cons] at hFuel'
    have hRight : negation fuel' (before ++ rest) = .error fault := ih (by simp only [rank]; omega)
    rw [hRead, goOn, moreConjuncts, afterKeyword?_cons _ ht]
    simp only [hPresent, hRight]
    rfl
  | @behindNot rest t fault ht hMissing =>
    intro fuel hFuel
    obtain ⟨fuel, rfl, -⟩ := exists_succ hFuel
    rw [read, List.cons_append, List.nil_append, negation, afterKeyword?_cons _ ht]
    simp only [hMissing]
    rfl
  | @inNegated before rest t fault ht hPresent _ ih =>
    intro fuel hFuel
    obtain ⟨fuel, rfl, hFuel⟩ := exists_succ hFuel
    rw [List.cons_append, List.length_cons] at hFuel
    have hRead : negation fuel (before ++ rest) = .error fault := ih (by simp only [rank] at hFuel ⊢; omega)
    rw [read, List.cons_append, negation, afterKeyword?_cons _ ht]
    simp only [hPresent, hRead]
    rfl
  | @inOperand before rest fault hNot _ ih =>
    intro fuel hFuel
    obtain ⟨fuel, rfl, hFuel⟩ := exists_succ hFuel
    have hRead : operand fuel (before ++ rest) = .error fault := ih (by simp only [rank] at hFuel ⊢; omega)
    rw [read, negation, afterKeyword?_eq_none hNot]
    exact hRead
  | @behindParen rest t fault ht hMissing =>
    intro fuel hFuel
    rw [List.cons_append, List.nil_append, List.length_cons] at hFuel
    obtain ⟨fuel, rfl⟩ := Nat.exists_eq_add_of_le' (show 2 ≤ fuel by omega)
    rw [read, List.cons_append, List.nil_append, operand]
    simp only [ht, group, hMissing]
    rfl
  | @inGroup before rest t fault ht hPresent _ ih =>
    intro fuel hFuel
    rw [List.cons_append, List.length_cons] at hFuel
    obtain ⟨fuel, rfl⟩ := Nat.exists_eq_add_of_le' (show 2 ≤ fuel by omega)
    have hRead : disjunction fuel (before ++ rest) = .error fault := ih (by simp only [rank] at hFuel ⊢; omega)
    rw [read, List.cons_append, operand]
    simp only [ht, group, hPresent, hRead]
    rfl
  | @behindGroup inner rest t e ht hInner hStops hClose =>
    intro fuel hFuel
    rw [List.cons_append, List.length_cons] at hFuel
    obtain ⟨fuel, rfl⟩ := Nat.exists_eq_add_of_le' (show 2 ≤ fuel by omega)
    have hRead : disjunction fuel (inner ++ rest) = .ok (e, rest) :=
      read_eq_ok hInner hStops (by simp only [rank] at hFuel ⊢; omega)
    rw [read, List.cons_append, operand]
    simp only [ht]
    exact group_of_ok (expectOperand_of_derives .paren hInner) hRead hClose
  | @blankPhrase rest t text ht hBlank =>
    intro fuel hFuel
    obtain ⟨fuel, rfl, -⟩ := exists_succ hFuel
    rw [read, List.nil_append, operand]
    simp only [ht, hBlank, if_true]
  | @strayClose rest t ht =>
    intro fuel hFuel
    obtain ⟨fuel, rfl, -⟩ := exists_succ hFuel
    rw [read, List.nil_append, operand]
    simp only [ht]
  | nothingToRead =>
    intro fuel hFuel
    obtain ⟨fuel, rfl, -⟩ := exists_succ hFuel
    rfl

/-! ### The parser without its fuel -/

/-- The places where the tokens of a whole query are refused: inside of a formula, or behind one that is complete. -/
inductive Refuses : List Located → List Located → SyntaxFault → Prop where
  | inside {before rest : List Located} {fault : SyntaxFault} (h : Breaks .disjunction before rest fault) :
      Refuses before rest fault
  | behind {before rest : List Located} {t : Located} {e : Expr}
      (h : Derives .disjunction (some t.token) (before.map Located.token) e)
      (hStops : Stops .disjunction (some t.token)) :
      Refuses before (t :: rest)
        ⟨if t.token = .closeParen then .strayClose else .missingOperator t.token, t :: rest⟩

private theorem fuelFor_le (ts : List Located) : 6 * ts.length + rank .disjunction ≤ fuelFor ts := by
  simp only [rank, fuelFor]
  omega

/-- The parser reads what the grammar yields. -/
theorem formula_eq_ok_iff {ts : List Located} {e : Expr} :
    formula ts = .ok e ↔ Yields (ts.map Located.token) e := by
  constructor
  · intro h
    have hRead : Explains .disjunction ts (disjunction (fuelFor ts) ts) := read_explained (fuelFor_le ts)
    unfold formula at h
    cases hd : disjunction (fuelFor ts) ts with
    | error fault =>
      rw [hd] at h
      cases h
    | ok result =>
      obtain ⟨f, rest⟩ := result
      rw [hd] at h hRead
      obtain ⟨before, rfl, hDerives, -⟩ := hRead
      cases rest with
      | nil =>
        obtain rfl : f = e := by injection h
        rw [List.append_nil]
        exact hDerives
      | cons t rest => cases h
  · intro h
    have hRead : disjunction (fuelFor ts) (ts ++ []) = .ok (e, []) :=
      @read_eq_ok .disjunction ts [] e (fuelFor ts) h ⟨rfl, rfl⟩
        (by rw [List.append_nil]; exact fuelFor_le ts)
    rw [List.append_nil] at hRead
    rw [formula, hRead]
    rfl

/-- The parser refuses tokens where they can be refused. -/
theorem formula_eq_error_iff {ts : List Located} {fault : SyntaxFault} :
    formula ts = .error fault ↔ ∃ before rest, ts = before ++ rest ∧ Refuses before rest fault := by
  constructor
  · intro h
    have hRead : Explains .disjunction ts (disjunction (fuelFor ts) ts) := read_explained (fuelFor_le ts)
    unfold formula at h
    cases hd : disjunction (fuelFor ts) ts with
    | error fault' =>
      rw [hd] at h hRead
      obtain rfl : fault' = fault := by injection h
      obtain ⟨before, rest, hts, hBreaks⟩ := hRead
      exact ⟨before, rest, hts, .inside hBreaks⟩
    | ok result =>
      obtain ⟨f, rest⟩ := result
      rw [hd] at h hRead
      obtain ⟨before, hts, hDerives, hStops⟩ := hRead
      cases rest with
      | nil => cases h
      | cons t rest =>
        refine ⟨before, t :: rest, hts, ?_⟩
        obtain rfl := Except.error.inj h
        exact .behind hDerives hStops
  · rintro ⟨before, rest, rfl, hRefuses⟩
    cases hRefuses with
    | inside hBreaks =>
      have hRead : disjunction (fuelFor (before ++ rest)) (before ++ rest) = .error fault :=
        read_eq_error hBreaks (fuelFor_le _)
      rw [formula, hRead]
      rfl
    | @behind rest t e hDerives hStops =>
      have hRead : disjunction (fuelFor (before ++ t :: rest)) (before ++ t :: rest) = .ok (e, t :: rest) :=
        @read_eq_ok .disjunction before (t :: rest) e _ hDerives hStops (fuelFor_le _)
      rw [formula, hRead]
      rfl

/-- Tokens without places, as the parser takes them. -/
theorem map_token_at_zero (ts : List Token) :
    (ts.map fun t => (⟨t, 0⟩ : Located)).map Located.token = ts := by
  rw [List.map_map]
  exact List.map_id ts

/-- A query is read in one way at most. -/
theorem yields_unique {ts : List Token} {e f : Expr} (he : Yields ts e) (hf : Yields ts f) : e = f := by
  rw [← map_token_at_zero ts] at he hf
  have h := formula_eq_ok_iff.2 he
  rw [formula_eq_ok_iff.2 hf] at h
  injection h with h
  exact h.symm

/-- The parser accepts what the grammar yields, and builds the one formula that the grammar gives it. -/
theorem formula_reads_grammar :
    (∀ (ts : List Located) (e : Expr), formula ts = .ok e ↔ Yields (ts.map Located.token) e) ∧
      ∀ (ts : List Token) (e f : Expr), Yields ts e → Yields ts f → e = f :=
  ⟨fun _ _ => formula_eq_ok_iff, fun _ _ _ => yields_unique⟩

/-- A word that is spelled like an operator is one only where an operator can stand. -/
theorem formula_reads_grammar_of_and :
    Yields [.word "and".toList, .word "AND".toList, .word "not".toList, .word "or".toList]
        (.and (.leaf (.words "and".toList)) (.not (.leaf (.words "or".toList)))) ∧
      ∀ f, Yields [.word "and".toList, .word "AND".toList, .word "not".toList, .word "or".toList] f →
        f = .and (.leaf (.words "and".toList)) (.not (.leaf (.words "or".toList))) := by
  have hYields := (formula_reads_grammar.1
    [⟨.word "and".toList, 0⟩, ⟨.word "AND".toList, 4⟩, ⟨.word "not".toList, 8⟩, ⟨.word "or".toList, 12⟩]
    (.and (.leaf (.words "and".toList)) (.not (.leaf (.words "or".toList))))).1 rfl
  exact ⟨hYields, fun f hf => formula_reads_grammar.2 _ f _ hf hYields⟩

end TextQuery.Parser
