import TextQuery.Proofs.Query.Reading

/-!
# What comes of reading a query

Reading a part of a query either derives the part or breaks off.  `Breaks part before rest fault` lists the places
where it can break off: `before` is read, and `fault` is what is wrong with `rest` behind it.  With enough fuel every
reading is explained by one of the two (`read_explained`); in particular the fuel does not run out.
-/

namespace TextQuery.Parser

open Grammar

/-- The places where reading a part of a query breaks off. -/
inductive Breaks : Part → List Located → List Located → SyntaxFault → Prop where
  | inConjunction {before rest : List Located} {fault : SyntaxFault} (h : Breaks .conjunction before rest fault) :
      Breaks .disjunction before rest fault
  | behindOr {left rest : List Located} {t : Located} {e : Expr} {fault : SyntaxFault}
      (hLeft : Derives .disjunction (some t.token) (left.map Located.token) e) (ht : t.token.spells .or = true)
      (hMissing : expectOperand (.keyword .or) rest = .error fault) : Breaks .disjunction (left ++ [t]) rest fault
  | inDisjunct {left before rest : List Located} {t : Located} {e : Expr} {fault : SyntaxFault}
      (hLeft : Derives .disjunction (some t.token) (left.map Located.token) e) (ht : t.token.spells .or = true)
      (hPresent : expectOperand (.keyword .or) (before ++ rest) = .ok ()) (h : Breaks .conjunction before rest fault) :
      Breaks .disjunction (left ++ t :: before) rest fault
  | inNegation {before rest : List Located} {fault : SyntaxFault} (h : Breaks .negation before rest fault) :
      Breaks .conjunction before rest fault
  | behindAnd {left rest : List Located} {t : Located} {e : Expr} {fault : SyntaxFault}
      (hLeft : Derives .conjunction (some t.token) (left.map Located.token) e) (ht : t.token.spells .and = true)
      (hMissing : expectOperand (.keyword .and) rest = .error fault) : Breaks .conjunction (left ++ [t]) rest fault
  | inConjunct {left before rest : List Located} {t : Located} {e : Expr} {fault : SyntaxFault}
      (hLeft : Derives .conjunction (some t.token) (left.map Located.token) e) (ht : t.token.spells .and = true)
      (hPresent : expectOperand (.keyword .and) (before ++ rest) = .ok ()) (h : Breaks .negation before rest fault) :
      Breaks .conjunction (left ++ t :: before) rest fault
  | behindNot {rest : List Located} {t : Located} {fault : SyntaxFault} (ht : t.token.spells .not = true)
      (hMissing : expectOperand (.keyword .not) rest = .error fault) : Breaks .negation [t] rest fault
  | inNegated {before rest : List Located} {t : Located} {fault : SyntaxFault} (ht : t.token.spells .not = true)
      (hPresent : expectOperand (.keyword .not) (before ++ rest) = .ok ()) (h : Breaks .negation before rest fault) :
      Breaks .negation (t :: before) rest fault
  | inOperand {before rest : List Located} {fault : SyntaxFault}
      (hNot : nextSpells .not (next (before ++ rest)) = false) (h : Breaks .operand before rest fault) :
      Breaks .negation before rest fault
  | behindParen {rest : List Located} {t : Located} {fault : SyntaxFault} (ht : t.token = .openParen)
      (hMissing : expectOperand .paren rest = .error fault) : Breaks .operand [t] rest fault
  | inGroup {before rest : List Located} {t : Located} {fault : SyntaxFault} (ht : t.token = .openParen)
      (hPresent : expectOperand .paren (before ++ rest) = .ok ()) (h : Breaks .disjunction before rest fault) :
      Breaks .operand (t :: before) rest fault
  /-- What stands between parentheses is complete, but no closing parenthesis follows it. -/
  | behindGroup {inner rest : List Located} {t : Located} {e : Expr} (ht : t.token = .openParen)
      (hInner : Derives .disjunction (next rest) (inner.map Located.token) e) (hStops : Stops .disjunction (next rest))
      (hClose : next rest ≠ some .closeParen) :
      Breaks .operand (t :: inner) rest (unclosed (t :: (inner ++ rest)) rest)
  | blankPhrase {rest : List Located} {t : Located} {text : Text} (ht : t.token = .phrase text)
      (hBlank : text.isBlank = true) : Breaks .operand [] (t :: rest) ⟨.emptyPhrase, t :: rest⟩
  | strayClose {rest : List Located} {t : Located} (ht : t.token = .closeParen) :
      Breaks .operand [] (t :: rest) ⟨.strayClose, t :: rest⟩
  | nothingToRead : Breaks .operand [] [] ⟨.nothingToRead, []⟩

/-- How the tokens account for what is read of them. -/
def Explains (part : Part) (ts : List Located) : Reading → Prop
  | .ok (e, rest) => ∃ before, ts = before ++ rest ∧
      Derives part (next rest) (before.map Located.token) e ∧ Stops part (next rest)
  | .error fault => ∃ before rest, ts = before ++ rest ∧ Breaks part before rest fault

theorem Explains.ok {part : Part} (before : List Located) {rest : List Located} {e : Expr}
    (h : Derives part (next rest) (before.map Located.token) e) (hStops : Stops part (next rest)) :
    Explains part (before ++ rest) (.ok (e, rest)) := ⟨before, rfl, h, hStops⟩

theorem Explains.error {part : Part} (before : List Located) {rest : List Located} {fault : SyntaxFault}
    (h : Breaks part before rest fault) : Explains part (before ++ rest) (.error fault) := ⟨before, rest, rfl, h⟩

/-! ### Every reading is explained -/

/-- With so much fuel, every reading of tokens that are few enough is explained. -/
structure Explained (fuel : Nat) : Prop where
  read : ∀ (part : Part) {ts : List Located}, 6 * ts.length + rank part ≤ fuel →
    Explains part ts (Parser.read part fuel ts)
  goOn : ∀ (part : Part) {before ts : List Located} {e : Expr},
    Derives part (next ts) (before.map Located.token) e →
    (part = .disjunction → nextSpells .and (next ts) = false) → 6 * ts.length + 1 ≤ fuel →
    Explains part (before ++ ts) (Parser.goOn part fuel e ts)
  group : ∀ {t : Located} {ts : List Located}, t.token = .openParen → 6 * ts.length + 6 ≤ fuel →
    Explains .operand (t :: ts) (Parser.group fuel (t :: ts) ts)

theorem expectOperand_cases (after : Opener) (ts : List Located) :
    expectOperand after ts = .ok () ∨ ∃ fault, expectOperand after ts = .error fault := by
  cases expectOperand after ts with
  | ok u => exact .inl rfl
  | error fault => exact .inr ⟨fault, rfl⟩

theorem afterKeyword?_cases (k : Keyword) (ts : List Located) :
    (afterKeyword? k ts = none ∧ nextSpells k (next ts) = false) ∨
      ∃ t rest, ts = t :: rest ∧ t.token.spells k = true := by
  cases ts with
  | nil => exact .inl ⟨rfl, rfl⟩
  | cons t ts =>
    by_cases h : t.token.spells k = true
    · exact .inr ⟨t, ts, rfl, h⟩
    · exact .inl ⟨by simp [afterKeyword?, h], by simpa [nextSpells] using h⟩

/-- A run of words takes all words up to the first one that does not go on with it. -/
theorem moreWords_spec (ts : List Located) :
    ∃ run, ts = run ++ (moreWords ts).2 ∧ run.map Located.token = (moreWords ts).1.map .word ∧
      (∀ w ∈ (moreWords ts).1, Keyword.and.spells w = false ∧ Keyword.or.spells w = false) ∧
      continuesRun (next (moreWords ts).2) = false := by
  induction ts with
  | nil => exact ⟨[], rfl, rfl, by simp [moreWords], rfl⟩
  | cons t ts ih =>
    obtain ⟨run, hts, hRun, hWords, hNext⟩ := ih
    obtain ⟨token, offset⟩ := t
    cases token with
    | word text =>
      by_cases hJoins : joinsOperands text = true
      · have hStop : moreWords (⟨.word text, offset⟩ :: ts) = ([], ⟨.word text, offset⟩ :: ts) := by
          simp [moreWords, hJoins]
        rw [hStop]
        exact ⟨[], rfl, rfl, by simp, by simp [continuesRun_word, hJoins]⟩
      · have hGoOn : moreWords (⟨.word text, offset⟩ :: ts) = (text :: (moreWords ts).1, (moreWords ts).2) := by
          simp [moreWords, hJoins]
        rw [hGoOn]
        refine ⟨⟨.word text, offset⟩ :: run, by rw [List.cons_append, ← hts], by simp [hRun], ?_, hNext⟩
        intro w hw
        rcases List.mem_cons.1 hw with rfl | hw
        · exact joinsOperands_eq_false_iff.1 (Bool.eq_false_iff.2 hJoins)
        · exact hWords w hw
    | phrase text => exact ⟨[], rfl, rfl, by simp [moreWords], rfl⟩
    | openParen => exact ⟨[], rfl, rfl, by simp [moreWords], rfl⟩
    | closeParen => exact ⟨[], rfl, rfl, by simp [moreWords], rfl⟩

section

variable {fuel : Nat} (ih : Explained fuel)
include ih

private theorem Explained.disjunction {ts : List Located} (hFuel : 6 * ts.length + 5 ≤ fuel + 1) :
    Explains .disjunction ts (Parser.disjunction (fuel + 1) ts) := by
  have hFirst : Explains .conjunction ts (Parser.conjunction fuel ts) :=
    ih.read .conjunction (by simp only [rank]; omega)
  rw [Parser.disjunction]
  cases hRead : Parser.conjunction fuel ts with
  | error fault =>
    rw [hRead] at hFirst
    obtain ⟨before, rest, rfl, hBreaks⟩ := hFirst
    exact .error _ (.inConjunction hBreaks)
  | ok result =>
    obtain ⟨e, rest⟩ := result
    rw [hRead] at hFirst
    obtain ⟨before, rfl, hDerives, hStops⟩ := hFirst
    simp only [List.length_append] at hFuel
    exact ih.goOn .disjunction (.conjunction hDerives) (fun _ => hStops) (by omega)

private theorem Explained.moreDisjuncts {before ts : List Located} {e : Expr}
    (hLeft : Derives .disjunction (next ts) (before.map Located.token) e) (hAnd : nextSpells .and (next ts) = false)
    (hFuel : 6 * ts.length + 1 ≤ fuel + 1) :
    Explains .disjunction (before ++ ts) (Parser.moreDisjuncts (fuel + 1) e ts) := by
  rw [Parser.moreDisjuncts]
  rcases afterKeyword?_cases .or ts with ⟨hNone, hOr⟩ | ⟨t, rest, rfl, ht⟩
  · rw [hNone]
    exact .ok _ hLeft ⟨hAnd, hOr⟩
  simp only [afterKeyword?_cons rest ht]
  rw [List.length_cons] at hFuel
  rcases expectOperand_cases (.keyword .or) rest with hPresent | ⟨fault, hMissing⟩
  · have hRight : Explains .conjunction rest (Parser.conjunction fuel rest) :=
      ih.read .conjunction (by simp only [rank]; omega)
    rw [hPresent]
    cases hRead : Parser.conjunction fuel rest with
    | error fault =>
      rw [hRead] at hRight
      obtain ⟨middle, rest, rfl, hBreaks⟩ := hRight
      rw [← List.cons_append, ← List.append_assoc]
      exact .error _ (.inDisjunct hLeft ht hPresent hBreaks)
    | ok result =>
      obtain ⟨f, rest'⟩ := result
      rw [hRead] at hRight
      obtain ⟨right, rfl, hDerives, hStops⟩ := hRight
      rw [← List.cons_append, ← List.append_assoc]
      simp only [List.length_append] at hFuel
      -- the chain with its new right side is the left side of the next turn
      refine ih.goOn .disjunction ?_ (fun _ => hStops) (by omega)
      rw [List.map_append, List.map_cons]
      exact .or hLeft ht hDerives
  · rw [hMissing, List.append_cons]
    exact .error _ (.behindOr hLeft ht hMissing)

private theorem Explained.conjunction {ts : List Located} (hFuel : 6 * ts.length + 4 ≤ fuel + 1) :
    Explains .conjunction ts (Parser.conjunction (fuel + 1) ts) := by
  have hFirst : Explains .negation ts (Parser.negation fuel ts) :=
    ih.read .negation (by simp only [rank]; omega)
  rw [Parser.conjunction]
  cases hRead : Parser.negation fuel ts with
  | error fault =>
    rw [hRead] at hFirst
    obtain ⟨before, rest, rfl, hBreaks⟩ := hFirst
    exact .error _ (.inNegation hBreaks)
  | ok result =>
    obtain ⟨e, rest⟩ := result
    rw [hRead] at hFirst
    obtain ⟨before, rfl, hDerives, -⟩ := hFirst
    simp only [List.length_append] at hFuel
    exact ih.goOn .conjunction (.negation hDerives) (by simp) (by omega)

private theorem Explained.moreConjuncts {before ts : List Located} {e : Expr}
    (hLeft : Derives .conjunction (next ts) (before.map Located.token) e) (hFuel : 6 * ts.length + 1 ≤ fuel + 1) :
    Explains .conjunction (before ++ ts) (Parser.moreConjuncts (fuel + 1) e ts) := by
  rw [Parser.moreConjuncts]
  rcases afterKeyword?_cases .and ts with ⟨hNone, hAnd⟩ | ⟨t, rest, rfl, ht⟩
  · rw [hNone]
    exact .ok _ hLeft hAnd
  simp only [afterKeyword?_cons rest ht]
  rw [List.length_cons] at hFuel
  rcases expectOperand_cases (.keyword .and) rest with hPresent | ⟨fault, hMissing⟩
  · have hRight : Explains .negation rest (Parser.negation fuel rest) :=
      ih.read .negation (by simp only [rank]; omega)
    rw [hPresent]
    cases hRead : Parser.negation fuel rest with
    | error fault =>
      rw [hRead] at hRight
      obtain ⟨middle, rest, rfl, hBreaks⟩ := hRight
      rw [← List.cons_append, ← List.append_assoc]
      exact .error _ (.inConjunct hLeft ht hPresent hBreaks)
    | ok result =>
      obtain ⟨f, rest'⟩ := result
      rw [hRead] at hRight
      obtain ⟨right, rfl, hDerives, -⟩ := hRight
      rw [← List.cons_append, ← List.append_assoc]
      simp only [List.length_append] at hFuel
      refine ih.goOn .conjunction ?_ (by simp) (by omega)
      rw [List.map_append, List.map_cons]
      exact .and hLeft ht hDerives
  · rw [hMissing, List.append_cons]
    exact .error _ (.behindAnd hLeft ht hMissing)

private theorem Explained.negation {ts : List Located} (hFuel : 6 * ts.length + 3 ≤ fuel + 1) :
    Explains .negation ts (Parser.negation (fuel + 1) ts) := by
  rw [Parser.negation]
  rcases afterKeyword?_cases .not ts with ⟨hNone, hNot⟩ | ⟨t, rest, rfl, ht⟩
  · have hOperand : Explains .operand ts (Parser.operand fuel ts) :=
      ih.read .operand (by simp only [rank]; omega)
    rw [hNone]
    simp only
    cases hRead : Parser.operand fuel ts with
    | error fault =>
      rw [hRead] at hOperand
      obtain ⟨before, rest, rfl, hBreaks⟩ := hOperand
      exact .error _ (.inOperand hNot hBreaks)
    | ok result =>
      obtain ⟨e, rest⟩ := result
      rw [hRead] at hOperand
      obtain ⟨before, rfl, hDerives, -⟩ := hOperand
      rw [next_append_of_derives hDerives, next, ← List.head?_map] at hNot
      exact .ok _ (.operand hDerives hNot) trivial
  simp only [afterKeyword?_cons rest ht]
  rw [List.length_cons] at hFuel
  rcases expectOperand_cases (.keyword .not) rest with hPresent | ⟨fault, hMissing⟩
  · have hInner : Explains .negation rest (Parser.negation fuel rest) :=
      ih.read .negation (by simp only [rank]; omega)
    rw [hPresent]
    cases hRead : Parser.negation fuel rest with
    | error fault =>
      rw [hRead] at hInner
      obtain ⟨before, rest, rfl, hBreaks⟩ := hInner
      exact .error _ (.inNegated ht hPresent hBreaks)
    | ok result =>
      obtain ⟨e, rest'⟩ := result
      rw [hRead] at hInner
      obtain ⟨before, rfl, hDerives, -⟩ := hInner
      exact .ok (t :: before) (.not ht hDerives) trivial
  · rw [hMissing]
    exact .error [t] (.behindNot ht hMissing)

private theorem Explained.operand {ts : List Located} (hFuel : 6 * ts.length + 2 ≤ fuel + 1) :
    Explains .operand ts (Parser.operand (fuel + 1) ts) := by
  cases ts with
  | nil => exact .error [] .nothingToRead
  | cons t ts =>
    rw [Parser.operand]
    cases ht : t.token with
    | word text =>
      obtain ⟨run, hts, hRun, hWords, hNext⟩ := moreWords_spec ts
      have hDerives : Derives .operand (next (moreWords ts).2) ((t :: run).map Located.token)
          (joinWords (text :: (moreWords ts).1)) := by
        rw [List.map_cons, ht, hRun]
        exact .run hWords hNext
      rw [hts, ← List.cons_append]
      simpa only [← hts] using Explains.ok _ hDerives trivial
    | phrase text =>
      by_cases hBlank : text.isBlank = true
      · simp only [hBlank, if_true]
        exact .error [] (.blankPhrase ht hBlank)
      · simp only [hBlank]
        refine .ok [t] ?_ trivial
        rw [List.map_singleton, ht]
        exact .phrase (by simpa using hBlank)
    | openParen => exact ih.group ht (by rw [List.length_cons] at hFuel; omega)
    | closeParen => exact .error [] (.strayClose ht)

private theorem Explained.groupStep {t : Located} {ts : List Located} (ht : t.token = .openParen)
    (hFuel : 6 * ts.length + 6 ≤ fuel + 1) : Explains .operand (t :: ts) (Parser.group (fuel + 1) (t :: ts) ts) := by
  rw [Parser.group]
  rcases expectOperand_cases .paren ts with hPresent | ⟨fault, hMissing⟩
  · have hInner : Explains .disjunction ts (Parser.disjunction fuel ts) :=
      ih.read .disjunction (by simp only [rank]; omega)
    rw [hPresent]
    cases hRead : Parser.disjunction fuel ts with
    | error fault =>
      rw [hRead] at hInner
      obtain ⟨before, rest, rfl, hBreaks⟩ := hInner
      exact .error (t :: before) (.inGroup ht hPresent hBreaks)
    | ok result =>
      obtain ⟨e, rest⟩ := result
      rw [hRead] at hInner
      obtain ⟨inner, rfl, hDerives, hStops⟩ := hInner
      by_cases hClose : next rest = some .closeParen
      · cases rest with
        | nil => cases hClose
        | cons c rest =>
          obtain ⟨token, offset⟩ := c
          obtain rfl : token = .closeParen := by simpa using hClose
          have hGroup : Derives .operand (next rest)
              ((t :: (inner ++ [⟨.closeParen, offset⟩])).map Located.token) e := by
            rw [List.map_cons, List.map_append, ht]
            exact .group hDerives
          -- the closing parenthesis is the last token of the operand
          rw [List.append_cons, ← List.cons_append]
          exact Explains.ok _ hGroup trivial
      · have hBreaks := Breaks.behindGroup ht hDerives hStops hClose
        rw [← List.cons_append]
        cases rest with
        | nil => exact .error _ hBreaks
        | cons c rest =>
          obtain ⟨token, offset⟩ := c
          cases token <;> first | exact absurd rfl hClose | exact .error _ hBreaks
  · rw [hMissing]
    exact .error [t] (.behindParen ht hMissing)

end

theorem explained (fuel : Nat) : Explained fuel := by
  induction fuel with
  | zero =>
    -- every call asks for some fuel, even for no tokens
    refine ⟨?_, fun _ _ _ _ _ _ h => absurd h (by omega), fun _ h => absurd h (by omega)⟩
    intro part ts h
    cases part <;> simp only [rank] at h <;> omega
  | succ fuel ih =>
    refine ⟨?_, ?_, fun ht hFuel => ih.groupStep ht hFuel⟩
    · intro part ts hFuel
      cases part with
      | disjunction => exact ih.disjunction hFuel
      | conjunction => exact ih.conjunction hFuel
      | negation => exact ih.negation hFuel
      | operand => exact ih.operand hFuel
    · intro part before ts e hDerives hAnd hFuel
      cases part with
      | disjunction => exact ih.moreDisjuncts hDerives (hAnd rfl) hFuel
      | conjunction => exact ih.moreConjuncts hDerives hFuel
      | negation => exact .ok _ hDerives trivial
      | operand => exact .ok _ hDerives trivial

/-- With enough fuel, every reading is explained. -/
theorem read_explained {part : Part} {fuel : Nat} {ts : List Located} (hFuel : 6 * ts.length + rank part ≤ fuel) :
    Explains part ts (read part fuel ts) :=
  (explained fuel).read part hFuel

end TextQuery.Parser
