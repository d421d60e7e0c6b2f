import TextQuery.Query.Parser

/-!
# Recorded readings

The parser once more, with a record of what it does: which functions are called, inside of which calls and in front of
which tokens, which turns their loops take, and where a token is taken.  Without the record, the results are those of
the parser (`disjunction_result`, `formula_result`).
-/

namespace TextQuery.Parser.Recorded

/-- The functions that read tokens. -/
inductive Routine where
  | disjunction
  | conjunction
  | negation
  | operand
  | group
  | words
  deriving DecidableEq, Repr

/-- A call of a function, or a turn of its loop, with the tokens that are left when it begins. -/
structure Call where
  routine : Routine
  isTurn : Bool
  left : List Located
  deriving DecidableEq, Repr

inductive Event where
  /-- A call begins.  It is the first of the calls that are not finished, each made by the next one.  A turn of a loop
  is made by the turn before it, the first one by the call of the function. -/
  | call (stack : List Call)
  /-- The first of the tokens that are left is taken.  At the end of the query there is none to take. -/
  | take (left : List Located)
  deriving DecidableEq, Repr

/-- What comes of reading, and what is done for it. -/
structure Run (α : Type) where
  events : List Event
  result : Except SyntaxFault α

/-- What is done after a mistake is not done. -/
instance : Monad Run where
  pure a := ⟨[], .ok a⟩
  bind x f :=
    match x.result with
    | .ok a => ⟨x.events ++ (f a).events, (f a).result⟩
    | .error fault => ⟨x.events, .error fault⟩

/-! ### The parser with its record -/

/-- Nothing is recorded of a look at the next token. -/
def look {α : Type} (x : Except SyntaxFault α) : Run α := ⟨[], x⟩

def begin (c : Call) (stack : List Call) : Run (List Call) := ⟨[.call (c :: stack)], .ok (c :: stack)⟩

def take (ts : List Located) : Run (List Located) := ⟨[.take ts], .ok ts.tail⟩

/-- The words of a run.  A word that is an operator behind an operand ends a run that is begun. -/
def moreWords (stack : List Call) (begun : Bool) : List Located → Run (List Text × List Located)
  | [] => do
    let _ ← begin ⟨.words, true, []⟩ stack
    return ([], [])
  | t :: rest => do
    let stack ← begin ⟨.words, true, t :: rest⟩ stack
    match t.token with
    | .word text =>
      if begun && joinsOperands text then return ([], t :: rest)
      else do
        let _ ← take (t :: rest)
        let (words, rest') ← moreWords stack true rest
        return (text :: words, rest')
    | _ => return ([], t :: rest)

def words (stack : List Call) (ts : List Located) : Run (Expr × List Located) := do
  let stack ← begin ⟨.words, false, ts⟩ stack
  let (words, rest) ← moreWords stack false ts
  return (joinWords words, rest)

mutual

def disjunction : Nat → List Call → List Located → Run (Expr × List Located)
  | 0, _, ts => look (.error ⟨.outOfFuel, ts⟩)
  | fuel + 1, stack, ts => do
    let stack ← begin ⟨.disjunction, false, ts⟩ stack
    let (left, rest) ← conjunction fuel stack ts
    moreDisjuncts fuel stack left rest

def moreDisjuncts : Nat → List Call → Expr → List Located → Run (Expr × List Located)
  | 0, _, _, ts => look (.error ⟨.outOfFuel, ts⟩)
  | fuel + 1, stack, left, ts => do
    let stack ← begin ⟨.disjunction, true, ts⟩ stack
    match afterKeyword? .or ts with
    | none => return (left, ts)
    | some _ => do
      let rest ← take ts
      let _ ← look (expectOperand (.keyword .or) rest)
      let (right, rest') ← conjunction fuel stack rest
      moreDisjuncts fuel stack (.or left right) rest'

def conjunction : Nat → List Call → List Located → Run (Expr × List Located)
  | 0, _, ts => look (.error ⟨.outOfFuel, ts⟩)
  | fuel + 1, stack, ts => do
    let stack ← begin ⟨.conjunction, false, ts⟩ stack
    let (left, rest) ← negation fuel stack ts
    moreConjuncts fuel stack left rest

def moreConjuncts : Nat → List Call → Expr → List Located → Run (Expr × List Located)
  | 0, _, _, ts => look (.error ⟨.outOfFuel, ts⟩)
  | fuel + 1, stack, left, ts => do
    let stack ← begin ⟨.conjunction, true, ts⟩ stack
    match afterKeyword? .and ts with
    | none => return (left, ts)
    | some _ => do
      let rest ← take ts
      let _ ← look (expectOperand (.keyword .and) rest)
      let (right, rest') ← negation fuel stack rest
      moreConjuncts fuel stack (.and left right) rest'

def negation : Nat → List Call → List Located → Run (Expr × List Located)
  | 0, _, ts => look (.error ⟨.outOfFuel, ts⟩)
  | fuel + 1, stack, ts => do
    let stack ← begin ⟨.negation, false, ts⟩ stack
    match afterKeyword? .not ts with
    | none => operand fuel stack ts
    | some _ => do
      let rest ← take ts
      let _ ← look (expectOperand (.keyword .not) rest)
      let (inner, rest') ← negation fuel stack rest
      return (.not inner, rest')

def operand : Nat → List Call → List Located → Run (Expr × List Located)
  | 0, _, ts => look (.error ⟨.outOfFuel, ts⟩)
  | fuel + 1, stack, ts => do
    let stack ← begin ⟨.operand, false, ts⟩ stack
    match ts with
    | [] => look (.error ⟨.nothingToRead, []⟩)
    | t :: rest =>
      match t.token with
      | .word _ => words stack (t :: rest)
      | .phrase text =>
        if text.isBlank then look (.error ⟨.emptyPhrase, t :: rest⟩)
        else do
          let rest ← take (t :: rest)
          return (.leaf (.phrase text), rest)
      | .openParen => group fuel stack (t :: rest)
      | .closeParen => look (.error ⟨.strayClose, t :: rest⟩)

/-- The opening parenthesis is the first of the tokens. -/
def group : Nat → List Call → List Located → Run (Expr × List Located)
  | 0, _, ts => look (.error ⟨.outOfFuel, ts.tail⟩)
  | fuel + 1, stack, ts => do
    let stack ← begin ⟨.group, false, ts⟩ stack
    let inside ← take ts
    let _ ← look (expectOperand .paren inside)
    let (inner, rest) ← disjunction fuel stack inside
    match rest with
    | ⟨.closeParen, _⟩ :: _ => do
      let rest' ← take rest
      return (inner, rest')
    | _ => look (.error (unclosed ts rest))

end

def formula (ts : List Located) : Run Expr := do
  let (e, rest) ← disjunction (fuelFor ts) [] ts
  match rest with
  | [] => return e
  | t :: _ => look (.error ⟨if t.token = .closeParen then .strayClose else .missingOperator t.token, rest⟩)

/-! ### The results are those of the parser -/

section

variable {α β : Type}

theorem result_bind (x : Run α) (f : α → Run β) : (x >>= f).result = x.result >>= fun a => (f a).result := by
  obtain ⟨events, result⟩ := x
  cases result <;> rfl

theorem events_bind (x : Run α) (f : α → Run β) (event : Event) :
    event ∈ (x >>= f).events ↔ event ∈ x.events ∨ ∃ a, x.result = .ok a ∧ event ∈ (f a).events := by
  obtain ⟨events, result⟩ := x
  cases result with
  | error fault =>
    show event ∈ events ↔ _
    simp
  | ok a =>
    show event ∈ events ++ (f a).events ↔ _
    simp

@[simp] theorem result_begin_bind (c : Call) (stack : List Call) (f : List Call → Run β) :
    (begin c stack >>= f).result = (f (c :: stack)).result := rfl

@[simp] theorem result_take_bind (ts : List Located) (f : List Located → Run β) :
    (take ts >>= f).result = (f ts.tail).result := rfl

@[simp] theorem result_look (x : Except SyntaxFault α) : (look x).result = x := rfl

end

theorem eq_cons_of_afterKeyword? {k : Keyword} {ts rest : List Located} (h : afterKeyword? k ts = some rest) :
    ∃ t, ts = t :: rest := by
  cases ts with
  | nil => cases h
  | cons t ts =>
    rw [afterKeyword?] at h
    split at h
    · exact ⟨t, by rw [Option.some.inj h]⟩
    · cases h

theorem moreWords_result (stack : List Call) (ts : List Located) :
    (moreWords stack true ts).result = .ok (Parser.moreWords ts) := by
  induction ts generalizing stack with
  | nil => rfl
  | cons t rest ih =>
    obtain ⟨token, offset⟩ := t
    rw [moreWords, Parser.moreWords, result_begin_bind]
    cases token with
    | word text =>
      by_cases hJoins : joinsOperands text = true
      · simp only [hJoins, Bool.and_true, if_true]
        rfl
      · simp only [hJoins, Bool.and_false, Bool.false_eq_true, if_false, result_take_bind]
        rw [result_bind, ih]
        rfl
    | phrase text => rfl
    | openParen => rfl
    | closeParen => rfl

/-- The first word of a run may be any word. -/
theorem words_result (stack : List Call) (text : Text) (offset : Nat) (rest : List Located) :
    (words stack (⟨.word text, offset⟩ :: rest)).result =
      .ok (joinWords (text :: (Parser.moreWords rest).1), (Parser.moreWords rest).2) := by
  rw [words, result_begin_bind, result_bind, moreWords, result_begin_bind]
  simp only [Bool.false_and, Bool.false_eq_true, if_false, result_take_bind]
  rw [result_bind, moreWords_result]
  rfl

mutual

theorem disjunction_result : ∀ (fuel : Nat) (stack : List Call) (ts : List Located),
    (disjunction fuel stack ts).result = Parser.disjunction fuel ts
  | 0, _, _ => by rw [disjunction, Parser.disjunction, result_look]
  | fuel + 1, stack, ts => by
    rw [disjunction, Parser.disjunction, result_begin_bind, result_bind, conjunction_result fuel]
    exact bind_congr fun (left, rest) => moreDisjuncts_result fuel _ left rest

theorem moreDisjuncts_result : ∀ (fuel : Nat) (stack : List Call) (left : Expr) (ts : List Located),
    (moreDisjuncts fuel stack left ts).result = Parser.moreDisjuncts fuel left ts
  | 0, _, _, _ => by rw [moreDisjuncts, Parser.moreDisjuncts, result_look]
  | fuel + 1, stack, left, ts => by
    rw [moreDisjuncts, Parser.moreDisjuncts, result_begin_bind]
    cases hOr : afterKeyword? .or ts with
    | none => rfl
    | some rest =>
      obtain ⟨t, rfl⟩ := eq_cons_of_afterKeyword? hOr
      simp only [result_take_bind, List.tail_cons]
      rw [result_bind, result_look]
      refine bind_congr fun _ => ?_
      rw [result_bind, conjunction_result fuel]
      exact bind_congr fun (right, rest') => moreDisjuncts_result fuel _ (.or left right) rest'

theorem conjunction_result : ∀ (fuel : Nat) (stack : List Call) (ts : List Located),
    (conjunction fuel stack ts).result = Parser.conjunction fuel ts
  | 0, _, _ => by rw [conjunction, Parser.conjunction, result_look]
  | fuel + 1, stack, ts => by
    rw [conjunction, Parser.conjunction, result_begin_bind, result_bind, negation_result fuel]
    exact bind_congr fun (left, rest) => moreConjuncts_result fuel _ left rest

theorem moreConjuncts_result : ∀ (fuel : Nat) (stack : List Call) (left : Expr) (ts : List Located),
    (moreConjuncts fuel stack left ts).result = Parser.moreConjuncts fuel left ts
  | 0, _, _, _ => by rw [moreConjuncts, Parser.moreConjuncts, result_look]
  | fuel + 1, stack, left, ts => by
    rw [moreConjuncts, Parser.moreConjuncts, result_begin_bind]
    cases hAnd : afterKeyword? .and ts with
    | none => rfl
    | some rest =>
      obtain ⟨t, rfl⟩ := eq_cons_of_afterKeyword? hAnd
      simp only [result_take_bind, List.tail_cons]
      rw [result_bind, result_look]
      refine bind_congr fun _ => ?_
      rw [result_bind, negation_result fuel]
      exact bind_congr fun (right, rest') => moreConjuncts_result fuel _ (.and left right) rest'

theorem negation_result : ∀ (fuel : Nat) (stack : List Call) (ts : List Located),
    (negation fuel stack ts).result = Parser.negation fuel ts
  | 0, _, _ => by rw [negation, Parser.negation, result_look]
  | fuel + 1, stack, ts => by
    rw [negation, Parser.negation, result_begin_bind]
    cases hNot : afterKeyword? .not ts with
    | none => exact operand_result fuel _ ts
    | some rest =>
      obtain ⟨t, rfl⟩ := eq_cons_of_afterKeyword? hNot
      simp only [result_take_bind, List.tail_cons]
      rw [result_bind, result_look]
      refine bind_congr fun _ => ?_
      rw [result_bind, negation_result fuel]
      exact bind_congr fun (inner, rest') => rfl

theorem operand_result : ∀ (fuel : Nat) (stack : List Call) (ts : List Located),
    (operand fuel stack ts).result = Parser.operand fuel ts
  | 0, _, _ => by rw [operand, Parser.operand, result_look]
  | fuel + 1, stack, [] => by rw [operand, Parser.operand, result_begin_bind, result_look]
  | fuel + 1, stack, ⟨token, offset⟩ :: rest => by
    rw [operand, Parser.operand, result_begin_bind]
    cases token with
    | word text => exact words_result _ text offset rest
    | phrase text =>
      by_cases hBlank : text.isBlank = true
      · simp only [hBlank, if_true]
        rfl
      · simp only [hBlank]
        rfl
    | openParen => exact group_result fuel _ ⟨.openParen, offset⟩ rest
    | closeParen => rfl

theorem group_result : ∀ (fuel : Nat) (stack : List Call) (t : Located) (rest : List Located),
    (group fuel stack (t :: rest)).result = Parser.group fuel (t :: rest) rest
  | 0, _, _, _ => by rw [group, Parser.group, result_look, List.tail_cons]
  | fuel + 1, stack, t, rest => by
    rw [group, Parser.group, result_begin_bind, result_take_bind, List.tail_cons, result_bind, result_look]
    refine bind_congr fun _ => ?_
    rw [result_bind, disjunction_result fuel]
    refine bind_congr fun (inner, rest') => ?_
    cases rest' with
    | nil => rfl
    | cons u rest' =>
      obtain ⟨token, offset⟩ := u
      cases token <;> rfl

end

theorem formula_result (ts : List Located) : (formula ts).result = Parser.formula ts := by
  rw [formula, Parser.formula, result_bind, disjunction_result]
  refine bind_congr fun (e, rest) => ?_
  cases rest <;> rfl

end TextQuery.Parser.Recorded
