import Mathlib.Data.List.DropRight
import TextQuery.Proofs.Query.Grammar

/-!
# What is open at a token

A walk over the tokens of a query keeps a list of what is open: pairs of parentheses, and negations whose operand is not
at its end.  It also counts the operators that have stood between the innermost parentheses.

A part of a query leaves behind what was open in front of it, but for negations that have got their operand
(`run_of_derives`).
-/

namespace TextQuery

open Grammar

/-- What can be open. -/
inductive Pending where
  | negation
  /-- A pair of parentheses, with the number of operators in front of it on the same level. -/
  | paren (joined : Nat)
  deriving DecidableEq, Repr

/-- Whether it is a negation that is open. -/
def Pending.isNegation : Pending → Bool
  | negation => true
  | paren _ => false

/-- Where a walk over the tokens of a query stands. -/
structure Place where
  /-- What is open, the innermost first. -/
  pending : List Pending
  /-- The number of `AND` and `OR` operators so far between the innermost parentheses. -/
  joined : Nat
  /-- Whether an operand begins with the next token. -/
  wantsOperand : Bool
  deriving DecidableEq, Repr

/-- Whether a part can have operators of its own, outside of all parentheses in it. -/
def Grammar.Part.isChain : Part → Bool
  | disjunction => true
  | conjunction => true
  | negation => false
  | operand => false

namespace Place

/-- The place in front of all tokens. -/
def start : Place := ⟨[], 0, true⟩

/-- What is open when the negations at the innermost end have got their operand. -/
def settled (p : Place) : List Pending := p.pending.dropWhile Pending.isNegation

/-- The place behind a token that opens something. -/
def opening (p : Place) (x : Pending) (joined : Nat) : Place := ⟨x :: p.pending, joined, true⟩

/-- The place behind a token. -/
def step (p : Place) (t : Token) : Place :=
  if p.wantsOperand then
    if t.spells .not then p.opening .negation p.joined
    else if t = .openParen then p.opening (.paren p.joined) 0
    else { p with wantsOperand := false }
  else if t.spells .and || t.spells .or then ⟨p.settled, p.joined + 1, true⟩
  else if t = .closeParen then
    match p.settled with
    | .paren joined :: outer => ⟨outer, joined, false⟩
    | _ => p
  else p

/-- The place behind all tokens. -/
def run (p : Place) (ts : List Token) : Place := ts.foldl step p

/-- The places behind each of the tokens. -/
def along (p : Place) : List Token → List Place
  | [] => []
  | t :: ts => p.step t :: (p.step t).along ts

variable {p q : Place} {t : Token} {ts us : List Token}

@[simp] theorem length_pending_opening (p : Place) (x : Pending) (joined : Nat) :
    (p.opening x joined).pending.length = p.pending.length + 1 := rfl

@[simp] theorem joined_opening (p : Place) (x : Pending) (joined : Nat) : (p.opening x joined).joined = joined := rfl

@[simp] theorem run_nil (p : Place) : p.run [] = p := rfl

@[simp] theorem run_cons (p : Place) (t : Token) (ts : List Token) : p.run (t :: ts) = (p.step t).run ts := rfl

@[simp] theorem run_append (p : Place) (ts us : List Token) : p.run (ts ++ us) = (p.run ts).run us :=
  List.foldl_append

@[simp] theorem along_nil (p : Place) : p.along [] = [] := rfl

@[simp] theorem along_cons (p : Place) (t : Token) (ts : List Token) :
    p.along (t :: ts) = p.step t :: (p.step t).along ts := rfl

@[simp] theorem along_append (p : Place) (ts us : List Token) :
    p.along (ts ++ us) = p.along ts ++ (p.run ts).along us := by
  induction ts generalizing p with
  | nil => rfl
  | cons t ts ih => simp [ih]

theorem run_mem_along (h : ts ≠ []) : p.run ts ∈ p.along ts := by
  induction ts generalizing p with
  | nil => exact absurd rfl h
  | cons t ts ih =>
    cases ts with
    | nil => simp
    | cons u ts => exact List.mem_cons_of_mem _ (ih (List.cons_ne_nil u ts))

/-! ### What a token does -/

theorem step_not (hWants : p.wantsOperand = true) (ht : t.spells .not = true) :
    p.step t = p.opening .negation p.joined := by
  simp [step, hWants, ht]

theorem step_openParen (hWants : p.wantsOperand = true) :
    p.step .openParen = p.opening (.paren p.joined) 0 := by
  simp [step, hWants, Token.spells]

theorem step_operand (hWants : p.wantsOperand = true) (hNot : t.spells .not = false) (hOpen : t ≠ .openParen) :
    p.step t = { p with wantsOperand := false } := by
  simp [step, hWants, hNot, hOpen]

theorem step_operator (hWants : p.wantsOperand = false) {k : Keyword} (ht : t.spells k = true) (hk : k ≠ .not) :
    p.step t = ⟨p.settled, p.joined + 1, true⟩ := by
  cases k with
  | and => simp [step, hWants, ht]
  | or => simp [step, hWants, ht]
  | not => exact absurd rfl hk

theorem step_closeParen (hWants : p.wantsOperand = false) {joined : Nat} {outer : List Pending}
    (hSettled : p.settled = .paren joined :: outer) : p.step .closeParen = ⟨outer, joined, false⟩ := by
  simp [step, hWants, hSettled, Token.spells]

theorem step_word (hWants : p.wantsOperand = false) {w : Text}
    (hw : Keyword.and.spells w = false ∧ Keyword.or.spells w = false) : p.step (.word w) = p := by
  simp [step, hWants, Token.spells, hw]

theorem run_words (hWants : p.wantsOperand = false) {words : List Text}
    (hWords : ∀ w ∈ words, Keyword.and.spells w = false ∧ Keyword.or.spells w = false) : p.run (words.map .word) = p := by
  induction words with
  | nil => rfl
  | cons w words ih =>
    rw [List.forall_mem_cons] at hWords
    rw [List.map_cons, run_cons, step_word hWants hWords.1, ih hWords.2]

/-! ### What a part of a query does -/

/-- Whether one place comes from another by passing over operands and the operators between them. -/
structure Passed (p q : Place) : Prop where
  wantsOperand : q.wantsOperand = false
  settled : q.settled = p.settled
  joined_le : p.joined ≤ q.joined

/-- The place behind an operator whose left side begins at one place and ends at another. -/
def joining (p q : Place) : Place := ⟨p.settled, q.joined + 1, true⟩

@[simp] theorem joined_joining (p q : Place) : (joining p q).joined = q.joined + 1 := rfl

@[simp] theorem pending_joining (p q : Place) : (joining p q).pending = p.settled := rfl

@[simp] theorem settled_joining (p q : Place) : (joining p q).settled = p.settled :=
  List.dropWhile_idempotent _ _

theorem Passed.operator (h : Passed p q) {k : Keyword} (ht : t.spells k = true) (hk : k ≠ .not) :
    q.step t = joining p q := by
  rw [step_operator h.wantsOperand ht hk, h.settled, joining]

/-- A chain of operands is passed over when a shorter one is, and the operand behind its last operator. -/
theorem Passed.chain (hLeft : Passed p (p.run ts)) {k : Keyword} (ht : t.spells k = true) (hk : k ≠ .not)
    (hRight : Passed (joining p (p.run ts)) ((joining p (p.run ts)).run us)) : Passed p (p.run (ts ++ t :: us)) := by
  rw [run_append, run_cons, hLeft.operator ht hk]
  refine ⟨hRight.wantsOperand, hRight.settled.trans (settled_joining p _), ?_⟩
  have hOver := hLeft.joined_le
  have hBehind : (p.run ts).joined + 1 ≤ ((joining p (p.run ts)).run us).joined := hRight.joined_le
  omega

/-- A part of a query is passed over.  Only a chain of operands has operators of its own, and no negation may wait for a
chain. -/
theorem run_of_derives {part : Part} {next : Option Token} {e : Expr} (h : Derives part next ts e)
    (hWants : p.wantsOperand = true) (hChain : part.isChain = true → p.settled = p.pending)
    (hNot : part = .operand → nextSpells .not ts.head? = false) :
    Passed p (p.run ts) ∧ (part.isChain = false → (p.run ts).joined = p.joined) := by
  induction h generalizing p with
  | conjunction _ ih => exact ⟨(ih hWants (fun _ => hChain rfl) nofun).1, nofun⟩
  | @or _ ts _ _ _ _ _ ht _ ihLeft ihRight =>
    have hLeft := (ihLeft hWants hChain nofun).1
    have hRight := (ihRight (p := joining p (p.run ts)) rfl (fun _ => settled_joining p _) nofun).1
    exact ⟨hLeft.chain ht (by decide) hRight, nofun⟩
  | negation _ ih => exact ⟨(ih hWants nofun nofun).1, nofun⟩
  | @and _ ts _ _ _ _ _ ht _ ihLeft ihRight =>
    have hLeft := (ihLeft hWants hChain nofun).1
    have hRight := (ihRight (p := joining p (p.run ts)) rfl nofun nofun).1
    exact ⟨hLeft.chain ht (by decide) hRight, nofun⟩
  | not ht _ ih =>
    rw [run_cons, step_not hWants ht]
    obtain ⟨hPassed, hJoined⟩ := ih (p := p.opening .negation p.joined) rfl nofun nofun
    exact ⟨⟨hPassed.wantsOperand, hPassed.settled, hPassed.joined_le⟩, hJoined⟩
  | operand _ hFirst ih => exact ih hWants nofun (fun _ => hFirst)
  | group _ ih =>
    rw [run_cons, step_openParen hWants, run_append]
    -- inside, the operators are counted anew; behind, the count is what it was
    have hInside := (ih (p := p.opening (.paren p.joined) 0) rfl (fun _ => rfl) nofun).1
    rw [run_cons, run_nil, step_closeParen hInside.wantsOperand hInside.settled]
    exact ⟨⟨rfl, rfl, Nat.le_refl _⟩, fun _ => rfl⟩
  | phrase =>
    rw [run_cons, run_nil, step_operand hWants rfl (by simp)]
    exact ⟨⟨rfl, rfl, Nat.le_refl _⟩, fun _ => rfl⟩
  | @run _ word more hMore =>
    have hFirst : (Token.word word).spells .not = false := hNot rfl
    rw [run_cons, step_operand hWants hFirst (by simp), run_words rfl hMore]
    exact ⟨⟨rfl, rfl, Nat.le_refl _⟩, fun _ => rfl⟩

end Place

end TextQuery
