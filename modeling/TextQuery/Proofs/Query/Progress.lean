import Mathlib.Data.List.Chain
import TextQuery.Proofs.Query.Faults
import TextQuery.Proofs.Query.Record

/-!
# Reading goes forward

A call is made in front of the same tokens by a function that comes earlier in the grammar, or behind tokens that have
been taken since (`Calls`).  The recorded calls are made in no other way (`disjunction_orderly`), so tokens have been
taken between two calls of one function, one inside of the other, and between two turns of one loop.  This bounds how
deep calls are nested (`IsStack.length_le`).
-/

namespace TextQuery.Parser

open Grammar

/-! ### Any fuel that suffices -/

/-- More fuel than suffices does not change what is read. -/
theorem read_eq_of_le {part : Part} {fuel fuel' : Nat} {ts : List Located} (hFuel : 6 * ts.length + rank part ≤ fuel)
    (hLe : fuel ≤ fuel') : read part fuel' ts = read part fuel ts := by
  have hRead : Explains part ts (read part fuel ts) := read_explained hFuel
  cases h : read part fuel ts with
  | ok result =>
    obtain ⟨e, rest⟩ := result
    rw [h] at hRead
    obtain ⟨before, rfl, hDerives, hStops⟩ := hRead
    exact read_eq_ok hDerives hStops (Nat.le_trans hFuel hLe)
  | error fault =>
    rw [h] at hRead
    obtain ⟨before, rest, rfl, hBreaks⟩ := hRead
    exact read_eq_error hBreaks (Nat.le_trans hFuel hLe)

namespace Recorded

/-! ### Places behind others -/

/-- Whether some of the tokens have been taken when the rest is left. -/
def FurtherOn (ts rest : List Located) : Prop := ∃ taken, taken ≠ [] ∧ ts = taken ++ rest

theorem furtherOn_cons (t : Located) (rest : List Located) : FurtherOn (t :: rest) rest :=
  ⟨[t], List.cons_ne_nil t [], rfl⟩

theorem FurtherOn.suffix {ts rest : List Located} (h : FurtherOn ts rest) : rest <:+ ts := by
  obtain ⟨taken, -, rfl⟩ := h
  exact List.suffix_append taken rest

theorem FurtherOn.of_suffix {ts rest rest' : List Located} (h : FurtherOn ts rest) (hRest : rest' <:+ rest) :
    FurtherOn ts rest' := by
  obtain ⟨taken, hTaken, rfl⟩ := h
  obtain ⟨more, rfl⟩ := hRest
  exact ⟨taken ++ more, List.append_ne_nil_of_left_ne_nil hTaken more, (List.append_assoc ..).symm⟩

theorem FurtherOn.length_lt {ts rest : List Located} (h : FurtherOn ts rest) : rest.length < ts.length := by
  obtain ⟨taken, hTaken, rfl⟩ := h
  have hPos := List.length_pos_iff.2 hTaken
  rw [List.length_append]
  omega

/-! ### Which calls are made -/

/-- How many calls it takes at most from a function to the last one that it reaches without taking a token. -/
def Routine.rank : Routine → Nat
  | .disjunction => 5
  | .conjunction => 4
  | .negation => 3
  | .operand => 2
  | .group => 1
  | .words => 1

/-- A turn of a loop takes a token before it makes any call. -/
def rankOf (routine : Routine) (isTurn : Bool) : Nat := if isTurn then 0 else routine.rank

/-- What a call may call: something of lower rank in the place where it is itself, and further on the next turn of a
loop, or any function in front of what may begin an operand. -/
inductive Calls : Call → Call → Prop where
  | here {r r' : Routine} {isTurn isTurn' : Bool} {ts : List Located} (h : rankOf r' isTurn' < rankOf r isTurn) :
      Calls ⟨r, isTurn, ts⟩ ⟨r', isTurn', ts⟩
  | behind {r r' : Routine} {isTurn isTurn' : Bool} {ts rest : List Located} (hTaken : FurtherOn ts rest)
      (hNext : isTurn' = true ∨ ∃ t, next rest = some t ∧ t ≠ .closeParen) : Calls ⟨r, isTurn, ts⟩ ⟨r', isTurn', rest⟩

/-- Calls one inside of the other, the innermost first. -/
def IsStack (stack : List Call) : Prop := stack.IsChain fun inner outer => Calls outer inner

/-- What may happen in the innermost of the calls, and in those that are made by it. -/
def Fits (stack : List Call) : Event → Prop
  | .call inner => IsStack inner ∧ stack <:+ inner
  | .take left => left ≠ []

/-- Whether a run, in the innermost of the calls, does only what fits there and gives only results with a property. -/
def Orderly {α : Type} (stack : List Call) (x : Run α) (post : α → Prop) : Prop :=
  (∀ event ∈ x.events, Fits stack event) ∧ ∀ a, x.result = .ok a → post a

namespace Orderly

variable {α β : Type} {stack : List Call} {post : α → Prop} {post' : β → Prop}

theorem pure {a : α} (h : post a) : Orderly stack (pure a) post :=
  ⟨fun _ hMem => absurd hMem List.not_mem_nil, fun _ hResult => Except.ok.inj hResult ▸ h⟩

theorem look (x : Except SyntaxFault α) : Orderly stack (look x) fun a => x = .ok a :=
  ⟨fun _ hMem => absurd hMem List.not_mem_nil, fun _ hResult => hResult⟩

theorem error (fault : SyntaxFault) : Orderly stack (Recorded.look (.error fault)) post :=
  ⟨fun _ hMem => absurd hMem List.not_mem_nil, fun _ hResult => nomatch hResult⟩

theorem imp {x : Run α} {post' : α → Prop} (h : Orderly stack x post) (hPost : ∀ a, post a → post' a) :
    Orderly stack x post' :=
  ⟨h.1, fun a hResult => hPost a (h.2 a hResult)⟩

theorem bind {x : Run α} {f : α → Run β} (hx : Orderly stack x post) (hf : ∀ a, post a → Orderly stack (f a) post') :
    Orderly stack (x >>= f) post' := by
  constructor
  · intro event hMem
    rcases (events_bind x f event).1 hMem with hMem | ⟨a, hResult, hMem⟩
    · exact hx.1 event hMem
    · exact (hf a (hx.2 a hResult)).1 event hMem
  · intro b hResult
    rw [result_bind] at hResult
    cases hx' : x.result with
    | error fault =>
      rw [hx'] at hResult
      cases hResult
    | ok a =>
      rw [hx'] at hResult
      exact (hf a (hx.2 a hx')).2 b hResult

theorem behind_begin {c : Call} {f : List Call → Run β} (hStack : IsStack (c :: stack))
    (h : Orderly (c :: stack) (f (c :: stack)) post') : Orderly (c :: stack) (begin c stack >>= f) post' := by
  have hBegin : Orderly (c :: stack) (begin c stack) fun s => s = c :: stack := by
    refine ⟨fun event hMem => ?_, fun s hResult => (Except.ok.inj hResult).symm⟩
    obtain rfl := List.mem_singleton.1 hMem
    exact ⟨hStack, List.suffix_refl _⟩
  refine hBegin.bind ?_
  rintro _ rfl
  exact h

theorem behind_take {ts : List Located} {f : List Located → Run β} (hts : ts ≠ [])
    (h : Orderly stack (f ts.tail) post') : Orderly stack (take ts >>= f) post' := by
  have hTake : Orderly stack (take ts) fun rest => rest = ts.tail := by
    refine ⟨fun event hMem => ?_, fun rest hResult => (Except.ok.inj hResult).symm⟩
    obtain rfl := List.mem_singleton.1 hMem
    exact hts
  refine hTake.bind ?_
  rintro _ rfl
  exact h

/-- What is done by a call inside of another one is done by that one too. -/
theorem inside {c : Call} {x : Run α} (d : Call) (hStack : IsStack (c :: stack)) (hCalls : Calls c d)
    (h : IsStack (d :: c :: stack) → Orderly (d :: c :: stack) x post) : Orderly (c :: stack) x post := by
  obtain ⟨hEvents, hResult⟩ := h (List.isChain_cons_cons.2 ⟨hCalls, hStack⟩)
  refine ⟨fun event hMem => ?_, hResult⟩
  cases event with
  | call inner =>
    obtain ⟨hInner, hSuffix⟩ := hEvents _ hMem
    exact ⟨hInner, (List.suffix_cons d (c :: stack)).trans hSuffix⟩
  | take left => exact hEvents _ hMem

end Orderly

/-! ### Every reading is orderly -/

theorem moreWords_orderly (stack : List Call) (begun : Bool) (ts : List Located)
    (hStack : IsStack (⟨.words, true, ts⟩ :: stack)) :
    Orderly (⟨.words, true, ts⟩ :: stack) (moreWords stack begun ts) fun p => p.2 <:+ ts := by
  induction ts generalizing stack begun with
  | nil => exact .behind_begin hStack (.pure (List.suffix_refl []))
  | cons t rest ih =>
    obtain ⟨token, offset⟩ := t
    rw [moreWords]
    refine .behind_begin hStack ?_
    cases token with
    | word text =>
      by_cases hEnds : (begun && joinsOperands text) = true
      · simp only [hEnds, if_true]
        exact .pure (List.suffix_refl _)
      · simp only [hEnds]
        have hTaken := furtherOn_cons ⟨.word text, offset⟩ rest
        have hMore := Orderly.inside ⟨.words, true, rest⟩ hStack (.behind hTaken (.inl rfl)) (ih _ true)
        refine .behind_take (List.cons_ne_nil _ _) (.bind hMore ?_)
        rintro ⟨words, rest'⟩ hRest
        exact .pure (hRest.trans hTaken.suffix)
    | phrase text => exact .pure (List.suffix_refl _)
    | openParen => exact .pure (List.suffix_refl _)
    | closeParen => exact .pure (List.suffix_refl _)

theorem words_orderly (stack : List Call) (text : Text) (offset : Nat) (rest : List Located)
    (hStack : IsStack (⟨.words, false, ⟨.word text, offset⟩ :: rest⟩ :: stack)) :
    Orderly (⟨.words, false, ⟨.word text, offset⟩ :: rest⟩ :: stack) (words stack (⟨.word text, offset⟩ :: rest))
      fun p => FurtherOn (⟨.word text, offset⟩ :: rest) p.2 := by
  have hLoop := Orderly.inside ⟨.words, true, ⟨.word text, offset⟩ :: rest⟩ hStack (.here (by decide))
    (moreWords_orderly _ false _)
  have hEvents : Orderly (⟨.words, false, ⟨.word text, offset⟩ :: rest⟩ :: stack)
      (words stack (⟨.word text, offset⟩ :: rest)) fun _ => True :=
    .behind_begin hStack (.bind hLoop fun _ _ => .pure trivial)
  refine ⟨hEvents.1, fun p hResult => ?_⟩
  rw [words_result] at hResult
  obtain rfl := Except.ok.inj hResult
  obtain ⟨run, hRun, -⟩ := moreWords_spec rest
  exact (furtherOn_cons _ rest).of_suffix ⟨run, hRun.symm⟩

mutual

theorem disjunction_orderly : ∀ (fuel : Nat) (stack : List Call) (ts : List Located),
    IsStack (⟨.disjunction, false, ts⟩ :: stack) →
      Orderly (⟨.disjunction, false, ts⟩ :: stack) (disjunction fuel stack ts) fun p => FurtherOn ts p.2
  | 0, _, _, _ => .error _
  | fuel + 1, stack, ts, hStack => by
    rw [disjunction]
    have hFirst := Orderly.inside ⟨.conjunction, false, ts⟩ hStack (.here (by decide)) (conjunction_orderly fuel _ ts)
    refine .behind_begin hStack (.bind hFirst fun (left, rest) hLeft => ?_)
    have hMore := Orderly.inside ⟨.disjunction, true, rest⟩ hStack (.behind hLeft (.inl rfl))
      (moreDisjuncts_orderly fuel _ left rest)
    exact hMore.imp fun p hp => hLeft.of_suffix hp

theorem moreDisjuncts_orderly : ∀ (fuel : Nat) (stack : List Call) (left : Expr) (ts : List Located),
    IsStack (⟨.disjunction, true, ts⟩ :: stack) →
      Orderly (⟨.disjunction, true, ts⟩ :: stack) (moreDisjuncts fuel stack left ts) fun p => p.2 <:+ ts
  | 0, _, _, _, _ => .error _
  | fuel + 1, stack, left, ts, hStack => by
    rw [moreDisjuncts]
    refine .behind_begin hStack ?_
    cases hOr : afterKeyword? .or ts with
    | none => exact .pure (List.suffix_refl ts)
    | some rest =>
      obtain ⟨t, rfl⟩ := eq_cons_of_afterKeyword? hOr
      have hTaken := furtherOn_cons t rest
      refine .behind_take (List.cons_ne_nil t rest) (.bind (.look _) fun _ hPresent => ?_)
      have hRight := Orderly.inside ⟨.conjunction, false, rest⟩ hStack
        (.behind hTaken (.inr (expectOperand_eq_ok_iff.1 hPresent))) (conjunction_orderly fuel _ rest)
      refine .bind hRight fun (right, rest') hRest => ?_
      have hBehind := hTaken.of_suffix hRest.suffix
      have hMore := Orderly.inside ⟨.disjunction, true, rest'⟩ hStack (.behind hBehind (.inl rfl))
        (moreDisjuncts_orderly fuel _ (.or left right) rest')
      exact hMore.imp fun p hp => hp.trans hBehind.suffix

theorem conjunction_orderly : ∀ (fuel : Nat) (stack : List Call) (ts : List Located),
    IsStack (⟨.conjunction, false, ts⟩ :: stack) →
      Orderly (⟨.conjunction, false, ts⟩ :: stack) (conjunction fuel stack ts) fun p => FurtherOn ts p.2
  | 0, _, _, _ => .error _
  | fuel + 1, stack, ts, hStack => by
    rw [conjunction]
    have hFirst := Orderly.inside ⟨.negation, false, ts⟩ hStack (.here (by decide)) (negation_orderly fuel _ ts)
    refine .behind_begin hStack (.bind hFirst fun (left, rest) hLeft => ?_)
    have hMore := Orderly.inside ⟨.conjunction, true, rest⟩ hStack (.behind hLeft (.inl rfl))
      (moreConjuncts_orderly fuel _ left rest)
    exact hMore.imp fun p hp => hLeft.of_suffix hp

theorem moreConjuncts_orderly : ∀ (fuel : Nat) (stack : List Call) (left : Expr) (ts : List Located),
    IsStack (⟨.conjunction, true, ts⟩ :: stack) →
      Orderly (⟨.conjunction, true, ts⟩ :: stack) (moreConjuncts fuel stack left ts) fun p => p.2 <:+ ts
  | 0, _, _, _, _ => .error _
  | fuel + 1, stack, left, ts, hStack => by
    rw [moreConjuncts]
    refine .behind_begin hStack ?_
    cases hAnd : afterKeyword? .and ts with
    | none => exact .pure (List.suffix_refl ts)
    | some rest =>
      obtain ⟨t, rfl⟩ := eq_cons_of_afterKeyword? hAnd
      have hTaken := furtherOn_cons t rest
      refine .behind_take (List.cons_ne_nil t rest) (.bind (.look _) fun _ hPresent => ?_)
      have hRight := Orderly.inside ⟨.negation, false, rest⟩ hStack
        (.behind hTaken (.inr (expectOperand_eq_ok_iff.1 hPresent))) (negation_orderly fuel _ rest)
      refine .bind hRight fun (right, rest') hRest => ?_
      have hBehind := hTaken.of_suffix hRest.suffix
      have hMore := Orderly.inside ⟨.conjunction, true, rest'⟩ hStack (.behind hBehind (.inl rfl))
        (moreConjuncts_orderly fuel _ (.and left right) rest')
      exact hMore.imp fun p hp => hp.trans hBehind.suffix

theorem negation_orderly : ∀ (fuel : Nat) (stack : List Call) (ts : List Located),
    IsStack (⟨.negation, false, ts⟩ :: stack) →
      Orderly (⟨.negation, false, ts⟩ :: stack) (negation fuel stack ts) fun p => FurtherOn ts p.2
  | 0, _, _, _ => .error _
  | fuel + 1, stack, ts, hStack => by
    rw [negation]
    refine .behind_begin hStack ?_
    cases hNot : afterKeyword? .not ts with
    | none => exact .inside ⟨.operand, false, ts⟩ hStack (.here (by decide)) (operand_orderly fuel _ ts)
    | some rest =>
      obtain ⟨t, rfl⟩ := eq_cons_of_afterKeyword? hNot
      have hTaken := furtherOn_cons t rest
      refine .behind_take (List.cons_ne_nil t rest) (.bind (.look _) fun _ hPresent => ?_)
      have hInner := Orderly.inside ⟨.negation, false, rest⟩ hStack
        (.behind hTaken (.inr (expectOperand_eq_ok_iff.1 hPresent))) (negation_orderly fuel _ rest)
      exact .bind hInner fun (inner, rest') hRest => .pure (hTaken.of_suffix hRest.suffix)

theorem operand_orderly : ∀ (fuel : Nat) (stack : List Call) (ts : List Located),
    IsStack (⟨.operand, false, ts⟩ :: stack) →
      Orderly (⟨.operand, false, ts⟩ :: stack) (operand fuel stack ts) fun p => FurtherOn ts p.2
  | 0, _, _, _ => .error _
  | _ + 1, _, [], hStack => .behind_begin hStack (.error _)
  | fuel + 1, stack, ⟨token, offset⟩ :: rest, hStack => by
    rw [operand]
    refine .behind_begin hStack ?_
    cases token with
    | word text =>
      exact .inside ⟨.words, false, ⟨.word text, offset⟩ :: rest⟩ hStack (.here (by decide))
        (words_orderly _ text offset rest)
    | phrase text =>
      by_cases hBlank : text.isBlank = true
      · simp only [hBlank, if_true]
        exact .error _
      · simp only [hBlank]
        exact .behind_take (List.cons_ne_nil _ _) (.pure (furtherOn_cons _ rest))
    | openParen =>
      exact .inside ⟨.group, false, ⟨.openParen, offset⟩ :: rest⟩ hStack (.here (by decide))
        (group_orderly fuel _ ⟨.openParen, offset⟩ rest)
    | closeParen => exact .error _

theorem group_orderly : ∀ (fuel : Nat) (stack : List Call) (t : Located) (rest : List Located),
    IsStack (⟨.group, false, t :: rest⟩ :: stack) →
      Orderly (⟨.group, false, t :: rest⟩ :: stack) (group fuel stack (t :: rest)) fun p => FurtherOn (t :: rest) p.2
  | 0, _, _, _, _ => .error _
  | fuel + 1, stack, t, rest, hStack => by
    rw [group]
    have hTaken := furtherOn_cons t rest
    refine .behind_begin hStack (.behind_take (List.cons_ne_nil t rest) (.bind (.look _) fun _ hPresent => ?_))
    have hInner := Orderly.inside ⟨.disjunction, false, rest⟩ hStack
      (.behind hTaken (.inr (expectOperand_eq_ok_iff.1 hPresent))) (disjunction_orderly fuel _ rest)
    refine .bind hInner fun (inner, rest') hRest => ?_
    cases rest' with
    | nil => exact .error _
    | cons u rest' =>
      obtain ⟨token, offset⟩ := u
      have hBehind := hTaken.of_suffix (hRest.of_suffix (List.suffix_cons _ rest')).suffix
      cases token with
      | closeParen => exact .behind_take (List.cons_ne_nil _ _) (.pure hBehind)
      | word text => exact .error _
      | phrase text => exact .error _
      | openParen => exact .error _

end

/-! ### How deep calls are nested -/

/-- Whether one call may be made inside of another one: tokens have been taken since, or its rank is lower. -/
def IsInside (inner outer : Call) : Prop :=
  FurtherOn outer.left inner.left ∨
    (inner.left = outer.left ∧ rankOf inner.routine inner.isTurn < rankOf outer.routine outer.isTurn)

instance : Trans IsInside IsInside IsInside where
  trans {a b c} hab hbc := by
    rcases hab with hab | ⟨hab, hRank⟩
    · rcases hbc with hbc | ⟨hbc, -⟩
      · exact .inl (hbc.of_suffix hab.suffix)
      · exact .inl (hbc ▸ hab)
    · rcases hbc with hbc | ⟨hbc, hRank'⟩
      · exact .inl (hab ▸ hbc)
      · exact .inr ⟨hab.trans hbc, hRank.trans hRank'⟩

theorem Calls.isInside {c d : Call} (h : Calls c d) : IsInside d c := by
  cases h with
  | here hRank => exact .inr ⟨rfl, hRank⟩
  | behind hTaken _ => exact .inl hTaken

/-- Every call is inside of all that are not finished. -/
theorem IsStack.pairwise {stack : List Call} (h : IsStack stack) : stack.Pairwise IsInside :=
  (h.imp fun _ _ hCalls => hCalls.isInside).pairwise

theorem rankOf_lt (routine : Routine) (isTurn : Bool) : rankOf routine isTurn < 6 := by
  cases routine <;> cases isTurn <;> decide

/-- Tokens weigh more than ranks do. -/
def Call.measure (c : Call) : Nat := 6 * c.left.length + rankOf c.routine c.isTurn

theorem IsInside.measure_lt {inner outer : Call} (h : IsInside inner outer) : inner.measure < outer.measure := by
  unfold Call.measure
  rcases h with hTaken | ⟨hLeft, hRank⟩
  · have hShorter := hTaken.length_lt
    have hRank := rankOf_lt inner.routine inner.isTurn
    omega
  · rw [hLeft]
    omega

/-- Every call inside of another one takes some of the measure of the outermost. -/
theorem IsStack.measure_add_length {c bottom : Call} {stack : List Call} (h : IsStack (c :: stack))
    (hBottom : (c :: stack).getLast? = some bottom) : c.measure + stack.length ≤ bottom.measure := by
  induction stack generalizing c with
  | nil =>
    obtain rfl := Option.some.inj hBottom
    exact Nat.le_refl _
  | cons d stack ih =>
    obtain ⟨hCalls, hStack⟩ := List.isChain_cons_cons.1 h
    rw [List.getLast?_cons_cons] at hBottom
    have hRest := ih hStack hBottom
    have hLess := hCalls.isInside.measure_lt
    rw [List.length_cons]
    omega

/-- No more calls are nested than the outermost one has of its measure, and itself. -/
theorem IsStack.length_le {bottom : Call} {stack : List Call} (h : IsStack stack) (hBottom : [bottom] <:+ stack) :
    stack.length ≤ 6 * bottom.left.length + 6 := by
  obtain ⟨inner, rfl⟩ := hBottom
  have hSome : inner ++ [bottom] ≠ [] := List.append_ne_nil_of_right_ne_nil inner (List.cons_ne_nil bottom [])
  obtain ⟨c, rest, hCons⟩ := List.exists_cons_of_ne_nil hSome
  have hLast : (c :: rest).getLast? = some bottom := by rw [← hCons, List.getLast?_concat]
  rw [hCons] at h ⊢
  have hLength := h.measure_add_length hLast
  have hRank := rankOf_lt bottom.routine bottom.isTurn
  unfold Call.measure at hLength
  rw [List.length_cons]
  omega

/-! ### The functions of the parser -/

/-- What a function of the parser reads.  Words are read by the function for operands, in front of a word. -/
def Routine.answer : Routine → Nat → List Located → Reading
  | .disjunction, fuel, ts => Parser.disjunction fuel ts
  | .conjunction, fuel, ts => Parser.conjunction fuel ts
  | .negation, fuel, ts => Parser.negation fuel ts
  | .operand, fuel, ts => Parser.operand fuel ts
  | .group, fuel, ts => Parser.group fuel ts ts.tail
  | .words, fuel, ts => Parser.operand fuel ts

/-- What it does for that, when nothing else has been called before. -/
def Routine.perform : Routine → Nat → List Located → Run (Expr × List Located)
  | .disjunction, fuel, ts => Recorded.disjunction fuel [] ts
  | .conjunction, fuel, ts => Recorded.conjunction fuel [] ts
  | .negation, fuel, ts => Recorded.negation fuel [] ts
  | .operand, fuel, ts => Recorded.operand fuel [] ts
  | .group, fuel, ts => Recorded.group fuel [] ts
  | .words, _, ts => Recorded.words [] ts

/-- Where a function is called: the two that read one kind of operand only, in front of one. -/
def Routine.EntersAt : Routine → List Located → Prop
  | .group, ts => next ts = some .openParen
  | .words, ts => ∃ text, next ts = some (.word text)
  | _, _ => True

theorem exists_cons_of_next {ts : List Located} {token : Token} (h : next ts = some token) :
    ∃ offset rest, ts = ⟨token, offset⟩ :: rest := by
  cases ts with
  | nil => cases h
  | cons t ts =>
    obtain rfl := Option.some.inj h
    exact ⟨t.offset, ts, rfl⟩

variable {r : Routine} {ts : List Located}

/-- What a function reads is read as a part of a query. -/
theorem Routine.exists_part (h : r.EntersAt ts) :
    ∃ part extra, ∀ fuel, r.answer fuel ts = read part (fuel + extra) ts := by
  cases r with
  | disjunction => exact ⟨.disjunction, 0, fun _ => rfl⟩
  | conjunction => exact ⟨.conjunction, 0, fun _ => rfl⟩
  | negation => exact ⟨.negation, 0, fun _ => rfl⟩
  | operand => exact ⟨.operand, 0, fun _ => rfl⟩
  | words => exact ⟨.operand, 0, fun _ => rfl⟩
  | group =>
    obtain ⟨offset, rest, rfl⟩ := exists_cons_of_next h
    exact ⟨.operand, 1, fun fuel => by rw [read, Parser.operand]; rfl⟩

theorem Routine.result_perform (h : r.EntersAt ts) {fuel : Nat} (hFuel : 1 ≤ fuel) :
    (r.perform fuel ts).result = r.answer fuel ts := by
  obtain ⟨fuel, rfl⟩ := Nat.exists_eq_add_of_le' hFuel
  cases r with
  | disjunction => exact disjunction_result _ [] ts
  | conjunction => exact conjunction_result _ [] ts
  | negation => exact negation_result _ [] ts
  | operand => exact operand_result _ [] ts
  | words =>
    obtain ⟨text, h⟩ := h
    obtain ⟨offset, rest, rfl⟩ := exists_cons_of_next h
    rw [Routine.answer, Parser.operand]
    exact words_result [] text offset rest
  | group =>
    obtain ⟨offset, rest, rfl⟩ := exists_cons_of_next h
    exact group_result _ [] _ rest

theorem Routine.perform_orderly (h : r.EntersAt ts) (fuel : Nat) :
    Orderly [⟨r, false, ts⟩] (r.perform fuel ts) fun p => FurtherOn ts p.2 := by
  have hStack : IsStack [⟨r, false, ts⟩] := .singleton _
  cases r with
  | disjunction => exact disjunction_orderly fuel [] ts hStack
  | conjunction => exact conjunction_orderly fuel [] ts hStack
  | negation => exact negation_orderly fuel [] ts hStack
  | operand => exact operand_orderly fuel [] ts hStack
  | words =>
    obtain ⟨text, h⟩ := h
    obtain ⟨offset, rest, rfl⟩ := exists_cons_of_next h
    exact words_orderly [] text offset rest hStack
  | group =>
    obtain ⟨offset, rest, rfl⟩ := exists_cons_of_next h
    exact group_orderly fuel [] _ rest hStack

theorem Routine.furtherOn_of_answer {fuel : Nat} {e : Expr} {rest : List Located}
    (h : r.answer fuel ts = .ok (e, rest)) : FurtherOn ts rest := by
  have hOperand (h : Parser.operand fuel ts = .ok (e, rest)) : FurtherOn ts rest := by
    rw [← operand_result fuel [] ts] at h
    exact (operand_orderly fuel [] ts (.singleton _)).2 _ h
  cases r with
  | disjunction =>
    rw [answer, ← disjunction_result fuel [] ts] at h
    exact (disjunction_orderly fuel [] ts (.singleton _)).2 _ h
  | conjunction =>
    rw [answer, ← conjunction_result fuel [] ts] at h
    exact (conjunction_orderly fuel [] ts (.singleton _)).2 _ h
  | negation =>
    rw [answer, ← negation_result fuel [] ts] at h
    exact (negation_orderly fuel [] ts (.singleton _)).2 _ h
  | operand => exact hOperand h
  | words => exact hOperand h
  | group =>
    rw [answer] at h
    cases ts with
    | nil => cases fuel <;> cases h
    | cons t ts =>
      rw [List.tail_cons, ← group_result fuel [] t ts] at h
      exact (group_orderly fuel [] t ts (.singleton _)).2 _ h

/-- So much fuel suffices for every function. -/
theorem Routine.answer_of_le (h : r.EntersAt ts) {fuel fuel' : Nat} (hFuel : 6 * ts.length + 6 ≤ fuel)
    (hLe : fuel ≤ fuel') :
    r.answer fuel' ts = r.answer fuel ts ∧ ∀ rest, r.answer fuel ts ≠ .error ⟨.outOfFuel, rest⟩ := by
  obtain ⟨part, extra, hPart⟩ := exists_part h
  have hSuffices : 6 * ts.length + Parser.rank part ≤ fuel + extra := by
    cases part <;> simp only [Parser.rank] <;> omega
  rw [hPart, hPart]
  refine ⟨read_eq_of_le hSuffices (by omega), fun rest hError => ?_⟩
  have hRead : Explains part ts (read part (fuel + extra) ts) := read_explained hSuffices
  rw [hError] at hRead
  obtain ⟨before, rest', -, hBreaks⟩ := hRead
  exact hBreaks.agrees

theorem FurtherOn.exists_position {tokens rest : List Located} {i : Nat} (h : FurtherOn (tokens.drop i) rest) :
    ∃ j, i < j ∧ j ≤ tokens.length ∧ rest = tokens.drop j := by
  obtain ⟨taken, hTaken, hDrop⟩ := h
  have hPos := List.length_pos_iff.2 hTaken
  have hLength := congrArg List.length hDrop
  rw [List.length_drop, List.length_append] at hLength
  refine ⟨i + taken.length, by omega, by omega, ?_⟩
  rw [← List.drop_drop, hDrop, List.drop_left]

/-- Wherever a function of the parser begins, it gives a formula only further on, and not behind the end.  It ends, on
fuel that grows with the number of tokens, and takes no token where there is none.  So many calls are nested at most;
and between two of one function, one inside of the other, or two turns of one loop, a token has been taken. -/
theorem descent_progresses (r : Routine) (tokens : List Located) (i : Nat) :
    (∀ fuel e rest, r.answer fuel (tokens.drop i) = .ok (e, rest) →
      ∃ j, i < j ∧ j ≤ tokens.length ∧ rest = tokens.drop j) ∧
    (r.EntersAt (tokens.drop i) → ∀ fuel, 6 * (tokens.drop i).length + 6 ≤ fuel →
      (r.perform fuel (tokens.drop i)).result = r.answer fuel (tokens.drop i) ∧
      (∀ fuel', fuel ≤ fuel' → r.answer fuel' (tokens.drop i) = r.answer fuel (tokens.drop i)) ∧
      (∀ rest, r.answer fuel (tokens.drop i) ≠ .error ⟨.outOfFuel, rest⟩) ∧
      (∀ left, .take left ∈ (r.perform fuel (tokens.drop i)).events → left ≠ []) ∧
      ∀ stack, .call stack ∈ (r.perform fuel (tokens.drop i)).events →
        stack.length ≤ 6 * (tokens.drop i).length + 6 ∧
        stack.Pairwise fun inner outer => inner.routine = outer.routine → inner.isTurn = outer.isTurn →
          FurtherOn outer.left inner.left) := by
  refine ⟨fun fuel e rest hAnswer => (Routine.furtherOn_of_answer hAnswer).exists_position, ?_⟩
  intro hEnter fuel hFuel
  obtain ⟨hEvents, -⟩ := Routine.perform_orderly hEnter fuel
  refine ⟨Routine.result_perform hEnter (by omega), fun _ hLe => (Routine.answer_of_le hEnter hFuel hLe).1,
    (Routine.answer_of_le hEnter hFuel (Nat.le_refl fuel)).2, fun left hTake => hEvents _ hTake, ?_⟩
  intro stack hCall
  obtain ⟨hStack, hBottom⟩ := hEvents _ hCall
  refine ⟨hStack.length_le hBottom, hStack.pairwise.imp ?_⟩
  intro inner outer hInside hRoutine hTurn
  rcases hInside with hTaken | ⟨-, hRank⟩
  · exact hTaken
  · rw [hRoutine, hTurn] at hRank
    exact absurd hRank (Nat.lt_irrefl _)

/-- A group is read up to the word behind it, and inside of it one negation is read inside of another. -/
theorem descent_progresses_through_group :
    let tokens : List Located := [⟨.word ['x'], 0⟩, ⟨.openParen, 2⟩, ⟨.word ['a'], 3⟩, ⟨.word ['o', 'r'], 5⟩,
      ⟨.word ['n', 'o', 't'], 8⟩, ⟨.word ['b'], 12⟩, ⟨.closeParen, 13⟩, ⟨.word ['c'], 15⟩]
    let stack : List Call := [⟨.negation, false, tokens.drop 5⟩, ⟨.negation, false, tokens.drop 4⟩,
      ⟨.conjunction, false, tokens.drop 4⟩, ⟨.disjunction, true, tokens.drop 3⟩, ⟨.disjunction, false, tokens.drop 2⟩,
      ⟨.group, false, tokens.drop 1⟩]
    (Routine.answer .group 48 (tokens.drop 1) =
        .ok (.or (.leaf (.words ['a'])) (.not (.leaf (.words ['b']))), [⟨.word ['c'], 15⟩]) ∧
      ∃ j, 1 < j ∧ j ≤ tokens.length ∧ [⟨.word ['c'], 15⟩] = tokens.drop j) ∧
    Routine.EntersAt .group (tokens.drop 1) ∧ 6 * (tokens.drop 1).length + 6 ≤ 48 ∧
      .call stack ∈ (Routine.perform .group 48 (tokens.drop 1)).events ∧
      stack.length ≤ 6 * (tokens.drop 1).length + 6 ∧ FurtherOn (tokens.drop 4) (tokens.drop 5) := by
  intro tokens stack
  have hAnswer : Routine.answer .group 48 (tokens.drop 1) =
      .ok (.or (.leaf (.words ['a'])) (.not (.leaf (.words ['b']))), [⟨.word ['c'], 15⟩]) := by decide
  have hEnter : Routine.EntersAt .group (tokens.drop 1) := rfl
  have hFuel : 6 * (tokens.drop 1).length + 6 ≤ 48 := by decide
  have hCall : .call stack ∈ (Routine.perform .group 48 (tokens.drop 1)).events := by decide
  obtain ⟨hProgress, hEnds⟩ := descent_progresses .group tokens 1
  obtain ⟨-, -, -, -, hCalls⟩ := hEnds hEnter 48 hFuel
  obtain ⟨hLength, hPairs⟩ := hCalls stack hCall
  refine ⟨⟨hAnswer, hProgress 48 _ _ hAnswer⟩, hEnter, hFuel, hCall, hLength, ?_⟩
  exact (List.pairwise_cons.1 hPairs).1 _ List.mem_cons_self rfl rfl

end Recorded

end TextQuery.Parser
