import TextQuery.Query.Parser

/-!
# The layout of tokens in a text

`Lays offset t ts` says that a text, beginning at an offset, is a layout of the tokens `ts`: the tokens one behind the
other, with white space between them, and no word directly in front of a word.  The scan inverts it
(`tokens_eq_ok_iff`): between two characters it has read the beginning of a token, and what is left of the text
continues that token (`Continues`).
-/

namespace TextQuery.Lexer

/-- Whether a text can be a word. -/
def IsWord (w : Text) : Prop := w ≠ [] ∧ ∀ c ∈ w, breaksWord c = false

instance : DecidablePred IsWord := fun w =>
  decidable_of_iff (w ≠ [] ∧ w.any breaksWord = false) (by simp [IsWord])

/-- Whether a word ends in front of a text: the text is empty, or its first character ends words. -/
def EndsWord (t : Text) : Prop := ∀ c, t.head? = some c → breaksWord c = true

/-- The texts that are layouts of tokens, with the offset where they begin. -/
inductive Lays : Nat → Text → List Located → Prop where
  | done {offset : Nat} : Lays offset [] []
  | blank {offset : Nat} {c : Char} {t : Text} {ts : List Located} (hc : Unicode.isBlank c = true)
      (h : Lays (offset + c.utf8Size) t ts) : Lays offset (c :: t) ts
  | openParen {offset : Nat} {t : Text} {ts : List Located} (h : Lays (offset + 1) t ts) :
      Lays offset ('(' :: t) (⟨.openParen, offset⟩ :: ts)
  | closeParen {offset : Nat} {t : Text} {ts : List Located} (h : Lays (offset + 1) t ts) :
      Lays offset (')' :: t) (⟨.closeParen, offset⟩ :: ts)
  | phrase {offset : Nat} {p t : Text} {ts : List Located} (hp : '"' ∉ p)
      (h : Lays (offset + 1 + p.utf8Size + 1) t ts) :
      Lays offset ('"' :: (p ++ '"' :: t)) (⟨.phrase p, offset⟩ :: ts)
  /-- A word is as long as it can be. -/
  | word {offset : Nat} {w t : Text} {ts : List Located} (hw : IsWord w) (hEnd : EndsWord t)
      (h : Lays (offset + w.utf8Size) t ts) : Lays offset (w ++ t) (⟨.word w, offset⟩ :: ts)

/-! ### The kinds of characters -/

theorem breaksWord_eq_false_iff {c : Char} :
    breaksWord c = false ↔ Unicode.isBlank c = false ∧ c ≠ '"' ∧ c ≠ '(' ∧ c ≠ ')' := by
  simp [breaksWord, and_assoc]

theorem breaksWord_of_isBlank {c : Char} (hc : Unicode.isBlank c = true) : breaksWord c = true := by
  simp [breaksWord, hc]

/-- A character is blank, a quotation mark, a parenthesis, or part of a word. -/
private theorem kinds (c : Char) :
    Unicode.isBlank c = true ∨ c = '"' ∨ c = '(' ∨ c = ')' ∨ breaksWord c = false := by
  rw [breaksWord_eq_false_iff]
  by_cases hBlank : Unicode.isBlank c = true
  · exact .inl hBlank
  · by_cases hQuote : c = '"'
    · exact .inr (.inl hQuote)
    · by_cases hOpen : c = '('
      · exact .inr (.inr (.inl hOpen))
      · by_cases hClose : c = ')'
        · exact .inr (.inr (.inr (.inl hClose)))
        · exact .inr (.inr (.inr (.inr ⟨Bool.eq_false_iff.2 hBlank, hQuote, hOpen, hClose⟩)))

theorem endsWord_nil : EndsWord [] := by
  intro c h
  cases h

theorem endsWord_cons {c : Char} {t : Text} : EndsWord (c :: t) ↔ breaksWord c = true := by
  simp [EndsWord]

theorem EndsWord.append {t u : Text} (ht : EndsWord t) (hu : EndsWord u) : EndsWord (t ++ u) := by
  cases t with
  | nil => exact hu
  | cons c t => exact endsWord_cons.2 (endsWord_cons.1 ht)

/-! ### The first character of a text -/

private theorem begin_of_isBlank {offset : Nat} {c : Char} (hc : Unicode.isBlank c = true) :
    begin offset c = ([], .between) := by
  rw [begin, if_pos hc]

private theorem begin_of_letter {offset : Nat} {c : Char} (hc : breaksWord c = false) :
    begin offset c = ([], .inWord offset [c]) := by
  obtain ⟨hBlank, hQuote, hOpen, hClose⟩ := breaksWord_eq_false_iff.1 hc
  rw [begin, hBlank, if_neg Bool.false_ne_true, if_neg hQuote, if_neg hOpen, if_neg hClose]

/-- Whether a text, read on from a mode, ends the unfinished token and is a layout of the others behind it. -/
def Continues : Mode → Nat → Text → List Located → Prop
  | .between, offset, t, ts => Lays offset t ts
  | .inWord start done, offset, t, ts => ∃ w rest more, t = w ++ rest ∧ (∀ c ∈ w, breaksWord c = false) ∧
      EndsWord rest ∧ ts = ⟨.word (done.reverse ++ w), start⟩ :: more ∧ Lays (offset + w.utf8Size) rest more
  | .inPhrase start done, offset, t, ts => ∃ p rest more, t = p ++ '"' :: rest ∧ '"' ∉ p ∧
      ts = ⟨.phrase (done.reverse ++ p), start⟩ :: more ∧ Lays (offset + p.utf8Size + 1) rest more

private theorem lays_nil_iff {offset : Nat} {ts : List Located} : Lays offset [] ts ↔ ts = [] := by
  constructor
  · intro h
    generalize ht : ([] : Text) = t at h
    cases h with
    | done => rfl
    | word hw => exact absurd (List.append_eq_nil_iff.1 ht.symm).1 hw.1
    | _ => cases ht
  · rintro rfl
    exact .done

/-- A layout is read on as its first character says. -/
private theorem lays_cons_iff {offset : Nat} {c : Char} {t : Text} {ts : List Located} :
    Lays offset (c :: t) ts ↔
      ∃ more, ts = (begin offset c).1 ++ more ∧ Continues (begin offset c).2 (offset + c.utf8Size) t more := by
  constructor
  · intro h
    generalize hu : c :: t = u at h
    cases h with
    | done => cases hu
    | blank hc h =>
      obtain ⟨rfl, rfl⟩ := List.cons.inj hu
      rw [begin_of_isBlank hc]
      exact ⟨ts, rfl, h⟩
    | @openParen _ _ more h =>
      obtain ⟨rfl, rfl⟩ := List.cons.inj hu
      exact ⟨more, rfl, h⟩
    | @closeParen _ _ more h =>
      obtain ⟨rfl, rfl⟩ := List.cons.inj hu
      exact ⟨more, rfl, h⟩
    | @phrase _ p rest more hp h =>
      obtain ⟨rfl, rfl⟩ := List.cons.inj hu
      exact ⟨_, rfl, p, rest, more, rfl, hp, rfl, h⟩
    | @word _ w rest more hw hEnd h =>
      -- a word has a first character, which the scan keeps
      obtain ⟨d, w, rfl⟩ := List.exists_cons_of_ne_nil hw.1
      obtain ⟨rfl, rfl⟩ := List.cons.inj hu
      rw [begin_of_letter (hw.2 c List.mem_cons_self)]
      rw [Text.utf8Size_cons, ← Nat.add_assoc] at h
      exact ⟨_, rfl, w, rest, more, rfl, fun d hd => hw.2 d (List.mem_cons_of_mem c hd), hEnd, rfl, h⟩
  · rintro ⟨more, rfl, h⟩
    rcases kinds c with hc | rfl | rfl | rfl | hc
    · rw [begin_of_isBlank hc] at h ⊢
      exact .blank hc h
    · obtain ⟨p, rest, more, rfl, hp, rfl, h⟩ := h
      exact .phrase hp h
    · exact .openParen h
    · exact .closeParen h
    · rw [begin_of_letter hc] at h ⊢
      obtain ⟨w, rest, more, rfl, hw, hEnd, rfl, h⟩ := h
      refine .word (w := c :: w) ⟨List.cons_ne_nil c w, ?_⟩ hEnd ?_
      · exact List.forall_mem_cons.2 ⟨hc, hw⟩
      · rw [Text.utf8Size_cons, ← Nat.add_assoc]
        exact h

/-! ### The scan inverts layout -/

private theorem continues_nil_iff {mode : Mode} {offset : Nat} {ts : List Located} :
    Continues mode offset [] ts ↔ finish mode = .ok ts := by
  cases mode with
  | between =>
    rw [Continues, lays_nil_iff, finish]
    exact ⟨fun h => h ▸ rfl, fun h => (Except.ok.inj h).symm⟩
  | inWord start done =>
    constructor
    · rintro ⟨w, rest, more, ht, -, -, rfl, h⟩
      obtain ⟨rfl, rfl⟩ := List.append_eq_nil_iff.1 ht.symm
      obtain rfl := lays_nil_iff.1 h
      rw [finish, List.append_nil]
    · intro h
      obtain rfl := Except.ok.inj h
      refine ⟨[], [], [], rfl, ?_, endsWord_nil, ?_, .done⟩
      · intro c hc
        cases hc
      · rw [List.append_nil]
  | inPhrase start done =>
    constructor
    · rintro ⟨p, rest, more, ht, -⟩
      cases p with
      | nil => cases ht
      | cons c p => cases ht
    · intro h
      cases h

/-- What stands in front of a character and what was kept in reverse behind it. -/
private theorem reverse_cons_append (c : Char) (done w : Text) : (c :: done).reverse ++ w = done.reverse ++ c :: w := by
  rw [List.reverse_cons, List.append_assoc, List.singleton_append]

private theorem continues_letter_iff {start offset : Nat} {done : Text} {c : Char} {t : Text} {ts : List Located}
    (hc : breaksWord c = false) :
    Continues (.inWord start done) offset (c :: t) ts ↔
      Continues (.inWord start (c :: done)) (offset + c.utf8Size) t ts := by
  constructor
  · rintro ⟨w, rest, more, ht, hw, hEnd, rfl, h⟩
    cases w with
    | nil =>
      obtain rfl : c :: t = rest := ht
      rw [endsWord_cons.1 hEnd] at hc
      cases hc
    | cons d w =>
      obtain ⟨rfl, rfl⟩ := List.cons.inj ht
      rw [Text.utf8Size_cons, ← Nat.add_assoc] at h
      refine ⟨w, rest, more, rfl, fun d hd => hw d (List.mem_cons_of_mem c hd), hEnd, ?_, h⟩
      rw [reverse_cons_append]
  · rintro ⟨w, rest, more, rfl, hw, hEnd, rfl, h⟩
    refine ⟨c :: w, rest, more, rfl, List.forall_mem_cons.2 ⟨hc, hw⟩, hEnd, ?_, ?_⟩
    · rw [reverse_cons_append]
    · rw [Text.utf8Size_cons, ← Nat.add_assoc]
      exact h

private theorem continues_break_iff {start offset : Nat} {done : Text} {c : Char} {t : Text} {ts : List Located}
    (hc : breaksWord c = true) :
    Continues (.inWord start done) offset (c :: t) ts ↔
      ∃ more, ts = ⟨.word done.reverse, start⟩ :: more ∧ Lays offset (c :: t) more := by
  constructor
  · rintro ⟨w, rest, more, ht, hw, -, rfl, h⟩
    cases w with
    | nil =>
      obtain rfl : c :: t = rest := ht
      rw [List.append_nil]
      exact ⟨more, rfl, h⟩
    | cons d w =>
      obtain ⟨rfl, -⟩ := List.cons.inj ht
      rw [hw c List.mem_cons_self] at hc
      cases hc
  · rintro ⟨more, rfl, h⟩
    refine ⟨[], c :: t, more, rfl, ?_, endsWord_cons.2 hc, ?_, h⟩
    · intro d hd
      cases hd
    · rw [List.append_nil]

private theorem continues_quoted_iff {start offset : Nat} {done : Text} {c : Char} {t : Text} {ts : List Located}
    (hc : c ≠ '"') :
    Continues (.inPhrase start done) offset (c :: t) ts ↔
      Continues (.inPhrase start (c :: done)) (offset + c.utf8Size) t ts := by
  constructor
  · rintro ⟨p, rest, more, ht, hp, rfl, h⟩
    cases p with
    | nil => exact absurd (List.cons.inj ht).1 hc
    | cons d p =>
      obtain ⟨rfl, rfl⟩ := List.cons.inj ht
      rw [Text.utf8Size_cons, ← Nat.add_assoc] at h
      refine ⟨p, rest, more, rfl, fun hMem => hp (List.mem_cons_of_mem c hMem), ?_, h⟩
      rw [reverse_cons_append]
  · rintro ⟨p, rest, more, rfl, hp, rfl, h⟩
    refine ⟨c :: p, rest, more, rfl, ?_, ?_, ?_⟩
    · rintro (_ | ⟨_, hMem⟩)
      · exact hc rfl
      · exact hp hMem
    · rw [reverse_cons_append]
    · rw [Text.utf8Size_cons, ← Nat.add_assoc]
      exact h

private theorem continues_quote_iff {start offset : Nat} {done t : Text} {ts : List Located} :
    Continues (.inPhrase start done) offset ('"' :: t) ts ↔
      ∃ more, ts = ⟨.phrase done.reverse, start⟩ :: more ∧ Lays (offset + 1) t more := by
  constructor
  · rintro ⟨p, rest, more, ht, hp, rfl, h⟩
    cases p with
    | nil =>
      obtain ⟨-, rfl⟩ := List.cons.inj ht
      rw [List.append_nil]
      exact ⟨more, rfl, h⟩
    | cons d p =>
      obtain ⟨rfl, -⟩ := List.cons.inj ht
      exact absurd List.mem_cons_self hp
  · rintro ⟨more, rfl, h⟩
    refine ⟨[], t, more, rfl, List.not_mem_nil, ?_, h⟩
    rw [List.append_nil]

/-- In every mode, one step of the scan reads what the first character says. -/
private theorem continues_cons_iff {mode : Mode} {offset : Nat} {c : Char} {t : Text} {ts : List Located} :
    Continues mode offset (c :: t) ts ↔
      ∃ more, ts = (step mode offset c).1 ++ more ∧ Continues (step mode offset c).2 (offset + c.utf8Size) t more := by
  cases mode with
  | between => exact lays_cons_iff
  | inWord start done =>
    cases hc : breaksWord c with
    | true =>
      -- the word ends, and its last step is also the first one of what is behind it
      have hStep : step (.inWord start done) offset c =
          (⟨.word done.reverse, start⟩ :: (begin offset c).1, (begin offset c).2) := by
        simp only [step, hc, if_true]
      rw [hStep, continues_break_iff hc]
      constructor
      · rintro ⟨_, rfl, h⟩
        obtain ⟨more, rfl, hMore⟩ := lays_cons_iff.1 h
        exact ⟨more, rfl, hMore⟩
      · rintro ⟨more, rfl, hMore⟩
        exact ⟨_, rfl, lays_cons_iff.2 ⟨more, rfl, hMore⟩⟩
    | false =>
      have hStep : step (.inWord start done) offset c = ([], .inWord start (c :: done)) := by
        simp only [step, hc, Bool.false_eq_true, if_false]
      simp only [hStep, continues_letter_iff hc, List.nil_append, exists_eq_left']
  | inPhrase start done =>
    by_cases hc : c = '"'
    · subst hc
      exact continues_quote_iff
    · have hStep : step (.inPhrase start done) offset c = ([], .inPhrase start (c :: done)) := by
        simp only [step, if_neg hc]
      simp only [hStep, continues_quoted_iff hc, List.nil_append, exists_eq_left']

private theorem scan_cons_eq_ok_iff {mode : Mode} {offset : Nat} {c : Char} {t : Text} {ts : List Located} :
    scan mode offset (c :: t) = .ok ts ↔
      ∃ more, ts = (step mode offset c).1 ++ more ∧
        scan (step mode offset c).2 (offset + c.utf8Size) t = .ok more := by
  rw [scan]
  generalize step mode offset c = result
  obtain ⟨ended, next⟩ := result
  change (scan next (offset + c.utf8Size) t >>= fun more => Except.ok (ended ++ more)) = .ok ts ↔
    ∃ more, ts = ended ++ more ∧ scan next (offset + c.utf8Size) t = .ok more
  cases scan next (offset + c.utf8Size) t with
  | error quote =>
    constructor
    · intro h
      cases h
    · rintro ⟨more, -, h⟩
      cases h
  | ok more =>
    constructor
    · intro h
      exact ⟨more, (Except.ok.inj h).symm, rfl⟩
    · rintro ⟨_, rfl, h⟩
      obtain rfl := Except.ok.inj h
      rfl

/-- From any mode, the scan finds the tokens that the rest of the text lays out. -/
theorem scan_eq_ok_iff {mode : Mode} {offset : Nat} {t : Text} {ts : List Located} :
    scan mode offset t = .ok ts ↔ Continues mode offset t ts := by
  induction t generalizing mode offset ts with
  | nil => rw [continues_nil_iff, scan]
  | cons c t ih => simp only [scan_cons_eq_ok_iff, continues_cons_iff, ih]

/-- The tokens of a query are those that its text lays out. -/
theorem tokens_eq_ok_iff {t : Text} {ts : List Located} : tokens t = .ok ts ↔ Lays 0 t ts := scan_eq_ok_iff

end TextQuery.Lexer
