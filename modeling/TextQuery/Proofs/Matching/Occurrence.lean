import TextQuery.Matching.Term

/-!
# Occurrences of a term

A term is found in a text when the text has its pattern in one place where the neighbours allow it (`Term.isIn_iff`).  The
search for such a place goes from occurrence to occurrence, and can neither miss one that counts nor fail
(`Term.search_decides`): it cuts the text between characters only, and has fuel enough.

A character that belongs to no word, such as a line feed, is a good neighbour on both sides: what is found in front
of it or behind it is found in the whole (`Term.isIn_of_or`), and nothing else is, unless the pattern has that
character itself (`Term.isIn_around_iff`).
-/

namespace TextQuery.Term

/-- Whether an occurrence of a term counts between two texts. -/
def CountsBetween (term : Term) (a b : Text) : Prop :=
  term.wholeWords = true → isBoundary a.getLast? = true ∧ isBoundary b.head? = true

/-! ### The search -/

private theorem cut_append (a b : Text) : cut (a ++ b) a.utf8Size = .ok (a, b) := by
  rw [cut, Text.cutAt?_append]

private theorem isOnBoundary_append (a p b : Text) :
    isOnBoundary (a ++ (p ++ b)) a.utf8Size (a.utf8Size + p.utf8Size) =
      .ok (isBoundary a.getLast? && isBoundary b.head?) := by
  have hStop := cut_append (a ++ p) b
  rw [Text.utf8Size_append, List.append_assoc] at hStop
  rw [isOnBoundary, cut_append, hStop]
  rfl

/-- One step of the search: the first occurrence counts, or the search goes on behind its first character. -/
private theorem searchFrom_of_offsetOf? {a x p y : Text} {c : Char} (fuel : Nat)
    (hFind : Text.offsetOf? (c :: p) (x ++ (c :: p ++ y)) = some x.utf8Size) :
    searchFrom (c :: p) (a ++ (x ++ (c :: p ++ y))) (fuel + 1) a.utf8Size =
      if isBoundary (a ++ x).getLast? && isBoundary y.head? then .ok true
      else searchFrom (c :: p) (a ++ (x ++ (c :: p ++ y))) fuel (a ++ x ++ [c]).utf8Size := by
  have hHere := cut_append (a ++ x) (c :: p ++ y)
  have hAround := isOnBoundary_append (a ++ x) (c :: p) y
  rw [Text.utf8Size_append, List.append_assoc] at hHere hAround
  rw [searchFrom, cut_append]
  simp only [bind, Except.bind, hFind, hAround]
  cases isBoundary (a ++ x).getLast? && isBoundary y.head? with
  | true => rfl
  | false =>
    have hNext : a.utf8Size + x.utf8Size + c.utf8Size = Text.utf8Size (a ++ x ++ [c]) := by
      simp [Nat.add_assoc]
    rw [← hNext]
    simp only [hHere, Bool.false_eq_true, if_false]
    rfl

/-- Where the first occurrence does not count, the places that count are those behind its first character. -/
private theorem exists_place_iff {a x p y : Text} {c : Char}
    (hFirst : ∀ x' y', x ++ (c :: p ++ y) = x' ++ (c :: p ++ y') → x.length ≤ x'.length)
    (hNot : ¬ (isBoundary (a ++ x).getLast? = true ∧ isBoundary y.head? = true)) :
    (∃ x' y', p ++ y = x' ++ (c :: p ++ y') ∧ isBoundary (a ++ x ++ [c] ++ x').getLast? = true ∧
        isBoundary y'.head? = true) ↔
      ∃ x' y', x ++ (c :: p ++ y) = x' ++ (c :: p ++ y') ∧ isBoundary (a ++ x').getLast? = true ∧
        isBoundary y'.head? = true := by
  constructor
  · rintro ⟨x', y', hRest, hBounds⟩
    exact ⟨x ++ c :: x', y', by simp [hRest], by simpa using hBounds⟩
  · rintro ⟨x', y', hRest, hBounds⟩
    obtain ⟨m, rfl⟩ : x <+: x' := List.prefix_of_prefix_length_le ⟨_, rfl⟩ ⟨_, hRest.symm⟩ (hFirst x' y' hRest)
    rw [List.append_assoc, List.append_cancel_left_eq] at hRest
    cases m with
    | nil =>
      -- this is the first occurrence itself
      obtain rfl := List.append_cancel_left hRest
      rw [List.append_nil] at hBounds
      exact absurd hBounds hNot
    | cons d m =>
      obtain ⟨rfl, hTail⟩ := List.cons.inj hRest
      exact ⟨m, y', hTail, by simpa using hBounds⟩

/-- The search goes through all places behind an offset, and ends. -/
theorem searchFrom_spec {pattern : Text} (hPattern : pattern ≠ []) {fuel : Nat} {a rest : Text}
    (hFuel : rest.length < fuel) :
    ∃ found, searchFrom pattern (a ++ rest) fuel a.utf8Size = .ok found ∧
      (found = true ↔ ∃ x y, rest = x ++ (pattern ++ y) ∧ isBoundary (a ++ x).getLast? = true ∧
        isBoundary y.head? = true) := by
  -- the induction is on the fuel; what has been passed over moves from `rest` to `a`
  induction fuel generalizing a rest with
  | zero => exact absurd hFuel (Nat.not_lt_zero _)
  | succ fuel ih =>
    cases hFind : Text.offsetOf? pattern rest with
    | none =>
      refine ⟨false, ?_, iff_of_false Bool.false_ne_true ?_⟩
      · rw [searchFrom, cut_append]
        simp only [bind, Except.bind, hFind]
        rfl
      · rintro ⟨x, y, rfl, -⟩
        exact Text.offsetOf?_eq_none_iff.1 hFind ⟨x, y, List.append_assoc x pattern y⟩
    | some n =>
      obtain ⟨x, y, rfl, rfl, hFirst⟩ := Text.of_offsetOf?_eq_some hFind
      obtain ⟨c, p, rfl⟩ := List.exists_cons_of_ne_nil hPattern
      rw [searchFrom_of_offsetOf? fuel hFind]
      cases hBounds : isBoundary (a ++ x).getLast? && isBoundary y.head? with
      | true =>
        rw [Bool.and_eq_true] at hBounds
        exact ⟨true, rfl, iff_of_true rfl ⟨x, y, rfl, hBounds⟩⟩
      | false =>
        have hLess : (p ++ y).length < fuel := by
          simp only [List.length_append, List.length_cons] at hFuel ⊢
          omega
        obtain ⟨found, hSearch, hFound⟩ := ih (a := a ++ x ++ [c]) hLess
        have hText : a ++ x ++ [c] ++ (p ++ y) = a ++ (x ++ (c :: p ++ y)) := by simp
        rw [hText] at hSearch
        have hNot : ¬ (isBoundary (a ++ x).getLast? = true ∧ isBoundary y.head? = true) := by
          rw [← Bool.and_eq_true, hBounds]
          exact Bool.false_ne_true
        exact ⟨found, hSearch, hFound.trans (exists_place_iff hFirst hNot)⟩

/-- A term is found where its pattern stands between neighbours that let it count. -/
theorem search_spec (term : Term) (t : Text) :
    ∃ found, term.search t = .ok found ∧
      (found = true ↔ term.pattern ≠ [] ∧ ∃ a b, t = a ++ (term.pattern ++ b) ∧ term.CountsBetween a b) := by
  obtain ⟨pattern, wholeWords⟩ := term
  unfold search CountsBetween
  by_cases hEmpty : pattern = []
  · exact ⟨false, if_pos (List.isEmpty_iff.2 hEmpty), by simp [hEmpty]⟩
  · rw [if_neg (mt List.isEmpty_iff.1 hEmpty)]
    cases wholeWords with
    | true =>
      obtain ⟨found, hSearch, hFound⟩ := searchFrom_spec hEmpty (a := []) (Nat.lt_succ_self t.length)
      exact ⟨found, hSearch, by simpa [hEmpty] using hFound⟩
    | false =>
      refine ⟨_, rfl, ?_⟩
      simp only [Text.hasPart_eq_true_iff, List.IsInfix, List.append_assoc, Bool.false_eq_true, false_implies, and_true,
        ne_eq, hEmpty, not_false_eq_true, true_and]
      exact exists_congr fun a => exists_congr fun b => eq_comm

theorem isIn_iff {term : Term} {t : Text} :
    term.isIn t = true ↔
      term.pattern ≠ [] ∧ ∃ a b, t = a ++ (term.pattern ++ b) ∧ term.CountsBetween a b := by
  obtain ⟨found, hSearch, hFound⟩ := search_spec term t
  rw [isIn, hSearch, ← hFound]

/-- No letter or number, and not the underscore. -/
theorem isInWord_eq_false_iff {c : Char} : isInWord c = false ↔ Unicode.isAlphanumeric c = false ∧ c ≠ '_' := by
  simp [isInWord]

private theorem isBoundary_getLast?_iff {u : Text} : isBoundary u.getLast? = true ↔
    u = [] ∨ ∃ u' c, u = u' ++ [c] ∧ Unicode.isAlphanumeric c = false ∧ c ≠ '_' := by
  cases hLast : u.getLast? with
  | none => simp [isBoundary, List.getLast?_eq_none_iff.1 hLast]
  | some c =>
    obtain ⟨u', rfl⟩ := List.getLast?_eq_some_iff.1 hLast
    constructor
    · intro h
      exact .inr ⟨u', c, rfl, isInWord_eq_false_iff.1 (by simpa [isBoundary] using h)⟩
    · rintro (h | ⟨u'', d, hText, hd⟩)
      · simp at h
      · obtain rfl : c = d := by simpa using congrArg List.getLast? hText
        simpa [isBoundary] using isInWord_eq_false_iff.2 hd

private theorem isBoundary_head?_iff {v : Text} : isBoundary v.head? = true ↔
    v = [] ∨ ∃ c v', v = c :: v' ∧ Unicode.isAlphanumeric c = false ∧ c ≠ '_' := by
  cases v <;> simp [isBoundary, isInWord_eq_false_iff]

/-- A search always ends, and never cuts the text inside a character, which would be a fault.  With whole words it finds a
pattern that is not empty and stands somewhere without a letter, a number or an underscore before or behind it; otherwise
the pattern may stand anywhere. -/
theorem search_decides (pattern t : Text) :
    (∃ found, search ⟨pattern, true⟩ t = .ok found ∧ isIn ⟨pattern, true⟩ t = found ∧
      (found = true ↔ pattern ≠ [] ∧ ∃ u v, t = u ++ pattern ++ v ∧
        (u = [] ∨ ∃ u' c, u = u' ++ [c] ∧ Unicode.isAlphanumeric c = false ∧ c ≠ '_') ∧
        (v = [] ∨ ∃ c v', v = c :: v' ∧ Unicode.isAlphanumeric c = false ∧ c ≠ '_'))) ∧
    (∃ found, search ⟨pattern, false⟩ t = .ok found ∧ isIn ⟨pattern, false⟩ t = found ∧
      (found = true ↔ pattern ≠ [] ∧ ∃ u v, t = u ++ pattern ++ v)) ∧
    ∀ offset, (∃ parts, cut t offset = .ok parts) ↔ ∃ u v, t = u ++ v ∧ offset = u.utf8Size := by
  refine ⟨?_, ?_, fun offset => ?_⟩
  · obtain ⟨found, hSearch, hFound⟩ := search_spec ⟨pattern, true⟩ t
    refine ⟨found, hSearch, by rw [isIn, hSearch], ?_⟩
    simpa only [CountsBetween, forall_const, isBoundary_getLast?_iff, isBoundary_head?_iff, List.append_assoc] using hFound
  · obtain ⟨found, hSearch, hFound⟩ := search_spec ⟨pattern, false⟩ t
    refine ⟨found, hSearch, by rw [isIn, hSearch], ?_⟩
    simpa [CountsBetween] using hFound
  · unfold cut
    constructor
    · rintro ⟨parts, hParts⟩
      split at hParts
      · next u v hCut => exact ⟨_, _, Text.cutAt?_eq_some_iff.1 hCut⟩
      · cases hParts
    · rintro ⟨u, v, rfl, rfl⟩
      exact ⟨(u, v), by rw [Text.cutAt?_append]⟩

/-- The first occurrence stands behind a letter; one that overlaps it counts. -/
example : isIn ⟨"a a".toList, true⟩ "ba a a".toList = true := by decide

/-! ### Characters that belong to no word -/

variable {w : Char}

theorem isBoundary_head?_append (hw : isInWord w = false) (b t : Text) :
    isBoundary (b ++ w :: t).head? = isBoundary b.head? := by
  cases b with
  | nil => simp [isBoundary, hw]
  | cons c b => rfl

theorem isBoundary_getLast?_append (hw : isInWord w = false) (t a : Text) :
    isBoundary (t ++ w :: a).getLast? = isBoundary a.getLast? := by
  cases h : a.getLast? <;> simp [List.getLast?_append, List.getLast?_cons, h, isBoundary, hw]

variable {term : Term}

/-- What is found on one side of a character that belongs to no word is found in the whole. -/
theorem isIn_of_or (hw : isInWord w = false) {a b : Text} (h : term.isIn a = true ∨ term.isIn b = true) :
    term.isIn (a ++ w :: b) = true := by
  rcases h with h | h <;> obtain ⟨hPattern, l, r, rfl, hCounts⟩ := isIn_iff.1 h
  · refine isIn_iff.2 ⟨hPattern, l, r ++ w :: b, by simp, fun hWhole => ?_⟩
    rw [isBoundary_head?_append hw]
    exact hCounts hWhole
  · refine isIn_iff.2 ⟨hPattern, a ++ w :: l, r, by simp, fun hWhole => ?_⟩
    rw [isBoundary_getLast?_append hw]
    exact hCounts hWhole

/-- A pattern without that character is found on one side or not at all. -/
theorem isIn_around_iff (hw : isInWord w = false) (hPattern : w ∉ term.pattern) {a b : Text} :
    term.isIn (a ++ w :: b) = true ↔ term.isIn a = true ∨ term.isIn b = true := by
  refine ⟨fun h => ?_, isIn_of_or hw⟩
  obtain ⟨hNonempty, l, r, hText, hCounts⟩ := isIn_iff.1 h
  rcases List.append_eq_append_iff.1 hText with ⟨m, rfl, hRest⟩ | ⟨m, rfl, hRest⟩
  · -- the occurrence begins behind `a`, and not with `w`
    cases m with
    | nil =>
      obtain ⟨c, p, hp⟩ := List.exists_cons_of_ne_nil hNonempty
      rw [hp] at hRest hPattern
      obtain ⟨rfl, -⟩ := List.cons.inj hRest
      exact absurd List.mem_cons_self hPattern
    | cons c m =>
      obtain ⟨rfl, rfl⟩ := List.cons.inj hRest
      refine .inr (isIn_iff.2 ⟨hNonempty, m, r, rfl, fun hWhole => ?_⟩)
      rw [← isBoundary_getLast?_append hw a m]
      exact hCounts hWhole
  · -- it begins in `a`, and ends there too, as it cannot run over `w`
    rcases List.append_eq_append_iff.1 hRest with ⟨n, rfl, rfl⟩ | ⟨n, hp, hRest⟩
    · refine .inl (isIn_iff.2 ⟨hNonempty, l, n, rfl, fun hWhole => ?_⟩)
      rw [← isBoundary_head?_append hw n b]
      exact hCounts hWhole
    · cases n with
      | nil =>
        rw [List.append_nil] at hp
        refine .inl (isIn_iff.2 ⟨hNonempty, l, [], by simp [hp], fun hWhole => ⟨(hCounts hWhole).1, rfl⟩⟩)
      | cons c n =>
        obtain ⟨rfl, -⟩ := List.cons.inj hRest
        rw [hp] at hPattern
        exact absurd (List.mem_append_right m List.mem_cons_self) hPattern

end TextQuery.Term
