import TextQuery.Proofs.Matching.Occurrence
import TextQuery.Proofs.Matching.Preparation

/-!
# Terms that stand in a text as they are written

A term is prepared by itself, and trimmed before that; a text is prepared as a whole.  Between white space the two come
to the same (`Options.prepare_between`), and white space stays a boundary.  So what stands there as it is written is
found, whatever the options are (`Term.isIn_verbatim`).
-/

namespace TextQuery

namespace Text

/-- Whether a text is empty or ends in white space. -/
def ClearAtEnd (t : Text) : Prop := ∀ c ∈ t.getLast?, Unicode.isBlank c = true

/-- Whether a text is empty or begins with white space. -/
def ClearAtStart (t : Text) : Prop := ∀ c ∈ t.head?, Unicode.isBlank c = true

instance (t : Text) : Decidable (ClearAtEnd t) :=
  decidable_of_iff (t.getLast?.all Unicode.isBlank = true) (Option.all_eq_true _ _)

instance (t : Text) : Decidable (ClearAtStart t) :=
  decidable_of_iff (t.head?.all Unicode.isBlank = true) (Option.all_eq_true _ _)

theorem clearAtEnd_nil : ClearAtEnd [] := nofun

theorem clearAtStart_nil : ClearAtStart [] := nofun

theorem clearAtEnd_concat {t : Text} {c : Char} : ClearAtEnd (t ++ [c]) ↔ Unicode.isBlank c = true := by
  simp [ClearAtEnd]

theorem clearAtStart_cons {t : Text} {c : Char} : ClearAtStart (c :: t) ↔ Unicode.isBlank c = true := by
  simp [ClearAtStart]

theorem ClearAtEnd.append_of_isBlank {t u : Text} (ht : ClearAtEnd t) (hu : u.isBlank = true) :
    ClearAtEnd (t ++ u) := by
  intro c hc
  rw [List.getLast?_append, Option.mem_def, Option.or_eq_some_iff] at hc
  rcases hc with hc | ⟨-, hc⟩
  · exact List.all_eq_true.1 hu c (List.mem_of_mem_getLast? hc)
  · exact ht c hc

theorem ClearAtStart.append_of_isBlank {t u : Text} (hu : u.isBlank = true) (ht : ClearAtStart t) :
    ClearAtStart (u ++ t) := by
  intro c hc
  rw [List.head?_append, Option.mem_def, Option.or_eq_some_iff] at hc
  rcases hc with hc | ⟨-, hc⟩
  · exact List.all_eq_true.1 hu c (List.mem_of_mem_head? hc)
  · exact ht c hc

/-- Only white space is cut off the ends of a text. -/
theorem exists_trim (t : Text) : ∃ l r : Text, t = l ++ (t.trim ++ r) ∧ l.isBlank = true ∧ r.isBlank = true := by
  refine ⟨t.takeWhile Unicode.isBlank, (t.trimStart.reverse.takeWhile Unicode.isBlank).reverse, ?_,
    List.all_takeWhile, ?_⟩
  · rw [trim, trimEnd, ← List.reverse_append, List.takeWhile_append_dropWhile, List.reverse_reverse, trimStart,
      List.takeWhile_append_dropWhile]
  · rw [isBlank, List.all_reverse]
    exact List.all_takeWhile

end Text

namespace Options

/-- What stands behind white space is prepared as if it stood alone. -/
theorem prepare_behind (o : Options) {u : Text} (hu : u.ClearAtEnd) :
    ∃ a : Text, a.ClearAtEnd ∧ ∀ t, o.prepare (u ++ t) = a ++ o.prepare t := by
  rcases List.eq_nil_or_concat' u with rfl | ⟨u, w, rfl⟩
  · exact ⟨[], Text.clearAtEnd_nil, fun t => rfl⟩
  · obtain ⟨d, hd, hAround⟩ := o.prepare_around (Text.clearAtEnd_concat.1 hu)
    refine ⟨o.prepare u ++ [d], Text.clearAtEnd_concat.2 hd, fun t => ?_⟩
    rw [List.append_assoc, List.append_assoc]
    exact hAround u t

/-- What stands in front of white space is prepared as if it stood alone. -/
theorem prepare_inFront (o : Options) {v : Text} (hv : v.ClearAtStart) :
    ∃ b : Text, b.ClearAtStart ∧ ∀ t, o.prepare (t ++ v) = o.prepare t ++ b := by
  cases v with
  | nil => exact ⟨[], Text.clearAtStart_nil, fun t => by rw [List.append_nil, List.append_nil]⟩
  | cons w v =>
    obtain ⟨d, hd, hAround⟩ := o.prepare_around (Text.clearAtStart_cons.1 hv)
    exact ⟨d :: o.prepare v, Text.clearAtStart_cons.2 hd, fun t => hAround t v⟩

/-- What stands between white space is prepared as if it stood alone. -/
theorem prepare_between (o : Options) {u v : Text} (hu : u.ClearAtEnd) (hv : v.ClearAtStart) :
    ∃ a b : Text, a.ClearAtEnd ∧ b.ClearAtStart ∧ ∀ t, o.prepare (u ++ (t ++ v)) = a ++ (o.prepare t ++ b) := by
  obtain ⟨a, ha, hBehind⟩ := o.prepare_behind hu
  obtain ⟨b, hb, hInFront⟩ := o.prepare_inFront hv
  exact ⟨a, b, ha, hb, fun t => by rw [hBehind, hInFront]⟩

end Options

namespace Term

theorem isBoundary_of_forall_isBlank {neighbour : Option Char} (h : ∀ c ∈ neighbour, Unicode.isBlank c = true) :
    isBoundary neighbour = true := by
  cases neighbour with
  | none => rfl
  | some c =>
    have hBlank := h c rfl
    have hUnderscore : c ≠ '_' := by
      rintro rfl
      cases hBlank
    simp [isBoundary, isInWord, (Unicode.blank_properties hBlank).2.2.1, hUnderscore]

/-- A pattern that stands as it is written between white space, or at an end of the text, is found there. -/
theorem isIn_verbatim (o : Options) {p u v : Text} (hPattern : (ofText o p).pattern ≠ []) (hu : u.ClearAtEnd)
    (hv : v.ClearAtStart) : (ofText o p).isIn (o.prepare (u ++ p ++ v)) = true := by
  obtain ⟨l, r, hp, hl, hr⟩ := p.exists_trim
  obtain ⟨a, b, ha, hb, hBetween⟩ := o.prepare_between (hu.append_of_isBlank hl) (hv.append_of_isBlank hr)
  have hText : u ++ p ++ v = u ++ l ++ (p.trim ++ (r ++ v)) := by
    calc u ++ p ++ v = u ++ (l ++ (p.trim ++ r)) ++ v := by rw [← hp]
      _ = u ++ l ++ (p.trim ++ (r ++ v)) := by simp only [List.append_assoc]
  rw [hText, hBetween]
  exact isIn_iff.2 ⟨hPattern, a, b, rfl, fun _ =>
    ⟨isBoundary_of_forall_isBlank ha, isBoundary_of_forall_isBlank hb⟩⟩

/-- The accent is dropped and the sigma is final, in the text as in the pattern. -/
theorem isIn_verbatim_at_final_sigma :
    (ofText {} " ÉΣ".toList).pattern = "eς".toList ∧ Text.ClearAtEnd "Α\u3000".toList ∧ Text.ClearAtStart "\tΑ".toList ∧
      (ofText {} " ÉΣ".toList).isIn (Options.prepare {} ("Α\u3000".toList ++ " ÉΣ".toList ++ "\tΑ".toList)) = true := by
  have hPattern : (ofText {} " ÉΣ".toList).pattern = "eς".toList := by decide
  have hBefore : Text.ClearAtEnd "Α\u3000".toList := by decide
  have hBehind : Text.ClearAtStart "\tΑ".toList := by decide
  exact ⟨hPattern, hBefore, hBehind, isIn_verbatim {} (hPattern ▸ List.cons_ne_nil _ _) hBefore hBehind⟩

end Term

end TextQuery
