import TextQuery.Text.Basic

/-!
# Offsets into texts

An offset counts the bytes in front of a place.  A text can be cut at an offset unless a character lies across it.
-/

namespace TextQuery.Text

/-- A text cut at an offset into what stands before and behind it, when no character lies across it. -/
def cutAt? : Text → Nat → Option (Text × Text)
  | t, 0 => some ([], t)
  | [], _ + 1 => none
  | c :: rest, n + 1 =>
    if c.utf8Size ≤ n + 1 then
      (cutAt? rest (n + 1 - c.utf8Size)).map fun (before, behind) => (c :: before, behind)
    else none

/-- The offset of the first place where a text has a part. -/
def offsetOf? (part : Text) : Text → Option Nat
  | [] => if part.isEmpty then some 0 else none
  | c :: rest => if part.isPrefixOf (c :: rest) then some 0 else (offsetOf? part rest).map (c.utf8Size + ·)

theorem cutAt?_append (before behind : Text) : (before ++ behind).cutAt? before.utf8Size = some (before, behind) := by
  induction before with
  | nil => cases behind <;> rfl
  | cons c before ih =>
    have hPos := c.utf8Size_pos
    obtain ⟨n, hn⟩ : ∃ n, c.utf8Size + utf8Size before = n + 1 := ⟨c.utf8Size + utf8Size before - 1, by omega⟩
    have hRest : n + 1 - c.utf8Size = utf8Size before := by omega
    rw [List.cons_append, utf8Size_cons, hn, cutAt?, if_pos (by omega), hRest, ih]
    rfl

/-- A text can be cut between its parts, and nowhere else. -/
theorem cutAt?_eq_some_iff {t before behind : Text} {offset : Nat} :
    t.cutAt? offset = some (before, behind) ↔ t = before ++ behind ∧ offset = before.utf8Size := by
  constructor
  · intro h
    induction t generalizing before offset with
    | nil =>
      cases offset with
      | zero =>
        cases h
        exact ⟨rfl, rfl⟩
      | succ => cases h
    | cons c rest ih =>
      cases offset with
      | zero =>
        cases h
        exact ⟨rfl, rfl⟩
      | succ n =>
        rw [cutAt?] at h
        split at h
        · next hFits =>
          obtain ⟨⟨front, back⟩, hCut, hParts⟩ := Option.map_eq_some_iff.1 h
          cases hParts
          obtain ⟨rfl, hOffset⟩ := ih hCut
          exact ⟨rfl, by rw [utf8Size_cons]; omega⟩
        · cases h
  · rintro ⟨rfl, rfl⟩
    exact cutAt?_append before behind

/-- What is found is the first place of the part. -/
theorem of_offsetOf?_eq_some {part t : Text} {n : Nat} (h : offsetOf? part t = some n) :
    ∃ before behind, t = before ++ (part ++ behind) ∧ n = before.utf8Size ∧
      ∀ a b, t = a ++ (part ++ b) → before.length ≤ a.length := by
  induction t generalizing n with
  | nil =>
    rw [offsetOf?] at h
    split at h
    · next hEmpty =>
      cases h
      rw [List.isEmpty_iff] at hEmpty
      exact ⟨[], [], by rw [hEmpty]; rfl, rfl, fun _ _ _ => Nat.zero_le _⟩
    · cases h
  | cons c t ih =>
    rw [offsetOf?] at h
    split at h
    · next hHere =>
      cases h
      obtain ⟨behind, hText⟩ := List.isPrefixOf_iff_prefix.1 hHere
      exact ⟨[], behind, hText.symm, rfl, fun _ _ _ => Nat.zero_le _⟩
    · next hNotHere =>
      obtain ⟨m, hFind, rfl⟩ := Option.map_eq_some_iff.1 h
      obtain ⟨before, behind, rfl, rfl, hFirst⟩ := ih hFind
      refine ⟨c :: before, behind, rfl, rfl, fun a b hText => ?_⟩
      cases a with
      | nil => exact absurd (List.isPrefixOf_iff_prefix.2 ⟨b, hText.symm⟩) hNotHere
      | cons d a => exact Nat.succ_le_succ (hFirst a b (List.cons.inj hText).2)

theorem offsetOf?_eq_none_iff {part t : Text} : offsetOf? part t = none ↔ ¬ part <:+: t := by
  induction t with
  | nil => simp [offsetOf?, List.infix_nil]
  | cons c t ih =>
    rw [offsetOf?, List.infix_cons_iff, not_or, ← ih]
    split
    · next hHere => simp [List.isPrefixOf_iff_prefix.1 hHere]
    · next hNotHere => simp [← List.isPrefixOf_iff_prefix, hNotHere]

end TextQuery.Text
