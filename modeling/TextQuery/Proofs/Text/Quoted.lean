import TextQuery.Proofs.Text.Lines
import TextQuery.Text.Quoted

/-!
# Quoted texts are read in one way

A way of writing is free of beginnings when no written form begins another (`PrefixFree`).  Then the forms can be written
one behind the other without a sign between them (`PrefixFree.flatMap_inj`).  The way characters are written between
quotation marks is of this kind (`prefixFree_escapeChar`), so a quoted text is the form of one text alone (`quoted_inj`).
It stands on one line (`lineEnd_not_mem_quoted`).
-/

namespace TextQuery.Text

/-! ### Forms written one behind the other -/

section

variable {α β : Type} {f : α → List β}

/-- Whether a written form can be told from what follows it: it is the beginning of no other form. -/
def PrefixFree (f : α → List β) : Prop := ∀ (a b : α) (s t : List β), f a ++ s = f b ++ t → a = b ∧ s = t

/-- What follows equal forms is equal, so it is enough to compare the forms. -/
theorem prefixFree_of_eq (h : ∀ (a b : α) (s t : List β), f a ++ s = f b ++ t → a = b) : PrefixFree f := by
  intro a b s t hEq
  obtain rfl := h a b s t hEq
  exact ⟨rfl, List.append_cancel_left hEq⟩

theorem PrefixFree.flatMap_inj (hf : PrefixFree f) (hNe : ∀ a, f a ≠ []) {as bs : List α}
    (h : as.flatMap f = bs.flatMap f) : as = bs := by
  induction as generalizing bs with
  | nil =>
    cases bs with
    | nil => rfl
    | cons b bs =>
      rw [List.flatMap_nil, List.flatMap_cons] at h
      exact absurd (List.append_eq_nil_iff.1 h.symm).1 (hNe b)
  | cons a as ih =>
    cases bs with
    | nil =>
      rw [List.flatMap_nil, List.flatMap_cons] at h
      exact absurd (List.append_eq_nil_iff.1 h).1 (hNe a)
    | cons b bs =>
      rw [List.flatMap_cons, List.flatMap_cons] at h
      obtain ⟨rfl, hRest⟩ := hf a b _ _ h
      rw [ih hRest]

end

/-! ### Hexadecimal digits -/

private theorem digitChar_inj : ∀ m < 16, ∀ n < 16, Nat.digitChar m = Nat.digitChar n → m = n := by decide

/-- The last digit, and the digits in front of it when there are any. -/
private theorem toDigits_eq (n : Nat) :
    Nat.toDigits 16 n = (if n < 16 then [] else Nat.toDigits 16 (n / 16)) ++ [Nat.digitChar (n % 16)] := by
  rw [Nat.toDigits_eq_if (by decide)]
  split
  · next hn => rw [Nat.mod_eq_of_lt hn, List.nil_append]
  · rfl

private theorem toDigits_inj {m n : Nat} (h : Nat.toDigits 16 m = Nat.toDigits 16 n) : m = n := by
  induction m using Nat.strongRecOn generalizing n with
  | ind m ih =>
    rw [toDigits_eq m, toDigits_eq n] at h
    obtain ⟨hFront, hLast⟩ := List.append_inj' h rfl
    have hMod : m % 16 = n % 16 :=
      digitChar_inj _ (Nat.mod_lt _ (by decide)) _ (Nat.mod_lt _ (by decide)) (List.singleton_inj.1 hLast)
    by_cases hm : m < 16 <;> by_cases hn : n < 16 <;> simp only [hm, hn, if_true, if_false] at hFront
    · omega
    · exact absurd hFront.symm Nat.toDigits_ne_nil
    · exact absurd hFront Nat.toDigits_ne_nil
    · have hDiv : m / 16 = n / 16 := ih (m / 16) (by omega) hFront
      omega

private theorem isAlphanum_of_mem_toDigits {n : Nat} {c : Char} (hc : c ∈ Nat.toDigits 16 n) : c.isAlphanum = true := by
  have hDigit : ∀ m < 16, (Nat.digitChar m).isAlphanum = true := by decide
  induction n using Nat.strongRecOn with
  | ind n ih =>
    rw [Nat.toDigits_eq_if (by decide)] at hc
    split at hc
    · next hn =>
      rw [List.mem_singleton.1 hc]
      exact hDigit n hn
    · rcases List.mem_append.1 hc with hFront | hLast
      · exact ih (n / 16) (by omega) hFront
      · rw [List.mem_singleton.1 hLast]
        exact hDigit _ (Nat.mod_lt _ (by decide))

/-! ### Characters -/

/-- The characters that are written as a backslash with another character, which comes second here. -/
def shortEscapes : List (Char × Char) := [('"', '"'), ('\\', '\\'), ('\n', 'n'), ('\r', 'r'), ('\t', 't'), ('\x00', '0')]

/-- The three ways of writing a character. -/
theorem escapeChar_cases (c : Char) :
    (∃ d, (c, d) ∈ shortEscapes ∧ escapeChar c = ['\\', d]) ∨ escapeChar c = codePointEscape c ∨
      (escapeChar c = [c] ∧ c ≠ '\\' ∧ c ≠ '\n' ∧ c ≠ '\r') := by
  unfold escapeChar
  split
  · next h => exact .inl ⟨'"', by simp [h, shortEscapes], rfl⟩
  split
  · next h => exact .inl ⟨'\\', by simp [h, shortEscapes], rfl⟩
  split
  · next h => exact .inl ⟨'n', by simp [h, shortEscapes], rfl⟩
  split
  · next h => exact .inl ⟨'r', by simp [h, shortEscapes], rfl⟩
  split
  · next h => exact .inl ⟨'t', by simp [h, shortEscapes], rfl⟩
  split
  · next h => exact .inl ⟨'0', by simp [h, shortEscapes], rfl⟩
  split
  · exact .inr (.inl rfl)
  · next hBackslash hFeed hReturn _ _ _ => exact .inr (.inr ⟨rfl, hBackslash, hFeed, hReturn⟩)

private theorem shortEscapes_inj : ∀ p ∈ shortEscapes, ∀ q ∈ shortEscapes, p.2 = q.2 → p.1 = q.1 := by decide

private theorem ne_u_of_mem_shortEscapes : ∀ p ∈ shortEscapes, p.2 ≠ 'u' := by decide

private theorem codePointEscape_append (c : Char) (s : Text) :
    codePointEscape c ++ s = '\\' :: 'u' :: '\x7b' :: (Nat.toDigits 16 c.toNat ++ '\x7d' :: s) := by
  simp [codePointEscape]

private theorem not_mem_toDigits {c : Char} (hc : c.isAlphanum = false) (n : Nat) : c ∉ Nat.toDigits 16 n := by
  intro hMem
  rw [isAlphanum_of_mem_toDigits hMem] at hc
  cases hc

/-- The form of a character is told from what follows by its first two characters, or by the brace at its end. -/
theorem prefixFree_escapeChar : PrefixFree escapeChar := by
  apply prefixFree_of_eq
  intro c d s t h
  rcases escapeChar_cases c with ⟨x, hx, hc⟩ | hc | ⟨hc, hcBackslash, -⟩ <;>
    rcases escapeChar_cases d with ⟨y, hy, hd⟩ | hd | ⟨hd, hdBackslash, -⟩ <;> rw [hc, hd] at h
  · -- two letters behind the backslash
    have hSame : x = y := by simpa using (List.cons.inj (List.cons.inj h).2).1
    exact shortEscapes_inj _ hx _ hy hSame
  · rw [codePointEscape_append] at h
    exact absurd (List.cons.inj (List.cons.inj h).2).1 (ne_u_of_mem_shortEscapes _ hx)
  · exact absurd (List.cons.inj h).1.symm hdBackslash
  · rw [codePointEscape_append] at h
    exact absurd (List.cons.inj (List.cons.inj h).2).1.symm (ne_u_of_mem_shortEscapes _ hy)
  · -- two code points
    rw [codePointEscape_append, codePointEscape_append] at h
    simp only [List.cons.injEq, true_and] at h
    obtain ⟨hDigits, -⟩ := append_cons_inj (not_mem_toDigits rfl _) (not_mem_toDigits rfl _) h
    exact Char.toNat_inj.1 (toDigits_inj hDigits)
  · rw [codePointEscape_append] at h
    exact absurd (List.cons.inj h).1.symm hdBackslash
  · exact absurd (List.cons.inj h).1 hcBackslash
  · rw [codePointEscape_append] at h
    exact absurd (List.cons.inj h).1 hcBackslash
  · exact (List.cons.inj h).1

theorem escapeChar_ne_nil (c : Char) : escapeChar c ≠ [] := by
  rcases escapeChar_cases c with ⟨x, -, hc⟩ | hc | ⟨hc, -⟩ <;> rw [hc]
  · exact List.cons_ne_nil _ _
  · exact List.cons_ne_nil _ _
  · exact List.cons_ne_nil _ _

theorem lineEnd_not_mem_escapeChar (c : Char) : '\n' ∉ escapeChar c ∧ '\r' ∉ escapeChar c := by
  have hShort : ∀ p ∈ shortEscapes, '\n' ∉ ['\\', p.2] ∧ '\r' ∉ ['\\', p.2] := by decide
  rcases escapeChar_cases c with ⟨d, hd, hc⟩ | hc | ⟨hc, -, hFeed, hReturn⟩ <;> rw [hc]
  · exact hShort _ hd
  · have hDigits : '\n' ∉ Nat.toDigits 16 c.toNat ∧ '\r' ∉ Nat.toDigits 16 c.toNat :=
      ⟨not_mem_toDigits rfl _, not_mem_toDigits rfl _⟩
    simpa [codePointEscape] using hDigits
  · rw [List.mem_singleton, List.mem_singleton]
    exact ⟨Ne.symm hFeed, Ne.symm hReturn⟩

/-! ### Texts -/

theorem lineEnd_not_mem_quoted (t : Text) : '\n' ∉ t.quoted ∧ '\r' ∉ t.quoted := by
  have hInside : ∀ c ∈ t, '\n' ∉ escapeChar c ∧ '\r' ∉ escapeChar c := fun c _ => lineEnd_not_mem_escapeChar c
  simp only [quoted, List.mem_cons, List.mem_append, List.mem_flatMap, not_or, not_exists, not_and]
  exact ⟨⟨by decide, fun c hc => (hInside c hc).1, by decide⟩, by decide, fun c hc => (hInside c hc).2, by decide⟩

theorem quoted_inj {t u : Text} (h : t.quoted = u.quoted) : t = u := by
  unfold quoted at h
  have hInside := List.append_cancel_right (List.cons.inj h).2
  exact prefixFree_escapeChar.flatMap_inj escapeChar_ne_nil hInside

end TextQuery.Text
