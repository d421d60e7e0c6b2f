import TextQuery.Proofs.Text.Bare
import TextQuery.Proofs.Unicode.Symbols

/-!
# Symbols in texts without accents

Where accents are dropped, every symbol of a text stays in its place, as itself or as the symbol that it is composed
from (`symbols_withoutAccents`).  So the symbols are kept just where none of them is composed
(`symbols_kept_unless_composed`).  The sign `≠` is composed, and what is left of it is `=`.
-/

namespace TextQuery.Text

/-- The characters of a text that are no letters, numbers or marks. -/
def symbols (t : Text) : Text := t.filter Unicode.isSymbol

private theorem symbols_base_of_isSymbol {c : Char} (hc : Unicode.isSymbol c = true) : symbols (base c) = base c := by
  obtain ⟨d, hd, hBase⟩ := Unicode.exists_base_of_isSymbol hc
  rw [base, dropMarks, hBase, symbols, List.filter_singleton, hd]
  rfl

private theorem symbols_base_of_not_isSymbol {c : Char} (hc : ¬ Unicode.isSymbol c = true) : symbols (base c) = [] := by
  rw [symbols, List.filter_eq_nil_iff]
  intro d hd hSymbol
  exact hc (Unicode.isSymbol_of_mem_decompose (List.mem_of_mem_filter hd) hSymbol)

/-- The symbols that are left come from the symbols of the text, in their order. -/
theorem symbols_withoutAccents_eq (t : Text) : t.withoutAccents.symbols = t.symbols.flatMap base := by
  rw [withoutAccents_eq]
  induction t with
  | nil => rfl
  | cons c t ih =>
    have hSplit : symbols (List.flatMap base (c :: t)) = symbols (base c) ++ symbols (t.flatMap base) := by
      rw [List.flatMap_cons, symbols, symbols, symbols, List.filter_append]
    rw [hSplit, ih]
    by_cases hc : Unicode.isSymbol c = true
    · have hKept : symbols (c :: t) = c :: symbols t := List.filter_cons_of_pos hc
      rw [hKept, List.flatMap_cons, symbols_base_of_isSymbol hc]
    · have hDropped : symbols (c :: t) = symbols t := List.filter_cons_of_neg hc
      rw [hDropped, symbols_base_of_not_isSymbol hc, List.nil_append]

/-- One symbol is left of each symbol: what is left of it alone. -/
theorem symbols_withoutAccents (t : Text) :
    List.Forall₂ (fun c d => withoutAccents [c] = [d]) t.symbols t.withoutAccents.symbols := by
  have hSymbols : ∀ c ∈ t.symbols, Unicode.isSymbol c = true := fun c hc => (List.mem_filter.1 hc).2
  rw [symbols_withoutAccents_eq]
  generalize t.symbols = s at hSymbols ⊢
  induction s with
  | nil => exact .nil
  | cons c s ih =>
    obtain ⟨d, -, hBase⟩ := Unicode.exists_base_of_isSymbol (hSymbols c List.mem_cons_self)
    have hBase : base c = [d] := hBase
    rw [List.flatMap_cons, hBase]
    refine .cons ?_ (ih fun c hc => hSymbols c (List.mem_cons_of_mem _ hc))
    rw [withoutAccents_eq, List.flatMap_singleton, hBase]

/-- The symbols of a text are kept when none of them is decomposed, and only then. -/
theorem symbols_kept_iff (t : Text) :
    t.withoutAccents.symbols = t.symbols ↔ ∀ c ∈ t.symbols, Unicode.decompose c = [c] := by
  constructor
  · intro h c hc
    rw [← h] at hc
    exact (isBare_of_mem_withoutAccents (List.mem_of_mem_filter hc)).1
  · intro h
    rw [symbols_withoutAccents_eq]
    calc t.symbols.flatMap base = t.symbols.flatMap fun c => [c] := by
          refine List.flatMap_congr fun c hc => base_of_isBare ⟨h c hc, ?_⟩
          have hSymbol := (List.mem_filter.1 hc).2
          simp only [Unicode.isSymbol, Bool.and_eq_true, Bool.not_eq_true'] at hSymbol
          exact hSymbol.2
      _ = t.symbols := List.flatMap_singleton' _

/-- Every symbol of a text gives one symbol of the text without its accents.  These are the same symbols when none of
them is decomposed, and only then; and two such texts that differ in a symbol stay different. -/
theorem symbols_kept_unless_composed (t : Text) :
    List.Forall₂ (fun c d => withoutAccents [c] = [d]) t.symbols t.withoutAccents.symbols ∧
      (t.withoutAccents.symbols = t.symbols ↔ ∀ c ∈ t.symbols, Unicode.decompose c = [c]) ∧
      ∀ u : Text, (∀ c ∈ t.symbols, Unicode.decompose c = [c]) → (∀ c ∈ u.symbols, Unicode.decompose c = [c]) →
        t.symbols ≠ u.symbols → t.withoutAccents ≠ u.withoutAccents := by
  refine ⟨symbols_withoutAccents t, symbols_kept_iff t, fun u ht hu hDiffer hSame => hDiffer ?_⟩
  rw [← (symbols_kept_iff t).2 ht, ← (symbols_kept_iff u).2 hu, hSame]

/-- The letters lose their accents, and the signs are kept. -/
theorem symbols_kept_of_signs :
    withoutAccents "naïve 🎉 €5 ©".toList = "naive 🎉 €5 ©".toList ∧
      symbols (withoutAccents "naïve 🎉 €5 ©".toList) = symbols "naïve 🎉 €5 ©".toList ∧
      withoutAccents "naïve 🎉 €5 ©".toList ≠ withoutAccents "naïve 🎉 $5 ©".toList := by
  obtain ⟨-, hKept, hDiffer⟩ := symbols_kept_unless_composed "naïve 🎉 €5 ©".toList
  have hAlone {t : Text} (h : (symbols t).all (fun c => Unicode.decompose c == [c]) = true) :
      ∀ c ∈ symbols t, Unicode.decompose c = [c] := fun c hc => beq_iff_eq.1 (List.all_eq_true.1 h c hc)
  have hSigns := hAlone (t := "naïve 🎉 €5 ©".toList) (by decide +kernel)
  have hOthers := hAlone (t := "naïve 🎉 $5 ©".toList) (by decide +kernel)
  exact ⟨by decide +kernel, hKept.2 hSigns, hDiffer _ hSigns hOthers (by decide +kernel)⟩

/-- The inequality sign is the equality sign with a mark, and becomes that. -/
theorem symbols_altered_at_inequality :
    symbols "a≠b".toList = ['≠'] ∧ symbols (withoutAccents "a≠b".toList) = ['='] ∧
      symbols "a≠b".toList ≠ symbols "a=b".toList ∧
      withoutAccents "a≠b".toList = withoutAccents "a=b".toList := by
  decide +kernel

end TextQuery.Text
