import TextQuery.Proofs.Text.Lines
import TextQuery.Proofs.Toml.Comments
import TextQuery.Settings.Template

/-!
# Settings as comments

Text that is commented out keeps its lines in their places, is not changed by commenting it out again, and says nothing as
a settings file (`commentOut_disables`).  So a new settings file says nothing (`ofText_text`).
-/

namespace TextQuery.Template

open Toml (isInComment isSilent ended)

theorem isSilent_commentLine {line : Text} (h : ∀ c ∈ line, isInComment c = true) : isSilent (commentLine line) = true := by
  unfold commentLine
  cases line with
  | nil => rfl
  | cons c rest =>
    have hAll : (c :: rest).all isInComment = true := List.all_eq_true.2 h
    by_cases hHash : c = '#'
    · subst hHash
      rw [List.all_cons, Bool.and_eq_true] at hAll
      simpa [isSilent] using hAll.2
    · have hBlank : isInComment ' ' = true := rfl
      simpa [isSilent, hHash, hBlank] using hAll

/-! ### Texts without control characters -/

/-- Whether a text has no control characters but tabs and those of line ends. -/
def hasPlainControls : Text → Bool
  | [] => true
  | c :: rest => (isInComment c || c == '\n' || (c == '\r' && rest.head? == some '\n')) && hasPlainControls rest

theorem plain_of_append {a b : Text} {c : Char} (h : hasPlainControls (a ++ c :: b) = true) :
    isInComment c = true ∨ c = '\n' ∨ (c = '\r' ∧ b.head? = some '\n') := by
  induction a with
  | nil =>
    rw [List.nil_append, hasPlainControls, Bool.and_eq_true] at h
    simpa [or_assoc] using h.1
  | cons d a ih =>
    rw [List.cons_append, hasPlainControls, Bool.and_eq_true] at h
    exact ih h.2

/-- Control characters other than tabs stand at the line ends only. -/
theorem isInComment_of_mem_lines {t line : Text} (h : hasPlainControls t = true) (hLine : line ∈ t.lines) :
    ∀ c ∈ line, isInComment c = true := by
  intro c hc
  have hNoFeed := Text.feed_not_mem_of_mem_lines hLine
  obtain ⟨front, back, rfl, hReturn⟩ := Text.exists_append_of_mem_lines hLine
  obtain ⟨a, b, rfl⟩ := List.append_of_mem hc
  have hPlain : hasPlainControls ((front ++ a) ++ c :: (b ++ back)) = true := by simpa using h
  rcases plain_of_append hPlain with hComment | rfl | ⟨rfl, hNext⟩
  · exact hComment
  · exact absurd hc hNoFeed
  · cases b with
    | nil => exact absurd hNext (hReturn (by simp))
    | cons d b =>
      -- the line feed behind the carriage return would stand in the line
      obtain rfl : d = '\n' := by simpa using hNext
      exact absurd (by simp) hNoFeed

/-! ### Lines as comments -/

theorem commentLine_cases (line : Text) : commentLine line = line ∨ commentLine line = "# ".toList ++ line := by
  unfold commentLine
  split
  · exact .inl rfl
  · exact .inr rfl

theorem commentLine_eq_nil_or (line : Text) : commentLine line = [] ∨ (commentLine line).head? = some '#' := by
  unfold commentLine
  split
  · rename_i hSame
    simpa using hSame
  · exact .inr rfl

theorem commentLine_commentLine (line : Text) : commentLine (commentLine line) = commentLine line := by
  rcases commentLine_eq_nil_or line with hNil | hHash
  · rw [hNil]
    rfl
  · rw [commentLine, hHash]
    simp

theorem isInComment_of_mem_commentLine {line : Text} (h : ∀ c ∈ line, isInComment c = true) :
    ∀ c ∈ commentLine line, isInComment c = true := by
  have hMark : "# ".toList.all isInComment = true := rfl
  rcases commentLine_cases line with hSame | hMore
  · rw [hSame]
    exact h
  · rw [hMore, List.forall_mem_append]
    exact ⟨List.all_eq_true.1 hMark, h⟩

theorem lines_commentOut {t : Text} (h : hasPlainControls t = true) : (commentOut t).lines = t.lines.map commentLine := by
  have hText : commentOut t = (t.lines.map commentLine).flatMap (· ++ ['\n']) := by
    rw [commentOut, List.flatMap_map]
  have hComment : ∀ line ∈ t.lines.map commentLine, ∀ c ∈ line, isInComment c = true := by
    rw [List.forall_mem_map]
    exact fun line hLine => isInComment_of_mem_commentLine (isInComment_of_mem_lines h hLine)
  rw [hText]
  exact Text.lines_ended (fun line hLine hFeed => absurd (hComment line hLine _ hFeed) (by decide))
    (fun line hLine hReturn => absurd (hComment line hLine _ hReturn) (by decide))

theorem commentOut_commentOut {t : Text} (h : hasPlainControls t = true) : commentOut (commentOut t) = commentOut t := by
  rw [commentOut, lines_commentOut h, List.flatMap_map, commentOut]
  simp only [commentLine_commentLine]

/-- Without control characters other than tabs and line ends, a text that is commented out says nothing. -/
theorem ofText_commentOut {t : Text} (h : hasPlainControls t = true) : SettingsFile.ofText (commentOut t) = .ok {} := by
  have hText : commentOut t = ended (t.lines.map commentLine) := by
    rw [commentOut, ended, List.flatMap_map]
  have hSilent : ∀ line ∈ t.lines.map commentLine, isSilent line = true := by
    rw [List.forall_mem_map]
    exact fun line hLine => isSilent_commentLine (isInComment_of_mem_lines h hLine)
  rw [hText]
  exact SettingsFile.ofText_of_isSilent hSilent

/-- Commenting out takes back all that a text sets, and leaves its lines in their places: each is empty or a comment, and is
the line that stood there or that line behind a mark.  No line is marked twice. -/
theorem commentOut_disables {t : Text} (h : hasPlainControls t = true) :
    (∀ line ∈ (commentOut t).lines, line = [] ∨ line.head? = some '#') ∧
      (commentOut t).lines.length = t.lines.length ∧
      (∀ (i : Nat) (line : Text), t.lines[i]? = some line →
        (commentOut t).lines[i]? = some line ∨ (commentOut t).lines[i]? = some ("# ".toList ++ line)) ∧
      commentOut (commentOut t) = commentOut t ∧
      SettingsFile.ofText (commentOut t) = .ok { root := none, matching := none } := by
  refine ⟨?_, ?_, ?_, commentOut_commentOut h, ofText_commentOut h⟩
  · rw [lines_commentOut h, List.forall_mem_map]
    exact fun line _ => commentLine_eq_nil_or line
  · rw [lines_commentOut h, List.length_map]
  · intro i line hLine
    rw [lines_commentOut h, List.getElem?_map, hLine, Option.map_some]
    exact (commentLine_cases line).imp (congrArg some) (congrArg some)

/-- A comment, a setting behind a tab, an empty line, and a text over several lines with what looks like a setting. -/
theorem commentOut_disables_settings :
    hasPlainControls "# a\r\n\troot = true\n\r\nx = '''\nroot = false\n'''".toList = true ∧
      SettingsFile.ofText "# a\r\n\troot = true\n\r\nx = '''\nroot = false\n'''".toList =
        .ok { root := some true, matching := none } ∧
      commentOut "# a\r\n\troot = true\n\r\nx = '''\nroot = false\n'''".toList =
        "# a\n# \troot = true\n\n# x = '''\n# root = false\n# '''\n".toList ∧
      commentOut "# a\n# \troot = true\n\n# x = '''\n# root = false\n# '''\n".toList =
        "# a\n# \troot = true\n\n# x = '''\n# root = false\n# '''\n".toList ∧
      SettingsFile.ofText "# a\n# \troot = true\n\n# x = '''\n# root = false\n# '''\n".toList =
        .ok { root := none, matching := none } := by
  have hPlain : hasPlainControls "# a\r\n\troot = true\n\r\nx = '''\nroot = false\n'''".toList = true := by
    decide +kernel
  have hCommented : commentOut "# a\r\n\troot = true\n\r\nx = '''\nroot = false\n'''".toList =
      "# a\n# \troot = true\n\n# x = '''\n# root = false\n# '''\n".toList := by decide +kernel
  obtain ⟨-, -, -, hAgain, hSilent⟩ := commentOut_disables hPlain
  rw [hCommented] at hAgain hSilent
  exact ⟨hPlain, by decide +kernel, hCommented, hAgain, hSilent⟩

/-! ### The new settings file -/

set_option maxRecDepth 4000 in
private theorem exists_defaults :
    ∃ t : Text, defaults = t ∧ hasPlainControls t = true := by
  -- the characters are named first, since a long text is slow to take apart
  refine ⟨_, String.toList_ofList, ?_⟩
  decide

theorem ofText_text : SettingsFile.ofText text = .ok {} := by
  obtain ⟨t, hText, hPlain⟩ := exists_defaults
  rw [text, hText]
  exact ofText_commentOut hPlain

end TextQuery.Template
