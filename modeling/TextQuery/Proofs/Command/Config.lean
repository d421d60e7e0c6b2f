import Mathlib.Data.List.Infix
import TextQuery.Command.Run
import TextQuery.Proofs.Files.Tree
import TextQuery.Proofs.Toml.Comments

/-!
# The configuration as it is shown

The options in force are shown as a settings file that gives just these options, whatever files it is laid over
(`ofText_toToml`, `options_merge_settings`).  The comments in front of it name the files that the options come from.
They are dimmed, and the escape sequences for that are not allowed in a settings file: so what is shown is none, but would
be one without the styles, if no path has a control character (`shown_configuration`).
-/

namespace TextQuery

/-! ### Styles -/

namespace Style

/-- A text without its escape sequences, when it begins inside or outside of one. -/
def unstyledFrom (inside : Bool) : Text → Text
  | [] => []
  | c :: rest =>
    if inside then unstyledFrom (c != 'm') rest
    else if c = '\x1b' then unstyledFrom true rest
    else c :: unstyledFrom false rest

/-- A text without its styles. -/
def unstyled (t : Text) : Text := unstyledFrom false t

theorem unstyled_append {t : Text} (h : '\x1b' ∉ t) (u : Text) : unstyled (t ++ u) = t ++ unstyled u := by
  induction t with
  | nil => rfl
  | cons c t ih =>
    rw [List.mem_cons, not_or] at h
    obtain ⟨hFirst, hRest⟩ := h
    have hStep : unstyled (c :: (t ++ u)) = c :: unstyled (t ++ u) := by
      simp [unstyled, unstyledFrom, Ne.symm hFirst]
    rw [List.cons_append, hStep, ih hRest, List.cons_append]

private theorem unstyledFrom_sequence {parameter : Text} (h : 'm' ∉ parameter) (u : Text) :
    unstyledFrom true (parameter ++ 'm' :: u) = unstyled u := by
  induction parameter with
  | nil => rfl
  | cons c parameter ih =>
    rw [List.mem_cons, not_or] at h
    obtain ⟨hFirst, hRest⟩ := h
    have hInside : (c != 'm') = true := by simpa using Ne.symm hFirst
    rw [List.cons_append, unstyledFrom, if_pos rfl, hInside, ih hRest]

theorem unstyled_sequence {parameter : Text} (h : 'm' ∉ parameter) (u : Text) :
    unstyled (sequence parameter ++ u) = unstyled u := by
  have hText : sequence parameter ++ u = '\x1b' :: (('[' :: parameter) ++ 'm' :: u) := by
    simp [sequence]
  have hBracket : 'm' ∉ '[' :: parameter := by simpa using h
  rw [hText]
  exact unstyledFrom_sequence hBracket u

theorem aside_eq (t : Text) : aside t = sequence ['2'] ++ (t ++ reset) := by
  simp [aside, styled]

theorem unstyled_line_aside {t : Text} (h : '\x1b' ∉ t) (u : Text) :
    unstyled (line (aside t) ++ u) = line t ++ unstyled u := by
  rw [line, aside_eq, List.append_assoc, List.append_assoc, unstyled_sequence (by decide), List.append_assoc,
    unstyled_append h, reset, unstyled_sequence (by decide), unstyled_append (by decide), line, List.append_assoc]

end Style

/-! ### The options as a settings file -/

namespace Configuration

/-- The settings file that gives all options in force. -/
def settings (c : Configuration) : SettingsFile where
  matching := some ⟨some c.options.ignoreCase, some c.options.ignoreAccents, some c.options.wholeWords⟩

theorem ofText_toToml (c : Configuration) : SettingsFile.ofText c.toToml = .ok c.settings := by
  obtain ⟨⟨ignoreCase, ignoreAccents, wholeWords⟩, sources⟩ := c
  have hOptions : ∀ ignoreCase ignoreAccents wholeWords : Bool,
      SettingsFile.ofText (toToml ⟨⟨ignoreCase, ignoreAccents, wholeWords⟩, []⟩) =
        .ok (settings ⟨⟨ignoreCase, ignoreAccents, wholeWords⟩, []⟩) := by
    decide +kernel
  -- what is shown of the options does not depend on where they come from
  exact hOptions ignoreCase ignoreAccents wholeWords

/-- On top of whatever files, the options in force are given again. -/
theorem options_merge_settings (c : Configuration) (p : Path) (others : List SourcedSettings) :
    (merge (⟨p, c.settings⟩ :: others)).options = c.options := rfl

theorem escape_not_mem_toToml (c : Configuration) : '\x1b' ∉ c.toToml := by
  have hTruth : ∀ b : Bool, '\x1b' ∉ Text.ofBool b := by decide
  have hTexts : ∀ t ∈ ["[matching]\nignore_case = ".toList, "\nignore_accents = ".toList, "\nwhole_words = ".toList,
      "\n".toList], '\x1b' ∉ t := by decide
  intro h
  -- the equation of `toToml` is not used here, because for its proof Lean would read the texts
  delta toToml at h
  simp only [List.mem_append, hTruth, or_false] at h
  obtain ((h | h) | h) | h := h <;> exact hTexts _ (by simp) h

theorem dropByteOrderMark_toToml (c : Configuration) : Toml.dropByteOrderMark c.toToml = c.toToml := rfl

end Configuration

/-! ### The comments in front -/

namespace Config

/-- What is shown begins with a comment. -/
private theorem exists_heading (c : Configuration) :
    ∃ t more, heading c = ('#' :: t) :: more ∧ t.all Toml.isInLine = true := by
  unfold heading
  split
  · exact ⟨" no configuration files found; using defaults".toList, [], rfl, by decide⟩
  · exact ⟨" merged from (highest precedence first):".toList, _, rfl, by decide⟩

/-- The escape sequence in front of a dimmed text is cut into words and a bracket. -/
private theorem tokens_dimmed {rest : Text} (hRest : ∀ fuel, Toml.cutTokens fuel ('#' :: rest) = none) :
    Toml.tokens ('\x1b' :: '[' :: '2' :: 'm' :: '#' :: rest) = none := by
  have hEscape : Toml.cutToken '\x1b' ('[' :: '2' :: 'm' :: '#' :: rest) =
      some ([.lexeme (.word ['\x1b'])], '[' :: '2' :: 'm' :: '#' :: rest) := rfl
  have hBracket : Toml.cutToken '[' ('2' :: 'm' :: '#' :: rest) = some ([.openBracket], '2' :: 'm' :: '#' :: rest) := rfl
  have hNumber : Toml.cutToken '2' ('m' :: '#' :: rest) = some ([.lexeme (.word ['2', 'm'])], '#' :: rest) := rfl
  exact Toml.cutTokens_eq_none hEscape (Toml.cutTokens_eq_none hBracket (Toml.cutTokens_eq_none hNumber (hRest _)))

/-- A dimmed comment spoils a settings file: the escape sequence behind it is part of the comment. -/
private theorem ofText_aside {t : Text} (h : t.all Toml.isInLine = true) (u : Text) :
    SettingsFile.ofText (Style.line (Style.aside ('#' :: t)) ++ u) = .error .malformed := by
  have hBody : (t ++ Style.reset).all Toml.isInLine = true := by
    rw [List.all_append, h]
    decide
  have hForbidden : (t ++ Style.reset).any Toml.isForbidden = true := by
    rw [List.any_append, Bool.or_eq_true]
    exact .inr (by decide)
  have hText : Style.line (Style.aside ('#' :: t)) ++ u =
      '\x1b' :: '[' :: '2' :: 'm' :: '#' :: ((t ++ Style.reset) ++ '\n' :: u) := by
    simp [Style.line, Style.aside_eq, Style.sequence]
  have hTokens := tokens_dimmed fun fuel => Toml.cutTokens_forbidden hBody hForbidden fuel u
  rw [hText, SettingsFile.ofText, Toml.document, Toml.outline, hTokens]
  rfl

private theorem isSilent_of_mem_heading {c : Configuration}
    (hSources : ∀ p ∈ c.sources, p.toText.all Toml.isInComment = true) :
    ∀ line ∈ heading c, Toml.isSilent line = true := by
  unfold heading
  split
  · exact List.forall_mem_singleton.2 (by decide)
  · refine List.forall_mem_cons.2 ⟨by decide, fun line hLine => ?_⟩
    obtain ⟨p, hp, rfl⟩ := List.mem_map.1 hLine
    have hText : "#   ".toList ++ p.toText = '#' :: ("   ".toList ++ p.toText) := rfl
    rw [hText, Toml.isSilent, beq_self_eq_true, Bool.true_and, List.all_append, hSources p hp]
    decide

private theorem escape_not_mem {line : Text} (h : Toml.isSilent line = true) : '\x1b' ∉ line := by
  cases line with
  | nil => nofun
  | cons c body =>
    rw [Toml.isSilent, Bool.and_eq_true, beq_iff_eq] at h
    rintro (_ | ⟨_, hMem⟩)
    · cases h.1
    · cases List.all_eq_true.1 h.2 _ hMem

private theorem unstyled_asides {u : Text} (hEscape : '\x1b' ∉ u) {lines : List Text}
    (hSilent : ∀ line ∈ lines, Toml.isSilent line = true) :
    Style.unstyled ((lines.flatMap fun t => Style.line (Style.aside t)) ++ u) = Toml.ended lines ++ u := by
  induction lines with
  | nil =>
    have hPlain := Style.unstyled_append hEscape []
    have hEnd : Style.unstyled [] = [] := rfl
    rwa [hEnd, List.append_nil] at hPlain
  | cons line lines ih =>
    have hMore := ih fun l hl => hSilent l (List.mem_cons_of_mem line hl)
    have hLine := escape_not_mem (hSilent line List.mem_cons_self)
    rw [List.flatMap_cons, List.append_assoc, Style.unstyled_line_aside hLine, hMore, Toml.ended_cons, Style.line,
      List.append_assoc, List.append_assoc]
    rfl

/-- What is shown is no settings file, for the dimmed comment in front. -/
private theorem ofText_output (c : Configuration) : SettingsFile.ofText (run c).output = .error .malformed := by
  obtain ⟨t, more, hHeading, hLine⟩ := exists_heading c
  rw [run, hHeading, List.flatMap_cons, List.append_assoc]
  exact ofText_aside hLine _

private theorem run_config {env : Environment} {directory : Path} {c : Configuration} (stdin : Contents)
    (hLoad : Configuration.load env directory = .ok c) :
    Command.run env directory stdin .config = (run c, env.files) := by
  rw [Command.run, Command.runConfigured, hLoad]

/-- Without the styles, the comments stand in front of the options. -/
private theorem unstyled_output {c : Configuration} (hSilent : ∀ line ∈ heading c, Toml.isSilent line = true) :
    Style.unstyled (run c).output = Toml.ended (heading c) ++ c.toToml :=
  unstyled_asides c.escape_not_mem_toToml hSilent

end Config

/-- What is shown as the configuration is no settings file, whatever the configuration is: the comments in front are dimmed,
and a settings file has no escape sequences.  Behind them stands a settings file that gives the options in force, on top
of whatever other files.  Without the styles everything together is such a file, if no path of a source has a control
character. -/
theorem shown_configuration {env : Environment} {directory : Path} {c : Configuration} (stdin : Contents)
    (hLoad : Configuration.load env directory = .ok c) :
    ∃ shown, Command.run env directory stdin .config = ({ status := 0, output := shown }, env.files) ∧
      SettingsFile.ofText shown = .error .malformed ∧
      ∃ f comments, shown = comments ++ c.toToml ∧ SettingsFile.ofText c.toToml = .ok f ∧
        (∀ p others, (Configuration.merge (⟨p, f⟩ :: others)).options = c.options) ∧
        ((∀ p ∈ c.sources, p.toText.all Toml.isInComment = true) → SettingsFile.ofText (Style.unstyled shown) = .ok f) := by
  refine ⟨(Config.run c).output, Config.run_config stdin hLoad, Config.ofText_output c, c.settings, _, rfl,
    c.ofText_toToml, c.options_merge_settings, fun hSources => ?_⟩
  have hSilent := Config.isSilent_of_mem_heading hSources
  rw [Config.unstyled_output hSilent]
  exact SettingsFile.ofText_behind_comments hSilent c.dropByteOrderMark_toToml c.ofText_toToml

/-- Two files are laid over each other.  What is shown of them is refused, and is read without the styles. -/
theorem shown_configuration_of_two_files : ∃ (env : Environment) (directory : Path) (c : Configuration) (f : SettingsFile),
    Configuration.load env directory = .ok c ∧ c.options = ⟨false, true, false⟩ ∧
    c.sources = [Path.ofText "/w/.sift.toml".toList, Path.ofText "/h/.sift.toml".toList] ∧
    SettingsFile.ofText (Command.run env directory (.text []) .config).1.output = .error .malformed ∧
    SettingsFile.ofText (Style.unstyled (Command.run env directory (.text []) .config).1.output) = .ok f ∧
    (Configuration.merge [⟨Path.ofText "shown.toml".toList, f⟩]).options = ⟨false, true, false⟩ := by
  let env : Environment := ⟨.ofFiles [
    (["w".toList, Environment.settingsName], "[matching]\nignore_case = false\n".toList),
    (["h".toList, Environment.settingsName], "[matching]\nignore_case = true\nwhole_words = false\n".toList)],
    ["w".toList], Path.ofText "/h".toList⟩
  let directory := Path.ofText "/w".toList
  let c : Configuration :=
    ⟨⟨false, true, false⟩, [Path.ofText "/w/.sift.toml".toList, Path.ofText "/h/.sift.toml".toList]⟩
  have hLoad : Configuration.load env directory = .ok c := by decide +kernel
  obtain ⟨shown, hRun, hRefused, f, -, -, -, hMerge, hRead⟩ := shown_configuration (.text []) hLoad
  refine ⟨env, directory, c, f, hLoad, rfl, rfl, ?_, ?_, hMerge _ []⟩
  · rw [hRun]
    exact hRefused
  · rw [hRun]
    exact hRead (by decide)

/-- Where there are no settings files, what is shown is no settings file that would give the options in force. -/
theorem shown_configuration_not_read :
    ¬ ∀ (env : Environment) (directory : Path) (c : Configuration), Configuration.load env directory = .ok c →
      ∃ f, SettingsFile.ofText (Command.run env directory (.text []) .config).1.output = .ok f ∧
        ∀ p others, (Configuration.merge (⟨p, f⟩ :: others)).options = c.options := by
  intro h
  let env : Environment := ⟨.ofFiles [], ["w".toList], Path.ofText "/h".toList⟩
  have hLoad : Configuration.load env (Path.ofText "/w".toList) = .ok {} := by decide +kernel
  obtain ⟨f, hRead, -⟩ := h env _ _ hLoad
  rw [Config.run_config (.text []) hLoad, Config.ofText_output] at hRead
  cases hRead

end TextQuery
