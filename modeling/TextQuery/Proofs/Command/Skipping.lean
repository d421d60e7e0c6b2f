import TextQuery.Proofs.Files.Tree
import TextQuery.Proofs.Matching.LineByLine
import TextQuery.Proofs.Query.Acceptance

/-!
# Inputs that cannot be read

The files of a search are read one by one.  Each of them gives an input or leaves a message, in the order in which they
are named (`inputs_eq`).  What is printed comes from the inputs alone, so that a search with files that cannot be read
prints what the search in the others does, and the exit status tells its three outcomes apart (`run_outcome`).
-/

namespace TextQuery.Search

/-- The input that a file gives when it can be read. -/
def fileInput? (env : Environment) (p : Path) : Option Input :=
  match env.read p with
  | .ok t => some ⟨p.toText, t⟩
  | .error _ => none

/-- The message that a file leaves when it cannot be read. -/
def fileFailure? (env : Environment) (p : Path) : Option Text :=
  match env.read p with
  | .ok _ => none
  | .error cause => some (failure p.toText cause)

variable {s : Search} {env : Environment} {configured : Options} {stdin : Contents}

theorem foldr_addFile (files : List Path) :
    files.foldr (addFile env) ⟨[], []⟩ = ⟨files.filterMap (fileInput? env), files.filterMap (fileFailure? env)⟩ := by
  induction files with
  | nil => rfl
  | cons p files ih =>
    rw [List.foldr_cons, ih, addFile, List.filterMap_cons, List.filterMap_cons, fileInput?, fileFailure?]
    cases env.read p with
    | ok t => rfl
    | error cause => rfl

/-- Whether an input of a search cannot be read. -/
def CannotRead (s : Search) (env : Environment) (stdin : Contents) : Prop :=
  if s.files = [] then ∃ cause, stdin.read = .error cause
  else ∃ p ∈ s.files, ∃ cause, env.read p = .error cause

/-- The inputs of a search that can be read. -/
def readable (s : Search) (env : Environment) (stdin : Contents) : List Input :=
  if s.files = [] then
    match stdin.read with
    | .ok t => [⟨standardName, t⟩]
    | .error _ => []
  else s.files.filterMap (fileInput? env)

theorem inputs_of_files (hFiles : s.files ≠ []) : s.inputs env stdin =
    ⟨s.files.filterMap (fileInput? env), s.files.filterMap (fileFailure? env)⟩ := by
  rw [inputs, if_neg (by simpa using hFiles), foldr_addFile]

theorem readable_of_files (hFiles : s.files ≠ []) :
    s.readable env stdin = s.files.filterMap (fileInput? env) := if_neg hFiles

theorem readable_eq : (s.inputs env stdin).readable = s.readable env stdin := by
  by_cases hFiles : s.files = []
  · rw [inputs, if_pos (by simp [hFiles]), standardInput, readable, if_pos hFiles]
    cases stdin.read with
    | ok t => rfl
    | error cause => rfl
  · rw [inputs_of_files hFiles, readable_of_files hFiles]

theorem failures_ne_nil_iff : (s.inputs env stdin).failures ≠ [] ↔ s.CannotRead env stdin := by
  by_cases hFiles : s.files = []
  · rw [inputs, if_pos (by simp [hFiles]), standardInput, CannotRead, if_pos hFiles]
    cases stdin.read with
    | ok t => simp
    | error cause => simp
  · rw [inputs_of_files hFiles, CannotRead, if_neg hFiles, ne_eq, List.filterMap_eq_nil_iff]
    push Not
    apply exists_congr
    intro p
    apply and_congr_right
    intro _
    unfold fileFailure?
    cases env.read p with
    | ok t => simp
    | error cause => simp

/-- Whether a search finds something in an input. -/
def Finds (s : Search) (q : Query) (input : Input) : Prop :=
  if s.whole then q.accepts input.contents = true else ∃ line ∈ input.contents.lines, q.accepts line = true

theorem hits_ne_nil_iff {q : Query} {input : Input} : hits q.accepts s.whole input ≠ [] ↔ s.Finds q input := by
  unfold Finds
  cases s.whole with
  | true => exact hits_whole_ne_nil_iff
  | false => exact hits_lines_ne_nil_iff

theorem found_eq (q : Query) (inputs : List Input) :
    s.found q inputs = inputs.map fun input => (input, hits q.accepts s.whole input) := rfl

theorem any_found_iff {q : Query} {inputs : List Input} :
    ((s.found q inputs).any fun (_, hits) => !hits.isEmpty) = true ↔ ∃ input ∈ inputs, s.Finds q input := by
  rw [found_eq, List.any_map, List.any_eq_true]
  apply exists_congr
  intro input
  apply and_congr_right
  intro _
  rw [← hits_ne_nil_iff]
  simp

theorem status_iff (q : Query) :
    let status := s.status q (s.inputs env stdin)
    let fails := s.CannotRead env stdin
    let finds := ∃ input ∈ s.readable env stdin, s.Finds q input
    (status = 2 ↔ fails) ∧ (status = 0 ↔ ¬ fails ∧ finds) ∧ (status = 1 ↔ ¬ fails ∧ ¬ finds) := by
  simp only [← failures_ne_nil_iff, ← readable_eq, ← any_found_iff, status]
  cases (s.inputs env stdin).failures with
  | cons failure more => simp
  | nil => cases (s.found q (s.inputs env stdin).readable).any fun (_, hits) => !hits.isEmpty <;> simp

theorem run_of_error {e : QueryError} (h : Query.ofText s.query (s.flags.override configured) = .error e) :
    s.run env configured stdin = .ofQueryError e := by
  rw [run, h]

theorem run_of_ok {q : Query} (h : Query.ofText s.query (s.flags.override configured) = .ok q) :
    s.run env configured stdin =
      { status := s.status q (s.inputs env stdin)
        output := s.output q (s.readable env stdin)
        errors := (s.inputs env stdin).failures.flatMap Style.line } := by
  rw [run, h, ← readable_eq]

/-- The files of a search that can be read. -/
def readableFiles (s : Search) (env : Environment) : List Path := s.files.filter fun p => (env.read p).isOk

theorem files_ne_nil (hSome : s.readableFiles env ≠ []) : s.files ≠ [] := by
  intro hNone
  apply hSome
  rw [readableFiles, hNone, List.filter_nil]

/-- The files that cannot be read give no input. -/
theorem readable_readableFiles (hSome : s.readableFiles env ≠ []) :
    { s with files := s.readableFiles env }.readable env stdin = s.readable env stdin := by
  rw [readable_of_files (files_ne_nil hSome), readable_of_files hSome]
  show (s.files.filter fun p => (env.read p).isOk).filterMap (fileInput? env) = _
  rw [List.filterMap_filter]
  apply List.filterMap_congr
  intro p _
  unfold fileInput?
  cases env.read p with
  | ok t => rfl
  | error cause => rfl

/-- The outcome of a search.  The exit status is 2 when the query or an input cannot be read, and tells otherwise whether
anything was found.  Without a query nothing is printed.  When some of the files can be read, the output is that of the search
in these alone, and each of the others leaves one message, in the order in which they are named; the message on a query
that cannot be read stands alone. -/
theorem run_outcome (s : Search) (env : Environment) (configured : Options) (stdin : Contents) :
    let query := Query.ofText s.query (s.flags.override configured)
    let report := s.run env configured stdin
    let fails := (∃ e, query = .error e) ∨ s.CannotRead env stdin
    let finds := ∃ q, query = .ok q ∧ ∃ input ∈ s.readable env stdin, s.Finds q input
    (report.status = 2 ↔ fails) ∧ (report.status = 0 ↔ ¬ fails ∧ finds) ∧ (report.status = 1 ↔ ¬ fails ∧ ¬ finds) ∧
      (∀ e, query = .error e → report.output = [] ∧ report.errors = Style.line e.display.trimEnd) ∧
      (s.readableFiles env ≠ [] →
        report.output = ({ s with files := s.readableFiles env }.run env configured stdin).output ∧
        ∀ q, query = .ok q → report.errors = (s.files.filterMap (fileFailure? env)).flatMap Style.line) := by
  intro query report fails finds
  cases hQuery : Query.ofText s.query (s.flags.override configured) with
  | error e =>
    have hError : query = .error e := hQuery
    have hFails : fails := .inl ⟨e, hError⟩
    have hReport : report = .ofQueryError e := run_of_error hQuery
    have hLeft : { s with files := s.readableFiles env }.run env configured stdin = .ofQueryError e := run_of_error hQuery
    rw [hReport, hLeft, hError]
    simp [hFails, Report.ofQueryError]
  | ok q =>
    have hOk : query = .ok q := hQuery
    have hReport : report = _ := run_of_ok hQuery
    have hFails : fails ↔ s.CannotRead env stdin := by simp [fails, hOk]
    have hFinds : finds ↔ ∃ input ∈ s.readable env stdin, s.Finds q input := by simp [finds, hOk]
    have hStatus : report.status = s.status q (s.inputs env stdin) := congrArg Report.status hReport
    obtain ⟨hTwo, hZero, hOne⟩ := @status_iff s env stdin q
    rw [hFails, hFinds, hStatus, hOk]
    refine ⟨hTwo, hZero, hOne, nofun, fun hSome => ?_⟩
    have hLeft : { s with files := s.readableFiles env }.run env configured stdin = _ := run_of_ok hQuery
    constructor
    · rw [hReport, hLeft, readable_readableFiles hSome]
      rfl
    · intro _ _
      rw [hReport, inputs_of_files (files_ne_nil hSome)]

/-- One file among two is read twice; a directory and a file that is not there are reported. -/
theorem run_outcome_with_two_failures :
    let env : Environment := ⟨.ofFiles [(["a".toList], "x\ny\n".toList), (["d".toList, "b".toList], [])], [],
      Path.ofText "/h".toList⟩
    let s : Search := { query := "x".toList, files := ["d", "a", "c", "a"].map fun name => Path.ofText name.toList }
    s.readableFiles env ≠ [] ∧ (s.run env {} (.text [])).status = 2 ∧
      (s.run env {} (.text [])).output = ({ s with files := s.readableFiles env }.run env {} (.text [])).output ∧
      (s.run env {} (.text [])).output = "a:x\na:x\n".toList ∧
      (s.run env {} (.text [])).errors = ("error: failed to read d: Is a directory (os error 21)\n" ++
        "error: failed to read c: No such file or directory (os error 2)\n").toList := by
  intro env s
  have hTokens : Lexer.tokens s.query = .ok [⟨.word ['x'], 0⟩] := rfl
  have hParse := parse_eq_of_formula hTokens (e := .leaf (.words ['x'])) rfl
  have hQuery := Query.ofText_of_parse hParse (s.flags.override {})
  have hSome : s.readableFiles env ≠ [] := by decide
  have hCannot : s.CannotRead env (.text []) := by
    rw [CannotRead, if_neg (by decide)]
    exact ⟨Path.ofText ['c'], by decide, .notFound, by decide⟩
  obtain ⟨hStatus, -, -, -, hSkips⟩ := run_outcome s env {} (.text [])
  obtain ⟨hOutput, hErrors⟩ := hSkips hSome
  refine ⟨hSome, hStatus.2 (.inr hCannot), hOutput, ?_, ?_⟩
  · rw [run_of_ok hQuery]
    decide
  · rw [hErrors _ hQuery]
    decide

/-- Without a query the files are not looked at, and none of them is reported. -/
theorem no_file_reported_without_query :
    let env : Environment := ⟨.ofFiles [(["a".toList], "x\n".toList)], [], Path.ofText "/h".toList⟩
    let s : Search := { query := [], files := ["a", "b"].map fun name => Path.ofText name.toList }
    s.readableFiles env ≠ [] ∧ fileFailure? env (Path.ofText ['b']) ≠ none ∧
      (s.run env {} (.text [])).errors ≠ (s.files.filterMap (fileFailure? env)).flatMap Style.line ∧
      Text.hasPart "failed to read b".toList (s.run env {} (.text [])).errors = false := by
  decide

end TextQuery.Search
