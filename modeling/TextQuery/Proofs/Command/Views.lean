import TextQuery.Proofs.Command.Json
import TextQuery.Proofs.Command.Skipping

/-!
# Views of what was found

The lines that a query accepts are found with their numbers, input by input (`lineHits`).  What is printed, counted and
listed comes from them alone, and what is listed can be read back (`views_agree`).  With inputs as a whole it is the
same for the inputs that the query accepts.
-/

namespace TextQuery

/-! ### Lines -/

namespace Query

variable {q : Query} {t : Text}

/-- The lines of a text that a query accepts, with their numbers. -/
def acceptedLines (q : Query) (t : Text) : List (Nat × Text) :=
  (Search.numberedLines t).filter fun (_, line) => q.accepts line

theorem mem_acceptedLines_iff {n : Nat} {line : Text} :
    (n, line) ∈ q.acceptedLines t ↔ 0 < n ∧ t.lines[n - 1]? = some line ∧ q.accepts line = true := by
  rw [acceptedLines, List.mem_filter, Search.numberedLines, List.mem_map, ← and_assoc]
  apply and_congr_left
  intro _
  constructor
  · rintro ⟨⟨line', i⟩, hMem, hSame⟩
    obtain ⟨rfl, rfl⟩ := Prod.mk.inj hSame
    exact ⟨Nat.succ_pos i, List.mem_zipIdx_iff_getElem?.1 hMem⟩
  · rintro ⟨hPos, hLine⟩
    exact ⟨(line, n - 1), List.mem_zipIdx_iff_getElem?.2 hLine, by simp [Nat.sub_add_cancel hPos]⟩

theorem pairwise_acceptedLines : (q.acceptedLines t).Pairwise fun a b => a.1 < b.1 := by
  have hIndices : (t.lines.zipIdx.map Prod.snd).Pairwise (· < ·) := by
    rw [List.zipIdx_map_snd]
    exact List.pairwise_lt_range'
  apply List.Pairwise.filter
  rw [Search.numberedLines, List.pairwise_map]
  rw [List.pairwise_map] at hIndices
  exact hIndices.imp Nat.succ_lt_succ

end Query

namespace Search

/-- The lines that are found in inputs, with the names of the inputs and their numbers. -/
def lineHits (q : Query) (inputs : List Input) : List (Text × Nat × Text) :=
  inputs.flatMap fun input => (q.acceptedLines input.contents).map fun (n, line) => (input.name, n, line)

/-- The name in front of what comes from an input, where there are several. -/
def sourceLabel (inputs : List Input) (name : Text) : Text := if 1 < inputs.length then name ++ [':'] else []

/-- The number in front of a line, where it is wanted. -/
def numberLabel (s : Search) (n : Nat) : Text := if s.lineNumber then Text.ofNat n ++ [':'] else []

/-- The records that are found, with what was searched for. -/
def document (query : Text) (options : Options) (records : List Json) : Json := Json.ofFields [
  ("query", .string query),
  ("options", options.toJson),
  ("matches", .array records),
  ("total", .number records.length)]

variable {s : Search} {q : Query} {env : Environment} {configured : Options} {stdin : Contents} {inputs : List Input}

theorem found_lines (hWhole : s.whole = false) :
    (s.found q inputs).flatMap (·.2) = (lineHits q inputs).map fun (name, n, line) => ⟨name, some (n, line)⟩ := by
  rw [found_eq, List.flatMap_map, lineHits, List.map_flatMap]
  apply List.flatMap_congr
  intro input _
  rw [hWhole, hits, if_neg Bool.false_ne_true, List.map_map]
  rfl

theorem found_whole (hWhole : s.whole = true) : (s.found q inputs).flatMap (·.2) =
    (inputs.filter fun input => q.accepts input.contents).map fun input => ⟨input.name, none⟩ := by
  rw [found_eq, List.flatMap_map]
  induction inputs with
  | nil => rfl
  | cons input inputs ih =>
    rw [List.flatMap_cons, ih, hWhole, hits, if_pos rfl, List.filter_cons]
    cases q.accepts input.contents with
    | true => rfl
    | false => rfl

theorem output_shown (q : Query) (inputs : List Input) : { s with count := false, json := false }.output q inputs =
    ((s.found q inputs).flatMap (·.2)).flatMap
      fun hit => Style.line (hitLine (decide (1 < inputs.length)) s.lineNumber hit) := rfl

theorem output_counted (q : Query) (inputs : List Input) : { s with count := true, json := false }.output q inputs =
    inputs.flatMap fun input => Style.line (sourceLabel inputs input.name ++
      Text.ofNat (hits q.accepts s.whole input).length) := by
  have hOutput : { s with count := true, json := false }.output q inputs = (s.found q inputs).flatMap
      fun found => Style.line (countLine (decide (1 < inputs.length)) found.1 found.2) := rfl
  rw [hOutput, found_eq, List.flatMap_map]
  simp only [countLine, sourceLabel, decide_eq_true_eq]

theorem read?_output_listed (q : Query) (inputs : List Input) :
    Json.read? ({ s with json := true }.output q inputs) =
      some (document q.raw q.options (((s.found q inputs).flatMap (·.2)).map Hit.toJson)) := by
  have hOutput : { s with json := true }.output q inputs =
      Json.render 0 (listing q.raw q.options ((s.found q inputs).flatMap (·.2))) ++ ['\n'] := rfl
  have hListing : ∀ found : List Hit, listing q.raw q.options found = document q.raw q.options (found.map Hit.toJson) := by
    intro found
    rw [listing, document, List.length_map]
  rw [hOutput, Json.read?_render 0 _ rfl, hListing]

theorem output_lines (hWhole : s.whole = false) (q : Query) (inputs : List Input) :
    ({ s with count := false, json := false }.output q inputs =
      (lineHits q inputs).flatMap fun (name, n, line) => Style.line (sourceLabel inputs name ++ s.numberLabel n ++ line)) ∧
    ({ s with count := true, json := false }.output q inputs = inputs.flatMap fun input =>
      Style.line (sourceLabel inputs input.name ++ Text.ofNat (q.acceptedLines input.contents).length)) ∧
    Json.read? ({ s with json := true }.output q inputs) = some (document q.raw q.options
      ((lineHits q inputs).map fun (name, n, line) =>
        .ofFields [("source", .string name), ("line", .number n), ("text", .string line)])) := by
  refine ⟨?_, ?_, ?_⟩
  · rw [output_shown, found_lines hWhole, List.flatMap_map]
    simp only [hitLine, sourceLabel, numberLabel, decide_eq_true_eq]
  · rw [output_counted]
    simp only [hWhole, hits, Bool.false_eq_true, if_false, List.length_map]
    rfl
  · rw [read?_output_listed, found_lines hWhole, List.map_map]
    rfl

theorem output_whole (hWhole : s.whole = true) (q : Query) (inputs : List Input) :
    ({ s with count := false, json := false }.output q inputs =
      (inputs.filter fun input => q.accepts input.contents).flatMap fun input => Style.line input.name) ∧
    ({ s with count := true, json := false }.output q inputs = inputs.flatMap fun input =>
      Style.line (sourceLabel inputs input.name ++ if q.accepts input.contents then ['1'] else ['0'])) ∧
    Json.read? ({ s with json := true }.output q inputs) = some (document q.raw q.options
      ((inputs.filter fun input => q.accepts input.contents).map fun input =>
        .ofFields [("source", .string input.name)])) := by
  refine ⟨?_, ?_, ?_⟩
  · rw [output_shown, found_whole hWhole, List.flatMap_map]
    rfl
  · have hOne : Text.ofNat 1 = ['1'] := by decide
    have hZero : Text.ofNat 0 = ['0'] := by decide
    rw [output_counted]
    apply List.flatMap_congr
    intro input _
    rw [hWhole, hits, if_pos rfl]
    cases q.accepts input.contents with
    | true => simp [hOne]
    | false => simp [hZero]
  · rw [read?_output_listed, found_whole hWhole, List.map_map]
    rfl

theorem output_single (hWhole : s.whole = false) (count : Bool) (q : Query) (name other t : Text) :
    { s with count := count, json := false }.output q [⟨name, t⟩] =
      { s with count := count, json := false }.output q [⟨other, t⟩] := by
  have hLabel : ∀ input name, sourceLabel [input] name = [] := fun _ _ => rfl
  cases count with
  | true =>
    rw [(output_lines hWhole q _).2.1, (output_lines hWhole q _).2.1]
    simp only [List.flatMap_singleton, hLabel]
  | false =>
    rw [(output_lines hWhole q _).1, (output_lines hWhole q _).1]
    simp only [lineHits, List.flatMap_singleton, List.flatMap_map, hLabel]

/-- A file that may be read is searched like a standard input with the same contents. -/
theorem output_readable_file (hWhole : s.whole = false) (count : Bool) (q : Query) {p : Path} {c : Contents}
    {access : Access} (hEntry : env.files.entry env.cwd p = .ok (.file c access)) (hReadable : access.readable = true) :
    { s with count := count, json := false }.output q ({ s with files := [p] }.readable env stdin) =
      { s with count := count, json := false }.output q ({ s with files := [] }.readable env c) := by
  have hRead : env.read p = c.read := FileTree.read_of_entry hEntry hReadable
  have hFile : { s with files := [p] }.readable env stdin = [p].filterMap (fileInput? env) :=
    readable_of_files (List.cons_ne_nil p [])
  rw [hFile, List.filterMap_cons, fileInput?, hRead, readable, if_pos rfl]
  cases c.read with
  | ok t => exact output_single hWhole count q p.toText standardName t
  | error cause => rfl

end Search

open Search

/-- The views of a search agree.  What it finds are the lines that the query accepts, with growing numbers, or the inputs
that it accepts as a whole.  They are printed one by one, counted for every input, and listed with their number; the exit
status is the same.  A single file that may be read is searched like a standard input with the same contents. -/
theorem views_agree {s : Search} {configured : Options} {q : Query}
    (hQuery : Query.ofText s.query (s.flags.override configured) = .ok q) (env : Environment) (stdin : Contents) :
    let inputs := s.readable env stdin
    let shown := { s with count := false, json := false }.run env configured stdin
    let counted := { s with count := true, json := false }.run env configured stdin
    let listed := { s with json := true }.run env configured stdin
    (∀ t, ((q.acceptedLines t).Pairwise fun a b => a.1 < b.1) ∧ ∀ n line,
      (n, line) ∈ q.acceptedLines t ↔ 0 < n ∧ t.lines[n - 1]? = some line ∧ q.accepts line = true) ∧
    (s.whole = false →
      (shown.output = (lineHits q inputs).flatMap fun (name, n, line) =>
        Style.line (sourceLabel inputs name ++ s.numberLabel n ++ line)) ∧
      (counted.output = inputs.flatMap fun input =>
        Style.line (sourceLabel inputs input.name ++ Text.ofNat (q.acceptedLines input.contents).length)) ∧
      Json.read? listed.output = some (document s.query (s.flags.override configured)
        ((lineHits q inputs).map fun (name, n, line) =>
          .ofFields [("source", .string name), ("line", .number n), ("text", .string line)])) ∧
      ∀ p c access, env.files.entry env.cwd p = .ok (.file c access) → access.readable = true → ∀ count,
        ({ s with files := [p], count := count, json := false }.run env configured stdin).output =
          ({ s with files := [], count := count, json := false }.run env configured c).output) ∧
    (s.whole = true →
      (shown.output = (inputs.filter fun input => q.accepts input.contents).flatMap fun input => Style.line input.name) ∧
      (counted.output = inputs.flatMap fun input =>
        Style.line (sourceLabel inputs input.name ++ if q.accepts input.contents then ['1'] else ['0'])) ∧
      Json.read? listed.output = some (document s.query (s.flags.override configured)
        ((inputs.filter fun input => q.accepts input.contents).map fun input =>
          .ofFields [("source", .string input.name)]))) ∧
    shown.status = counted.status ∧ shown.status = listed.status := by
  intro inputs shown counted listed
  obtain ⟨e, -, rfl⟩ := Query.ofText_eq_ok_iff.1 hQuery
  have hShown : shown = _ := run_of_ok hQuery
  have hCounted : counted = _ := run_of_ok hQuery
  have hListed : listed = _ := run_of_ok hQuery
  refine ⟨fun t => ⟨Query.pairwise_acceptedLines, fun n line => Query.mem_acceptedLines_iff⟩, fun hWhole => ?_,
    fun hWhole => ?_, ?_, ?_⟩
  · rw [hShown, hCounted, hListed]
    obtain ⟨hLines, hNumbers, hDocument⟩ := output_lines hWhole ⟨s.query, s.flags.override configured, e⟩ inputs
    refine ⟨hLines, hNumbers, hDocument, fun p c access hEntry hReadable count => ?_⟩
    have hFile : { s with files := [p], count := count, json := false }.run env configured stdin = _ := run_of_ok hQuery
    have hStdin : { s with files := [], count := count, json := false }.run env configured c = _ := run_of_ok hQuery
    rw [hFile, hStdin]
    exact output_readable_file hWhole count _ hEntry hReadable
  · rw [hShown, hCounted, hListed]
    exact output_whole hWhole _ inputs
  · rw [hShown, hCounted]
    rfl
  · rw [hShown, hListed]
    rfl

/-- Two lines of the first of two files are found, the last of them without a line end. -/
theorem views_agree_on_two_files :
    let env : Environment := ⟨.ofFiles [(["a".toList], "x\r\ny\nX".toList), (["b".toList], "xy\n".toList)], [],
      Path.ofText "/h".toList⟩
    let s : Search := { query := "x".toList, files := ["a", "b"].map fun name => Path.ofText name.toList, lineNumber := true }
    ({ s with count := false, json := false }.run env {} (.text [])).output = "a:1:x\na:3:X\n".toList ∧
      ({ s with count := true, json := false }.run env {} (.text [])).output = "a:2\nb:0\n".toList ∧
      Json.read? ({ s with json := true }.run env {} (.text [])).output = some (document s.query {} [
        .ofFields [("source", .string ['a']), ("line", .number 1), ("text", .string ['x'])],
        .ofFields [("source", .string ['a']), ("line", .number 3), ("text", .string ['X'])]]) := by
  intro env s
  have hTokens : Lexer.tokens s.query = .ok [⟨.word ['x'], 0⟩] := rfl
  have hParse := parse_eq_of_formula hTokens (e := .leaf (.words ['x'])) rfl
  have hQuery := Query.ofText_of_parse hParse (s.flags.override {})
  obtain ⟨-, hLines, -, -⟩ := views_agree hQuery env (.text [])
  obtain ⟨hShown, hCounted, hListed, -⟩ := hLines rfl
  have hFound : lineHits ⟨s.query, s.flags.override {}, .leaf (.words ['x'])⟩ (s.readable env (.text [])) =
      [(['a'], 1, ['x']), (['a'], 3, ['X'])] := by decide
  rw [hFound] at hShown hListed
  exact ⟨hShown.trans (by decide), hCounted.trans (by decide), hListed⟩

end TextQuery
