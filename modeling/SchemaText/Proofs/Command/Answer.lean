import SchemaText.Command.Run
import SchemaText.Proofs.Command.SourceText
import SchemaText.Proofs.Text.Utf8
/-! How the commands end: parsing writes the whole rendering of what is read or nothing at all, and
checking has the same verdict on a file. -/

namespace SchemaText.Command

section Meaning

def isBracket (c : Char) : Bool :=
  c == '[' || c == ']'

/-- There are no square brackets in the text, which might be taken for marks. -/
def IsBare (text : String) : Prop :=
  ∀ c ∈ text.toList, isBracket c = false

instance (text : String) : Decidable (IsBare text) :=
  List.decidableBAll (fun c => isBracket c = false) text.toList

/-- The console prints everything that holds no square brackets. -/
def Console.PrintsBare (console : Console) : Prop :=
  ∀ status : Status, IsBare status.text → console.prints status

/-- The file at the path spells a text, of which this is read: with its line ends written the same,
and in the language asked for or else in the one that it is in. -/
inductive Reads (files : Files) (path : Path) (asked : Option Language) : Reading → Prop
  | dsl {text unified : List Char} (h : files path = some (.file (Text.Utf8.encode text)))
    (hu : Unified text unified) (hl : IsIn path unified asked .dsl) :
    Reads files path asked (Diagram.read (String.ofList unified))
  | sql {text unified : List Char} (h : files path = some (.file (Text.Utf8.encode text)))
    (hu : Unified text unified) (hl : IsIn path unified asked .sql) :
    Reads files path asked (Sql.read (String.ofList unified))

/-- What may be written of a reading: the schema in the format asked for. A strict request asks for
no rendering of a reading that skipped something. -/
inductive Renders (lib : Export.Library) (request : ParseRequest) (reading : Reading) :
    String → Prop
  | json (h : request.strict → reading.diagnostics = []) (hf : request.format = .json) :
    Renders lib request reading ((Json.ofSchema reading.schema).render 0)
  | dsl (h : request.strict → reading.diagnostics = []) (hf : request.format = .dsl) :
    Renders lib request reading (Diagram.render request.keepCardinality reading.schema)
  | sql {script : String} (h : request.strict → reading.diagnostics = [])
    (hf : request.format = .sql)
    (hr : lib.render request.sqlDialect reading.schema = .ok script) :
    Renders lib request reading script

def Answers (lib : Export.Library) (files : Files) (request : ParseRequest) (output : String) :
    Prop :=
  ∃ reading, Reads files request.source request.language reading ∧
    Renders lib request reading output

/-- The outcome is one of the answers as a whole; without an answer it is a failure that has written
nothing. -/
def Outcome.Gives (outcome : Outcome) (answers : String → Prop) : Prop :=
  outcome.exit = 0 ∧ answers outcome.output ∨
    outcome.exit ≠ 0 ∧ outcome.output = "" ∧ ∀ output, ¬ answers output

end Meaning

section Sources

variable {files : Files} {path : Path} {language : Option Language} {reading : Reading}

theorem readFile_eq_ok_iff {text : List Char} :
    readFile files path = .ok text ↔
      ∃ spelled, files path = some (.file (Text.Utf8.encode spelled)) ∧
        Text.foldLineEnds spelled = text := by
  unfold readFile readSource
  cases hentry : files path with
  | none => exact ⟨nofun, nofun⟩
  | some entry =>
    cases entry with
    | directory _ | unreadable _ => exact ⟨nofun, nofun⟩
    | file content =>
      have hspelled (spelled : List Char) :
          some (Entry.file content) = some (.file (Text.Utf8.encode spelled)) ↔
            Text.Utf8.decode content = .ok spelled := by
        rw [Text.Utf8.decode_eq_ok_iff, Option.some_inj, Entry.file.injEq, eq_comm]
      simp only [hspelled]
      cases Text.Utf8.decode content with
      | error fault => exact ⟨nofun, nofun⟩
      | ok decoded =>
        constructor
        · intro h
          exact ⟨decoded, rfl, Except.ok.inj h⟩
        · rintro ⟨_, ⟨⟩, rfl⟩
          rfl

theorem reads_iff_exists :
    Reads files path language reading ↔
      ∃ text chosen, readFile files path = .ok text ∧ IsIn path text language chosen ∧
        readIn chosen text = reading := by
  simp only [readFile_eq_ok_iff, ← unified_iff]
  constructor
  · rintro (⟨h, hu, hl⟩ | ⟨h, hu, hl⟩)
    · exact ⟨_, .dsl, ⟨_, h, hu⟩, hl, rfl⟩
    · exact ⟨_, .sql, ⟨_, h, hu⟩, hl, rfl⟩
  · rintro ⟨text, chosen, ⟨spelled, h, hu⟩, hl, rfl⟩
    cases chosen with
    | dsl => exact .dsl h hu hl
    | sql => exact .sql h hu hl

theorem reads_iff :
    Reads files path language reading ↔
      ∃ source, readFileIn files path language = .ok source ∧ source.reading = reading := by
  have hsource (source : ReadSource) : readFileIn files path language = .ok source ↔ _ :=
    Export.map_eq_ok_iff
  simp only [reads_iff_exists, hsource, isIn_iff]
  constructor
  · rintro ⟨text, _, htext, rfl, hread⟩
    exact ⟨_, ⟨text, htext, rfl⟩, hread⟩
  · rintro ⟨_, ⟨text, htext, rfl⟩, hread⟩
    exact ⟨text, _, htext, rfl, hread⟩

theorem exists_status_of_readFileIn {source : ReadSource}
    (h : readFileIn files path language = .ok source) :
    ∃ chosen : Language,
      source.status = .info ("Source: " ++ path.text ++ " (" ++ chosen.name ++ ")") := by
  obtain ⟨text, _, rfl⟩ := Export.map_eq_ok_iff.1 h
  exact ⟨_, rfl⟩

end Sources

section Bare

variable {first second : String}

theorem IsBare.append (h : IsBare first) (k : IsBare second) : IsBare (first ++ second) := by
  unfold IsBare
  rw [String.toList_append]
  exact List.forall_mem_append.2 ⟨h, k⟩

theorem isBare_toString (n : Nat) : IsBare (toString n) := by
  intro c hc
  rw [Nat.toString_eq_repr, Nat.toList_repr] at hc
  have hd : c.isDigit := Nat.isDigit_of_mem_toDigits (by decide) (by decide) hc
  refine Bool.eq_false_iff.2 fun hb => ?_
  rcases Bool.or_eq_true_iff.1 hb with he | he <;> rw [beq_iff_eq.1 he] at hd <;> cases hd

theorem isBare_counts (schema : Schema) : IsBare (counts schema) := by
  have hparsed : IsBare "Parsed " := by decide
  have htables : IsBare " tables, " := by decide
  have hrelationships : IsBare " relationships and " := by decide
  have henums : IsBare " enums" := by decide
  exact (((((hparsed.append (isBare_toString _)).append htables).append
    (isBare_toString _)).append hrelationships).append (isBare_toString _)).append henums

theorem isBare_source {path : Path} (h : IsBare path.text) (language : Language) :
    IsBare (Status.info ("Source: " ++ path.text ++ " (" ++ language.name ++ ")")).text := by
  have hi : IsBare "i " := by decide
  have hsource : IsBare "Source: " := by decide
  have hopening : IsBare " (" := by decide
  have hclosing : IsBare ")" := by decide
  have hname : IsBare language.name := by cases language <;> decide
  exact hi.append ((((hsource.append h).append hopening).append hname).append hclosing)

theorem isBare_format (format : Format) :
    IsBare (Status.info ("Output format: " ++ format.name)).text := by
  cases format <;> decide

end Bare

section Outcomes

variable {console : Console} {outcome : Outcome} {answers : String → Prop} {status : Status}

theorem Outcome.Gives.before (h : outcome.Gives answers) (k : console.prints status) :
    (console.before status outcome).Gives answers := by
  unfold Console.before
  rwa [if_pos k]

theorem Outcome.Gives.congr {others : String → Prop} (h : outcome.Gives answers)
    (k : ∀ output, answers output ↔ others output) : outcome.Gives others := by
  rwa [← funext fun output => propext (k output)]

theorem gives_fail (console : Console) (message : String) (h : ∀ output, ¬ answers output) :
    (console.fail message).Gives answers := by
  unfold Console.fail
  split <;> exact .inr ⟨nofun, rfl, h⟩

theorem gives_write {text report : String} (h : answers text)
    (k : console.prints (.success report)) : (console.write text report).Gives answers := by
  unfold Console.write Console.before
  rw [if_pos k]
  exact .inl ⟨rfl, h⟩

theorem Outcome.Gives.exit_eq_zero_iff (h : outcome.Gives answers) :
    outcome.exit = 0 ↔ ∃ output, answers output := by
  rcases h with ⟨hexit, hanswer⟩ | ⟨hexit, _, hnone⟩
  · exact ⟨fun _ => ⟨_, hanswer⟩, fun _ => hexit⟩
  · exact ⟨fun hzero => absurd hzero hexit, fun ⟨output, hanswer⟩ => absurd hanswer (hnone output)⟩

theorem exit_fail_ne_zero (console : Console) (message : String) :
    (console.fail message).exit ≠ 0 := by
  unfold Console.fail
  split <;> nofun

theorem exit_before (k : console.prints status) (outcome : Outcome) :
    (console.before status outcome).exit = outcome.exit := by
  unfold Console.before
  rw [if_pos k]

theorem exit_reportDiagnostics_eq_zero_iff (hp : console.PrintsBare)
    (diagnostics : List Diagnostic) :
    (console.reportDiagnostics diagnostics).exit = 0 ↔ diagnostics = [] := by
  cases diagnostics with
  | nil =>
    have hreport : console.prints (.success "No diagnostics") := hp _ (by decide)
    exact ⟨fun _ => rfl, fun _ => exit_before hreport _⟩
  | cons first others =>
    refine ⟨fun h => ?_, nofun⟩
    unfold Console.reportDiagnostics at h
    cases htable : console.table? (first :: others) with
    | none =>
      rw [htable] at h
      cases h
    | some table =>
      rw [htable] at h
      exact absurd h (exit_fail_ne_zero console _)

end Outcomes

section Commands

variable {host : Host} {files : Files} {request : ParseRequest}

theorem gives_exportFailed {answers : String → Prop} (fault : Export.Fault)
    (h : ∀ output, ¬ answers output) : (host.exportFailed fault).Gives answers := by
  unfold Host.exportFailed
  split
  · exact .inr ⟨nofun, rfl, h⟩
  · exact gives_fail _ _ h

theorem accept_eq_ok_iff {strict : Bool} {reading : Reading} {schema : Schema} :
    reading.accept strict = .ok schema ↔
      (strict → reading.diagnostics = []) ∧ reading.schema = schema := by
  cases strict with
  | true => simp [Reading.accept_strict_eq_ok_iff]
  | false => simp [Reading.accept_lenient]

theorem renders_iff {reading : Reading} {output : String} :
    Renders host.library request reading output ↔
      (request.strict → reading.diagnostics = []) ∧
        host.renderAs request reading.schema = .ok output := by
  unfold Host.renderAs
  constructor
  · rintro (⟨h, hf⟩ | ⟨h, hf⟩ | ⟨h, hf, hr⟩)
    · exact ⟨h, by rw [hf]⟩
    · exact ⟨h, by rw [hf]⟩
    · exact ⟨h, by rw [hf, hr]⟩
  · rintro ⟨h, hr⟩
    cases hf : request.format with
    | json =>
      rw [hf] at hr
      exact Except.ok.inj hr ▸ .json h hf
    | dsl =>
      rw [hf] at hr
      exact Except.ok.inj hr ▸ .dsl h hf
    | sql =>
      rw [hf] at hr
      exact .sql h hf hr

theorem gives_renderReading (hp : host.console.PrintsBare) (request : ParseRequest)
    (reading : Reading) :
    (host.renderReading request reading).Gives (Renders host.library request reading) := by
  unfold Host.renderReading
  cases haccepted : reading.accept request.strict with
  | error rejection =>
    refine gives_fail _ _ fun output hrenders => ?_
    rw [accept_eq_ok_iff.2 ⟨(renders_iff.1 hrenders).1, rfl⟩] at haccepted
    cases haccepted
  | ok schema =>
    obtain ⟨hstrict, rfl⟩ := accept_eq_ok_iff.1 haccepted
    dsimp only
    cases hrendered : host.renderAs request reading.schema with
    | error fault =>
      refine gives_exportFailed fault fun output hrenders => ?_
      rw [(renders_iff.1 hrenders).2] at hrendered
      cases hrendered
    | ok text =>
      have hbare : IsBare (Status.success (counts reading.schema)).text := by
        have htick : IsBare "✓ " := by decide
        exact htick.append (isBare_counts _)
      exact gives_write (renders_iff.2 ⟨hstrict, hrendered⟩) (hp _ hbare)

theorem answers_iff {lib : Export.Library} {source : ReadSource} {output : String}
    (h : readFileIn files request.source request.language = .ok source) :
    Answers lib files request output ↔ Renders lib request source.reading output := by
  unfold Answers
  simp only [reads_iff, h, Except.ok.injEq]
  constructor
  · rintro ⟨_, ⟨_, rfl, rfl⟩, hrenders⟩
    exact hrenders
  · intro hrenders
    exact ⟨_, ⟨source, rfl, rfl⟩, hrenders⟩

theorem prints_source (hp : host.console.PrintsBare) {path : Path} (hb : IsBare path.text)
    {language : Option Language} {source : ReadSource}
    (h : readFileIn files path language = .ok source) : host.console.prints source.status := by
  obtain ⟨chosen, hstatus⟩ := exists_status_of_readFileIn h
  rw [hstatus]
  exact hp _ (isBare_source hb chosen)

theorem gives_runParse (hp : host.console.PrintsBare) (files : Files)
    (hb : IsBare request.source.text) :
    (host.runParse files request).Gives (Answers host.library files request) := by
  unfold Host.runParse
  split
  · next fault hfault =>
    refine gives_fail _ _ ?_
    rintro output ⟨reading, hreads, _⟩
    obtain ⟨source, hsource, _⟩ := reads_iff.1 hreads
    rw [hsource] at hfault
    cases hfault
  · next source hsource =>
    have hgives := gives_renderReading hp request source.reading
    exact ((hgives.congr fun _ => (answers_iff hsource).symm).before
      (hp _ (isBare_format _))).before (prints_source hp hb hsource)

theorem exit_runCheck_eq_zero_iff (hp : host.console.PrintsBare) (files : Files) {path : Path}
    (hb : IsBare path.text) (language : Option Language) :
    (host.runCheck files path language).exit = 0 ↔
      ∃ reading, Reads files path language reading ∧ reading.diagnostics = [] := by
  unfold Host.runCheck
  simp only [reads_iff]
  cases hsource : readFileIn files path language with
  | error fault => exact ⟨fun h => absurd h (exit_fail_ne_zero _ _), nofun⟩
  | ok source =>
    dsimp only
    rw [exit_before (prints_source hp hb hsource), exit_reportDiagnostics_eq_zero_iff hp]
    simp

theorem Reads.eq {path : Path} {language : Option Language} {reading other : Reading}
    (h : Reads files path language reading) (k : Reads files path language other) :
    reading = other := by
  obtain ⟨source, hsource, rfl⟩ := reads_iff.1 h
  obtain ⟨same, hsame, rfl⟩ := reads_iff.1 k
  rw [hsource] at hsame
  rw [Except.ok.inj hsame]

theorem exists_answers_iff {lib : Export.Library} (hs : request.strict)
    (hf : request.format = .json) :
    (∃ output, Answers lib files request output) ↔
      ∃ reading, Reads files request.source request.language reading ∧
        reading.diagnostics = [] := by
  constructor
  · rintro ⟨_, reading, hreads, hrenders⟩
    refine ⟨reading, hreads, ?_⟩
    rcases hrenders with ⟨h, _⟩ | ⟨h, _⟩ | ⟨h, _, _⟩ <;> exact h hs
  · rintro ⟨reading, hreads, hclean⟩
    exact ⟨_, reading, hreads, .json (fun _ => hclean) hf⟩

/-- Whatever bytes the files hold and whatever options are given, parsing writes the rendering of
what is read of the file, or it fails and writes nothing; strict parsing fails if something was
skipped. Checking succeeds exactly where strict parsing into JSON does. -/
theorem run_parse (hp : host.console.PrintsBare) (files : Files) (request : ParseRequest)
    (hb : IsBare request.source.text) :
    (host.runRequest files (.parse request)).Gives (Answers host.library files request) ∧
      (request.strict → (host.runRequest files (.parse request)).exit = 0 →
        ∀ reading, Reads files request.source request.language reading →
          reading.diagnostics = []) ∧
      ((host.runRequest files (.check request.source request.language)).exit = 0 ↔
        (host.runRequest files
          (.parse { request with strict := true, format := .json })).exit = 0) := by
  have hgives := gives_runParse hp files hb
  refine ⟨hgives, fun hs hexit reading hreads => ?_, ?_⟩
  · obtain ⟨_, other, hother, hrenders⟩ := hgives.exit_eq_zero_iff.1 hexit
    rw [hreads.eq hother]
    rcases hrenders with ⟨h, _⟩ | ⟨h, _⟩ | ⟨h, _, _⟩ <;> exact h hs
  · have hstrict : (host.runRequest files
        (.parse { request with strict := true, format := .json })).Gives _ :=
      gives_runParse hp files hb
    rw [hstrict.exit_eq_zero_iff, exists_answers_iff rfl rfl]
    exact exit_runCheck_eq_zero_iff hp files hb request.language

def cleanFile : FileTree where
  leaves := [⟨["t.dbml"], some (Text.Utf8.encode "Table t \x7b\r\n id int\r\n\x7d\r\n".toList)⟩]

def cleanRequest : ParseRequest where
  source := ⟨"", ["t.dbml"]⟩
  language := none
  format := .json
  sqlDialect := .postgresql
  strict := true
  keepCardinality := true

theorem run_parse_cleanFile :
    program.console.PrintsBare ∧ IsBare cleanRequest.source.text ∧
      (program.runRequest cleanFile.files (.parse cleanRequest)).exit = 0 ∧
      Answers program.library cleanFile.files cleanRequest
        (program.runRequest cleanFile.files (.parse cleanRequest)).output ∧
      (∀ reading, Reads cleanFile.files cleanRequest.source cleanRequest.language reading →
        reading.diagnostics = []) ∧
      (program.runRequest cleanFile.files (.check cleanRequest.source none)).exit = 0 := by
  have hp : program.console.PrintsBare := fun _ _ => rfl
  have hb : IsBare cleanRequest.source.text := by decide +kernel
  have hexit : (program.runRequest cleanFile.files (.parse cleanRequest)).exit = 0 := by
    decide +kernel
  obtain ⟨hgives, hclean, hsame⟩ := run_parse hp cleanFile.files cleanRequest hb
  refine ⟨hp, hb, hexit, ?_, hclean rfl hexit, hsame.2 hexit⟩
  rcases hgives with ⟨_, hanswer⟩ | ⟨hfailed, _⟩
  · exact hanswer
  · exact absurd hexit hfailed

end Commands

end SchemaText.Command
