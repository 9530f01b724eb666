import FindSelect.Proofs.Call.Reading
import FindSelect.Proofs.CommandLine.Files
import FindSelect.Proofs.CommandLine.Spelling
import FindSelect.Proofs.Json.Indented
import FindSelect.Proofs.Statement.RoundTrip

/-!
# What a run prints

A run that asks for a call ends well exactly when everything between its arguments and a statement is
there: the settings, the call, the path of a schema, the schema, a table for the call and the
statement of the call. It then prints that statement, and its output can be read back.

* `Answer`: all that stands between a command and its statement;
* `nonempty_answer_iff`: it is there when the steps of the run succeed;
* `Command.Decodes.distinctKeys`: the operands of a call have distinct keys, as they were read;
* **`run_answers`**: the exit code and the output of a run.
-/

namespace FindSelect

/-! ## Answers -/

/-- All that stands between a command and the statement that it prints. The path of the schema is
among the options, where a variable may have put it, or else in the settings. -/
structure Answer (host : Host Id) (env : Environment) (options : Options) (command : Command) where
  source : Option String
  config : Config
  call : FindCall
  path : String
  schema : Schema
  before : List TableDef
  table : TableDef
  after : List TableDef
  statement : Statement
  config_source : Config.Source host env.configHome options.config source
  config_loaded : Config.LoadedFrom host source config
  decodes : command.Decodes host call
  path_given : options.schema.or config.schemaPath = some path
  schema_loaded : Schema.LoadedFrom host path schema
  tables_eq : schema.tables = before ++ table :: after
  first : ∀ t ∈ before, t.name ≠ call.collection
  table_name : table.name = call.collection
  translates : call.toStatement table.columnNames = .ok statement

/-! ## What an answer says -/

open CommandLine

variable {host : Host Id} {env : Environment} {options : Options} {command : Command}

theorem Answer.result_eq (a : Answer host env options command) {call : Except Failure FindCall}
    (hcall : command.call? host = some call) :
    result host env options call =
      .ok (Report.statement env.coloured (options.format.getD a.config.format) a.statement) := by
  have hdecodes := Command.call?_eq_some_ok_iff.2 a.decodes
  rw [hcall, Option.some.injEq] at hdecodes
  have hcolumns : a.schema.columns a.call.collection = .ok a.table.columnNames :=
    Schema.columns_eq_ok_iff.2
      ⟨a.before, a.table, a.after, a.tables_eq, a.first, a.table_name, rfl⟩
  have hstatement : statementResult host options a.config a.call = .ok a.statement :=
    statementResult_eq_ok_iff.2 ⟨a.path, a.schema, a.table.columnNames,
      schemaPath_eq_ok_iff.2 a.path_given, Schema.load_eq_ok_iff.2 a.schema_loaded, hcolumns,
      a.translates⟩
  have hconfig : configResult host env options = .ok a.config :=
    configResult_eq_ok_iff.2
      ⟨a.source, Config.load_eq_ok_iff.2 ⟨a.config_source, a.config_loaded⟩⟩
  exact result_eq_ok_iff.2 ⟨a.config, a.call, a.statement, hconfig, hdecodes, hstatement, rfl⟩

theorem nonempty_answer_iff {call : Except Failure FindCall}
    (hcall : command.call? host = some call) :
    Nonempty (Answer host env options command) ↔
      ∃ stdout, result host env options call = .ok stdout := by
  constructor
  · rintro ⟨a⟩
    exact ⟨_, a.result_eq hcall⟩
  · rintro ⟨stdout, h⟩
    obtain ⟨config, c, s, hconfig, rfl, hs, -⟩ := result_eq_ok_iff.1 h
    obtain ⟨source, hload⟩ := configResult_eq_ok_iff.1 hconfig
    obtain ⟨hsource, hloaded⟩ := Config.load_eq_ok_iff.1 hload
    obtain ⟨path, schema, columns, hpath, hschema, hcolumns, hs⟩ := statementResult_eq_ok_iff.1 hs
    obtain ⟨before, table, after, htables, hfirst, hname, rfl⟩ :=
      Schema.columns_eq_ok_iff.1 hcolumns
    exact ⟨{
      source, config, call := c, path, schema, before, table, after, statement := s
      config_source := hsource
      config_loaded := hloaded
      decodes := Command.call?_eq_some_ok_iff.1 hcall
      path_given := schemaPath_eq_ok_iff.1 hpath
      schema_loaded := Schema.load_eq_ok_iff.1 hschema
      tables_eq := htables
      first := hfirst
      table_name := hname
      translates := hs }⟩

/-! ## The output -/

theorem Command.Decodes.distinctKeys {c : FindCall} (h : command.Decodes host c) :
    ∀ v ∈ c.filter, v.DistinctKeys := by
  cases h with
  | find hfilter _ _ => exact distinctKeys_of_map_parse hfilter
  | call _ hparse _ => exact FindCall.distinctKeys_filter_of_parse hparse

/-- **The outcome of a run.** Take arguments that ask for a call. They spell the options and the
command that the run goes by. The run ends well exactly when there is an answer to the command. When
the output is to be a document, and no operand of the answer has a floating-point number or nests
more than 124 lists and documents, the output of the run is read back as the statement of the answer.
A run that does not end well has printed nothing. -/
theorem run_answers (host : Host Id) (env : Environment) {arguments : List String}
    {options : Options} {command : Command}
    (hparse : Request.parse env.schema arguments = .ok (.run options command))
    (hcommand : command ≠ .operators) :
    let outcome := (run host env arguments).run
    Request.Spelled env.schema arguments options command ∧
      (outcome.exit = 0 ↔ Nonempty (Answer host env options command)) ∧
      (∀ a : Answer host env options command, options.format = some .json →
        (∀ p ∈ a.statement.predicates, p.value.RealFree ∧ p.value.nesting ≤ 124) →
        Statement.parse outcome.stdout = .ok a.statement) ∧
      (outcome.exit ≠ 0 → outcome.exit = 1 ∧ outcome.stdout = "") := by
  intro outcome
  obtain ⟨call, hcall⟩ : ∃ call, command.call? host = some call := by
    cases command with
    | operators => exact absurd rfl hcommand
    | find _ _ _ _ _ _ => exact ⟨_, rfl⟩
    | call file => exact ⟨_, rfl⟩
  have hshows : outcome.Shows (result host env options call) := shows_run host hparse hcall
  refine ⟨Request.spelled_of_parse hparse, ?_, fun a hformat hpredicates => ?_,
    hshows.of_exit_ne_zero⟩
  · rw [hshows.exit_eq_zero_iff, nonempty_answer_iff hcall]
  · rw [a.result_eq hcall, hformat] at hshows
    have hstdout : outcome.stdout = a.statement.toJson.indented ++ "\n" := hshows.stdout_eq
    have hplain : ∀ p ∈ a.statement.predicates, p.value.Plain := fun p hp =>
      ⟨(hpredicates p hp).1, distinctKeys_predicates a.decodes.distinctKeys a.translates p hp⟩
    rw [hstdout, Statement.parse_of_holds (Reader.holds_indented _).line hplain, Statement.shallow,
      if_pos fun p hp => (hpredicates p hp).2]

/-- Surroundings with settings that name the file of the schema. -/
def settingsHost : Host Id :=
  .ofTexts [("mongosql.toml", "schema_path = \"schema.json\"\nformat = \"pretty\"\n"),
    ("schema.json", usersSchema.toJson.compact)]

/-- The call of the run below. -/
def youngCall : FindCall where
  collection := "users"
  filter := some (.document [("age", .document [("$lt", .list [.string "π", .list []])])])
  projection := some (.document [("age", .ofInt64 1)])
  limit := some 3
  skip := some 2
  sort := some (.single "age" (-1))

/-- The settings give the path of the schema, the options give the call, and what is printed is read
back as its statement. -/
theorem run_answers_every_option :
    let texts := fun part : Option Json => (part.map Json.compact).toList
    let arguments := ["-fpretty", "find", "users", "--filter"] ++ texts youngCall.filter ++
      ["--projection"] ++ texts youngCall.projection ++ ["--limit=3", "--skip", "2", "--sort",
        (SortSpec.single "age" (-1)).toJson.compact, "-f", "json"]
    let outcome := (run settingsHost {} arguments).run
    outcome.exit = 0 ∧ Statement.parse outcome.stdout =
      .ok ⟨"users", .only [⟨"age"⟩], [⟨⟨"age"⟩, .lt, .list [.string "π", .list []]⟩],
        some 3, some 2, [⟨"age", -1⟩]⟩ := by
  intro texts arguments
  have hparse : Request.parse none arguments = .ok (.run ⟨none, some .json, none, false⟩
      (.find "users" (youngCall.filter.map Json.compact) (youngCall.projection.map Json.compact)
        (some (SortSpec.single "age" (-1)).toJson.compact) (some 3) (some 2))) := by
    decide +kernel
  have hoperand : (Json.list [.string "π", .list []]).Plain :=
    ⟨⟨trivial, trivial, trivial⟩, ⟨trivial, trivial, trivial⟩⟩
  have hcomparison : (Json.document [("$lt", .list [.string "π", .list []])]).Plain :=
    Json.plain_document_iff.2 ⟨List.nodup_singleton _, List.forall_mem_singleton.2 hoperand⟩
  have hfilter : (youngCall.filter.map Json.compact).map Json.parse = youngCall.filter.map .ok :=
    congrArg some (Json.parse_compact (Json.plain_document_iff.2
      ⟨List.nodup_singleton _, List.forall_mem_singleton.2 hcomparison⟩) (by decide))
  have hprojection : (youngCall.projection.map Json.compact).map Json.parse =
      youngCall.projection.map .ok :=
    congrArg some (Json.parse_compact (Json.plain_document_iff.2
      ⟨List.nodup_singleton _, List.forall_mem_singleton.2 ⟨trivial, trivial⟩⟩) (by decide))
  have hsort : SortSpec.ReadFrom (some (SortSpec.single "age" (-1)).toJson.compact)
      (some (.single "age" (-1))) :=
    .some (Json.parse_compact (SortSpec.plain_toJson _) (by decide)) (.pair "age" (-1))
  have hsettings : Config.ofToml "schema_path = \"schema.json\"\nformat = \"pretty\"\n" =
      some ⟨some "schema.json", .pretty⟩ := by
    decide +kernel
  let answer : Answer settingsHost {} ⟨none, some .json, none, false⟩
      (.find "users" (youngCall.filter.map Json.compact) (youngCall.projection.map Json.compact)
        (some (SortSpec.single "age" (-1)).toJson.compact) (some 3) (some 2)) := {
    source := some "mongosql.toml"
    config := ⟨some "schema.json", .pretty⟩
    call := youngCall
    path := "schema.json"
    schema := usersSchema
    before := []
    table := ⟨"users", [⟨"age", none, false⟩]⟩
    after := []
    statement := ⟨"users", .only [⟨"age"⟩], [⟨⟨"age"⟩, .lt, .list [.string "π", .list []]⟩],
      some 3, some 2, [⟨"age", -1⟩]⟩
    config_source := .working (Host.hasPath_ofTexts_iff.2 rfl)
    config_loaded := .file (Host.holdsText_ofTexts rfl) (Config.ofToml_eq_some_iff.1 hsettings)
    decodes := .find hfilter hprojection hsort
    path_given := rfl
    schema_loaded := .document (Host.holdsText_ofTexts rfl) (.inl (by decide))
      (Schema.parse_of_holds (Reader.holds_compact _))
    tables_eq := rfl
    first := nofun
    table_name := rfl
    translates := rfl }
  obtain ⟨-, hexit, hprinted, -⟩ := run_answers settingsHost {} hparse nofun
  refine ⟨hexit.2 ⟨answer⟩, hprinted answer rfl ?_⟩
  intro p hp
  obtain rfl := List.mem_singleton.1 hp
  exact ⟨hoperand.realFree, by decide⟩

end FindSelect
