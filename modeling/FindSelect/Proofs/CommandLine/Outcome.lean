import FindSelect.CommandLine.Run
import FindSelect.Proofs.FirstError

/-!
# The outcome of a run

Notes are left on the way of a run and change nothing about where it ends. So a run ends as the plain
row of its steps does: the configuration is loaded, the call is decoded, the schema is loaded, the
table is found and the statement is made, and the first of these steps that fails ends the run with
nothing printed.

* `Yields`: where a part of a run ends, whatever notes there are;
* `Command.call?`, `statementResult`, `result`: the steps of a run without their notes;
* `result_eq_ok_iff`, `statementResult_eq_ok_iff`: when they succeed;
* `Outcome.Shows`: an outcome that tells a result;
* **`shows_run`**: a run of a command that asks for a call shows the result of the steps.
-/

namespace FindSelect

/-- The call that a command asks for, if it asks for one. -/
def Command.call? (host : Host Id) : Command → Option (Except Failure FindCall)
  | .find collection filter projection sort limit skip =>
    some (CommandLine.callOfArguments collection filter projection sort limit skip)
  | .call file => some (CommandLine.callOfFile host file).run
  | .operators => none

namespace CommandLine

variable {α β ε : Type}

/-! ## Parts of a run -/

/-- A part of a run ends in one way, whatever notes were left before it. -/
def Yields (t : Task Id α) (x : Except Failure α) : Prop :=
  ∀ notes, (t.run.run notes).run.1 = x

theorem yields_pure (a : α) : Yields (pure a) (.ok a) := fun _ => rfl

theorem yields_leave (n : Note) : Yields (leave n) (.ok ()) := fun _ => rfl

theorem yields_orFail (failure : ε → Failure) (x : Except ε α) :
    Yields (orFail failure x) (x.mapError failure) := by
  cases x with
  | ok a => exact fun _ => rfl
  | error e => exact fun _ => rfl

theorem yields_orFail_id (x : Except Failure α) : Yields (orFail id x) x := by
  cases x with
  | ok a => exact fun _ => rfl
  | error e => exact fun _ => rfl

theorem Yields.bind {t : Task Id α} {f : α → Task Id β} {x : Except Failure α}
    {g : α → Except Failure β} (ht : Yields t x) (hf : ∀ a, Yields (f a) (g a)) :
    Yields (t >>= f) (x >>= g) := by
  intro notes
  change ((ExceptT.bindCont f (t.run.run notes).run.1).run (t.run.run notes).run.2).run.1 = _
  rw [ht notes]
  cases x with
  | ok a => exact hf a _
  | error e => rfl

theorem Yields.keep {t : Task Id α} {f : α → Task Id α} {x : Except Failure α} (ht : Yields t x)
    (hf : ∀ a, Yields (f a) (.ok a)) : Yields (t >>= f) x := by
  have h := ht.bind hf
  rwa [show (x >>= Except.ok) = x from bind_pure x] at h

theorem Yields.load {x : Id (Except ε α)} {failure : ε → Failure} {f : α → Task Id β}
    {y : Except Failure β} (h : Yields (orFail failure x.run >>= f) y) :
    Yields (do let loaded ← liftM x; let a ← orFail failure loaded; f a) y :=
  h

theorem Yields.then {t : Task Id PUnit} {u : Task Id β} {y : Except Failure β}
    (ht : Yields t (.ok ())) (hu : Yields u y) : Yields (t >>= fun _ => u) y :=
  ht.bind fun _ => hu

theorem yields_forIn_leave (events : List Event) :
    Yields (forIn events PUnit.unit fun e _ => do
      leave (.event e)
      pure (ForInStep.yield PUnit.unit)) (.ok ()) := by
  induction events with
  | nil => exact fun _ => rfl
  | cons e events ih =>
    intro notes
    rw [List.forIn_cons]
    exact ih (notes ++ [.event e])

/-! ## The steps of a run -/

/-- The settings of a run. -/
def configResult (host : Host Id) (env : Environment) (options : Options) :
    Except Failure Config :=
  ((Config.load host env.configHome options.config).run.mapError (Failure.ofLoad [])).map Prod.fst

/-- The statement of a call against the columns of its table. -/
def statementResult (host : Host Id) (options : Options) (config : Config) (call : FindCall) :
    Except Failure Statement := do
  let path ← schemaPath options config
  let schema ← (Schema.load host path).run.mapError
    (Failure.ofLoad ["Failed to load schema " ++ path])
  let columns ← (schema.columns call.collection).mapError Failure.ofCallError
  (call.toStatement columns).mapError Failure.ofCallError

/-- What a run prints for a call, or why it prints nothing. -/
def result (host : Host Id) (env : Environment) (options : Options)
    (call : Except Failure FindCall) : Except Failure String := do
  let config ← configResult host env options
  let call ← call
  let s ← statementResult host options config call
  return Report.statement env.coloured (options.format.getD config.format) s

theorem schemaPath_eq_ok_iff {options : Options} {config : Config} {path : String} :
    schemaPath options config = .ok path ↔ options.schema.or config.schemaPath = some path := by
  unfold schemaPath
  cases options.schema.or config.schemaPath with
  | none => exact iff_of_false nofun nofun
  | some given => rw [Except.ok.injEq, Option.some.injEq]

theorem configResult_eq_ok_iff {host : Host Id} {env : Environment} {options : Options}
    {config : Config} :
    configResult host env options = .ok config ↔
      ∃ source, (Config.load host env.configHome options.config).run = .ok (config, source) := by
  unfold configResult
  cases (Config.load host env.configHome options.config).run with
  | error e => exact iff_of_false nofun nofun
  | ok p =>
    obtain ⟨c, source⟩ := p
    constructor
    · rintro ⟨⟩
      exact ⟨source, rfl⟩
    · rintro ⟨source, ⟨⟩⟩
      rfl

theorem result_eq_ok_iff {host : Host Id} {env : Environment} {options : Options}
    {call : Except Failure FindCall} {stdout : String} :
    result host env options call = .ok stdout ↔ ∃ config c s,
      configResult host env options = .ok config ∧ call = .ok c ∧
        statementResult host options config c = .ok s ∧
        Report.statement env.coloured (options.format.getD config.format) s = stdout := by
  unfold result
  simp only [bind_eq_ok_iff]
  constructor
  · rintro ⟨config, hconfig, c, hcall, s, hs, ⟨⟩⟩
    exact ⟨config, c, s, hconfig, hcall, hs, rfl⟩
  · rintro ⟨config, c, s, hconfig, hcall, hs, rfl⟩
    exact ⟨config, hconfig, c, hcall, s, hs, rfl⟩

theorem result_error_ne_ok {host : Host Id} {env : Environment} {options : Options}
    {failure : Failure} {stdout : String} :
    result host env options (.error failure) ≠ .ok stdout := by
  intro h
  obtain ⟨config, c, -, -, hcall, -⟩ := result_eq_ok_iff.1 h
  cases hcall

theorem statementResult_eq_ok_iff {host : Host Id} {options : Options} {config : Config}
    {call : FindCall} {s : Statement} :
    statementResult host options config call = .ok s ↔ ∃ path schema columns,
      schemaPath options config = .ok path ∧ (Schema.load host path).run = .ok schema ∧
        schema.columns call.collection = .ok columns ∧ call.toStatement columns = .ok s := by
  unfold statementResult
  simp only [bind_eq_ok_iff, mapError_eq_ok_iff]
  constructor
  · rintro ⟨path, hpath, schema, hschema, columns, hcolumns, hs⟩
    exact ⟨path, schema, columns, hpath, hschema, hcolumns, hs⟩
  · rintro ⟨path, schema, columns, hpath, hschema, hcolumns, hs⟩
    exact ⟨path, hpath, schema, hschema, columns, hcolumns, hs⟩

/-! ## Notes along the steps -/

theorem yields_loadConfig (host : Host Id) (env : Environment) (options : Options) :
    Yields (loadConfig host env options) (configResult host env options) := by
  have hload : configResult host env options =
      (Config.load host env.configHome options.config).run.mapError (Failure.ofLoad []) >>=
        fun p => .ok p.1 := by
    unfold configResult
    cases (Config.load host env.configHome options.config).run with
    | ok p => rfl
    | error e => rfl
  rw [hload]
  refine Yields.load ((yields_orFail _ _).bind fun p => ?_)
  obtain ⟨config, _ | path⟩ := p
  · exact yields_pure config
  · exact (yields_leave _).then (yields_pure config)

theorem yields_loadSchema (host : Host Id) (path : String) :
    Yields (loadSchema host path) ((Schema.load host path).run.mapError
      (Failure.ofLoad ["Failed to load schema " ++ path])) :=
  Yields.load ((yields_orFail _ _).keep fun schema => (yields_leave _).then (yields_pure schema))

theorem yields_statementOf (coloured : Bool) (host : Host Id) (options : Options) (config : Config)
    (call : FindCall) :
    Yields (statementOf coloured host options config call)
      (statementResult host options config call) := by
  unfold statementOf statementResult
  refine (yields_orFail_id _).bind fun path => (yields_loadSchema host path).bind fun schema => ?_
  refine (yields_orFail _ _).bind fun columns => ?_
  have hrest := (yields_forIn_leave (call.events columns)).then
    (yields_orFail Failure.ofCallError (call.toStatement columns))
  dsimp only
  split_ifs
  · exact (yields_leave _).then hrest
  · exact hrest

theorem yields_runCommand (host : Host Id) (env : Environment) (options : Options)
    {command : Command} {call : Except Failure FindCall} (hcall : command.call? host = some call) :
    Yields (runCommand env.coloured host env options command) (result host env options call) := by
  have hprint : ∀ config, Yields (do
        let s ← statementOf env.coloured host options config (← orFail id call)
        return Report.statement env.coloured (options.format.getD config.format) s)
      (do
        let s ← statementResult host options config (← call)
        return Report.statement env.coloured (options.format.getD config.format) s) := by
    intro config
    refine (yields_orFail_id call).bind fun call => ?_
    exact (yields_statementOf _ _ _ _ _).bind fun s => yields_pure _
  refine (yields_loadConfig host env options).bind fun config => ?_
  cases command with
  | operators => cases hcall
  | find collection filter projection sort limit skip =>
    cases hcall
    exact hprint config
  | call file =>
    cases hcall
    exact hprint config

end CommandLine

/-! ## Outcomes -/

/-- An outcome tells a result: it prints what there is, or nothing. -/
inductive Outcome.Shows : Outcome → Except Failure String → Prop
  | printed (stdout stderr : String) : Shows ⟨0, stdout, stderr⟩ (.ok stdout)
  | failed (failure : Failure) (stderr : String) : Shows ⟨1, "", stderr⟩ (.error failure)

namespace Outcome.Shows

variable {o : Outcome} {r : Except Failure String}

theorem exit_eq_zero_iff (h : o.Shows r) : o.exit = 0 ↔ ∃ stdout, r = .ok stdout := by
  cases h with
  | printed stdout stderr => exact iff_of_true rfl ⟨stdout, rfl⟩
  | failed failure stderr =>
    have hexit : (1 : UInt32) ≠ 0 := by decide
    refine iff_of_false hexit ?_
    rintro ⟨stdout, ⟨⟩⟩

theorem exit_ne_zero (h : o.Shows r) (hr : ∀ stdout, r ≠ .ok stdout) : o.exit ≠ 0 := by
  rw [Ne, h.exit_eq_zero_iff]
  exact not_exists.2 hr

theorem stdout_eq {stdout : String} (h : o.Shows (.ok stdout)) : o.stdout = stdout := by
  cases h with
  | printed => rfl

theorem of_exit_ne_zero (h : o.Shows r) (hexit : o.exit ≠ 0) : o.exit = 1 ∧ o.stdout = "" := by
  cases h with
  | printed stdout stderr => exact absurd rfl hexit
  | failed failure stderr => exact ⟨rfl, rfl⟩

end Outcome.Shows

namespace CommandLine

theorem run_of_parse_eq_error (host : Host Id) {env : Environment} {arguments : List String}
    {e : UsageError} (h : Request.parse env.schema arguments = .error e) :
    (run host env arguments).run = ⟨2, "", "error: " ++ e.message ++ "\n"⟩ := by
  unfold run
  rw [h]
  rfl

/-- **A run shows the result of its steps.** -/
theorem shows_run (host : Host Id) {env : Environment} {arguments : List String}
    {options : Options} {command : Command} {call : Except Failure FindCall}
    (hparse : Request.parse env.schema arguments = .ok (.run options command))
    (hcall : command.call? host = some call) :
    (run host env arguments).run.Shows (result host env options call) := by
  have hresult := yields_runCommand host env options hcall []
  unfold run
  rw [hparse, ← hresult]
  dsimp only
  generalize (runCommand env.coloured host env options command).run.run [] = ran
  obtain ⟨_ | _, notes⟩ := ran
  · exact .failed _ _
  · exact .printed _ _

end CommandLine

end FindSelect
