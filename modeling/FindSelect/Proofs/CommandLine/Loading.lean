import FindSelect.Proofs.CommandLine.Outcome
import FindSelect.Proofs.Sort.Forms
import FindSelect.Proofs.Toml.Settings

/-!
# What a run loads

A run reads up to three texts: its settings, its call, if a file holds it, and its schema. Each is
told here by the file that counts, the text that the file holds and what this text says.

* `Host.HoldsText`, `readText_eq_ok_iff`: a file holds a text;
* `Config.Source`, `Config.LoadedFrom`, `Config.load_eq_ok_iff`: the settings;
* `Schema.LoadedFrom`, `Schema.load_eq_ok_iff`: the schema;
* `Command.Decodes`, `Command.call?_eq_some_ok_iff`: the call.
-/

namespace FindSelect

variable {host : Host Id} {path text : String}

/-! ## Files -/

/-- The file at a path holds a text. -/
def Host.HoldsText (host : Host Id) (path text : String) : Prop :=
  (host.read path).run = .ok text.toUTF8

/-- A path leads to something. -/
def Host.HasPath (host : Host Id) (path : String) : Prop := (host.isPresent path).run = true

theorem decodeText_eq_ok_iff {bytes : ByteArray} :
    decodeText bytes = .ok text ↔ bytes = text.toUTF8 := by
  unfold decodeText String.fromUTF8?
  constructor
  · intro h
    by_cases hvalid : bytes.IsValidUTF8
    · rw [dif_pos hvalid] at h
      cases h
      rfl
    · rw [dif_neg hvalid] at h
      cases h
  · rintro rfl
    have hvalid : text.toUTF8.IsValidUTF8 := text.isValidUTF8
    rw [dif_pos hvalid]
    rfl

theorem readText_eq_ok_iff : (host.readText path).run = .ok text ↔ host.HoldsText path text := by
  have hread : (host.readText path).run = (host.read path).run >>= decodeText := rfl
  unfold Host.HoldsText
  rw [hread, bind_eq_ok_iff]
  simp only [decodeText_eq_ok_iff, exists_eq_right]

/-! ## Settings -/

/-- The file of settings that counts, if there is one: a given one, whether it is there or not; the
one in the working directory, if it is there; or else the user's, if it is there. -/
inductive Config.Source (host : Host Id) (configHome : Option String) :
    (given source : Option String) → Prop
  | given (path : String) : Source host configHome (some path) (some path)
  | working : host.HasPath "mongosql.toml" → Source host configHome none (some "mongosql.toml")
  | user {directory path : String} : ¬ host.HasPath "mongosql.toml" → configHome = some directory →
      path = joinPath (joinPath directory "mongosql") "config.toml" → host.HasPath path →
      Source host configHome none (some path)
  | nowhere : ¬ host.HasPath "mongosql.toml" →
      (∀ directory ∈ configHome,
        ¬ host.HasPath (joinPath (joinPath directory "mongosql") "config.toml")) →
      Source host configHome none none

/-- The settings by the file that they come from: they are what its text says, or the default ones,
without a schema and in the pretty format. -/
inductive Config.LoadedFrom (host : Host Id) : (source : Option String) → Config → Prop
  | default : LoadedFrom host none ⟨none, .pretty⟩
  | file {path text : String} {config : Config} : host.HoldsText path text →
      config.DescribedBy text → LoadedFrom host (some path) config

namespace Config

variable {configHome given source source' : Option String} {config : Config}

theorem Source.unique (h : Source host configHome given source)
    (h' : Source host configHome given source') : source = source' := by
  cases h with
  | given path => cases h'; rfl
  | working hlocal =>
    cases h' with
    | working _ => rfl
    | user hnot _ _ _ => exact absurd hlocal hnot
    | nowhere hnot _ => exact absurd hlocal hnot
  | user hnot hhome hpath huser =>
    subst hpath
    cases h' with
    | working hlocal => exact absurd hlocal hnot
    | user _ hhome' hpath' _ =>
      cases hhome.symm.trans hhome'
      rw [hpath']
    | nowhere _ hnone => exact absurd huser (hnone _ hhome)
  | nowhere hnot hnone =>
    cases h' with
    | working hlocal => exact absurd hlocal hnot
    | user _ hhome hpath huser => exact absurd (hpath ▸ huser) (hnone _ hhome)
    | nowhere _ _ => rfl

theorem firstPresent_cons (path : String) (paths : List String) :
    (firstPresent host (path :: paths)).run =
      if (host.isPresent path).run then some path else (firstPresent host paths).run := by
  change (if (host.isPresent path).run then pure (some path) else firstPresent host paths :
    Id _).run = _
  split_ifs
  · rfl
  · rfl

theorem source_sourcePath (host : Host Id) (configHome given : Option String) :
    Source host configHome given (sourcePath host configHome given).run := by
  cases given with
  | some path => exact .given path
  | none =>
    change Source host configHome none
      (firstPresent host (localPath :: configHome.toList.map userPath)).run
    rw [firstPresent_cons]
    split_ifs with hlocal
    · exact .working hlocal
    · cases configHome with
      | none => exact .nowhere hlocal nofun
      | some directory =>
        rw [Option.toList_some, List.map_singleton, firstPresent_cons]
        split_ifs with huser
        · exact .user hlocal rfl rfl huser
        · refine .nowhere hlocal ?_
          rintro _ ⟨⟩
          exact huser

theorem ofText_eq_ok_iff : ofText text = .ok config ↔ config.DescribedBy text := by
  rw [← ofToml_eq_some_iff]
  unfold ofText
  cases ofToml text with
  | none => exact iff_of_false nofun nofun
  | some c => rw [Except.ok.injEq, Option.some.injEq]

theorem loadFrom_eq_ok_iff :
    (loadFrom host source).run = .ok config ↔ LoadedFrom host source config := by
  cases source with
  | none =>
    have hdefault : (loadFrom host none).run = .ok ⟨none, .pretty⟩ := rfl
    rw [hdefault, Except.ok.injEq]
    constructor
    · rintro rfl
      exact .default
    · rintro ⟨⟩
      rfl
  | some path =>
    have hload : (loadFrom host (some path)).run =
        (host.readText path).run.mapError (LoadError.unreadable path) >>= ofText := rfl
    rw [hload, bind_eq_ok_iff]
    simp only [mapError_eq_ok_iff, readText_eq_ok_iff, ofText_eq_ok_iff]
    constructor
    · rintro ⟨text, htext, hconfig⟩
      exact .file htext hconfig
    · rintro (_ | ⟨htext, hconfig⟩)
      exact ⟨_, htext, hconfig⟩

/-- **Settings are loaded from the file that counts.** -/
theorem load_eq_ok_iff :
    (load host configHome given).run = .ok (config, source) ↔
      Source host configHome given source ∧ LoadedFrom host source config := by
  have hload : (load host configHome given).run =
      (fun config => (config, (sourcePath host configHome given).run)) <$>
        (loadFrom host (sourcePath host configHome given).run).run := rfl
  have hsource := source_sourcePath host configHome given
  rw [hload, map_eq_ok_iff]
  simp only [loadFrom_eq_ok_iff, Prod.mk.injEq]
  constructor
  · rintro ⟨c, hloaded, rfl, rfl⟩
    exact ⟨hsource, hloaded⟩
  · rintro ⟨hsource', hloaded⟩
    rw [hsource.unique hsource']
    exact ⟨config, hloaded, rfl, rfl⟩

end Config

/-! ## Schemas -/

/-- The schema of the file at a path: what its text says, in the form that the extension of the path
names. -/
inductive Schema.LoadedFrom (host : Host Id) (path : String) (s : Schema) : Prop
  | settings {text : String} : host.HoldsText path text → extension? path = some "toml" →
      s.DescribedBy text → LoadedFrom host path s
  | document {text : String} : host.HoldsText path text →
      extension? path = some "json" ∨ extension? path = none → Schema.parse text = .ok s →
      LoadedFrom host path s

theorem Schema.ofText_eq_ok_iff {s : Schema} : ofText path text = .ok s ↔
    (extension? path = some "toml" ∧ s.DescribedBy text) ∨
      ((extension? path = some "json" ∨ extension? path = none) ∧ parse text = .ok s) := by
  rw [← ofToml_eq_some_iff]
  unfold ofText
  split
  next hformat =>
    rw [hformat]
    cases ofToml text <;> simp
  next hformat => simp [hformat, mapError_eq_ok_iff]
  next hformat => simp [hformat, mapError_eq_ok_iff]
  next extension htoml hjson hformat =>
    -- no other extension names a format
    refine iff_of_false nofun ?_
    rw [hformat]
    rintro (⟨h, -⟩ | ⟨h | h, -⟩)
    · exact htoml (Option.some.inj h)
    · exact hjson (Option.some.inj h)
    · cases h

theorem Schema.load_eq_ok_iff {s : Schema} :
    (load host path).run = .ok s ↔ LoadedFrom host path s := by
  have hload : (load host path).run =
      (host.readText path).run.mapError LoadError.file >>= ofText path := rfl
  rw [hload, bind_eq_ok_iff]
  simp only [mapError_eq_ok_iff, readText_eq_ok_iff, ofText_eq_ok_iff]
  constructor
  · rintro ⟨text, htext, ⟨hformat, hs⟩ | ⟨hformat, hs⟩⟩
    · exact .settings htext hformat hs
    · exact .document htext hformat hs
  · rintro (⟨htext, hformat, hs⟩ | ⟨htext, hformat, hs⟩)
    · exact ⟨_, htext, .inl ⟨hformat, hs⟩⟩
    · exact ⟨_, htext, .inr ⟨hformat, hs⟩⟩

/-! ## Calls -/

/-- The text of a call: that of a file, or the input for a dash. -/
inductive CommandLine.CallText (host : Host Id) : (file text : String) → Prop
  | file {file text : String} : file ≠ "-" → host.HoldsText file text → CallText host file text
  | input {text : String} : host.input.run = text.toUTF8 → CallText host "-" text

/-- The sort argument of an option that may be given: the text is a value in one of the forms. -/
inductive SortSpec.ReadFrom : Option String → Option SortSpec → Prop
  | none : ReadFrom none none
  | some {text : String} {v : Json} {spec : SortSpec} : Json.parse text = .ok v → Reads v spec →
      ReadFrom (some text) (some spec)

/-- The call that a command stands for. The arguments give each of its parts by the text of a value,
if they give it, and the sort argument in one of its forms; or a file holds the document of the
call, which must name a collection. -/
inductive Command.Decodes (host : Host Id) : Command → FindCall → Prop
  | find {filter projection sort : Option String} {call : FindCall} :
      filter.map Json.parse = call.filter.map .ok →
      projection.map Json.parse = call.projection.map .ok → SortSpec.ReadFrom sort call.sort →
      Decodes host (.find call.collection filter projection sort call.limit call.skip) call
  | call {file text : String} {call : FindCall} : CommandLine.CallText host file text →
      FindCall.parse text = .ok call → call.collection ≠ "" → Decodes host (.call file) call

namespace CommandLine

theorem callText_eq_ok_iff {file : String} :
    (callText host file).run = .ok text ↔ CallText host file text := by
  by_cases hfile : file = "-"
  · subst hfile
    have hinput : (callText host "-").run =
        (decodeText host.input.run).mapError fun e => Failure.of e.message := rfl
    rw [hinput, mapError_eq_ok_iff, decodeText_eq_ok_iff]
    constructor
    · exact .input
    · rintro (⟨hne, -⟩ | h)
      · exact absurd rfl hne
      · exact h
  · have hread : (callText host file).run = (host.readText file).run.mapError fun e =>
        ⟨["Failed to read " ++ file, e.message], true⟩ := by
      have hdash : ¬ (file == "-") = true := by
        rwa [beq_iff_eq]
      unfold callText
      rw [if_neg hdash]
      rfl
    rw [hread, mapError_eq_ok_iff, readText_eq_ok_iff]
    constructor
    · exact .file hfile
    · rintro (⟨-, h⟩ | -)
      · exact h
      · exact absurd rfl hfile

theorem callOfText_eq_ok_iff {call : FindCall} :
    callOfText text = .ok call ↔ FindCall.parse text = .ok call ∧ call.collection ≠ "" := by
  unfold callOfText
  rw [bind_eq_ok_iff]
  simp only [mapError_eq_ok_iff]
  constructor
  · rintro ⟨c, hparse, hcall⟩
    split_ifs at hcall with hempty
    cases hcall
    exact ⟨hparse, mt String.isEmpty_iff.2 hempty⟩
  · rintro ⟨hparse, hcollection⟩
    exact ⟨call, hparse, if_neg (mt String.isEmpty_iff.1 hcollection)⟩

theorem jsonOption_eq_ok_iff {name : String} {given : Option String} {part : Option Json} :
    jsonOption name given = .ok part ↔ given.map Json.parse = part.map .ok := by
  unfold jsonOption
  cases given with
  | none => cases part <;> simp
  | some text =>
    cases hparse : Json.parse text <;> cases part <;> simp [hparse, eq_comm]

theorem sortOption_eq_ok_iff {given : Option String} {spec : Option SortSpec} :
    sortOption given = .ok spec ↔ SortSpec.ReadFrom given spec := by
  unfold sortOption
  rw [bind_eq_ok_iff]
  simp only [jsonOption_eq_ok_iff]
  constructor
  · rintro ⟨part, hpart, hspec⟩
    cases part with
    | none =>
      cases given with
      | none =>
        cases hspec
        exact .none
      | some text => cases hpart
    | some v =>
      cases given with
      | none => cases hpart
      | some text =>
        obtain ⟨spec, hread, rfl⟩ := map_eq_ok_iff.1 (mapError_eq_ok_iff.1 hspec)
        exact .some (Option.some.inj hpart) (SortSpec.ofJson_eq_ok_iff.1 hread)
  · rintro (_ | ⟨hparse, hreads⟩)
    · exact ⟨none, rfl, rfl⟩
    · exact ⟨some _, congrArg some hparse, mapError_eq_ok_iff.2
        (map_eq_ok_iff.2 ⟨_, SortSpec.ofJson_eq_ok_iff.2 hreads, rfl⟩)⟩

theorem callOfArguments_eq_ok_iff {collection : String} {filter projection sort : Option String}
    {limit skip : Option UInt64} {call : FindCall} :
    callOfArguments collection filter projection sort limit skip = .ok call ↔
      collection = call.collection ∧ filter.map Json.parse = call.filter.map .ok ∧
        projection.map Json.parse = call.projection.map .ok ∧ SortSpec.ReadFrom sort call.sort ∧
        limit = call.limit ∧ skip = call.skip := by
  unfold callOfArguments
  simp only [bind_eq_ok_iff, jsonOption_eq_ok_iff, sortOption_eq_ok_iff]
  constructor
  · rintro ⟨f, hfilter, p, hprojection, s, hsort, ⟨⟩⟩
    exact ⟨rfl, hfilter, hprojection, hsort, rfl, rfl⟩
  · obtain ⟨_, f, p, _, _, s⟩ := call
    rintro ⟨rfl, hfilter, hprojection, hsort, rfl, rfl⟩
    exact ⟨f, hfilter, p, hprojection, s, hsort, rfl⟩

end CommandLine

theorem Command.call?_eq_some_ok_iff {command : Command} {call : FindCall} :
    command.call? host = some (.ok call) ↔ command.Decodes host call := by
  cases command with
  | operators => exact iff_of_false nofun nofun
  | call file =>
    have hfile : (CommandLine.callOfFile host file).run =
        (CommandLine.callText host file).run >>= CommandLine.callOfText := rfl
    unfold call?
    dsimp only
    rw [Option.some.injEq, hfile, bind_eq_ok_iff]
    simp only [CommandLine.callText_eq_ok_iff, CommandLine.callOfText_eq_ok_iff]
    constructor
    · rintro ⟨text, htext, hparse, hcollection⟩
      exact .call htext hparse hcollection
    · rintro (_ | ⟨htext, hparse, hcollection⟩)
      exact ⟨_, htext, hparse, hcollection⟩
  | find collection filter projection sort limit skip =>
    unfold call?
    dsimp only
    rw [Option.some.injEq, CommandLine.callOfArguments_eq_ok_iff]
    constructor
    · rintro ⟨rfl, hfilter, hprojection, hsort, rfl, rfl⟩
      exact .find hfilter hprojection hsort
    · rintro (⟨hfilter, hprojection, hsort⟩ | _)
      exact ⟨rfl, hfilter, hprojection, hsort, rfl, rfl⟩

end FindSelect
