import FindSelect.Proofs.Call.Document
import FindSelect.Proofs.CommandLine.Loading
import FindSelect.Proofs.CommandLine.Words
import FindSelect.Proofs.Schema.RoundTrip

/-!
# Files that hold texts

* `Host.ofTexts`: surroundings in which there is nothing but some files that hold texts;
* `holdsText_ofTexts`, `hasPath_ofTexts_iff`: what these files hold, and that there are no others;
* `Schema.load_of_holds`: the schema of a file that holds its document;
* `usersRun`: runs with a schema of one table and the document of a call.
-/

namespace FindSelect

variable {host : Host Id} {path text : String}

namespace Host

/-- Surroundings in which some paths lead to texts, and nothing else is there. -/
def ofTexts (texts : List (String × String)) : Host Id where
  read path := match texts.lookup path with
    | some text => .ok text.toUTF8
    | none => .error .notFound
  isPresent path := (texts.lookup path).isSome
  input := .empty

variable {texts : List (String × String)}

theorem holdsText_ofTexts (h : texts.lookup path = some text) :
    (ofTexts texts).HoldsText path text := by
  unfold HoldsText ofTexts
  dsimp only
  rw [h]
  rfl

theorem hasPath_ofTexts_iff : (ofTexts texts).HasPath path ↔ (texts.lookup path).isSome = true :=
  Iff.rfl

end Host

theorem Schema.load_of_holds {s : Schema} (htext : host.HoldsText path text)
    (hformat : extension? path = some "json") (hs : Reader.Holds text s.toJson) :
    (Schema.load host path).run = .ok s :=
  load_eq_ok_iff.2 (.document htext (.inl hformat) (Schema.parse_of_holds hs))

/-! ## A table of users -/

def usersSchema : Schema := ⟨[⟨"users", [⟨"age", none, false⟩]⟩]⟩

/-- Surroundings with this schema and the document of a call. -/
def usersHost (call : Json) : Host Id :=
  .ofTexts [("schema.json", usersSchema.toJson.compact), ("call.json", call.compact)]

variable (call : Json)

theorem load_config_usersHost : (Config.load (usersHost call) none none).run = .ok ({}, none) :=
  Config.load_eq_ok_iff.2 ⟨.nowhere Bool.false_ne_true nofun, .default⟩

theorem load_schema_usersHost :
    (Schema.load (usersHost call) "schema.json").run = .ok usersSchema :=
  Schema.load_of_holds (Host.holdsText_ofTexts rfl) (by decide) (Reader.holds_compact _)

theorem callText_usersHost :
    (CommandLine.callText (usersHost call) "call.json").run = .ok call.compact :=
  CommandLine.callText_eq_ok_iff.2 (.file (by decide) (Host.holdsText_ofTexts rfl))

open CommandLine

/-- The outcome of arguments where a file holds the document of a call of users. -/
def usersRun (parts : CallParts) (arguments : List String) : Outcome :=
  (run (usersHost (parts.document "users")) {} arguments).run

/-- The settings of the runs below. -/
def usersSettings : List OptionWord := [.valued .schema "schema.json", .valued .format "json"]

theorem isSetting_usersSettings : ∀ w ∈ usersSettings, w.IsSetting := by
  simp [usersSettings, OptionWord.IsSetting]

theorem parse_usersSettings (c : CommandWords) :
    Request.parse none (c.arguments [] usersSettings) =
      .ok (.run ⟨some "schema.json", some .json, none, false⟩ c.command) :=
  c.parse_of_options none (List.forall_mem_nil _) isSetting_usersSettings rfl rfl

theorem callArguments_eq : ["call", "call.json", "--schema=schema.json", "--format=json"] =
    ([] : List OptionWord).map OptionWord.word ++
      "call" :: "call.json" :: usersSettings.map OptionWord.word := by
  decide

theorem parse_callArguments :
    Request.parse none ["call", "call.json", "--schema=schema.json", "--format=json"] =
      .ok (.run ⟨some "schema.json", some .json, none, false⟩ (.call "call.json")) := by
  rw [callArguments_eq]
  exact parse_usersSettings (.call "call.json" (by decide) rfl)

end FindSelect
