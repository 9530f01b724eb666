import FindSelect.Proofs.Agreement
import FindSelect.Proofs.CommandLine.Files
import FindSelect.Proofs.Json.Results

/-!
# The two ways to give a call

A call may be spelled out by options or be written as a document. Both ways give the same outcome,
with one exception: a sort argument that is null stands for none in a document, but is no sort
argument as an option.

* `PartTexts`: the texts of the options of a call, and the parts that they spell (`Spells`);
* `CallParts.spells_texts`: every call can be spelled out;
* `CommandWords.find`, `CommandWords.call`: the two commands in words;
* `callOfArguments_of_spells`, `callOfFile_of_holds`: the calls that they give;
* `agree_result`: calls with the same statements lead to the same result;
* **`run_find_matches_run_call`**: when the two runs have the same outcome.
-/

namespace FindSelect

/-! ## Options of a call -/

/-- The texts of the options of a call that are given. -/
structure PartTexts where
  filter : Option String := none
  projection : Option String := none
  sort : Option String := none
  limit : Option String := none
  skip : Option String := none

namespace PartTexts

def words (texts : PartTexts) : List OptionWord :=
  texts.filter.toList.map (.valued .filter) ++
    (texts.projection.toList.map (.valued .projection) ++
      (texts.sort.toList.map (.valued .sort) ++
        (texts.limit.toList.map (.valued .limit) ++ texts.skip.toList.map (.valued .skip))))

/-- The options are given for exactly the parts that are there, and their texts are texts of these
parts. -/
structure Spells (texts : PartTexts) (parts : CallParts) : Prop where
  filter : texts.filter.map Json.parse = parts.filter.map .ok
  projection : texts.projection.map Json.parse = parts.projection.map .ok
  sort : texts.sort.map Json.parse = parts.sort.map .ok
  limit : texts.limit.map Text.unsignedWord? = parts.limit.map some
  skip : texts.skip.map Text.unsignedWord? = parts.skip.map some

theorem Spells.distinctKeys {texts : PartTexts} {parts : CallParts} (h : texts.Spells parts) :
    ∀ v ∈ parts.values, v.DistinctKeys := by
  intro v hv
  simp only [CallParts.values, List.mem_append, Option.mem_toList] at hv
  rcases hv with hv | hv | hv
  · exact distinctKeys_of_map_parse h.filter v hv
  · exact distinctKeys_of_map_parse h.projection v hv
  · exact distinctKeys_of_map_parse h.sort v hv

theorem Spells.plain {texts : PartTexts} {parts : CallParts} {levels : Nat}
    (h : texts.Spells parts) (hvalues : ∀ v ∈ parts.values, v.RealFree ∧ v.nesting ≤ levels) :
    parts.Plain levels :=
  fun v hv => ⟨⟨(hvalues v hv).1, h.distinctKeys v hv⟩, (hvalues v hv).2⟩

theorem fits_words (texts : PartTexts) : ∀ w ∈ texts.words, w.Fits .find := by
  have hoption : ∀ (option : OptionName) (text : Option String), option.takesValue = true →
      option.allowedAt .find = true →
      ∀ w ∈ text.toList.map (OptionWord.valued option), w.Fits .find := by
    intro option text hvalue hallowed w hw
    obtain ⟨value, -, rfl⟩ := List.mem_map.1 hw
    exact ⟨hvalue, hallowed⟩
  intro w hw
  simp only [words, List.mem_append] at hw
  rcases hw with hw | hw | hw | hw | hw
  · exact hoption .filter _ rfl rfl w hw
  · exact hoption .projection _ rfl rfl w hw
  · exact hoption .sort _ rfl rfl w hw
  · exact hoption .limit _ rfl rfl w hw
  · exact hoption .skip _ rfl rfl w hw

theorem foldlM_give_option {α : Type} (option : OptionName) {text : Option String}
    {part : Option α} {read : String → Option α} (next : Option α → Given)
    (hset : ∀ value, (next none).set option value =
      Given.fill option none value (read value) >>= fun slot => pure (next slot))
    (hpart : text.map read = part.map some) (rest : List OptionWord) :
    (text.toList.map (OptionWord.valued option) ++ rest).foldlM OptionWord.give (next none) =
      rest.foldlM OptionWord.give (next part) := by
  cases text with
  | none => cases part with
    | none => rfl
    | some a => cases hpart
  | some value => cases part with
    | none => cases hpart
    | some a =>
      have hread : read value = some a := Option.some.inj hpart
      have hgive : (OptionWord.valued option value).give (next none) = .ok (next (some a)) := by
        rw [OptionWord.give, hset, hread]
        rfl
      rw [Option.toList_some, List.map_singleton, List.singleton_append, List.foldlM_cons, hgive]
      rfl

/-- What the options of a call add to none. -/
def given (texts : PartTexts) (parts : CallParts) : Given where
  filter := texts.filter
  projection := texts.projection
  limit := parts.limit
  skip := parts.skip
  sort := texts.sort

theorem foldlM_give_words {texts : PartTexts} {parts : CallParts} (h : texts.Spells parts) :
    texts.words.foldlM OptionWord.give {} = .ok (texts.given parts) := by
  have htext : ∀ text : Option String, text.map some = text.map some := fun _ => rfl
  have hskip := foldlM_give_option .skip
    (Given.mk none none none false texts.filter texts.projection parts.limit · texts.sort)
    (fun _ => rfl) h.skip []
  rw [List.append_nil] at hskip
  unfold words
  rw [foldlM_give_option .filter (Given.mk none none none false · none none none none)
      (fun _ => rfl) (htext texts.filter),
    foldlM_give_option .projection (Given.mk none none none false texts.filter · none none none)
      (fun _ => rfl) (htext texts.projection),
    foldlM_give_option .sort
      (Given.mk none none none false texts.filter texts.projection none none ·)
      (fun _ => rfl) (htext texts.sort),
    foldlM_give_option .limit
      (Given.mk none none none false texts.filter texts.projection · none texts.sort)
      (fun _ => rfl) h.limit,
    hskip]
  rfl

end PartTexts

theorem unsignedWord?_naturalText (n : UInt64) : Text.unsignedWord? (naturalText n) = some n := by
  have hrow := Reader.digitRow_toDigits n.toNat
  have hvalue : Nat.ofDigitChars 10 (Nat.toDigits 10 n.toNat) 0 = n.toNat :=
    Nat.ofDigitChars_ten_toDigits
  have hsize : n.toNat < 0x10000000000000000 := n.toNat_lt
  have hdigits : (!(Nat.toDigits 10 n.toNat).isEmpty &&
      (Nat.toDigits 10 n.toNat).all Char.isDigit) = true := by
    rw [Bool.and_eq_true, Bool.not_eq_true', List.isEmpty_eq_false_iff, List.all_eq_true]
    exact ⟨hrow.ne_nil, hrow.isDigit⟩
  unfold Text.unsignedWord? naturalText
  rw [String.toList_ofList]
  split
  next cs hcs =>
    -- no sign stands before the digits
    have hdigit := hrow.isDigit '+' (hcs ▸ List.mem_cons_self)
    cases hdigit
  next =>
    dsimp only
    rw [hvalue, hdigits, Bool.true_and, if_pos (decide_eq_true hsize), UInt64.ofNat_toNat]

namespace CallParts

/-- Texts of the parts of a call, without blanks. -/
def texts (parts : CallParts) : PartTexts where
  filter := parts.filter.map Json.compact
  projection := parts.projection.map Json.compact
  sort := parts.sort.map Json.compact
  limit := parts.limit.map naturalText
  skip := parts.skip.map naturalText

theorem spells_texts {parts : CallParts} (h : parts.Plain 126) : parts.texts.Spells parts := by
  have hvalue : ∀ part : Option Json, (∀ v ∈ part, v.Plain ∧ v.nesting ≤ 126) →
      (part.map Json.compact).map Json.parse = part.map .ok := by
    intro part hpart
    cases part with
    | none => rfl
    | some v =>
      obtain ⟨hplain, hnesting⟩ := hpart v rfl
      exact congrArg some (Json.parse_compact hplain (by omega))
  have hamount : ∀ part : Option UInt64,
      (part.map naturalText).map Text.unsignedWord? = part.map some := by
    intro part
    rw [Option.map_map]
    exact congrFun (congrArg Option.map (funext unsignedWord?_naturalText)) part
  exact {
    filter := hvalue _ fun v hv => h v (mem_values_of_filter hv)
    projection := hvalue _ fun v hv => h v (mem_values_of_projection hv)
    sort := hvalue _ fun v hv => h v (mem_values_of_sort hv)
    limit := hamount _
    skip := hamount _ }

end CallParts

/-! ## The two commands -/

namespace CommandWords

/-- The command that spells a call out. -/
def find (collection : String) (hcollection : isOptionForm collection = false) {texts : PartTexts}
    {parts : CallParts} (h : texts.Spells parts) : CommandWords where
  level := .find
  name := "find"
  argument := collection
  options := texts.words
  parts := texts.given parts
  command := .find collection texts.filter texts.projection texts.sort parts.limit parts.skip
  level_name := rfl
  name_plain := rfl
  argument_plain := hcollection
  accepted := rfl
  fits := texts.fits_words
  parts_eq := PartTexts.foldlM_give_words h
  command_eq _ := rfl

end CommandWords

/-! ## The two calls -/

namespace CommandLine

variable {texts : PartTexts} {parts : CallParts} {collection : String}

theorem callOfArguments_of_spells (collection : String) (h : texts.Spells parts) :
    callOfArguments collection texts.filter texts.projection texts.sort parts.limit parts.skip =
      ((SortSpec.ofPart parts.sort).map (parts.call collection)).mapError Failure.ofCallError := by
  unfold callOfArguments sortOption
  rw [jsonOption_eq_ok_iff.2 h.filter, jsonOption_eq_ok_iff.2 h.projection,
    jsonOption_eq_ok_iff.2 h.sort]
  cases parts.sort with
  | none => rfl
  | some v =>
    change (some <$> SortSpec.ofJson v).mapError Failure.ofCallError >>= _ =
      ((some <$> SortSpec.ofJson v).map _).mapError _
    cases SortSpec.ofJson v with
    | ok spec => rfl
    | error e => rfl

/-- A file that holds the document of the parts of a call gives the same call without its null
parts, also without a sort argument that is null. -/
theorem callOfFile_of_holds {host : Host Id} {file text : String} (hcollection : collection ≠ "")
    (hparts : parts.Plain 126) (hread : (callText host file).run = .ok text)
    (htext : Reader.Holds text (parts.document collection)) :
    (callOfFile host file).run = ((SortSpec.ofPart (withoutNull parts.sort)).map fun sort =>
      (parts.call collection sort).withoutNulls).mapError fun e => .ofFault [] e.refusal := by
  have hfile : (callOfFile host file).run = (callText host file).run >>= callOfText := rfl
  have hnonempty : ¬ collection.isEmpty = true := mt String.isEmpty_iff.1 hcollection
  rw [hfile, hread]
  change callOfText text = _
  unfold callOfText
  rw [FindCall.parse_callDocument hparts htext]
  cases SortSpec.ofPart (withoutNull parts.sort) with
  | error e => rfl
  | ok sort => exact if_neg hnonempty

/-! ## The two runs -/

theorem statementResult_withoutNulls (host : Host Id) (options : Options) (config : Config)
    (c : FindCall) :
    statementResult host options config c.withoutNulls =
      statementResult host options config c := by
  unfold statementResult
  simp only [FindCall.toStatement_withoutNulls]
  rfl

theorem agree_result (host : Host Id) (env : Environment) (options : Options)
    {x y : Except Failure FindCall}
    (h : Agree (fun c d => d = c.withoutNulls) (fun _ _ => True) x y) :
    Agree Eq (fun _ _ => True) (result host env options x) (result host env options y) := by
  unfold result
  cases configResult host env options with
  | error e => exact .error trivial
  | ok config =>
    refine h.bind fun c d hd => ?_
    rw [hd, statementResult_withoutNulls]
    cases statementResult host options config c with
    | error e => exact .error trivial
    | ok s => exact .ok rfl

end CommandLine

/-- Two runs end well together, and then print the same. -/
def Outcome.Matches (o o' : Outcome) : Prop :=
  (o.exit = 0 ↔ o'.exit = 0) ∧ (o.exit = 0 → o.stdout = o'.stdout)

theorem Outcome.Shows.matches {o o' : Outcome} {r r' : Except Failure String} (h : o.Shows r)
    (h' : o'.Shows r') (hr : Agree Eq (fun _ _ => True) r r') : o.Matches o' := by
  cases hr with
  | error _ =>
    have hexit : o.exit ≠ 0 := h.exit_ne_zero nofun
    have hexit' : o'.exit ≠ 0 := h'.exit_ne_zero nofun
    exact ⟨iff_of_false hexit hexit', fun h => absurd h hexit⟩
  | ok hstdout =>
    subst hstdout
    refine ⟨iff_of_true (h.exit_eq_zero_iff.2 ⟨_, rfl⟩) (h'.exit_eq_zero_iff.2 ⟨_, rfl⟩), fun _ => ?_⟩
    rw [h.stdout_eq, h'.stdout_eq]

open CommandLine

/-- **The two ways to give a call.** A call is spelled out by options, with texts of its parts, or
written as the document of these parts in a file; the settings are the same. The two runs end well
together, and then print the same, unless the sort argument is null and the run with the document
ends well. -/
theorem run_find_matches_run_call (host : Host Id) (env : Environment)
    {before after : List OptionWord} (hbefore : ∀ w ∈ before, w.IsSetting)
    (hafter : ∀ w ∈ after, w.IsSetting) {collection file : String} (hcollection : collection ≠ "")
    (hname : isOptionForm collection = false) (hfile : file ≠ "")
    (hpath : isOptionForm file = false) {texts : PartTexts} {parts : CallParts}
    (hspells : texts.Spells parts) (hvalues : ∀ v ∈ parts.values, v.RealFree ∧ v.nesting ≤ 126)
    {text : String} (hread : (callText host file).run = .ok text)
    (htext : Reader.Holds text (parts.document collection)) :
    let found := (run host env (before.map OptionWord.word ++
      "find" :: collection :: (texts.words ++ after).map OptionWord.word)).run
    let called := (run host env (before.map OptionWord.word ++
      "call" :: file :: after.map OptionWord.word)).run
    found.Matches called ↔ (parts.sort = some .null → called.exit ≠ 0) := by
  intro found called
  have hparts : parts.Plain 126 := hspells.plain hvalues
  rcases CommandWords.parse_arguments env.schema hbefore hafter with ⟨e, he⟩ | ⟨options, hoptions⟩
  · -- the settings are at fault, for either command
    have hfound : found = ⟨2, "", "error: " ++ e.message ++ "\n"⟩ :=
      run_of_parse_eq_error host (he (CommandWords.find collection hname hspells))
    have hcalled : called = ⟨2, "", "error: " ++ e.message ++ "\n"⟩ :=
      run_of_parse_eq_error host (he (CommandWords.call file hfile hpath))
    have hexit : (2 : UInt32) ≠ 0 := by decide
    rw [hfound, hcalled]
    exact iff_of_true ⟨Iff.rfl, fun _ => rfl⟩ fun _ => hexit
  · have hfound : found.Shows (result host env options _) :=
      shows_run host (hoptions (CommandWords.find collection hname hspells)) rfl
    have hcalled : called.Shows (result host env options _) :=
      shows_run host (hoptions (CommandWords.call file hfile hpath)) rfl
    rw [callOfArguments_of_spells collection hspells] at hfound
    rw [callOfFile_of_holds hcollection hparts hread htext] at hcalled
    by_cases hnull : parts.sort = some .null
    · have hexit : found.exit ≠ 0 := by
        rw [hnull] at hfound
        exact hfound.exit_ne_zero fun _ => result_error_ne_ok
      constructor
      · exact fun h _ => mt h.1.2 hexit
      · exact fun h => ⟨iff_of_false hexit (h hnull), fun h => absurd h hexit⟩
    · rw [withoutNull_of_ne hnull] at hcalled
      refine iff_of_true (hfound.matches hcalled (agree_result host env options ?_))
        fun h => absurd h hnull
      cases SortSpec.ofPart parts.sort with
      | error e => exact .error trivial
      | ok sort => exact .ok rfl

/-! ## Runs with a table of users -/

theorem exit_call_usersRun {parts : CallParts} (hparts : parts.Plain 126)
    {sort : Option SortSpec} (hsort : SortSpec.ofPart (withoutNull parts.sort) = .ok sort)
    {s : Statement}
    (hs : (parts.call "users" sort).withoutNulls.toStatement [⟨"age"⟩] = .ok s) :
    (usersRun parts ["call", "call.json", "--schema=schema.json", "--format=json"]).exit = 0 := by
  have hcall := callOfFile_of_holds (by decide) hparts
    (callText_usersHost (parts.document "users")) (Reader.holds_compact _)
  rw [hsort] at hcall
  have hconfig : configResult (usersHost (parts.document "users")) {}
      ⟨some "schema.json", some .json, none, false⟩ = .ok {} :=
    configResult_eq_ok_iff.2 ⟨none, load_config_usersHost _⟩
  have hstatement : statementResult (usersHost (parts.document "users"))
      ⟨some "schema.json", some .json, none, false⟩ {}
      (parts.call "users" sort).withoutNulls = .ok s :=
    statementResult_eq_ok_iff.2
      ⟨"schema.json", usersSchema, [⟨"age"⟩], rfl, load_schema_usersHost _, rfl, hs⟩
  exact (shows_run _ parse_callArguments rfl).exit_eq_zero_iff.2
    ⟨_, result_eq_ok_iff.2 ⟨{}, _, s, hconfig, hcall, hstatement, rfl⟩⟩

def nullFilterCall : CallParts where
  filter := some .null
  limit := some 10
  sort := some (.list [.string "age", .number (.integer ⟨-1, by decide, by decide⟩)])

/-- Null is no filter either way, and the rest of the call is the same. -/
theorem run_find_matches_run_call_null_filter :
    let found := usersRun nullFilterCall ["find", "users", "--filter=null",
      "--sort=[\"age\",-1]", "--limit=10", "--schema=schema.json", "--format=json"]
    let called := usersRun nullFilterCall
      ["call", "call.json", "--schema=schema.json", "--format=json"]
    called.exit = 0 ∧ found.exit = 0 ∧ found.stdout = called.stdout := by
  have hplain : nullFilterCall.Plain 126 := by
    intro v hv
    simp only [nullFilterCall, CallParts.values, Option.toList_some, Option.toList_none,
      List.nil_append, List.singleton_append, List.mem_cons, List.not_mem_nil, or_false] at hv
    rcases hv with rfl | rfl
    · exact ⟨Json.plain_null, by decide⟩
    · exact ⟨⟨⟨trivial, trivial, trivial⟩, ⟨trivial, trivial, trivial⟩⟩, by decide⟩
  have hvalues : ∀ v ∈ nullFilterCall.values, v.RealFree ∧ v.nesting ≤ 126 :=
    fun v hv => ⟨(hplain v hv).1.realFree, (hplain v hv).2⟩
  have harguments : ["find", "users", "--filter=null", "--sort=[\"age\",-1]", "--limit=10",
      "--schema=schema.json", "--format=json"] = ([] : List OptionWord).map OptionWord.word ++
        "find" :: "users" :: (nullFilterCall.texts.words ++ usersSettings).map OptionWord.word := by
    decide
  have hsort : nullFilterCall.sort ≠ some .null := by
    intro h
    cases h
  have hmatches := (run_find_matches_run_call (usersHost (nullFilterCall.document "users")) {}
    (List.forall_mem_nil _) isSetting_usersSettings (by decide) rfl (by decide) rfl
    (CallParts.spells_texts hplain) hvalues (callText_usersHost _) (Reader.holds_compact _)).2
      (absurd · hsort)
  rw [← harguments, ← callArguments_eq] at hmatches
  have hcalled := exit_call_usersRun hplain rfl rfl
  have hfound := hmatches.1.2 hcalled
  exact ⟨hcalled, hfound, hmatches.2 hfound⟩

def nullSortCall : CallParts where
  sort := some .null

/-- Null is no sort argument as an option, but stands for none in a document. -/
theorem run_find_null_sort :
    (usersRun nullSortCall
        ["find", "users", "--sort=null", "--schema=schema.json", "--format=json"]).exit = 1 ∧
      (usersRun nullSortCall
        ["call", "call.json", "--schema=schema.json", "--format=json"]).exit = 0 := by
  have hplain : nullSortCall.Plain 126 := by
    intro v hv
    obtain rfl := List.mem_singleton.1 hv
    exact ⟨Json.plain_null, by decide⟩
  have hspells := CallParts.spells_texts hplain
  have harguments : ["find", "users", "--sort=null", "--schema=schema.json", "--format=json"] =
      ([] : List OptionWord).map OptionWord.word ++
        "find" :: "users" :: (nullSortCall.texts.words ++ usersSettings).map OptionWord.word := by
    decide
  let c := CommandWords.find "users" rfl hspells
  have hshows : (usersRun nullSortCall (c.arguments [] usersSettings)).Shows _ :=
    shows_run _ (parse_usersSettings c) rfl
  change (usersRun nullSortCall (([] : List OptionWord).map OptionWord.word ++ "find" :: "users" ::
    (nullSortCall.texts.words ++ usersSettings).map OptionWord.word)).Shows _ at hshows
  rw [callOfArguments_of_spells "users" hspells, ← harguments] at hshows
  have hexit := hshows.exit_ne_zero fun _ => result_error_ne_ok
  exact ⟨(hshows.of_exit_ne_zero hexit).1, exit_call_usersRun hplain rfl rfl⟩

end FindSelect
