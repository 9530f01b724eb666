import FindSelect.Proofs.CommandLine.Words
import FindSelect.Proofs.Toml.Settings
import Mathlib.Data.List.Induction
import Mathlib.Logic.Function.Basic

/-!
# How arguments are written

An option is written by its long name, with its value after an equals sign or as the next argument,
or by its short name in a cluster after one dash, of which the last option may have its value in the
same argument or as the next one. Whatever arguments ask for a command, they are written in this way,
and the options with their values tell what is asked for.

* `OptionCluster`, `OptionArgument`, `OptionRow`: the forms of options;
* `LevelArguments`: options with plain arguments between them;
* `valueOf?`, `holds_of_foldlM_give`: the values that options have in a row of them;
* `Options.GivenBy`, `Command.SpelledBy`, `Request.Spelled`: the arguments of a command;
* `readLevel_eq_ok`, `readTop_eq_ok`: what is read at a level, and at the level before commands;
* **`Request.spelled_of_parse`**: what is read from arguments is what they spell.
-/

namespace FindSelect

/-! ## Forms of options -/

/-- The short names of options in one argument: the options with their values, and the last one if its
value is still to come. -/
inductive OptionCluster (level : CommandLevel) :
    List Char → List OptionWord → Option OptionName → Prop
  | nil : OptionCluster level [] [] none
  | verbose {cs : List Char} {ws : List OptionWord} {pending : Option OptionName} :
      OptionCluster level cs ws pending → OptionCluster level ('v' :: cs) (.verbose :: ws) pending
  | pending {option : OptionName} {c : Char} : option.short? = some c →
      option.takesValue = true → option.allowedAt level = true →
      OptionCluster level [c] [] (some option)
  | assigned {option : OptionName} {c : Char} (value : List Char) : option.short? = some c →
      option.takesValue = true → option.allowedAt level = true →
      OptionCluster level (c :: '=' :: value) [.valued option (String.ofList value)] none
  | attached {option : OptionName} {c : Char} {value : List Char} : option.short? = some c →
      option.takesValue = true → option.allowedAt level = true → value ≠ [] →
      value.head? ≠ some '=' →
      OptionCluster level (c :: value) [.valued option (String.ofList value)] none

/-- An argument that is an option, or a cluster of them: the options with their values, and the one
whose value is still to come. -/
inductive OptionArgument (level : CommandLevel) :
    String → List OptionWord → Option OptionName → Prop
  | verbose : OptionArgument level "--verbose" [.verbose] none
  | pending {option : OptionName} : option.takesValue = true → option.allowedAt level = true →
      OptionArgument level ("--" ++ option.long) [] (some option)
  | assigned {option : OptionName} (value : String) : option.takesValue = true →
      option.allowedAt level = true →
      OptionArgument level ("--" ++ option.long ++ "=" ++ value) [.valued option value] none
  | cluster {cs : List Char} {ws : List OptionWord} {pending : Option OptionName} : cs ≠ [] →
      cs.head? ≠ some '-' → OptionCluster level cs ws pending →
      OptionArgument level (String.ofList ('-' :: cs)) ws pending

/-- A row of options. A value that is an argument of its own does not look like an option. -/
inductive OptionRow (level : CommandLevel) : List String → List OptionWord → Prop
  | nil : OptionRow level [] []
  | complete {argument : String} {rest : List String} {ws ws' : List OptionWord} :
      OptionArgument level argument ws none → OptionRow level rest ws' →
      OptionRow level (argument :: rest) (ws ++ ws')
  | value {argument value : String} {rest : List String} {ws ws' : List OptionWord}
      {option : OptionName} : OptionArgument level argument ws (some option) →
      isOptionForm value = false → OptionRow level rest ws' →
      OptionRow level (argument :: value :: rest) (ws ++ .valued option value :: ws')

theorem OptionRow.append {level : CommandLevel} {row row' : List String} {ws ws' : List OptionWord}
    (h : OptionRow level row ws) (h' : OptionRow level row' ws') :
    OptionRow level (row ++ row') (ws ++ ws') := by
  induction h with
  | nil => exact h'
  | complete hargument _ ih =>
    rw [List.append_assoc]
    exact .complete hargument ih
  | value hargument hvalue _ ih =>
    rw [List.append_assoc]
    exact .value hargument hvalue ih

/-- The arguments of a level: options with plain arguments between them. After two dashes alone, all
arguments are plain. -/
inductive LevelArguments (level : CommandLevel) :
    List String → List OptionWord → List String → Prop
  | nil : LevelArguments level [] [] []
  | separator (rest : List String) : LevelArguments level ("--" :: rest) [] rest
  | plain {argument : String} {rest : List String} {ws : List OptionWord} {plain : List String} :
      isOptionForm argument = false → LevelArguments level rest ws plain →
      LevelArguments level (argument :: rest) ws (argument :: plain)
  | options {row rest : List String} {ws ws' : List OptionWord} {plain : List String} :
      OptionRow level row ws → LevelArguments level rest ws' plain →
      LevelArguments level (row ++ rest) (ws ++ ws') plain

/-! ## What options give -/

/-- The value of an option in a word, if it is that option. -/
def OptionWord.value? (option : OptionName) : OptionWord → Option String
  | valued o value => if o = option then some value else none
  | verbose => none

/-- The value that a row of options gives an option. -/
def valueOf? (option : OptionName) (ws : List OptionWord) : Option String :=
  ws.findSome? (·.value? option)

/-- What is given is what the texts of the values say, each of which is read once. -/
structure Given.Holds (given : Given) (value? : OptionName → Option String) : Prop where
  schema : given.schema = value? .schema
  format : given.format.map OutputFormat.name = value? .format
  config : given.config = value? .config
  filter : given.filter = value? .filter
  projection : given.projection = value? .projection
  sort : given.sort = value? .sort
  limit : (value? .limit).map Text.unsignedWord? = given.limit.map some
  skip : (value? .skip).map Text.unsignedWord? = given.skip.map some

theorem Given.fill_eq_ok_iff {α : Type} {option : OptionName} {slot filled : Option α}
    {value : String} {read : Option α} :
    fill option slot value read = .ok filled ↔
      slot = none ∧ ∃ a, read = some a ∧ filled = some a := by
  unfold fill
  cases slot with
  | some a => exact iff_of_false nofun nofun
  | none =>
    cases read with
    | none => exact iff_of_false nofun nofun
    | some a => simp [eq_comm]

theorem Given.path?_eq_some {value path : String} (h : path? value = some path) : path = value := by
  unfold path? at h
  split_ifs at h
  cases h
  rfl

section Fill

variable {option : OptionName} {text : String} {part : Option String}

/-- A place for a text, which an option fills with its value as it is. -/
theorem Given.fill_text_eq_ok {slot filled read : Option String}
    (hread : ∀ path, read = some path → path = text)
    (h : fill option slot text read = .ok filled) (hpart : slot = part) :
    part = none ∧ filled = some text := by
  obtain ⟨hnone, path, hpath, rfl⟩ := fill_eq_ok_iff.1 h
  exact ⟨hpart.symm.trans hnone, congrArg some (hread path hpath)⟩

/-- A place for what the value of an option is read as. -/
theorem Given.fill_read_eq_ok {α : Type} {slot filled : Option α} {read : String → Option α}
    (h : fill option slot text (read text) = .ok filled) (hpart : part.map read = slot.map some) :
    part = none ∧ (some text).map read = filled.map some := by
  obtain ⟨rfl, a, ha, rfl⟩ := fill_eq_ok_iff.1 h
  exact ⟨Option.map_eq_none_iff.1 hpart, congrArg some ha⟩

end Fill

/-- One more option has a value that it did not have before. -/
theorem Given.Holds.set {given given' : Given} {value? : OptionName → Option String}
    {option : OptionName} {text : String} (h : given.Holds value?)
    (hset : given.set option text = .ok given') :
    value? option = none ∧ given'.verbose = given.verbose ∧
      given'.Holds (Function.update value? option (some text)) := by
  have hsame : ∀ path, some text = some path → path = text := by
    rintro _ ⟨⟩
    rfl
  cases option with
  | verbose => cases hset
  | version => cases hset
  | help => cases hset
  | schema =>
    obtain ⟨slot, hfill, rfl⟩ := map_eq_ok_iff.1 hset
    obtain ⟨hnone, hfilled⟩ := fill_text_eq_ok (fun _ => path?_eq_some) hfill h.schema
    exact ⟨hnone, rfl, { h with schema := hfilled }⟩
  | config =>
    obtain ⟨slot, hfill, rfl⟩ := map_eq_ok_iff.1 hset
    obtain ⟨hnone, hfilled⟩ := fill_text_eq_ok (fun _ => path?_eq_some) hfill h.config
    exact ⟨hnone, rfl, { h with config := hfilled }⟩
  | filter =>
    obtain ⟨slot, hfill, rfl⟩ := map_eq_ok_iff.1 hset
    obtain ⟨hnone, hfilled⟩ := fill_text_eq_ok hsame hfill h.filter
    exact ⟨hnone, rfl, { h with filter := hfilled }⟩
  | projection =>
    obtain ⟨slot, hfill, rfl⟩ := map_eq_ok_iff.1 hset
    obtain ⟨hnone, hfilled⟩ := fill_text_eq_ok hsame hfill h.projection
    exact ⟨hnone, rfl, { h with projection := hfilled }⟩
  | sort =>
    obtain ⟨slot, hfill, rfl⟩ := map_eq_ok_iff.1 hset
    obtain ⟨hnone, hfilled⟩ := fill_text_eq_ok hsame hfill h.sort
    exact ⟨hnone, rfl, { h with sort := hfilled }⟩
  | limit =>
    obtain ⟨slot, hfill, rfl⟩ := map_eq_ok_iff.1 hset
    obtain ⟨hnone, hfilled⟩ := fill_read_eq_ok hfill h.limit
    exact ⟨hnone, rfl, { h with limit := hfilled }⟩
  | skip =>
    obtain ⟨slot, hfill, rfl⟩ := map_eq_ok_iff.1 hset
    obtain ⟨hnone, hfilled⟩ := fill_read_eq_ok hfill h.skip
    exact ⟨hnone, rfl, { h with skip := hfilled }⟩
  | format =>
    obtain ⟨slot, hfill, rfl⟩ := map_eq_ok_iff.1 hset
    obtain ⟨hnone, format, hread, rfl⟩ := fill_eq_ok_iff.1 hfill
    have hname : text = format.name := OutputFormat.ofName?_eq_some_iff.1 hread
    exact ⟨by rw [← h.format, hnone, Option.map_none], rfl,
      { h with format := congrArg some hname.symm }⟩

theorem valueOf?_concat_valued {option : OptionName} {text : String} {ws : List OptionWord}
    (hnone : valueOf? option ws = none) :
    (fun o => valueOf? o (ws ++ [.valued option text])) =
      Function.update (fun o => valueOf? o ws) option (some text) := by
  funext o
  unfold valueOf? at hnone ⊢
  rw [List.findSome?_append, List.findSome?_singleton]
  by_cases ho : o = option
  · subst ho
    rw [Function.update_self, hnone, Option.none_or]
    exact if_pos rfl
  · have hother : OptionWord.value? o (.valued option text) = none := if_neg (Ne.symm ho)
    rw [Function.update_of_ne ho, hother, Option.or_none]

theorem valueOf?_concat_verbose (option : OptionName) (ws : List OptionWord) :
    valueOf? option (ws ++ [.verbose]) = valueOf? option ws := by
  unfold valueOf?
  rw [List.findSome?_append, List.findSome?_singleton]
  exact Option.or_none

/-- What a row of options adds to none is what the options say. -/
theorem holds_of_foldlM_give {ws : List OptionWord} {given : Given}
    (h : ws.foldlM OptionWord.give {} = .ok given) :
    given.Holds (fun option => valueOf? option ws) ∧ (given.verbose = true ↔ .verbose ∈ ws) := by
  induction ws using List.reverseRecOn generalizing given with
  | nil =>
    cases h
    exact ⟨⟨rfl, rfl, rfl, rfl, rfl, rfl, rfl, rfl⟩,
      iff_of_false Bool.false_ne_true List.not_mem_nil⟩
  | append_singleton ws w ih =>
    rw [List.foldlM_append] at h
    obtain ⟨before, hbefore, hw⟩ := bind_eq_ok_iff.1 h
    simp only [List.foldlM_cons, List.foldlM_nil, bind_pure] at hw
    obtain ⟨hholds, hverbose⟩ := ih hbefore
    cases w with
    | verbose =>
      unfold OptionWord.give Given.setVerbose at hw
      split_ifs at hw
      cases hw
      refine ⟨?_, iff_of_true rfl (List.mem_append_right _ (List.mem_singleton_self _))⟩
      simp only [valueOf?_concat_verbose]
      exact { hholds with }
    | valued option text =>
      obtain ⟨hnone, hkept, hset⟩ := hholds.set hw
      rw [valueOf?_concat_valued hnone, hkept, hverbose]
      refine ⟨hset, (List.mem_append.trans (or_iff_left ?_)).symm⟩
      rw [List.mem_singleton]
      nofun

/-! ## Commands -/

/-- The options of every command, by the rows of options before and after the name of the command. A
value after the name counts before one in front of it, and a variable may give the path of the
schema. -/
structure Options.GivenBy (options : Options) (schemaVariable : Option String)
    (outer inner : List OptionWord) : Prop where
  schema : options.schema =
    ((valueOf? .schema inner).or (valueOf? .schema outer)).or schemaVariable
  format : options.format.map OutputFormat.name =
    (valueOf? .format inner).or (valueOf? .format outer)
  config : options.config = (valueOf? .config inner).or (valueOf? .config outer)
  verbose : options.verbose = true ↔ .verbose ∈ outer ++ inner

/-- A command by its name, its level, the options after its name and its plain arguments. -/
inductive Command.SpelledBy : (name : String) → CommandLevel → List OptionWord →
    (plain : List String) → Command → Prop
  | find {ws : List OptionWord} {limit skip : Option UInt64} (collection : String) :
      (valueOf? .limit ws).map Text.unsignedWord? = limit.map some →
      (valueOf? .skip ws).map Text.unsignedWord? = skip.map some →
      SpelledBy "find" .find ws [collection] (.find collection (valueOf? .filter ws)
        (valueOf? .projection ws) (valueOf? .sort ws) limit skip)
  | call {ws : List OptionWord} {file : String} : file ≠ "" →
      SpelledBy "call" .call ws [file] (.call file)
  | operators (ws : List OptionWord) : SpelledBy "operators" .operators ws [] .operators

/-- The arguments of a command: options, the name of the command, and its options and plain
arguments. -/
inductive Request.Spelled (schemaVariable : Option String) :
    List String → Options → Command → Prop
  | intro {before after plain : List String} {name : String} {level : CommandLevel}
      {outer inner : List OptionWord} {options : Options} {command : Command} :
      OptionRow .top before outer → LevelArguments level after inner plain →
      options.GivenBy schemaVariable outer inner →
      command.SpelledBy name level inner plain →
      Spelled schemaVariable (before ++ name :: after) options command

/-! ## Reading options -/

section Reading

variable {level : CommandLevel} {given given' : Given}

theorem OptionName.ofShort?_eq_some {c : Char} {option : OptionName}
    (h : ofShort? level c = some option) :
    option.short? = some c ∧ option.allowedAt level = true := by
  simpa using List.find?_some h

theorem OptionName.ofLong?_eq_some {name : String} {option : OptionName}
    (h : ofLong? level name = some option) :
    option.long = name ∧ option.allowedAt level = true := by
  simpa using List.find?_some h

theorem Given.flag_eq_ok {option : OptionName} (h : given.flag level option = .ok given') :
    option = .verbose ∧ given.setVerbose = .ok given' := by
  cases option with
  | verbose => exact ⟨rfl, h⟩
  | _ => cases h

theorem Given.give_of_set {option : OptionName} {text : String}
    (h : given.set option text = .ok given') :
    [OptionWord.valued option text].foldlM OptionWord.give given = .ok given' := by
  simp only [List.foldlM_cons, List.foldlM_nil, bind_pure]
  exact h

theorem Given.takesValue_of_set {option : OptionName} {text : String}
    (h : given.set option text = .ok given') : option.takesValue = true := by
  cases option <;> first | rfl | cases h

theorem cluster_eq_ok {cs : List Char} {pending : Option OptionName}
    (h : given.cluster level cs = .ok (given', pending)) :
    ∃ ws, OptionCluster level cs ws pending ∧ ws.foldlM OptionWord.give given = .ok given' := by
  induction cs generalizing given with
  | nil =>
    cases h
    exact ⟨[], .nil, rfl⟩
  | cons c cs ih =>
    unfold Given.cluster at h
    split at h
    next => cases h
    next option hoption =>
      obtain ⟨hshort, hallowed⟩ := OptionName.ofShort?_eq_some hoption
      split_ifs at h with hvalue
      · split at h
        · cases h
          exact ⟨[], .pending hshort hvalue hallowed, rfl⟩
        next value =>
          obtain ⟨g, hset, ⟨⟩⟩ := bind_eq_ok_iff.1 h
          exact ⟨_, .assigned value hshort hvalue hallowed, Given.give_of_set hset⟩
        next hempty hequals =>
          obtain ⟨g, hset, ⟨⟩⟩ := bind_eq_ok_iff.1 h
          refine ⟨_, .attached hshort hvalue hallowed hempty ?_, Given.give_of_set hset⟩
          intro hhead
          obtain ⟨value, rfl⟩ := List.head?_eq_some_iff.1 hhead
          exact hequals value rfl
      · obtain ⟨g, hflag, hrest⟩ := bind_eq_ok_iff.1 h
        obtain ⟨rfl, hverbose⟩ := Given.flag_eq_ok hflag
        obtain ⟨ws, hws, hfold⟩ := ih hrest
        cases hshort
        refine ⟨.verbose :: ws, .verbose hws, ?_⟩
        rw [List.foldlM_cons]
        exact bind_eq_ok_iff.2 ⟨g, hverbose, hfold⟩

theorem long_eq_ok {cs : List Char} {pending : Option OptionName}
    (h : given.long level cs = .ok (given', pending)) :
    ∃ ws, OptionArgument level (String.ofList ('-' :: '-' :: cs)) ws pending ∧
      ws.foldlM OptionWord.give given = .ok given' := by
  unfold Given.long at h
  dsimp only at h
  split at h
  next => cases h
  next option hoption =>
    obtain ⟨hlong, hallowed⟩ := OptionName.ofLong?_eq_some hoption
    have hcs := List.takeWhile_append_dropWhile (p := (· != '=')) (l := cs)
    split at h
    next value hrest =>
      obtain ⟨g, hset, ⟨⟩⟩ := bind_eq_ok_iff.1 h
      have htext : "--" ++ option.long ++ "=" ++ String.ofList value =
          String.ofList ('-' :: '-' :: cs) := by
        rw [← hcs, hrest, hlong]
        exact String.toList_inj.1 (by simp)
      rw [← htext]
      exact ⟨_, .assigned _ (Given.takesValue_of_set hset) hallowed, Given.give_of_set hset⟩
    next hrest =>
      -- no equals sign follows the name, so the argument ends with it
      have hend : cs.dropWhile (· != '=') = [] := by
        have hhead := List.head?_dropWhile_not (· != '=') cs
        cases hdrop : cs.dropWhile (· != '=') with
        | nil => rfl
        | cons c value =>
          rw [hdrop] at hhead
          have hc : c = '=' := by simpa using hhead
          rw [hc] at hdrop
          exact absurd hdrop (hrest value)
      have htext : "--" ++ option.long = String.ofList ('-' :: '-' :: cs) := by
        rw [← hcs, hend, hlong]
        exact String.toList_inj.1 (by simp)
      rw [← htext]
      split_ifs at h with hvalue
      · cases h
        exact ⟨[], .pending hvalue hallowed, rfl⟩
      · obtain ⟨g, hflag, ⟨⟩⟩ := bind_eq_ok_iff.1 h
        obtain ⟨rfl, hverbose⟩ := Given.flag_eq_ok hflag
        refine ⟨[.verbose], .verbose, ?_⟩
        simp only [List.foldlM_cons, List.foldlM_nil, bind_pure]
        exact hverbose

/-! ## Reading arguments -/

theorem eq_of_form_separator {argument : String} (h : ArgumentForm.of argument = .separator) :
    argument = "--" := by
  unfold ArgumentForm.of at h
  split at h
  next hargument => exact String.toList_inj.1 hargument
  all_goals cases h

theorem eq_of_form_long {argument : String} {cs : List Char}
    (h : ArgumentForm.of argument = .long cs) : argument = String.ofList ('-' :: '-' :: cs) := by
  unfold ArgumentForm.of at h
  split at h
  next => cases h
  next hargument =>
    cases h
    rw [← hargument, String.ofList_toList]
  all_goals cases h

theorem eq_of_form_cluster {argument : String} {cs : List Char}
    (h : ArgumentForm.of argument = .cluster cs) :
    argument = String.ofList ('-' :: cs) ∧ cs ≠ [] ∧ cs.head? ≠ some '-' := by
  unfold ArgumentForm.of at h
  split at h
  next => cases h
  next => cases h
  next c cs _ hdash hargument =>
    cases h
    refine ⟨by rw [← hargument, String.ofList_toList], List.cons_ne_nil c cs, ?_⟩
    rintro ⟨⟩
    exact hdash rfl
  next => cases h

theorem isOptionForm_of_form_plain {argument : String} (h : ArgumentForm.of argument = .plain) :
    isOptionForm argument = false := by
  unfold ArgumentForm.of at h
  unfold isOptionForm
  split at h
  next => cases h
  next => cases h
  next => cases h
  next hsep hlong hcluster =>
    split
    next c cs hargument => exact absurd hargument (hcluster c cs)
    next => rfl

theorem addForm_eq_ok {argument : String} {form : ArgumentForm} {pending : Option OptionName}
    (hargument : ArgumentForm.of argument = form) (hseparator : form ≠ .separator)
    (hplain : form ≠ .plain) (h : given.addForm level form = .ok (given', pending)) :
    ∃ ws, OptionArgument level argument ws pending ∧
      ws.foldlM OptionWord.give given = .ok given' := by
  cases form with
  | separator => exact absurd rfl hseparator
  | plain => exact absurd rfl hplain
  | long cs =>
    rw [eq_of_form_long hargument]
    exact long_eq_ok h
  | cluster cs =>
    obtain ⟨rfl, hempty, hdash⟩ := eq_of_form_cluster hargument
    obtain ⟨ws, hws, hfold⟩ := cluster_eq_ok h
    exact ⟨ws, .cluster hempty hdash hws, hfold⟩

/-- Options are read from a row of arguments, and what follows is read after them. -/
theorem row_of_addForm {β : Type} {argument : String} {rest : List String} {form : ArgumentForm}
    {f : List String → Given → Except Halt β} {result : β}
    (hargument : ArgumentForm.of argument = form) (hseparator : form ≠ .separator)
    (hplain : form ≠ .plain)
    (h : (do
      let (given, pending) ← given.addForm level form
      match pending with
      | none => f rest given
      | some option =>
        match rest with
        | [] => .error (.usage (.missingValue option.long))
        | value :: rest =>
          if isOptionForm value then .error (.usage (.missingValue option.long))
          else do f rest (← given.set option value)) = .ok result) :
    ∃ row rest' ws, argument :: rest = row ++ rest' ∧ rest'.length ≤ rest.length ∧
      OptionRow level row ws ∧ ∃ g, ws.foldlM OptionWord.give given = .ok g ∧
        f rest' g = .ok result := by
  obtain ⟨⟨g, pending⟩, hform, h⟩ := bind_eq_ok_iff.1 h
  obtain ⟨ws, hws, hfold⟩ := addForm_eq_ok hargument hseparator hplain hform
  cases pending with
  | none =>
    have hrow : OptionRow level [argument] (ws ++ []) := .complete hws .nil
    rw [List.append_nil] at hrow
    exact ⟨[argument], rest, ws, rfl, Nat.le_refl _, hrow, g, hfold, h⟩
  | some option =>
    cases rest with
    | nil => cases h
    | cons value rest =>
      dsimp only at h
      split_ifs at h with hvalue
      obtain ⟨g', hset, h⟩ := bind_eq_ok_iff.1 h
      refine ⟨[argument, value], rest, ws ++ [.valued option value], rfl, Nat.le_succ _,
        .value hws (Bool.not_eq_true _ ▸ hvalue) .nil, g', ?_, h⟩
      rw [List.foldlM_append, hfold]
      exact Given.give_of_set hset

theorem readLevel_eq_ok {arguments : List String} {taken taken' : Option String}
    (h : readLevel level arguments given taken = .ok (given', taken')) :
    ∃ ws plain, LevelArguments level arguments ws plain ∧
      ws.foldlM OptionWord.give given = .ok given' ∧
      plain.foldlM level.accept taken = .ok taken' := by
  -- a row of options may take two arguments at once, so the induction is on their number
  induction hlength : arguments.length using Nat.strongRecOn generalizing
    arguments given taken with
  | _ n ih =>
    subst hlength
    cases arguments with
    | nil =>
      cases h
      exact ⟨[], [], .nil, rfl, rfl⟩
    | cons argument rest =>
      unfold readLevel at h
      split at h
      next hform =>
        obtain ⟨t, htaken, ⟨⟩⟩ := bind_eq_ok_iff.1 h
        rw [eq_of_form_separator hform]
        exact ⟨[], rest, .separator rest, rfl, htaken⟩
      next hform =>
        obtain ⟨t, htaken, h⟩ := bind_eq_ok_iff.1 h
        obtain ⟨ws, plain, hlevel, hfold, hplain⟩ := ih _ (Nat.lt_succ_self _) h rfl
        refine ⟨ws, argument :: plain, .plain (isOptionForm_of_form_plain hform) hlevel, hfold, ?_⟩
        rw [List.foldlM_cons]
        exact bind_eq_ok_iff.2 ⟨t, htaken, hplain⟩
      next hseparator hplain =>
        obtain ⟨row, rest', ws, heq, hshorter, hrow, g, hg, h⟩ :=
          row_of_addForm (f := fun rest given => readLevel level rest given taken) rfl
            hseparator hplain h
        obtain ⟨ws', plain, hlevel, hfold, haccept⟩ := ih _ (Nat.lt_succ_of_le hshorter) h rfl
        rw [heq]
        refine ⟨ws ++ ws', plain, .options hrow hlevel, ?_, haccept⟩
        rw [List.foldlM_append]
        exact bind_eq_ok_iff.2 ⟨g, hg, hfold⟩

theorem readTop_eq_ok {arguments : List String} {outer inner : Given} {command : Command}
    (h : readTop arguments given = .ok (outer, inner, command)) :
    ∃ before name after ws level taken, arguments = before ++ name :: after ∧
      OptionRow .top before ws ∧ ws.foldlM OptionWord.give given = .ok outer ∧
      CommandLevel.ofName? name = some level ∧
      readLevel level after {} none = .ok (inner, taken) ∧
      Command.of level inner taken = .ok command := by
  induction hlength : arguments.length using Nat.strongRecOn generalizing arguments given with
  | _ n ih =>
    subst hlength
    cases arguments with
    | nil => cases h
    | cons argument rest =>
      unfold readTop at h
      split at h
      next hform => split at h <;> cases h
      next hform =>
        split at h
        next => cases h
        next level hname =>
          obtain ⟨⟨g, taken⟩, hlevel, h⟩ := bind_eq_ok_iff.1 h
          obtain ⟨c, hcommand, ⟨⟩⟩ := bind_eq_ok_iff.1 h
          exact ⟨[], argument, rest, [], level, taken, rfl, .nil, rfl, hname, hlevel, hcommand⟩
      next hseparator hplain =>
        obtain ⟨row, rest', ws, heq, hshorter, hrow, g, hg, h⟩ :=
          row_of_addForm (f := readTop) rfl hseparator hplain h
        obtain ⟨before, name, after, ws', level, taken, rfl, hbefore, hfold, hrest⟩ :=
          ih _ (Nat.lt_succ_of_le hshorter) h rfl
        rw [heq, ← List.append_assoc]
        refine ⟨row ++ before, name, after, ws ++ ws', level, taken, rfl, hrow.append hbefore, ?_,
          hrest⟩
        rw [List.foldlM_append]
        exact bind_eq_ok_iff.2 ⟨g, hg, hfold⟩

theorem accept_some (argument : String) (plain : List String) {taken : Option String}
    (h : plain.foldlM level.accept (some argument) = .ok taken) :
    plain = [] ∧ taken = some argument := by
  cases plain with
  | nil =>
    cases h
    exact ⟨rfl, rfl⟩
  | cons word plain => cases level <;> cases h

theorem spelledBy_of_eq_ok {name : String} {plain : List String} {taken : Option String}
    {ws : List OptionWord} {command : Command} (hname : CommandLevel.ofName? name = some level)
    (hgiven : given.Holds fun option => valueOf? option ws)
    (hplain : plain.foldlM level.accept none = .ok taken)
    (h : Command.of level given taken = .ok command) : command.SpelledBy name level ws plain := by
  unfold CommandLevel.ofName? at hname
  split at hname
  · cases hname
    cases plain with
    | nil =>
      cases hplain
      cases h
    | cons collection plain =>
      obtain ⟨rfl, rfl⟩ := accept_some collection plain hplain
      cases h
      rw [hgiven.filter, hgiven.projection, hgiven.sort]
      exact .find collection hgiven.limit hgiven.skip
  · cases hname
    cases plain with
    | nil =>
      cases hplain
      cases h
    | cons file plain =>
      rw [List.foldlM_cons] at hplain
      obtain ⟨t, haccept, hplain⟩ := bind_eq_ok_iff.1 hplain
      unfold CommandLevel.accept at haccept
      dsimp only at haccept
      split_ifs at haccept with hempty
      cases haccept
      obtain ⟨rfl, rfl⟩ := accept_some file plain hplain
      cases h
      exact .call (mt String.isEmpty_iff.2 hempty)
  · cases hname
    cases plain with
    | nil =>
      cases h
      exact .operators ws
    | cons word plain => cases hplain
  · cases hname

/-- **What is read from arguments is what they spell.** -/
theorem Request.spelled_of_parse {schemaVariable : Option String} {arguments : List String}
    {options : Options} {command : Command}
    (h : parse schemaVariable arguments = .ok (.run options command)) :
    Spelled schemaVariable arguments options command := by
  obtain ⟨outer, inner, htop, rfl⟩ := parse_eq_ok_run h
  obtain ⟨before, name, after, ws, level, taken, rfl, hbefore, houter, hname, hlevel, hcommand⟩ :=
    readTop_eq_ok htop
  obtain ⟨ws', plain, hafter, hinner, hplain⟩ := readLevel_eq_ok hlevel
  obtain ⟨ho, hoverbose⟩ := holds_of_foldlM_give houter
  obtain ⟨hi, hiverbose⟩ := holds_of_foldlM_give hinner
  refine .intro hbefore hafter ?_ (spelledBy_of_eq_ok hname hi hplain hcommand)
  exact {
    schema := by rw [← ho.schema, ← hi.schema]; rfl
    format := by
      rw [← hi.format, ← ho.format, ← Option.map_or]
      rfl
    config := by rw [← ho.config, ← hi.config]; rfl
    verbose := by
      rw [List.mem_append, ← hoverbose, ← hiverbose]
      exact Bool.or_eq_true_iff }

end Reading

end FindSelect
