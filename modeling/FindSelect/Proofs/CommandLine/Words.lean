import FindSelect.CommandLine.Arguments
import FindSelect.Proofs.FirstError
import Mathlib.Tactic.Common

/-!
# Options in one word

An option may be given in one word: its long name with its value after an equals sign, or its long
name alone when it takes no value. Such words are read one after another, at the level of a command
as before its name.

* `OptionWord`, with its `word` and what it adds to the options that are given (`give`);
* `readLevel_words`, `readTop_words`: a row of words is read as the fold of what its words add;
* `IsSetting`, `foldlM_give_withParts`: what the options of every command add does not depend on the
  options of one command;
* `CommandWords`: a command in words, as `CommandWords.call`;
* **`parse_arguments`**: settings before the name of a command and at the end mean the same for every
  command.
-/

namespace FindSelect

/-- An option in one word. -/
inductive OptionWord
  | valued (option : OptionName) (value : String)
  | verbose
  deriving DecidableEq, Repr

namespace OptionWord

def word : OptionWord → String
  | valued option value => "--" ++ option.long ++ "=" ++ value
  | verbose => "--verbose"

/-- The options that are given, with that of the word. -/
def give (given : Given) : OptionWord → Except Halt Given
  | valued option value => given.set option value
  | verbose => given.setVerbose

/-- The option of the word may stand at a level, with a value if it has one. -/
def Fits (level : CommandLevel) : OptionWord → Prop
  | valued option _ => option.takesValue = true ∧ option.allowedAt level = true
  | verbose => True

/-- The option of the word is one of every command. -/
def IsSetting : OptionWord → Prop
  | valued option _ => option = .schema ∨ option = .format ∨ option = .config
  | verbose => True

theorem IsSetting.fits {w : OptionWord} (h : w.IsSetting) (level : CommandLevel) :
    w.Fits level := by
  cases w with
  | valued option value => obtain rfl | rfl | rfl := h <;> exact ⟨rfl, rfl⟩
  | verbose => trivial

/-! ## One word -/

theorem ofLong?_long {level : CommandLevel} {option : OptionName}
    (h : option.allowedAt level = true) : OptionName.ofLong? level option.long = some option := by
  cases option <;> cases level <;> first | rfl | cases h

def body : OptionWord → List Char
  | valued option value => option.long.toList ++ '=' :: value.toList
  | verbose => "verbose".toList

@[simp]
theorem body_valued (option : OptionName) (value : String) :
    (valued option value).body = option.long.toList ++ '=' :: value.toList :=
  rfl

theorem of_word (w : OptionWord) : ArgumentForm.of w.word = .long w.body := by
  cases w with
  | verbose => rfl
  | valued option value =>
    have hword : (valued option value).word.toList = '-' :: '-' :: (valued option value).body := by
      simp [word]
    unfold ArgumentForm.of
    rw [hword]
    cases option <;> rfl

theorem addForm_body {level : CommandLevel} {w : OptionWord} (h : w.Fits level) (given : Given) :
    given.addForm level (.long w.body) = do return (← w.give given, none) := by
  cases w with
  | verbose => cases level <;> rfl
  | valued option value =>
    have hname : ∀ c ∈ option.long.toList, (c != '=') = true := by
      rw [← List.all_eq_true]
      cases option <;> rfl
    have htake : (valued option value).body.takeWhile (· != '=') = option.long.toList := by
      rw [body_valued, List.takeWhile_append_of_pos hname]
      simp
    have hdrop : (valued option value).body.dropWhile (· != '=') = '=' :: value.toList := by
      rw [body_valued, List.dropWhile_append_of_pos hname]
      simp
    unfold Given.addForm Given.long
    dsimp only
    rw [htake, hdrop, String.ofList_toList, ofLong?_long h.2]
    simp only [String.ofList_toList, give]

/-! ## Rows of words -/

theorem readLevel_words {level : CommandLevel} {ws : List OptionWord}
    (h : ∀ w ∈ ws, w.Fits level) (given : Given) (rest : List String) (taken : Option String) :
    readLevel level (ws.map word ++ rest) given taken =
      ws.foldlM give given >>= fun g => readLevel level rest g taken := by
  induction ws generalizing given with
  | nil => rfl
  | cons w ws ih =>
    rw [List.forall_mem_cons] at h
    rw [List.map_cons, List.cons_append, readLevel, of_word, List.foldlM_cons]
    dsimp only
    rw [addForm_body h.1]
    cases w.give given with
    | error e => rfl
    | ok g => exact ih h.2 g

theorem readTop_words {ws : List OptionWord} (h : ∀ w ∈ ws, w.Fits .top) (given : Given)
    (rest : List String) :
    readTop (ws.map word ++ rest) given = ws.foldlM give given >>= readTop rest := by
  induction ws generalizing given with
  | nil => rfl
  | cons w ws ih =>
    rw [List.forall_mem_cons] at h
    rw [List.map_cons, List.cons_append, readTop.eq_def, List.foldlM_cons]
    dsimp only
    rw [of_word]
    dsimp only
    rw [addForm_body h.1]
    cases w.give given with
    | error e => rfl
    | ok g => exact ih h.2 g

end OptionWord

/-! ## Settings -/

/-- Options that have the options of one command in place of their own. -/
def Given.withParts (given parts : Given) : Given :=
  { given with
    filter := parts.filter
    projection := parts.projection
    limit := parts.limit
    skip := parts.skip
    sort := parts.sort }

namespace OptionWord

theorem give_withParts {w : OptionWord} (h : w.IsSetting) (given parts : Given) :
    w.give (given.withParts parts) = (·.withParts parts) <$> w.give given := by
  cases w with
  | verbose =>
    have hverbose : (given.withParts parts).verbose = given.verbose := rfl
    unfold give Given.setVerbose
    rw [hverbose]
    by_cases hgiven : given.verbose = true
    · rw [if_pos hgiven, if_pos hgiven]
      rfl
    · rw [if_neg hgiven, if_neg hgiven]
      rfl
  | valued option value =>
    unfold give Given.set
    obtain rfl | rfl | rfl := h
    · dsimp only [Given.withParts]
      cases Given.fill .schema given.schema value (Given.path? value) <;> rfl
    · dsimp only [Given.withParts]
      cases Given.fill .format given.format value (OutputFormat.ofName? value) <;> rfl
    · dsimp only [Given.withParts]
      cases Given.fill .config given.config value (Given.path? value) <;> rfl

/-- What settings add does not depend on the options of one command. -/
theorem foldlM_give_withParts {ws : List OptionWord} (h : ∀ w ∈ ws, w.IsSetting)
    (given parts : Given) :
    ws.foldlM give (given.withParts parts) = (·.withParts parts) <$> ws.foldlM give given := by
  induction ws generalizing given with
  | nil => rfl
  | cons w ws ih =>
    rw [List.forall_mem_cons] at h
    rw [List.foldlM_cons, List.foldlM_cons, give_withParts h.1]
    cases w.give given with
    | error e => rfl
    | ok g => exact ih h.2 g

theorem give_eq_error {w : OptionWord} (h : w.IsSetting) {given : Given} {halt : Halt}
    (hgive : w.give given = .error halt) : ∃ e, halt = .usage e := by
  have hfill : ∀ {α : Type} {option : OptionName} {slot read : Option α} {value : String}
      {halt : Halt}, Given.fill option slot value read = .error halt → ∃ e, halt = .usage e := by
    intro α option slot read value halt hfill
    unfold Given.fill at hfill
    split_ifs at hfill
    · cases hfill
      exact ⟨_, rfl⟩
    · cases read with
      | some a => cases hfill
      | none =>
        cases hfill
        exact ⟨_, rfl⟩
  cases w with
  | verbose =>
    unfold give Given.setVerbose at hgive
    split_ifs at hgive
    cases hgive
    exact ⟨_, rfl⟩
  | valued option value =>
    unfold give Given.set at hgive
    obtain rfl | rfl | rfl := h <;> exact hfill (map_eq_error_iff.1 hgive)

theorem foldlM_give_eq_error {ws : List OptionWord} (h : ∀ w ∈ ws, w.IsSetting) {given : Given}
    {halt : Halt} (hgive : ws.foldlM give given = .error halt) : ∃ e, halt = .usage e := by
  induction ws generalizing given with
  | nil => cases hgive
  | cons w ws ih =>
    rw [List.forall_mem_cons] at h
    rw [List.foldlM_cons] at hgive
    cases hw : w.give given with
    | error e =>
      rw [hw] at hgive
      cases hgive
      exact give_eq_error h.1 hw
    | ok g =>
      rw [hw] at hgive
      exact ih h.2 hgive

end OptionWord

/-! ## Commands -/

theorem Request.parse_of_readTop (schemaVariable : Option String) {arguments : List String}
    {outer inner : Given} {command : Command}
    (h : readTop arguments {} = .ok (outer, inner, command)) :
    Request.parse schemaVariable arguments =
      (do inner.admit schemaVariable; outer.admit schemaVariable) >>= fun _ =>
        .ok (.run (Options.join schemaVariable outer inner) command) := by
  unfold Request.parse
  rw [h, bind_assoc]
  rfl

theorem Request.parse_eq_ok_run {schemaVariable : Option String} {arguments : List String}
    {options : Options} {command : Command}
    (h : Request.parse schemaVariable arguments = .ok (.run options command)) :
    ∃ outer inner, readTop arguments {} = .ok (outer, inner, command) ∧
      options = Options.join schemaVariable outer inner := by
  cases htop : readTop arguments {} with
  | error halt =>
    unfold Request.parse at h
    rw [htop] at h
    cases halt <;> cases h
  | ok read =>
    obtain ⟨outer, inner, command⟩ := read
    rw [Request.parse_of_readTop schemaVariable htop] at h
    obtain ⟨-, -, hrun⟩ := bind_eq_ok_iff.1 h
    cases hrun
    exact ⟨outer, inner, rfl, rfl⟩

/-- A command in words: its name, its argument and its own options, and what they ask for. -/
structure CommandWords where
  level : CommandLevel
  name : String
  argument : String
  options : List OptionWord
  /-- What the options of the command add to none. -/
  parts : Given
  command : Command
  level_name : CommandLevel.ofName? name = some level
  name_plain : isOptionForm name = false
  argument_plain : isOptionForm argument = false
  accepted : level.accept none argument = .ok (some argument)
  fits : ∀ w ∈ options, w.Fits level
  parts_eq : options.foldlM OptionWord.give {} = .ok (({} : Given).withParts parts)
  command_eq : ∀ given : Given,
    Command.of level (given.withParts parts) (some argument) = .ok command

namespace CommandWords

/-- The arguments of a command with settings before its name and at the end. -/
def arguments (c : CommandWords) (before after : List OptionWord) : List String :=
  before.map OptionWord.word ++ c.name :: c.argument :: (c.options ++ after).map OptionWord.word

theorem of_plain {argument : String} (h : isOptionForm argument = false) :
    ArgumentForm.of argument = .plain := by
  unfold isOptionForm at h
  unfold ArgumentForm.of
  split at h
  · cases h
  next hform =>
    split
    next heq => exact absurd heq (hform _ _)
    next heq => exact absurd heq (hform _ _)
    next heq => exact absurd heq (hform _ _)
    next => rfl

theorem readLevel_arguments (c : CommandWords) {after : List OptionWord}
    (hafter : ∀ w ∈ after, w.IsSetting) :
    readLevel c.level (c.argument :: (c.options ++ after).map OptionWord.word) {} none =
      (fun given => (given.withParts c.parts, some c.argument)) <$>
        after.foldlM OptionWord.give {} := by
  have hfits : ∀ w ∈ c.options ++ after, w.Fits c.level := by
    intro w hw
    rcases List.mem_append.1 hw with hw | hw
    · exact c.fits w hw
    · exact (hafter w hw).fits c.level
  have hread := OptionWord.readLevel_words hfits {} [] (some c.argument)
  rw [List.append_nil, List.foldlM_append, c.parts_eq] at hread
  rw [readLevel, of_plain c.argument_plain]
  dsimp only
  rw [c.accepted]
  refine hread.trans ?_
  change after.foldlM OptionWord.give (({} : Given).withParts c.parts) >>= _ = _
  rw [OptionWord.foldlM_give_withParts hafter]
  cases after.foldlM OptionWord.give {} with
  | error e => rfl
  | ok given => rfl

theorem readTop_arguments (c : CommandWords) {before after : List OptionWord}
    (hbefore : ∀ w ∈ before, w.IsSetting) (hafter : ∀ w ∈ after, w.IsSetting) :
    readTop (c.arguments before after) {} = (do
      let outer ← before.foldlM OptionWord.give {}
      let inner ← after.foldlM OptionWord.give {}
      return (outer, inner.withParts c.parts, c.command)) := by
  have hfits : ∀ w ∈ before, w.Fits .top := fun w hw => (hbefore w hw).fits .top
  rw [arguments, OptionWord.readTop_words hfits]
  refine bind_congr fun outer => ?_
  rw [readTop.eq_def]
  dsimp only
  rw [of_plain c.name_plain, c.level_name]
  dsimp only
  rw [c.readLevel_arguments hafter]
  cases after.foldlM OptionWord.give {} with
  | error e => rfl
  | ok inner =>
    change (Command.of c.level (inner.withParts c.parts) (some c.argument) >>= fun command =>
      pure (outer, inner.withParts c.parts, command)) = _
    rw [c.command_eq]
    rfl

theorem parse_of_options (c : CommandWords) (schemaVariable : Option String)
    {before after : List OptionWord} (hbefore : ∀ w ∈ before, w.IsSetting)
    (hafter : ∀ w ∈ after, w.IsSetting) {outer inner : Given}
    (houter : before.foldlM OptionWord.give {} = .ok outer)
    (hinner : after.foldlM OptionWord.give {} = .ok inner) :
    Request.parse schemaVariable (c.arguments before after) =
      (do inner.admit schemaVariable; outer.admit schemaVariable) >>= fun _ =>
        .ok (.run (Options.join schemaVariable outer inner) c.command) := by
  have htop : readTop (c.arguments before after) {} =
      .ok (outer, inner.withParts c.parts, c.command) := by
    rw [c.readTop_arguments hbefore hafter, houter, hinner]
    rfl
  -- the options of one command count neither for the paths nor for the settings
  have hparse := Request.parse_of_readTop schemaVariable htop
  exact hparse

/-- **Settings mean the same for every command.** Either they are at fault, in the same way whatever
command stands between them, or the same options come with every command. -/
theorem parse_arguments (schemaVariable : Option String) {before after : List OptionWord}
    (hbefore : ∀ w ∈ before, w.IsSetting) (hafter : ∀ w ∈ after, w.IsSetting) :
    (∃ e, ∀ c : CommandWords,
        Request.parse schemaVariable (c.arguments before after) = .error e) ∨
      ∃ options, ∀ c : CommandWords,
        Request.parse schemaVariable (c.arguments before after) = .ok (.run options c.command) := by
  have htop := fun c : CommandWords => c.readTop_arguments hbefore hafter
  cases houter : before.foldlM OptionWord.give {} with
  | error halt =>
    obtain ⟨e, rfl⟩ := OptionWord.foldlM_give_eq_error hbefore houter
    refine .inl ⟨e, fun c => ?_⟩
    unfold Request.parse
    rw [htop c, houter]
    rfl
  | ok outer =>
    cases hinner : after.foldlM OptionWord.give {} with
    | error halt =>
      obtain ⟨e, rfl⟩ := OptionWord.foldlM_give_eq_error hafter hinner
      refine .inl ⟨e, fun c => ?_⟩
      unfold Request.parse
      rw [htop c, houter, hinner]
      rfl
    | ok inner =>
      have hparse := fun c : CommandWords =>
        c.parse_of_options schemaVariable hbefore hafter houter hinner
      cases hpaths : (do inner.admit schemaVariable; outer.admit schemaVariable) with
      | error e =>
        refine .inl ⟨e, fun c => ?_⟩
        rw [hparse c, hpaths]
        rfl
      | ok u =>
        refine .inr ⟨Options.join schemaVariable outer inner, fun c => ?_⟩
        rw [hparse c, hpaths]
        rfl

/-- The command that reads a call from a file. -/
def call (file : String) (hempty : file ≠ "") (hfile : isOptionForm file = false) :
    CommandWords where
  level := .call
  name := "call"
  argument := file
  options := []
  parts := {}
  command := .call file
  level_name := rfl
  name_plain := rfl
  argument_plain := hfile
  accepted := if_neg (mt String.isEmpty_iff.1 hempty)
  fits := nofun
  parts_eq := rfl
  command_eq _ := rfl

end CommandWords

end FindSelect
