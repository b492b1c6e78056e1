import Mathlib
import PcmOutput.Player.Program
import PcmOutput.Proofs.Options.Tables

/-!
# Layers of options

A player takes its options from a profile, from the environment and from the pairs of its command line. Each option is
decided for itself: by the last pair that names it, else by its variable, else by the profile. How the pairs for
different options stand among each other makes no difference.
-/

set_option autoImplicit false

namespace PcmOutput

theorem OptionKey.mem_all (key : OptionKey) : key ∈ all := by
  cases key <;> decide

namespace Options

variable {files : Files} {environment : Environment} {pairs : List String} {loaded options : Options} {key : OptionKey}

/-! ## What each layer says of an option -/

/-- The text that a `key=value` pair sets an option to, if it names it; blanks around its key do not count. -/
def pairText? (key : OptionKey) (pair : String) : Option String :=
  match Text.cutAtFirst? '=' pair.toList with
  | some (name, text) => if key.Names (Text.trim (String.ofList name)) then some (String.ofList text) else none
  | none => none

/-- The options in the profile that the environment names, as they are written there. -/
def profileTableOf (files : Files) (environment : Environment) : List (String × Toml.Value) :=
  match environment profileVariable with
  | none => []
  | some path => (((files path).bind Toml.parse?).bind profileItems?).getD []

/-- What the profile has for an option: the text of its plain key, or else that of its marked key. -/
def profileText? (files : Files) (environment : Environment) (key : OptionKey) : Option String :=
  let table := profileTableOf files environment
  (tableText? table key.name).or (tableText? table (keyMark ++ key.name))

/-- The text that decides an option: of the last pair that names it, or else of its variable, or else of the profile. -/
def decidingText? (files : Files) (environment : Environment) (pairs : List String) (key : OptionKey) : Option String :=
  (pairs.filterMap (pairText? key)).getLast?.or <|
    (variableValue? environment key.name).or (profileText? files environment key)

/-! ## Pairs -/

theorem pairText?_of_readPair {pair : String} {entry : Entry} (read : readPair pair = .ok entry) :
    pairText? key pair = if key.Names entry.key then some entry.value else none := by
  unfold readPair at read
  unfold pairText?
  cases cut : Text.cutAtFirst? '=' pair.toList with
  | none =>
      rw [cut] at read
      contradiction
  | some parts =>
      rw [cut] at read
      obtain rfl := Except.ok.inj read
      rfl

theorem lastText?_pairs {entries : List Entry}
    (read : List.Forall₂ (fun pair entry => readPair pair = .ok entry) pairs entries) :
    lastText? key entries = (pairs.filterMap (pairText? key)).getLast? := by
  induction read with
  | nil => rfl
  | @cons pair entry rest entries told later ih =>
      rw [lastText?_cons, ih, List.filterMap_cons, pairText?_of_readPair told]
      by_cases named : key.Names entry.key
      · simp only [named, if_true, List.getLast?_cons]
        cases (rest.filterMap (pairText? key)).getLast? <;> rfl
      · simp only [named, if_false, Option.or_none]

/-! ## Variables -/

/-- Every variable speaks for its own option only. -/
theorem lastText?_variablesOf (environment : Environment) (keys : List OptionKey) (key : OptionKey) :
    lastText? key (keys.filterMap fun key =>
        (variableValue? environment key.name).map fun value => (⟨key.name, value⟩ : Entry)) =
      if key ∈ keys then variableValue? environment key.name else none := by
  induction keys with
  | nil => rfl
  | cons first rest ih =>
      have named : key.Names first.name ↔ key = first :=
        ⟨fun named => named.unique (.inl rfl), fun same => same ▸ .inl rfl⟩
      cases told : variableValue? environment first.name with
      | none =>
          rw [List.filterMap_cons, told]
          by_cases same : key = first
          · subst same
            simp only [Option.map_none, ih, told, ite_self]
          · simp only [Option.map_none, ih, List.mem_cons, same, false_or]
      | some value =>
          rw [List.filterMap_cons, told]
          simp only [Option.map_some, lastText?_cons, ih, named]
          by_cases same : key = first
          · subst same
            -- A key that the list has again has the same variable there.
            by_cases later : key ∈ rest <;> simp [later, told]
          · simp [same]

theorem lastText?_variables (environment : Environment) (key : OptionKey) :
    lastText? key (environmentEntries environment) = variableValue? environment key.name := by
  rw [environmentEntries, lastText?_variablesOf, if_pos key.mem_all]

/-! ## The profile -/

theorem profileItems_eq_ok {path : String} {items : List (String × Toml.Value)}
    (named : environment profileVariable = some path) (found : profileItems ⟨path, files path⟩ = .ok items) :
    Toml.canonicalEntries? (profileTableOf files environment) = some items := by
  unfold profileItems at found
  split at found
  · contradiction
  · rename_i text told
    split at found
    · contradiction
    · rename_i root parsed
      split at found
      · contradiction
      · rename_i table written
        split at found
        · contradiction
        · rename_i entries canonical
          obtain rfl := Except.ok.inj found
          rw [profileTableOf, named]
          simp only [show files path = some text from told, Option.bind_some, parsed, written, Option.getD_some, canonical]

/-! ## Layers in order -/

theorem forall_ok_settable {entries : List Entry} :
    (∀ item ∈ entries, ∃ entry, (.ok item : Except OutputError Entry) = .ok entry ∧ entry.settable = true) ↔
      ∀ entry ∈ entries, entry.settable = true := by
  simp

theorem taken_ok {entries : List Entry} (settable : ∀ entry ∈ entries, entry.settable = true) :
    taken .ok entries = entries := by
  have same := forall₂_taken (forall_ok_settable.mpr settable)
  simp only [Except.ok.injEq, List.forall₂_eq_eq_eq] at same
  exact same.symm

/-- What a profile changes is decided by its table. -/
theorem profiled_eq_ok {path : String} (named : environment profileVariable = some path)
    (done : (applyProfile ⟨path, files path⟩ {}).result = .ok ()) :
    ∃ profiled : List Entry,
      (∀ key, lastText? key profiled = profileText? files environment key) ∧
      (∀ entry ∈ profiled, entry.settable = true) ∧
      (applyProfile ⟨path, files path⟩ {}).options = profiled.foldl change {} := by
  unfold applyProfile at done ⊢
  cases found : profileItems ⟨path, files path⟩ with
  | error cause =>
      rw [found] at done
      contradiction
  | ok items =>
      simp only [found] at done
      have all := applyItems_isOk_iff.mp done
      exact ⟨taken readItem items, fun key => lastText?_table (profileItems_eq_ok named found) (forall₂_taken all) key,
        taken_settable, applyItems_options {}⟩

theorem environment_eq_ok {changed : Options}
    (done : ((applyEnvironment environment changed).result.map fun () =>
      (applyEnvironment environment changed).options) = .ok loaded) :
    (∀ entry ∈ environmentEntries environment, entry.settable = true) ∧
      loaded = (environmentEntries environment).foldl change changed := by
  cases ended : (applyEnvironment environment changed).result with
  | error cause =>
      rw [ended] at done
      cases done
  | ok _ =>
      rw [ended] at done
      have settable := forall_ok_settable.mp (applyItems_isOk_iff.mp ended)
      refine ⟨settable, ?_⟩
      rw [← Except.ok.inj done, applyEnvironment, applyItems_options, taken_ok settable]

/-- Options that are loaded are the defaults, changed by the entries of the profile and then by those of the variables. -/
theorem load_eq_ok (done : load files environment = .ok loaded) :
    ∃ profiled : List Entry,
      (∀ key, lastText? key profiled = profileText? files environment key) ∧
      (∀ entry ∈ profiled ++ environmentEntries environment, entry.settable = true) ∧
      loaded = (profiled ++ environmentEntries environment).foldl change {} := by
  unfold load at done
  cases named : environment profileVariable with
  | none =>
      simp only [named] at done
      obtain ⟨settable, same⟩ := environment_eq_ok done
      have nothing : profileTableOf files environment = [] := by
        rw [profileTableOf, named]
      refine ⟨[], fun key => ?_, settable, same⟩
      rw [profileText?, nothing]
      rfl
  | some path =>
      simp only [named] at done
      cases ended : (applyProfile ⟨path, files path⟩ {}).result with
      | error cause =>
          rw [ended] at done
          contradiction
      | ok _ =>
          simp only [ended] at done
          obtain ⟨profiled, told, settable, begun⟩ := profiled_eq_ok named ended
          obtain ⟨settable', same⟩ := environment_eq_ok done
          refine ⟨profiled, told, List.forall_mem_append.mpr ⟨settable, settable'⟩, ?_⟩
          rw [same, begun, List.foldl_append]

theorem outputOptions_eq_ok_iff :
    Player.outputOptions files environment pairs = .ok options ↔
      ∃ loaded, load files environment = .ok loaded ∧
        (∀ pair ∈ pairs, ∃ entry, readPair pair = .ok entry ∧ entry.settable = true) ∧
        (taken readPair pairs).foldl change loaded = options := by
  unfold Player.outputOptions
  cases load files environment with
  | error cause => simp [bind, Except.bind]
  | ok loaded =>
      have finished := @applyItems_isOk_iff _ readPair pairs loaded
      simp only [bind, Except.bind, Except.ok.injEq, exists_eq_left', applyPairs, applyItems_options, ← finished]
      cases (applyItems readPair pairs loaded).result with
      | error cause => simp [Except.map]
      | ok _ => simp [Except.map]

/-! ## Every option for itself -/

/--
Where options come about at all, each of them is decided by its own text alone, and the pairs can be put in any order
that keeps the pairs for each option in theirs.
-/
theorem layers_decide (settled : Player.outputOptions files environment pairs = .ok options) :
    (∀ key : OptionKey,
      key.Decided (decidingText? files environment pairs key) (Options.get {} key) (options.get key)) ∧
    ∀ others : List String, others.Perm pairs →
      (∀ key, others.filterMap (pairText? key) = pairs.filterMap (pairText? key)) →
      Player.outputOptions files environment others = .ok options := by
  obtain ⟨loaded, done, all, same⟩ := outputOptions_eq_ok_iff.mp settled
  obtain ⟨profiled, told, settable, begun⟩ := load_eq_ok done
  constructor
  · intro key
    -- All layers together are one list of entries, the deciding ones last.
    have settable' : ∀ entry ∈ (profiled ++ environmentEntries environment) ++ taken readPair pairs,
        entry.settable = true :=
      List.forall_mem_append.mpr ⟨settable, taken_settable⟩
    have layered := decided_foldl_change settable' {} key
    rwa [List.foldl_append, ← begun, same, lastText?_append, lastText?_append, lastText?_pairs (forall₂_taken all),
      lastText?_variables, told] at layered
  · intro others reordered kept
    have all' : ∀ pair ∈ others, ∃ entry, readPair pair = .ok entry ∧ entry.settable = true :=
      fun pair among => all pair (reordered.mem_iff.mp among)
    refine outputOptions_eq_ok_iff.mpr ⟨loaded, done, all', ?_⟩
    rw [← same]
    refine foldl_change_congr taken_settable taken_settable (fun key => ?_) loaded
    rw [lastText?_pairs (forall₂_taken all'), lastText?_pairs (forall₂_taken all), kept]

/-- Told by the profile, by a variable and by pairs that take turns between two options. -/
theorem layers_decide_taking_turns :
    let files : Files := fun path =>
      if path = "quiet.toml" then some "[aaudio]\ndevice-id=3\naaudio-device-id=5\n" else none
    let environment : Environment := fun name =>
      if name = profileVariable then some "quiet.toml"
      else if name = "AAUDIO_SESSION_ID" then some " 9 "
      else none
    let options : Options := { deviceId := 3, sessionId := 9, bufferCapacity := 96, apiLevel := some 30 }
    Player.outputOptions files environment
        ["buffer-capacity=48", "api-level=30", " aaudio-buffer-capacity = 96"] = .ok options ∧
      Player.outputOptions files environment
        ["api-level=30", "buffer-capacity=48", " aaudio-buffer-capacity = 96"] = .ok options := by
  intro files environment options
  have named : environment profileVariable = some "quiet.toml" := rfl
  have profiled : applyProfile ⟨"quiet.toml", files "quiet.toml"⟩ {} = ⟨{ deviceId := 3 }, .ok ()⟩ := by cbv
  have surrounded : applyEnvironment environment { deviceId := 3 } = ⟨{ deviceId := 3, sessionId := 9 }, .ok ()⟩ :=
    rfl
  have told : applyPairs ["buffer-capacity=48", "api-level=30", " aaudio-buffer-capacity = 96"]
      { deviceId := 3, sessionId := 9 } = ⟨options, .ok ()⟩ := rfl
  have settled : Player.outputOptions files environment
      ["buffer-capacity=48", "api-level=30", " aaudio-buffer-capacity = 96"] = .ok options := by
    simp only [Player.outputOptions, load, named, profiled, surrounded, told, Except.map, bind, Except.bind]
  refine ⟨settled, (layers_decide settled).2 _ (List.Perm.swap _ _ _) fun key => ?_⟩
  cases key <;> decide

end Options

end PcmOutput
