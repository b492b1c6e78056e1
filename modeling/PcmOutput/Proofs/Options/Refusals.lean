import PcmOutput.Proofs.Options.Bounds
import PcmOutput.Proofs.Options.Tables
import PcmOutput.Proofs.Text.Literals

/-!
# What is refused, and where

Every option has a language of texts. An entry is set exactly if it names an option and its text is in the language of
this option, and the refusal of any other entry tells which of the two it lacks. A list of entries that fails does so at
the first entry that is refused, and leaves what the entries before that one leave.
-/

set_option autoImplicit false

namespace PcmOutput

open Text

/-! ## Languages -/

/-- The text is one of the names, or a positive numeral of 32 bits. -/
def Options.Choice (names : List (String × Int)) (text : String) (number : Int) : Prop :=
  (text, number) ∈ names ∨ Int32Literal text number ∧ 1 ≤ number

/-- The language of each option, and the value that each text of it stands for. -/
def OptionKey.Means : (key : OptionKey) → String → key.Value → Prop
  | .deviceId, text, device => Options.Choice [("auto", unspecified)] text device
  | .sessionId, text, session => Options.Choice [("none", noSession), ("allocate", newSession)] text session
  | .bufferCapacity, text, frames => Options.Choice [("auto", unspecified)] text frames
  | .performanceMode, text, mode => PerformanceMode.name mode = text
  | .apiLevel, text, level =>
    text = "auto" ∧ level = none ∨ ∃ number, Int32Literal text number ∧ 1 ≤ number ∧ level = some number
  | .stateTimeout, text, millis =>
    (text = "inf" ∨ text = "infinite") ∧ millis = none ∨ ∃ count, Natural64Literal text count ∧ millis = some count
  | .library, text, path => text ≠ "" ∧ path = text

namespace Options

variable {text : String} {number : Int}

/-- No name of a choice is a numeral, so that the names do not take anything away from the numerals. -/
theorem choice?_eq_some_iff {names : List (String × Int)} (words : ∀ named ∈ names, int32? named.1 = none)
    (apart : names.Pairwise fun first second => first.1 ≠ second.1) :
    choice? names text = some number ↔ Choice names text number := by
  induction names with
  | nil =>
      simp [choice?, Choice, Option.filter_eq_some_iff, int32?_eq_some_iff]
  | cons first rest ih =>
      obtain ⟨word, words'⟩ := List.forall_mem_cons.mp words
      obtain ⟨unlike, apart'⟩ := List.pairwise_cons.mp apart
      obtain ⟨name, chosen⟩ := first
      rw [choice?_cons]
      by_cases same : name = text
      · subst same
        rw [if_pos rfl, Option.some.injEq]
        constructor
        · rintro rfl
          exact .inl List.mem_cons_self
        · intro choice
          cases choice with
          | inl among =>
              rcases List.mem_cons.mp among with own | later
              · exact (Prod.mk.inj own).2.symm
              · exact absurd rfl (unlike (name, number) later)
          | inr numeral =>
              rw [int32?_eq_some_iff.mpr numeral.1] at word
              contradiction
      · have other : (text, number) ≠ (name, chosen) := fun own => same (Prod.mk.inj own).1.symm
        rw [if_neg same, ih words' apart', Choice, Choice, List.mem_cons, or_iff_right other]

theorem automatic_choice {chosen : Int} :
    choice? [("auto", chosen)] text = some number ↔ Choice [("auto", chosen)] text number := by
  apply choice?_eq_some_iff
  · intro named among
    rw [List.mem_singleton.mp among]
    show int32? "auto" = none
    decide
  · exact List.pairwise_singleton _ _

theorem session_choice_iff :
    choice? [("none", noSession), ("allocate", newSession)] text = some number ↔
      Choice [("none", noSession), ("allocate", newSession)] text number :=
  choice?_eq_some_iff (by decide) (by decide)

theorem level_iff {level : Option Int} :
    ((choice? [("auto", 0)] text).map fun number => if number = 0 then none else some number) = some level ↔
      text = "auto" ∧ level = none ∨ ∃ number, Int32Literal text number ∧ 1 ≤ number ∧ level = some number := by
  simp only [Option.map_eq_some_iff, automatic_choice, Choice, List.mem_singleton, Prod.mk.injEq]
  constructor
  · rintro ⟨number, ⟨named, rfl⟩ | ⟨numeral, positive⟩, rfl⟩
    · exact .inl ⟨named, rfl⟩
    · exact .inr ⟨number, numeral, positive, if_neg (by omega)⟩
  · rintro (⟨named, rfl⟩ | ⟨number, numeral, positive, rfl⟩)
    · exact ⟨0, .inl ⟨named, rfl⟩, rfl⟩
    · exact ⟨number, .inr ⟨numeral, positive⟩, if_neg (by omega)⟩

theorem timeout?_eq_some_iff {millis : Option Nat} :
    timeout? text = some millis ↔
      (text = "inf" ∨ text = "infinite") ∧ millis = none ∨ ∃ count, Natural64Literal text count ∧ millis = some count := by
  unfold timeout?
  split
  · rename_i endless
    -- Neither of the two words is a numeral.
    have word : natural64? text = none := by
      rcases endless with rfl | rfl <;> decide
    have wordless : ∀ count, ¬ Natural64Literal text count := by
      intro count numeral
      rw [natural64?_eq_some_iff.mpr numeral] at word
      contradiction
    simp [endless, wordless, eq_comm]
  · rename_i timed
    simp only [timed, false_and, false_or, Option.map_eq_some_iff, natural64?_eq_some_iff, @eq_comm _ (some _) millis]

theorem library_iff {path : String} :
    (if text = "" then none else some text) = some path ↔ text ≠ "" ∧ path = text := by
  by_cases empty : text = ""
  · simp [empty]
  · simp [empty, eq_comm]

end Options

theorem PerformanceMode.ofName?_eq_some_iff {text : String} {mode : PerformanceMode} :
    ofName? text = some mode ↔ mode.name = text := by
  constructor
  · intro found
    simpa using List.find?_some found
  · rintro rfl
    exact ofName?_name mode

theorem OptionKey.read?_eq_some_iff {key : OptionKey} {text : String} {value : key.Value} :
    key.read? text = some value ↔ key.Means text value := by
  cases key with
  | deviceId => exact Options.automatic_choice
  | sessionId => exact Options.session_choice_iff
  | bufferCapacity => exact Options.automatic_choice
  | performanceMode => exact PerformanceMode.ofName?_eq_some_iff
  | apiLevel => exact Options.level_iff
  | stateTimeout => exact Options.timeout?_eq_some_iff
  | library => exact Options.library_iff

/-! ## Entries -/

/-- The key as it is without the mark of the output, of which only one is taken off. -/
def IsBare (key bare : String) : Prop :=
  key = keyMark ++ bare ∨ key = bare ∧ ∀ rest, key ≠ keyMark ++ rest

theorem bareKey_isBare (key : String) : IsBare key (bareKey key) := by
  by_cases marked : ∃ rest, key = keyMark ++ rest
  · obtain ⟨rest, rfl⟩ := marked
    rw [bareKey_marked]
    exact .inl rfl
  · have unmarked : ∀ rest, key ≠ keyMark ++ rest := fun rest same => marked ⟨rest, same⟩
    cases eq_or_marked_bareKey key with
    | inl same => exact .inr ⟨same, unmarked⟩
    | inr same => exact absurd same (unmarked _)

namespace Options

variable {options left : Options} {entry : Entry} {cause : OutputError}

/-- The entry names no option, or its text is not in the language of the option that it names. -/
inductive Entry.Refused (entry : Entry) : OutputError → Prop
  | unknown : (∀ key : OptionKey, key.name ≠ bareKey entry.key) → entry.Refused (.unknownOption (bareKey entry.key))
  | invalid {key : OptionKey} : key.name = bareKey entry.key → (∀ value, ¬ key.Means (trim entry.value) value) →
      entry.Refused (.invalidOption (bareKey entry.key) (trim entry.value))

theorem names_iff {key : OptionKey} {text : String} : key.Names text ↔ key.name = bareKey text := by
  constructor
  · intro named
    exact OptionKey.name_of_ofName? (OptionKey.ofName?_bareKey_iff.mpr named)
  · intro same
    rw [← OptionKey.ofName?_bareKey_iff, ← same]
    exact OptionKey.ofName?_name key

theorem set_isOk_iff :
    (∃ changed, options.set entry.key entry.value = .ok changed) ↔
      ∃ key : OptionKey, key.name = bareKey entry.key ∧ ∃ value, key.Means (trim entry.value) value := by
  simp only [set_eq_ok_iff, Entry.Sets, names_iff, OptionKey.read?_eq_some_iff]
  constructor
  · rintro ⟨changed, key, value, ⟨named, meant⟩, -⟩
    exact ⟨key, named, value, meant⟩
  · rintro ⟨key, named, value, meant⟩
    exact ⟨_, key, value, ⟨named, meant⟩, rfl⟩

/-- The option that is named gets what its text means, and no other option changes. -/
theorem set_changes {changed : Options} (done : options.set entry.key entry.value = .ok changed) :
    ∃ key : OptionKey, key.name = bareKey entry.key ∧ key.Means (trim entry.value) (changed.get key) ∧
      ∀ other, other ≠ key → changed.get other = options.get other := by
  obtain ⟨key, value, ⟨named, told⟩, rfl⟩ := set_eq_ok_iff.mp done
  refine ⟨key, names_iff.mp named, ?_, fun other different => get_put_of_ne different options value⟩
  rw [get_put]
  exact OptionKey.read?_eq_some_iff.mp told

theorem set_eq_error_iff : options.set entry.key entry.value = .error cause ↔ entry.Refused cause := by
  unfold set
  cases found : OptionKey.ofName? (bareKey entry.key) with
  | none =>
      have unknown : ∀ key : OptionKey, key.name ≠ bareKey entry.key := by
        intro key same
        rw [← same, OptionKey.ofName?_name] at found
        contradiction
      constructor
      · intro failed
        cases failed
        exact .unknown unknown
      · intro refused
        cases refused with
        | unknown _ => rfl
        | invalid named _ => exact absurd named (unknown _)
  | some key =>
      have named : key.name = bareKey entry.key := OptionKey.name_of_ofName? found
      simp only [assign?_eq]
      cases told : key.read? (trim entry.value) with
      | none =>
          have invalid : ∀ value, ¬ key.Means (trim entry.value) value := by
            intro value meant
            rw [OptionKey.read?_eq_some_iff.mpr meant] at told
            contradiction
          constructor
          · intro failed
            cases failed
            exact .invalid named invalid
          · intro refused
            cases refused with
            | unknown absent => exact absurd named (absent key)
            | invalid _ _ => rfl
      | some value =>
          simp only [Option.map_some, reduceCtorEq, false_iff]
          intro refused
          cases refused with
          | unknown absent => exact absurd named (absent key)
          | invalid named' invalid =>
              rw [← named', OptionKey.ofName?_name] at found
              cases found
              exact invalid value (OptionKey.read?_eq_some_iff.mp told)

/-! ## Lists of entries -/

section Items

variable {item : Type} {read : item → Except OutputError Entry} {items : List item}

/-- The item cannot be read as an entry, or the entry that it is read as is refused. -/
inductive Fails (read : item → Except OutputError Entry) (bad : item) (cause : OutputError) : Prop
  | unread : read bad = .error cause → Fails read bad cause
  | refused {entry : Entry} : read bad = .ok entry → entry.Refused cause → Fails read bad cause

/-- All items before one that fails are set, and that is what is left. -/
def FailsFirst (read : item → Except OutputError Entry) (items : List item) (options left : Options)
    (cause : OutputError) : Prop :=
  ∃ before bad after, items = before ++ bad :: after ∧ applyItems read before options = ⟨left, .ok ()⟩ ∧
    Fails read bad cause

/-- What one item makes of the options. -/
def setItem (read : item → Except OutputError Entry) (first : item) (options : Options) : Except OutputError Options :=
  (read first).bind fun entry => options.set entry.key entry.value

theorem setItem_eq_error_iff {bad : item} : setItem read bad options = .error cause ↔ Fails read bad cause := by
  rw [setItem]
  constructor
  · intro failed
    cases told : read bad with
    | error unread =>
        rw [told] at failed
        cases failed
        exact .unread told
    | ok entry =>
        rw [told] at failed
        exact .refused told (set_eq_error_iff.mp failed)
  · intro fails
    cases fails with
    | unread failed => rw [failed, Except.bind]
    | refused told refused =>
        rw [told]
        exact set_eq_error_iff.mpr refused

theorem applyItems_cons (first : item) (rest : List item) (options : Options) :
    applyItems read (first :: rest) options =
      match setItem read first options with
      | .error cause => ⟨options, .error cause⟩
      | .ok changed => applyItems read rest changed := by
  rw [applyItems, setItem]
  cases read first with
  | error failed => rfl
  | ok entry => rfl

theorem applyItems_append {before : List item} (done : applyItems read before options = ⟨left, .ok ()⟩)
    (after : List item) : applyItems read (before ++ after) options = applyItems read after left := by
  induction before generalizing options with
  | nil =>
      cases done
      rfl
  | cons first rest ih =>
      rw [applyItems_cons] at done
      rw [List.cons_append, applyItems_cons]
      cases changed : setItem read first options with
      | error failed =>
          rw [changed] at done
          cases done
      | ok next =>
          rw [changed] at done
          exact ih done

theorem applyItems_eq_error_iff :
    applyItems read items options = ⟨left, .error cause⟩ ↔ FailsFirst read items options left cause := by
  constructor
  · intro failed
    -- By induction on the items: each one that is set goes in front of those before the one that fails.
    induction items generalizing options with
    | nil => cases failed
    | cons first rest ih =>
        rw [applyItems_cons] at failed
        cases changed : setItem read first options with
        | error refused =>
            rw [changed] at failed
            cases failed
            exact ⟨[], first, rest, rfl, rfl, setItem_eq_error_iff.mp changed⟩
        | ok next =>
            rw [changed] at failed
            obtain ⟨before, bad, after, split, done, fails⟩ := ih failed
            refine ⟨first :: before, bad, after, by rw [split, List.cons_append], ?_, fails⟩
            rw [applyItems_cons, changed]
            exact done
  · rintro ⟨before, bad, after, rfl, done, fails⟩
    rw [applyItems_append done, applyItems_cons, setItem_eq_error_iff.mpr fails]

end Items

/-! ## Where entries come from -/

theorem cutAtFirst?_eq_none_iff {separator : Char} {characters : List Char} :
    cutAtFirst? separator characters = none ↔ separator ∉ characters := by
  induction characters with
  | nil => simp [cutAtFirst?]
  | cons character rest ih =>
      rw [cutAtFirst?, List.mem_cons, not_or]
      by_cases same : character = separator
      · simp [same]
      · rw [if_neg same, Option.map_eq_none_iff, ih, and_iff_right (Ne.symm same)]

theorem readPair_eq_error_iff {pair : String} :
    readPair pair = .error cause ↔ '=' ∉ pair.toList ∧ cause = .invalidOption pair "" := by
  rw [← cutAtFirst?_eq_none_iff, readPair]
  cases cutAtFirst? '=' pair.toList with
  | none => simp [eq_comm]
  | some parts => simp

theorem readItem_eq_error_iff {item : String × Toml.Value} :
    readItem item = .error cause ↔ item.2.text? = none ∧ cause = .invalidOption item.1 item.2.renderAlone := by
  obtain ⟨name, value⟩ := item
  cases value <;> simp [readItem, Toml.Value.text?, eq_comm]

/-- Variables are set in the order of the keys. -/
theorem environmentEntries_ordered (environment : Environment) :
    ((environmentEntries environment).map Entry.key).Sublist (OptionKey.all.map OptionKey.name) := by
  unfold environmentEntries
  induction OptionKey.all with
  | nil => exact .slnil
  | cons key rest ih =>
      rw [List.filterMap_cons]
      cases variableValue? environment key.name with
      | none => exact ih.cons _
      | some value => exact ih.cons_cons _

theorem profileItems_sorted {file : ProfileFile} {items : List (String × Toml.Value)}
    (found : profileItems file = .ok items) : Toml.Sorted items := by
  unfold profileItems at found
  split at found
  · contradiction
  · split at found
    · contradiction
    · split at found
      · contradiction
      · split at found
        · contradiction
        · rename_i entries canonical
          cases found
          exact (Toml.canonicalEntries?_spec canonical).1

theorem applyProfile_eq_error_iff {file : ProfileFile} :
    applyProfile file options = ⟨left, .error cause⟩ ↔
      profileItems file = .error cause ∧ left = options ∨
        ∃ items, profileItems file = .ok items ∧ FailsFirst readItem items options left cause := by
  unfold applyProfile
  cases found : profileItems file with
  | error failed => simp [eq_comm, and_comm]
  | ok items => simpa using applyItems_eq_error_iff

/--
An entry is set exactly if its key, without one mark, is that of an option, and its text, without the blanks around it,
is in the language of this option; then this option alone changes, to what the text means. Any other entry changes
nothing, and is refused by its bare key, and by its trimmed text if the option is known. Pairs, variables and profiles
fail with the first entry that cannot be read or is refused, and leave what the entries before it leave. Variables are
set in the order of the options, and the entries of a profile in the order of their keys.
-/
theorem languages_decide (options : Options) :
    (∀ entry : Entry,
      (IsBare entry.key (bareKey entry.key) ∧ IsCore entry.value (trim entry.value)) ∧
      ((∃ changed, options.set entry.key entry.value = .ok changed) ↔
        ∃ key : OptionKey, key.name = bareKey entry.key ∧ ∃ value, key.Means (trim entry.value) value) ∧
      (∀ changed, options.set entry.key entry.value = .ok changed →
        ∃ key : OptionKey, key.name = bareKey entry.key ∧ key.Means (trim entry.value) (changed.get key) ∧
          ∀ other, other ≠ key → changed.get other = options.get other) ∧
      ∀ left cause, (Change.set entry.key entry.value).apply options = ⟨left, .error cause⟩ ↔
        left = options ∧ entry.Refused cause) ∧
    (∀ pairs left cause, applyPairs pairs options = ⟨left, .error cause⟩ ↔
      FailsFirst readPair pairs options left cause) ∧
    (∀ pair cause, readPair pair = .error cause ↔ '=' ∉ pair.toList ∧ cause = .invalidOption pair "") ∧
    (∀ environment left cause, applyEnvironment environment options = ⟨left, .error cause⟩ ↔
      FailsFirst .ok (environmentEntries environment) options left cause) ∧
    (∀ environment, ((environmentEntries environment).map Entry.key).Sublist (OptionKey.all.map OptionKey.name)) ∧
    (∀ file left cause, applyProfile file options = ⟨left, .error cause⟩ ↔
      profileItems file = .error cause ∧ left = options ∨
        ∃ items, profileItems file = .ok items ∧ FailsFirst readItem items options left cause) ∧
    (∀ file items, profileItems file = .ok items → Toml.Sorted items) ∧
    ∀ item cause, readItem item = .error cause ↔
      item.2.text? = none ∧ cause = .invalidOption item.1 item.2.renderAlone := by
  refine ⟨?_, ?_, ?_, ?_, environmentEntries_ordered, ?_, ?_, ?_⟩
  · intro entry
    refine ⟨⟨bareKey_isBare entry.key, trim_core entry.value⟩, set_isOk_iff, fun changed => set_changes, ?_⟩
    intro left cause
    rw [Change.apply, ← @set_eq_error_iff options]
    cases options.set entry.key entry.value with
    | ok changed => simp
    | error failed => simp [eq_comm]
  · intro pairs left cause
    exact applyItems_eq_error_iff
  · intro pair cause
    exact readPair_eq_error_iff
  · intro environment left cause
    exact applyItems_eq_error_iff
  · intro file left cause
    exact applyProfile_eq_error_iff
  · intro file items found
    exact profileItems_sorted found
  · intro item cause
    exact readItem_eq_error_iff

end Options

end PcmOutput
