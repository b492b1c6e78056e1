import PcmOutput.Options.Setting

/-!
# Options one by one

Every key has a value of its own among the options. To set options by an entry is to read the text of the entry as a
value of its key, and to put this value where the key has it: no other key notices.
-/

set_option autoImplicit false

namespace PcmOutput

/-! ## Values of keys -/

def OptionKey.Value : OptionKey → Type
  | .deviceId | .sessionId | .bufferCapacity => Int
  | .performanceMode => PerformanceMode
  | .apiLevel => Option Int
  | .stateTimeout => Option Nat
  | .library => String

/-- The value that a trimmed text stands for, if it is in the language of the key. -/
def OptionKey.read? : (key : OptionKey) → String → Option key.Value
  | .deviceId, text => Options.choice? [("auto", unspecified)] text
  | .sessionId, text => Options.choice? [("none", noSession), ("allocate", newSession)] text
  | .bufferCapacity, text => Options.choice? [("auto", unspecified)] text
  | .performanceMode, text => PerformanceMode.ofName? text
  | .apiLevel, text =>
    (Options.choice? [("auto", 0)] text).map fun level => if level = 0 then none else some level
  | .stateTimeout, text => Options.timeout? text
  | .library, text => if text = "" then none else some text

namespace Options

def get (options : Options) : (key : OptionKey) → key.Value
  | .deviceId => options.deviceId
  | .sessionId => options.sessionId
  | .bufferCapacity => options.bufferCapacity
  | .performanceMode => options.performanceMode
  | .apiLevel => options.apiLevel
  | .stateTimeout => options.stateTimeoutMillis
  | .library => options.library

/-- The options with another value of a key. -/
def put (options : Options) : (key : OptionKey) → key.Value → Options
  | .deviceId, device => { options with deviceId := device }
  | .sessionId, session => { options with sessionId := session }
  | .bufferCapacity, frames => { options with bufferCapacity := frames }
  | .performanceMode, mode => { options with performanceMode := mode }
  | .apiLevel, level => { options with apiLevel := level }
  | .stateTimeout, millis => { options with stateTimeoutMillis := millis }
  | .library, library => { options with library := library }

@[simp] theorem get_put (options : Options) (key : OptionKey) (value : key.Value) :
    (options.put key value).get key = value := by
  cases key <;> rfl

theorem get_put_of_ne {key other : OptionKey} (different : key ≠ other) (options : Options) (value : other.Value) :
    (options.put other value).get key = options.get key := by
  cases key <;> cases other <;> first | rfl | contradiction

theorem ext_get {first second : Options} (same : ∀ key, first.get key = second.get key) : first = second := by
  obtain ⟨device, session, frames, mode, level, millis, library⟩ := first
  have device' : device = second.deviceId := same .deviceId
  have session' : session = second.sessionId := same .sessionId
  have frames' : frames = second.bufferCapacity := same .bufferCapacity
  have mode' : mode = second.performanceMode := same .performanceMode
  have level' : level = second.apiLevel := same .apiLevel
  have millis' : millis = second.stateTimeoutMillis := same .stateTimeout
  have library' : library = second.library := same .library
  subst device' session' frames' mode' level' millis' library'
  rfl

theorem assign?_eq (options : Options) (key : OptionKey) (text : String) :
    options.assign? key text = (key.read? text).map (options.put key) := by
  cases key with
  | apiLevel =>
      rw [assign?, OptionKey.read?, Option.map_map]
      rfl
  | library =>
      rw [assign?, OptionKey.read?]
      split <;> rfl
  | _ => rfl

end Options

/-! ## Names of keys -/

/-- The text is the name of the key, or its name with the mark of the output in front. -/
def OptionKey.Names (key : OptionKey) (text : String) : Prop :=
  text = key.name ∨ text = keyMark ++ key.name

instance (key : OptionKey) (text : String) : Decidable (key.Names text) :=
  inferInstanceAs (Decidable (_ ∨ _))

theorem bareKey_marked (text : String) : bareKey (keyMark ++ text) = text := by
  have marked : Text.after? keyMark.toList (keyMark ++ text).toList = some text.toList := by
    rw [String.toList_append, Text.after?, if_pos (List.isPrefixOf_iff_prefix.mpr (List.prefix_append _ _)),
      List.drop_left]
  rw [bareKey, Text.withoutMark, marked]
  exact String.ofList_toList

theorem bareKey_name (key : OptionKey) : bareKey key.name = key.name := by
  cases key <;> decide

/-- A key without its mark is the key itself, or what followed the mark. -/
theorem eq_or_marked_bareKey (text : String) : text = bareKey text ∨ text = keyMark ++ bareKey text := by
  unfold bareKey Text.withoutMark Text.after?
  -- Only a text that begins with the mark loses it.
  split
  · rename_i rest found
    split at found
    · rename_i marked
      obtain ⟨following, whole⟩ := List.isPrefixOf_iff_prefix.mp marked
      rw [← whole, List.drop_left, Option.some.injEq] at found
      right
      rw [← String.toList_inj, String.toList_append, String.toList_ofList, ← found, whole]
    · contradiction
  · exact .inl rfl

theorem OptionKey.ofName?_bareKey_iff {key : OptionKey} {text : String} :
    ofName? (bareKey text) = some key ↔ key.Names text := by
  constructor
  · intro found
    rw [Names, name_of_ofName? found]
    exact eq_or_marked_bareKey text
  · rintro (rfl | rfl)
    · rw [bareKey_name, ofName?_name]
    · rw [bareKey_marked, ofName?_name]

theorem OptionKey.Names.unique {key other : OptionKey} {text : String} (first : key.Names text)
    (second : other.Names text) : key = other := by
  have found := ofName?_bareKey_iff.mpr first
  rw [ofName?_bareKey_iff.mpr second] at found
  exact (Option.some.inj found).symm

/-! ## Entries -/

/-- The entry names the key, and its trimmed text stands for the value. -/
def Options.Entry.Sets (entry : Entry) (key : OptionKey) (value : key.Value) : Prop :=
  key.Names entry.key ∧ key.read? (Text.trim entry.value) = some value

namespace Options

variable {options changed : Options} {entry : Entry}

theorem set_eq_ok_iff :
    options.set entry.key entry.value = .ok changed ↔
      ∃ (key : OptionKey) (value : key.Value), entry.Sets key value ∧ options.put key value = changed := by
  unfold set Entry.Sets
  cases found : OptionKey.ofName? (bareKey entry.key) with
  | none =>
      simp only [reduceCtorEq, false_iff]
      rintro ⟨key, value, ⟨named, -⟩, -⟩
      rw [OptionKey.ofName?_bareKey_iff.mpr named] at found
      contradiction
  | some known =>
      have named : known.Names entry.key := OptionKey.ofName?_bareKey_iff.mp found
      simp only [assign?_eq]
      cases told : known.read? (Text.trim entry.value) with
      | none =>
          simp only [Option.map_none, reduceCtorEq, false_iff]
          rintro ⟨key, value, ⟨named', told'⟩, -⟩
          obtain rfl := named.unique named'
          rw [told] at told'
          contradiction
      | some value =>
          simp only [Option.map_some, Except.ok.injEq]
          constructor
          · intro same
            exact ⟨known, value, ⟨named, told⟩, same⟩
          · rintro ⟨key, value', ⟨named', told'⟩, same⟩
            obtain rfl := named.unique named'
            rw [told, Option.some.injEq] at told'
            rw [told', same]

/-- Whether an entry can be set does not depend on the options. -/
theorem Entry.Sets.set {key : OptionKey} {value : key.Value} (sets : entry.Sets key value) (options : Options) :
    options.set entry.key entry.value = .ok (options.put key value) :=
  set_eq_ok_iff.mpr ⟨key, value, sets, rfl⟩

end Options

end PcmOutput
