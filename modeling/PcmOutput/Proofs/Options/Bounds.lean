import PcmOutput.Options.Profile
import PcmOutput.Proofs.Layouts.Negotiation
import PcmOutput.Proofs.Options.Entries

/-!
# Options stay in their ranges

However options are changed, and also where a change fails part of the way, every option keeps to its range. The numbers
that stand for a choice come of the name of this choice, or of nothing having been set: a numeral is never one of them.
-/

set_option autoImplicit false

namespace PcmOutput

namespace Options

/-! ## Changes -/

/-- A way to change options. -/
inductive Change
  | set (key value : String)
  | pairs (texts : List String)
  | environment (surroundings : Environment)
  | profile (file : ProfileFile)

def Change.apply (change : Change) (options : Options) : Applied :=
  match change with
  | .set key value =>
    match options.set key value with
    | .ok changed => ⟨changed, .ok ()⟩
    | .error cause => ⟨options, .error cause⟩
  | .pairs texts => applyPairs texts options
  | .environment surroundings => applyEnvironment surroundings options
  | .profile file => applyProfile file options

/-- The options after some changes, whether or not these fail. -/
def afterChanges (options : Options) (changes : List Change) : Options :=
  changes.foldl (fun options change => (change.apply options).options) options

/-- The entries that a change sets, up to the one that fails. -/
def Change.taken : Change → List Entry
  | .set key value => Options.taken .ok [⟨key, value⟩]
  | .pairs texts => Options.taken readPair texts
  | .environment surroundings => Options.taken .ok (environmentEntries surroundings)
  | .profile file =>
    match profileItems file with
    | .error _ => []
    | .ok items => Options.taken readItem items

theorem Change.taken_settable (change : Change) : ∀ entry ∈ change.taken, entry.settable = true := by
  cases change with
  | profile file =>
      simp only [taken]
      cases profileItems file with
      | error cause => simp
      | ok items => exact Options.taken_settable
  | _ => exact Options.taken_settable

theorem Change.apply_options (change : Change) (options : Options) :
    (change.apply options).options = change.taken.foldl Options.change options := by
  cases change with
  | set key value =>
      rw [taken, ← applyItems_options]
      simp only [apply, applyItems]
      cases options.set key value <;> rfl
  | pairs texts => exact applyItems_options options
  | environment surroundings => exact applyItems_options options
  | profile file =>
      simp only [apply, applyProfile, taken]
      cases profileItems file with
      | error cause => rfl
      | ok items => exact applyItems_options options

/-- All entries that some changes set, in order. -/
def takenThroughout (changes : List Change) : List Entry :=
  changes.flatMap Change.taken

theorem afterChanges_eq (options : Options) (changes : List Change) :
    options.afterChanges changes = (takenThroughout changes).foldl change options := by
  induction changes generalizing options with
  | nil => rfl
  | cons first rest ih =>
      rw [takenThroughout, List.flatMap_cons, List.foldl_append, ← first.apply_options]
      exact ih _

/-- What some changes leave is decided by the last entry for each option. -/
theorem decided_afterChanges (changes : List Change) (key : OptionKey) :
    key.Decided (lastText? key (takenThroughout changes)) (Options.get {} key)
      ((Options.afterChanges {} changes).get key) := by
  have settable : ∀ entry ∈ takenThroughout changes, entry.settable = true := by
    intro entry among
    obtain ⟨change, -, own⟩ := List.mem_flatMap.mp among
    exact change.taken_settable entry own
  rw [afterChanges_eq]
  exact decided_foldl_change settable {} key

/-! ## Languages -/

section Languages

variable {text : String} {number : Int}

theorem choice?_cons (name : String) (chosen : Int) (rest : List (String × Int)) (text : String) :
    choice? ((name, chosen) :: rest) text = if name = text then some chosen else choice? rest text := by
  unfold choice?
  by_cases same : name = text <;> simp [same]

theorem numeral_range (read : choice? [] text = some number) : 1 ≤ number ∧ number ≤ Text.int32High := by
  obtain ⟨numeral, positive⟩ := Option.filter_eq_some_iff.mp read
  exact ⟨by simpa using positive, (Text.integer?_range numeral).2⟩

/-- A choice with one name is this name or a positive numeral. -/
theorem single_choice {name : String} {chosen : Int} (read : choice? [(name, chosen)] text = some number) :
    text = name ∧ number = chosen ∨ text ≠ name ∧ 1 ≤ number ∧ number ≤ Text.int32High := by
  rw [choice?_cons] at read
  by_cases same : name = text
  · rw [if_pos same, Option.some.injEq] at read
    exact .inl ⟨same.symm, read.symm⟩
  · rw [if_neg same] at read
    exact .inr ⟨fun other => same other.symm, numeral_range read⟩

theorem session_choice (read : choice? [("none", noSession), ("allocate", newSession)] text = some number) :
    text = "none" ∧ number = noSession ∨ text = "allocate" ∧ number = newSession ∨
      (text ≠ "none" ∧ text ≠ "allocate") ∧ 1 ≤ number ∧ number ≤ Text.int32High := by
  rw [choice?_cons] at read
  by_cases same : "none" = text
  · rw [if_pos same, Option.some.injEq] at read
    exact .inl ⟨same.symm, read.symm⟩
  · rw [if_neg same] at read
    rcases single_choice read with new | ⟨apart, range⟩
    · exact .inr (.inl new)
    · exact .inr (.inr ⟨⟨fun other => same other.symm, apart⟩, range⟩)

theorem timeout_choice {millis : Option Nat} (read : timeout? text = some millis) :
    (text = "inf" ∨ text = "infinite") ∧ millis = none ∨
      ∃ count, Text.natural64? text = some count ∧ count < 2 ^ 64 ∧ millis = some count := by
  unfold timeout? at read
  split at read
  · rename_i endless
    exact .inl ⟨endless, (Option.some.inj read).symm⟩
  · obtain ⟨count, numeral, rfl⟩ := Option.map_eq_some_iff.mp read
    exact .inr ⟨count, numeral, Nat.lt_succ_of_le (Text.natural?_le numeral), rfl⟩

end Languages

/-! ## Ranges -/

/--
The ranges of the options, given the text that decided each of them, if there was one. The numbers that stand for a
choice are there exactly if nothing was set or the choice was named.
-/
structure Bounded (history : OptionKey → Option String) (options : Options) : Prop where
  device : 0 ≤ options.deviceId ∧ options.deviceId ≤ Text.int32High
  deviceUnspecified : options.deviceId = unspecified ↔ ∀ text ∈ history .deviceId, Text.trim text = "auto"
  capacity : 0 ≤ options.bufferCapacity ∧ options.bufferCapacity ≤ Text.int32High
  capacityUnspecified : options.bufferCapacity = unspecified ↔ ∀ text ∈ history .bufferCapacity, Text.trim text = "auto"
  session : -1 ≤ options.sessionId ∧ options.sessionId ≤ Text.int32High
  sessionNone : options.sessionId = noSession ↔ ∀ text ∈ history .sessionId, Text.trim text = "none"
  sessionNew : options.sessionId = newSession ↔ ∃ text ∈ history .sessionId, Text.trim text = "allocate"
  level : ∀ level ∈ options.apiLevel, 1 ≤ level ∧ level ≤ Text.int32High
  library : options.library ≠ "" ∧ Text.trim options.library = options.library
  timeout : 0 ≤ options.stateTimeoutNanos ∧ options.stateTimeoutNanos ≤ 2 ^ 63 - 1
  timeoutTold :
    options.stateTimeoutNanos = 2 ^ 63 - 1 ∧
        (∀ text ∈ history .stateTimeout, Text.trim text = "inf" ∨ Text.trim text = "infinite") ∨
      ∃ text ∈ history .stateTimeout, ∃ millis : Nat, Text.natural64? (Text.trim text) = some millis ∧
        millis < 2 ^ 64 ∧ options.stateTimeoutNanos = min ((millis : Int) * 10 ^ 6) (2 ^ 63 - 1)

theorem unspecified_bounds {text? : Option String} {number : Int}
    (decided : match text? with
      | some text => choice? [("auto", unspecified)] (Text.trim text) = some number
      | none => number = unspecified) :
    (0 ≤ number ∧ number ≤ Text.int32High) ∧ (number = unspecified ↔ ∀ text ∈ text?, Text.trim text = "auto") := by
  cases text? with
  | none =>
      obtain rfl := decided
      exact ⟨by decide, by simp⟩
  | some text =>
      rcases single_choice decided with ⟨named, rfl⟩ | ⟨apart, low, high⟩
      · exact ⟨by decide, by simp [named]⟩
      · have positive : number ≠ unspecified := by simp only [unspecified]; omega
        exact ⟨⟨by omega, high⟩, by simp [apart, positive]⟩

theorem session_bounds {text? : Option String} {number : Int}
    (decided : match text? with
      | some text => choice? [("none", noSession), ("allocate", newSession)] (Text.trim text) = some number
      | none => number = noSession) :
    (-1 ≤ number ∧ number ≤ Text.int32High) ∧ (number = noSession ↔ ∀ text ∈ text?, Text.trim text = "none") ∧
      (number = newSession ↔ ∃ text ∈ text?, Text.trim text = "allocate") := by
  cases text? with
  | none =>
      obtain rfl := decided
      exact ⟨by decide, by simp, by simp [noSession, newSession]⟩
  | some text =>
      rcases session_choice decided with ⟨named, rfl⟩ | ⟨named, rfl⟩ | ⟨⟨apart, apart'⟩, low, high⟩
      · exact ⟨by decide, by simp [named], by simp [named, noSession, newSession]⟩
      · exact ⟨by decide, by simp [named, noSession, newSession], by simp [named]⟩
      · have positive : number ≠ noSession ∧ number ≠ newSession := by
          simp only [noSession, newSession]
          omega
        exact ⟨⟨by omega, high⟩, by simp [apart, positive.1], by simp [apart', positive.2]⟩

theorem level_bounds {text? : Option String} {level? : Option Int}
    (decided : match text? with
      | some text => (choice? [("auto", 0)] (Text.trim text)).map (fun level => if level = 0 then none else some level) =
          some level?
      | none => level? = none) :
    ∀ level ∈ level?, 1 ≤ level ∧ level ≤ Text.int32High := by
  intro level set
  cases text? with
  | none =>
      obtain rfl := decided
      contradiction
  | some text =>
      obtain ⟨number, read, rfl⟩ := Option.map_eq_some_iff.mp decided
      rcases single_choice read with ⟨-, rfl⟩ | ⟨-, low, high⟩
      · contradiction
      · rw [if_neg (Int.ne_of_gt low)] at set
        obtain rfl := Option.some.inj set
        exact ⟨low, high⟩

theorem library_bounds {text? : Option String} {library : String}
    (decided : OptionKey.library.Decided text? "libaaudio.so" library) : library ≠ "" ∧ Text.trim library = library := by
  cases text? with
  | none =>
      obtain rfl : library = "libaaudio.so" := decided
      exact ⟨by decide, by decide +kernel⟩
  | some text =>
      have told : (if Text.trim text = "" then none else some (Text.trim text)) = some library := decided
      split at told
      · contradiction
      · rename_i nonempty
        cases told
        exact ⟨nonempty, Text.trim_trim text⟩

theorem timeout_bounds {text? : Option String} {options : Options}
    (decided : OptionKey.stateTimeout.Decided text? none options.stateTimeoutMillis) :
    options.stateTimeoutNanos = 2 ^ 63 - 1 ∧
        (∀ text ∈ text?, Text.trim text = "inf" ∨ Text.trim text = "infinite") ∨
      ∃ text ∈ text?, ∃ millis : Nat, Text.natural64? (Text.trim text) = some millis ∧ millis < 2 ^ 64 ∧
        options.stateTimeoutNanos = min ((millis : Int) * 10 ^ 6) (2 ^ 63 - 1) := by
  have endless (none : options.stateTimeoutMillis = none) : options.stateTimeoutNanos = 2 ^ 63 - 1 := by
    rw [stateTimeoutNanos, none]
    rfl
  cases text? with
  | none => exact .inl ⟨endless decided, by simp⟩
  | some text =>
      rcases timeout_choice (show timeout? (Text.trim text) = some options.stateTimeoutMillis from decided) with
        ⟨named, millis⟩ | ⟨count, numeral, within, millis⟩
      · exact .inl ⟨endless millis, by simpa using named⟩
      · refine .inr ⟨text, rfl, count, numeral, within, ?_⟩
        rw [stateTimeoutNanos, millis]
        rfl

theorem stateTimeoutNanos_range (options : Options) :
    0 ≤ options.stateTimeoutNanos ∧ options.stateTimeoutNanos ≤ 2 ^ 63 - 1 := by
  unfold stateTimeoutNanos longestTimeout
  cases options.stateTimeoutMillis with
  | none => decide
  | some millis =>
      dsimp only
      omega

/--
After any changes of the default options, whether or not these fail, every option is within its range, and so are the
device, the session and the capacity of every configuration that is negotiated with the options.
-/
theorem bounded_throughout (changes : List Change) :
    let options := Options.afterChanges {} changes
    options.Bounded (fun key => lastText? key (takenThroughout changes)) ∧
      ∀ (request : AudioRequest) (caps : DeviceCaps) (config : StreamConfiguration),
        (negotiate request options caps).result = .ok config →
          (0 ≤ config.deviceId ∧ config.deviceId ≤ Text.int32High) ∧
          (0 ≤ config.bufferCapacity ∧ config.bufferCapacity ≤ Text.int32High) ∧
          ∀ hints ∈ config.hints, -1 ≤ hints.sessionId ∧ hints.sessionId ≤ Text.int32High := by
  intro options
  have decided (key : OptionKey) := decided_afterChanges changes key
  have device := unspecified_bounds (decided .deviceId)
  have capacity := unspecified_bounds (decided .bufferCapacity)
  have session := session_bounds (decided .sessionId)
  refine ⟨?_, fun request caps config agreed => ?_⟩
  · exact {
      device := device.1
      deviceUnspecified := device.2
      capacity := capacity.1
      capacityUnspecified := capacity.2
      session := session.1
      sessionNone := session.2.1
      sessionNew := session.2.2
      level := level_bounds (decided .apiLevel)
      library := library_bounds (decided .library)
      timeout := options.stateTimeoutNanos_range
      timeoutTold := timeout_bounds (decided .stateTimeout) }
  · obtain ⟨-, channels, -, rfl⟩ := negotiate_eq_ok_iff.mp agreed
    refine ⟨device.1, capacity.1, fun hints told => ?_⟩
    obtain ⟨-, rfl⟩ : caps.contentHints = true ∧ _ = hints := by
      simpa [StreamConfiguration.agreed, contentHints?] using told
    exact session.1

end Options

end PcmOutput
