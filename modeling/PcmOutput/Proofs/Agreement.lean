import PcmOutput.Library

/-!
# Coming to an agreement

A library is loaded and a configuration negotiated before there is a stream. Each of the two fails for causes of its
own only, and a configuration that was agreed on keeps the rate of its request.
-/

set_option autoImplicit false

namespace PcmOutput

theorem Noted.bind_pure_eq {first second : Type} (work : Noted first) (rule : first → second) :
    (work >>= fun value => pure (rule value)) = ⟨work.lines, work.result.map rule⟩ := by
  obtain ⟨lines, result⟩ := work
  cases result with
  | error cause => rfl
  | ok value =>
      change Noted.mk (lines ++ []) _ = _
      rw [List.append_nil]
      rfl

/-- What is agreed on once the channels are selected. -/
def StreamConfiguration.agreed (request : AudioRequest) (options : Options) (caps : DeviceCaps)
    (channels : ChannelRequest) : StreamConfiguration where
  format := FormatChoice.select request.format caps.apiLevel
  sampleRate := request.sampleRate
  channels := channels
  sharingMode := if request.exclusive then ModeCode.exclusive else ModeCode.shared
  deviceId := options.deviceId
  bufferCapacity := options.bufferCapacity
  performanceMode := options.performanceMode.code
  hints := contentHints? request options caps

/-- A negotiation comes to the selection of the channels, once the rate is one that a device can be told. -/
theorem negotiate_result (request : AudioRequest) (options : Options) (caps : DeviceCaps) :
    (negotiate request options caps).result =
      if request.sampleRate = 0 ∨ highestRate < request.sampleRate then
        .error (.invalidRequest s!"sample rate {request.sampleRate}")
      else (selectChannels request.channels caps).result.map (StreamConfiguration.agreed request options caps) := by
  have selected : (do
      let channels ← selectChannels request.channels caps
      return StreamConfiguration.agreed request options caps channels : Noted StreamConfiguration).result =
        (selectChannels request.channels caps).result.map (StreamConfiguration.agreed request options caps) := by
    rw [Noted.bind_pure_eq]
  unfold negotiate
  dsimp only
  by_cases untold : request.sampleRate = 0 ∨ highestRate < request.sampleRate
  · rw [if_pos untold, if_pos untold]
    rfl
  · rw [if_neg untold, if_neg untold]
    by_cases coerced : (FormatChoice.select request.format caps.apiLevel).granted ≠ request.format
    · rw [if_pos coerced]
      exact selected
    · rw [if_neg coerced]
      exact selected

theorem negotiate_sampleRate {request : AudioRequest} {options : Options} {caps : DeviceCaps}
    {config : StreamConfiguration} (agreed : (negotiate request options caps).result = .ok config) :
    config.sampleRate = request.sampleRate := by
  rw [negotiate_result] at agreed
  split at agreed
  · cases agreed
  · cases found : (selectChannels request.channels caps).result with
    | error cause =>
        rw [found] at agreed
        cases agreed
    | ok channels =>
        rw [found] at agreed
        cases agreed
        rfl

theorem Noted.bind_error {first second : Type} {work : Noted first} {next : first → Noted second} {cause : OutputError}
    (failed : (work >>= next).result = .error cause) :
    work.result = .error cause ∨ ∃ between, work.result = .ok between ∧ (next between).result = .error cause := by
  rw [Noted.result_bind] at failed
  cases found : work.result with
  | error earlier => exact .inl (by simpa [found] using failed)
  | ok between => exact .inr ⟨between, rfl, by simpa [found] using failed⟩

/-- Work that fails does so for one of the causes. -/
def Noted.FailsFor {value : Type} (causes : OutputError → Prop) (work : Noted value) : Prop :=
  ∀ cause, work.result = .error cause → causes cause

namespace Noted.FailsFor

variable {first second : Type} {causes : OutputError → Prop}

theorem pure (value : first) : FailsFor causes (Pure.pure value) :=
  fun _ => nofun

theorem note (level : Level) (text : String) : FailsFor causes (Noted.note level text) :=
  fun _ => nofun

theorem fail {cause : OutputError} (known : causes cause) : FailsFor causes (Noted.fail cause : Noted first) := by
  intro _ failed
  cases failed
  exact known

theorem bind {work : Noted first} {next : first → Noted second} (started : FailsFor causes work)
    (goesOn : ∀ value, FailsFor causes (next value)) : FailsFor causes (work >>= next) := by
  intro cause failed
  rcases Noted.bind_error failed with failed | ⟨value, -, failed⟩
  · exact started cause failed
  · exact goesOn value cause failed

end Noted.FailsFor

/-- Why a negotiation fails. -/
inductive Disagreement : OutputError → Prop
  | invalidRequest (text : String) : Disagreement (.invalidRequest text)
  | noChannelMap (layout : String) : Disagreement (.noChannelMap layout)

theorem selectChannels_failsFor (requested : ChannelMap) (caps : DeviceCaps) :
    (selectChannels requested caps).FailsFor Disagreement := by
  have refused : (Noted.fail (.noChannelMap requested.name) : Noted ChannelRequest).FailsFor Disagreement :=
    .fail (.noChannelMap requested.name)
  unfold selectChannels
  split
  · split
    · exact refused
    · split
      · split
        · exact refused
        · split
          · exact (Noted.FailsFor.note _ _).bind fun _ => .pure _
          · exact .pure _
      · exact (Noted.FailsFor.note _ _).bind fun _ => refused
  · exact .pure _

theorem negotiate_failsFor (request : AudioRequest) (options : Options) (caps : DeviceCaps) :
    (negotiate request options caps).FailsFor Disagreement := by
  intro cause failed
  rw [negotiate_result] at failed
  split at failed
  · cases failed
    exact .invalidRequest _
  · cases found : (selectChannels request.channels caps).result with
    | error earlier =>
        rw [found] at failed
        cases failed
        exact selectChannels_failsFor _ _ _ found
    | ok channels =>
        rw [found] at failed
        cases failed

/-! ## Libraries -/

/-- The causes that keep a library from being loaded. -/
def Unbound (cause : OutputError) : Prop :=
  cause.isCapability = true

theorem bindSymbols_failsFor (resolver : Resolver) (symbols : List String) (bound : BoundSymbols) :
    (bindSymbols resolver symbols bound).FailsFor Unbound := by
  induction symbols generalizing bound with
  | nil => exact .pure _
  | cons symbol rest ih =>
      unfold bindSymbols
      split
      · exact ih _
      · exact (Noted.FailsFor.note _ _).bind fun _ => .fail rfl

theorem bindTiers_failsFor (resolver : Resolver) (tiers : List Tier) (bound : BoundSymbols) :
    (bindTiers resolver tiers bound).FailsFor Unbound := by
  induction tiers generalizing bound with
  | nil => exact .pure _
  | cons tier rest ih =>
      unfold bindTiers
      split
      · exact .pure _
      · refine (bindSymbols_failsFor resolver tier.symbols bound).bind fun extended => ?_
        exact (Noted.FailsFor.note _ _).bind fun _ => ih extended

theorem probe_failsFor (level : Int) (table : List Tier) (resolver : Resolver) :
    (probe level table resolver).FailsFor Unbound := by
  unfold probe
  split
  · exact .fail rfl
  · split
    · exact .fail rfl
    · exact bindTiers_failsFor _ _ _

theorem load_failsFor (linkage : Linkage) (options : Options) :
    (LoadedLibrary.load linkage options).FailsFor Unbound := by
  unfold LoadedLibrary.load
  split
  · exact .fail rfl
  · split
    · exact .fail rfl
    · refine (probe_failsFor _ _ _).bind fun symbols => ?_
      split
      · exact (Noted.FailsFor.note _ _).bind fun _ => .pure _
      · exact .fail rfl

theorem libraryLoader_failsFor {δ : Type} (linkage : Linkage) (points : EntryPoints δ) (options : Options)
    (device : δ) :
    (libraryLoader linkage points options device).1.FailsFor Unbound :=
  (load_failsFor linkage options).bind fun _ => .pure _

end PcmOutput
