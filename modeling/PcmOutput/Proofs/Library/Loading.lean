import PcmOutput.Proofs.Course.Opening
import PcmOutput.Proofs.Layouts.Negotiation
import PcmOutput.Proofs.Library.Probe

/-!
# Loaded libraries

A library is loaded exactly if everything that the API level promises can be found in it or in the process. Whatever
else it holds, a tier counts as bound from its level on and not before, so that all settings a negotiation decides on
take effect.
-/

set_option autoImplicit false

namespace PcmOutput

/-! ## Entry points of a library and of the process -/

/-- The entry point can be called neither in the library nor in the process. -/
def Linkage.Lacks (linkage : Linkage) (exported : Resolver) (symbol : String) : Prop :=
  (∀ address, ¬ exported.Finds symbol address) ∧ ∀ address, ¬ linkage.process.Finds symbol address

/-- An entry point of the process is only used where the library has none that can be called. -/
theorem Linkage.resolver_finds_iff {linkage : Linkage} {exported : Resolver} {symbol : String} {address : Nat} :
    (linkage.resolver exported).Finds symbol address ↔
      exported.Finds symbol address ∨
        (∀ other, ¬ exported.Finds symbol other) ∧ linkage.process.Finds symbol address := by
  constructor
  · rintro ⟨found, -⟩
    rcases Option.or_eq_some_iff.mp found with inLibrary | ⟨absent, inProcess⟩
    · exact .inl (Resolver.address?_eq_some_iff.mp inLibrary)
    · exact .inr ⟨Resolver.address?_eq_none_iff.mp absent, Resolver.address?_eq_some_iff.mp inProcess⟩
  · rintro (inLibrary | ⟨absent, inProcess⟩)
    · have first := Resolver.address?_eq_some_iff.mpr inLibrary
      exact ⟨Option.or_eq_some_iff.mpr (.inl first), inLibrary.2⟩
    · have second := Resolver.address?_eq_some_iff.mpr inProcess
      exact ⟨Option.or_eq_some_iff.mpr (.inr ⟨Resolver.address?_eq_none_iff.mpr absent, second⟩), inProcess.2⟩

theorem Linkage.lacks_iff {linkage : Linkage} {exported : Resolver} {symbol : String} :
    linkage.Lacks exported symbol ↔ ∀ address, ¬ (linkage.resolver exported).Finds symbol address := by
  simp only [Linkage.resolver_finds_iff, Linkage.Lacks]
  grind

theorem Linkage.not_lacks_iff {linkage : Linkage} {exported : Resolver} {symbol : String} :
    ¬ linkage.Lacks exported symbol ↔ ∃ address, (linkage.resolver exported).Finds symbol address := by
  rw [Linkage.lacks_iff]
  simp

/-! ## Tiers that are offered -/

/-- Every tier has an entry point, and none that is in another tier. -/
def Tier.Apart (table : List Tier) : Prop :=
  ∀ tier ∈ table, tier.symbols ≠ [] ∧
    ∀ symbol ∈ tier.symbols, ∀ other ∈ table, symbol ∈ other.symbols → other = tier

theorem Tier.ascending_table : Tier.Ascending Tier.table := by
  decide

theorem Tier.apart_table : Tier.Apart Tier.table := by
  unfold Tier.Apart
  decide +kernel

theorem Tier.reached_table {level : Int} : Tier.Reached Tier.table level ↔ Tier.core.level ≤ level := by
  simp [Tier.Reached, Tier.table]

theorem BoundSymbols.offers_iff {bound : BoundSymbols} {tier : Tier} :
    bound.offers tier = true ↔ ∀ symbol ∈ tier.symbols, ∃ address, bound.address? symbol = some address := by
  simp [BoundSymbols.offers, Option.isSome_iff_exists]

/-- A tier of the table is bound as a whole from its level on, and not at all before. -/
theorem probe_offers_iff {table : List Tier} {level : Int} {resolver : Resolver} {bound : BoundSymbols} {tier : Tier}
    (ascending : Tier.Ascending table) (apart : Tier.Apart table)
    (succeeded : (probe level table resolver).result = .ok bound) (listed : tier ∈ table) :
    bound.offers tier = true ↔ tier.level ≤ level := by
  obtain ⟨-, found⟩ := (probe_isOk_iff ascending).mp ⟨bound, succeeded⟩
  obtain ⟨-, binds⟩ := probe_binds ascending succeeded
  obtain ⟨some, own⟩ := apart tier listed
  rw [BoundSymbols.offers_iff]
  constructor
  · intro offered
    obtain ⟨symbol, among⟩ := List.exists_mem_of_ne_nil _ some
    obtain ⟨address, told⟩ := offered symbol among
    obtain ⟨promised, -⟩ := binds.address?_eq_some_iff.mp told
    obtain ⟨other, listed', reached, among'⟩ := Tier.mem_promised_iff.mp promised
    exact own symbol among other listed' among' ▸ reached
  · intro reached symbol among
    have promised := Tier.mem_promised_iff.mpr ⟨tier, listed, reached, among⟩
    exact (found symbol promised).imp fun address finds => binds.address?_eq_some_iff.mpr ⟨promised, finds⟩

/-! ## Settings beyond the first tier -/

/-- Entry points beyond the first tier are only used for settings that the capabilities of the device are there for. -/
theorem negotiate_tier {request : AudioRequest} {options : Options} {caps : DeviceCaps} {config : StreamConfiguration}
    {builder other : BuilderHandle} {setting : BuilderSetting} {value : Int} {tier : Tier}
    (agreed : (negotiate request options caps).result = .ok config)
    (told : .configure other setting value ∈ config.channelCall builder :: config.calls builder)
    (needed : setting.tier? = some tier) :
    tier = Tier.hints ∧ caps.contentHints = true ∨ tier = Tier.masks ∧ caps.channelMask = true := by
  rcases List.mem_cons.mp told with channels | later
  · right
    cases masks : caps.channelMask with
    | false =>
        rw [StreamConfiguration.channelCall, negotiate_counted agreed masks] at channels
        cases channels
        cases needed
    | true =>
        obtain ⟨layout, -, asked⟩ := negotiate_masked agreed masks
        rw [StreamConfiguration.channelCall, asked] at channels
        cases channels
        cases needed
        exact ⟨rfl, rfl⟩
  · rcases List.mem_append.mp later with plain | hint
    · have first : setting.tier? = none := by
        simp only [List.mem_cons, Call.configure.injEq, reduceCtorEq, List.not_mem_nil, or_false, false_or] at plain
        rcases plain with ⟨-, rfl, -⟩ | ⟨-, rfl, -⟩ | ⟨-, rfl, -⟩ | ⟨-, rfl, -⟩ | ⟨-, rfl, -⟩ | ⟨-, rfl, -⟩ |
          ⟨-, rfl, -⟩ <;> rfl
      rw [first] at needed
      cases needed
    · left
      obtain ⟨-, channels, -, rfl⟩ := negotiate_eq_ok_iff.mp agreed
      obtain ⟨⟨setting, value⟩, among, same⟩ := List.mem_map.mp hint
      cases same
      cases hints : caps.contentHints with
      | false => simp [StreamConfiguration.agreed, contentHints?, hints, StreamConfiguration.hintSettings] at among
      | true =>
          simp only [StreamConfiguration.agreed, contentHints?, hints, StreamConfiguration.hintSettings, if_true,
            List.mem_cons, Prod.mk.injEq, List.not_mem_nil, or_false] at among
          rcases among with ⟨rfl, -⟩ | ⟨rfl, -⟩ | ⟨rfl, -⟩ <;> cases needed <;> exact ⟨rfl, rfl⟩

/-! ## Loading -/

/-- Why the library of the options is not loaded. Whether it can be opened is only asked once there is a level, whether
the level is high enough only once it is open, and whether something is missing only once the level is high enough. -/
inductive Linkage.Refuses (linkage : Linkage) (options : Options) : OutputError → Prop where
  | levelless : options.apiLevel = none → Refuses linkage options .unknownApiLevel
  | unopened {level reason} : options.apiLevel = some level → linkage.opened options.library = .error reason →
      Refuses linkage options (.libraryLoad options.library reason)
  | tooLow {level exported} : options.apiLevel = some level → linkage.opened options.library = .ok exported →
      level < 26 → Refuses linkage options (.unsupportedApiLevel level 26)
  | incomplete {level exported symbol before after} : options.apiLevel = some level →
      linkage.opened options.library = .ok exported → 26 ≤ level →
      Tier.promised Tier.table level = before ++ symbol :: after →
      (∀ earlier ∈ before, ¬ linkage.Lacks exported earlier) → linkage.Lacks exported symbol →
      Refuses linkage options (.missingSymbol symbol level)

namespace LoadedLibrary

variable {linkage : Linkage} {options : Options} {library : LoadedLibrary}

/-- What a probe binds includes the first tier, so that a library is loaded as soon as its probe succeeds. -/
theorem load_result (linkage : Linkage) (options : Options) :
    (load linkage options).result =
      match options.apiLevel with
      | none => .error .unknownApiLevel
      | some level =>
        match linkage.opened options.library with
        | .error reason => .error (.libraryLoad options.library reason)
        | .ok exported => (probe level Tier.table (linkage.resolver exported)).result.map LoadedLibrary.mk := by
  unfold load
  cases options.apiLevel with
  | none => rfl
  | some level =>
      dsimp only
      cases linkage.opened options.library with
      | error reason => rfl
      | ok exported =>
          dsimp only
          rw [Noted.result_bind]
          cases probed : (probe level Tier.table (linkage.resolver exported)).result with
          | error cause => rfl
          | ok symbols =>
              obtain ⟨reached, -⟩ := (probe_isOk_iff Tier.ascending_table).mp ⟨symbols, probed⟩
              have offered : symbols.offers Tier.core = true :=
                (probe_offers_iff Tier.ascending_table Tier.apart_table probed List.mem_cons_self).mpr
                  (Tier.reached_table.mp reached)
              dsimp only
              rw [if_pos offered]
              rfl

theorem load_eq_ok_iff :
    (load linkage options).result = .ok library ↔
      ∃ level exported, options.apiLevel = some level ∧ linkage.opened options.library = .ok exported ∧
        (probe level Tier.table (linkage.resolver exported)).result = .ok library.symbols := by
  obtain ⟨symbols⟩ := library
  rw [load_result]
  cases options.apiLevel with
  | none => simp
  | some level =>
      cases linkage.opened options.library with
      | error reason => simp
      | ok exported =>
          cases probed : (probe level Tier.table (linkage.resolver exported)).result <;> simp [probed, Except.map]

theorem load_refuses {cause : OutputError} (refused : linkage.Refuses options cause) :
    (load linkage options).result = .error cause := by
  rw [load_result]
  cases refused with
  | levelless levelless => rw [levelless]
  | unopened levelled unopened => simp only [levelled, unopened]
  | tooLow levelled opened low =>
      have unreached : ¬ Tier.Reached Tier.table _ := mt Tier.reached_table.mp (Int.not_le.mpr low)
      simp only [levelled, opened, probe_unreached _ _ unreached]
      rfl
  | incomplete levelled opened high order found lacking =>
      have reached := Tier.reached_table.mpr high
      have missing := (probe_eq_error_iff Tier.ascending_table).mpr (.inl ⟨reached, _, ⟨_, _, order,
        fun earlier among => Linkage.not_lacks_iff.mp (found earlier among), Linkage.lacks_iff.mp lacking⟩, rfl⟩)
      simp only [levelled, opened, missing]
      rfl

theorem load_refused {cause : OutputError} (failed : (load linkage options).result = .error cause) :
    linkage.Refuses options cause := by
  rw [load_result] at failed
  cases levelled : options.apiLevel with
  | none =>
      rw [levelled] at failed
      cases failed
      exact .levelless levelled
  | some level =>
      cases opened : linkage.opened options.library with
      | error reason =>
          simp only [levelled, opened] at failed
          cases failed
          exact .unopened levelled opened
      | ok exported =>
          simp only [levelled, opened] at failed
          cases probed : (probe level Tier.table (linkage.resolver exported)).result with
          | ok symbols =>
              rw [probed] at failed
              cases failed
          | error earlier =>
              rw [probed] at failed
              cases failed
              rcases (probe_eq_error_iff Tier.ascending_table).mp probed with
                ⟨reached, symbol, ⟨before, after, order, found, absent⟩, rfl⟩ | ⟨unreached, rfl⟩
              · exact .incomplete levelled opened (Tier.reached_table.mp reached) order
                  (fun earlier among => Linkage.not_lacks_iff.mpr (found earlier among)) (Linkage.lacks_iff.mpr absent)
              · exact .tooLow levelled opened (Int.not_le.mp (mt Tier.reached_table.mpr unreached))

theorem load_isOk_iff :
    (∃ library, (load linkage options).result = .ok library) ↔
      ∃ level exported, options.apiLevel = some level ∧ linkage.opened options.library = .ok exported ∧ 26 ≤ level ∧
        ∀ symbol ∈ Tier.promised Tier.table level, ¬ linkage.Lacks exported symbol := by
  have settled {level : Int} {exported : Resolver} :
      (∃ symbols, (probe level Tier.table (linkage.resolver exported)).result = .ok symbols) ↔
        26 ≤ level ∧ ∀ symbol ∈ Tier.promised Tier.table level, ¬ linkage.Lacks exported symbol := by
    simp only [probe_isOk_iff Tier.ascending_table, Tier.reached_table, Linkage.not_lacks_iff]
    rfl
  constructor
  · rintro ⟨library, loaded⟩
    obtain ⟨level, exported, levelled, opened, probed⟩ := load_eq_ok_iff.mp loaded
    exact ⟨level, exported, levelled, opened, settled.mp ⟨_, probed⟩⟩
  · rintro ⟨level, exported, levelled, opened, found⟩
    obtain ⟨symbols, probed⟩ := settled.mpr found
    exact ⟨⟨symbols⟩, load_eq_ok_iff.mpr ⟨level, exported, levelled, opened, probed⟩⟩

/-! ## What a loaded library takes -/

section Loaded

variable {δ τ : Type} {points : EntryPoints δ}

theorem level_of_load (loaded : (load linkage options).result = .ok library) :
    options.apiLevel = some library.level := by
  obtain ⟨level, exported, levelled, -, probed⟩ := load_eq_ok_iff.mp loaded
  obtain ⟨same, -⟩ := probe_binds Tier.ascending_table probed
  rw [levelled, LoadedLibrary.level, same]

/-- Other entry points that the library or the process may hold make no difference. -/
theorem offers_iff_of_load {tier : Tier} (loaded : (load linkage options).result = .ok library)
    (listed : tier ∈ Tier.table) : library.symbols.offers tier = true ↔ tier.level ≤ library.level := by
  obtain ⟨level, exported, -, -, probed⟩ := load_eq_ok_iff.mp loaded
  obtain ⟨same, -⟩ := probe_binds Tier.ascending_table probed
  rw [LoadedLibrary.level, same]
  exact probe_offers_iff Tier.ascending_table Tier.apart_table probed listed

theorem hasHints_iff (loaded : (load linkage options).result = .ok library) :
    library.hasTier 28 = true ↔ 28 ≤ library.level :=
  offers_iff_of_load loaded (show Tier.hints ∈ Tier.table by simp [Tier.table])

theorem hasMasks_iff (loaded : (load linkage options).result = .ok library) :
    library.hasTier 32 = true ↔ 32 ≤ library.level :=
  offers_iff_of_load loaded (show Tier.masks ∈ Tier.table by simp [Tier.table])

theorem caps_of_load (loaded : (load linkage options).result = .ok library) :
    DeviceCaps.ofApi (library.api points) = ⟨library.level, 28 ≤ library.level, 32 ≤ library.level⟩ := by
  have hints : (library.api points).hasTier 28 = decide (28 ≤ library.level) :=
    Bool.eq_iff_iff.mpr ((hasHints_iff loaded).trans decide_eq_true_iff.symm)
  have masks : (library.api points).hasTier 32 = decide (32 ≤ library.level) :=
    Bool.eq_iff_iff.mpr ((hasMasks_iff loaded).trans decide_eq_true_iff.symm)
  have level : (library.api points).level = library.level := rfl
  simp [DeviceCaps.ofApi, contentHintsLevel, channelMaskLevel, hints, masks, level]

/-- A configuration that was negotiated for a loaded library tells a builder nothing that the library does not take. -/
theorem accepts_of_negotiate {request : AudioRequest} {options' : Options} {config : StreamConfiguration}
    {builder other : BuilderHandle} {setting : BuilderSetting} {value : Int}
    (loaded : (load linkage options).result = .ok library)
    (agreed : (negotiate request options' (DeviceCaps.ofApi (library.api points))).result = .ok config)
    (told : .configure other setting value ∈ config.channelCall builder :: config.calls builder) :
    library.accepts setting = true := by
  rw [caps_of_load loaded] at agreed
  unfold accepts
  cases needed : setting.tier? with
  | none => rfl
  | some tier =>
      rcases negotiate_tier agreed told needed with ⟨rfl, hints⟩ | ⟨rfl, masks⟩
      · exact (offers_iff_of_load loaded (by simp [Tier.table])).mpr (of_decide_eq_true hints)
      · exact (offers_iff_of_load loaded (by simp [Tier.table])).mpr (of_decide_eq_true masks)

theorem respond_configure (builder : BuilderHandle) (setting : BuilderSetting) (value : Int) (device : δ) :
    library.respond points (.configure builder setting value) device =
      if library.accepts setting then (true, (points.respond (.configure builder setting value) device).2)
      else (false, device) :=
  rfl

theorem answer_eq_accepts {builder : BuilderHandle} {setting : BuilderSetting} {value : Int} {answer : Bool}
    (given : (library.api points).watched.Gives (.answered (.configure builder setting value) answer)) :
    answer = library.accepts setting := by
  cases given with
  | answered _ device =>
      change (library.respond points (.configure builder setting value) device.subject).1 = _
      rw [respond_configure]
      cases library.accepts setting <;> rfl

end Loaded

/--
A library is loaded exactly if there is a level, the library can be opened, the level is not below the first tier, and
each entry point of the tiers up to the level can be called in the library or in the process; else the first of these
that fails is told. A loaded library has the later tiers exactly from their levels on, the capabilities of the device
say so too, and every setting of a negotiated configuration takes effect.
-/
theorem load_settled {δ τ : Type} (linkage : Linkage) (options : Options) :
    let outcome := (load linkage options).result
    (∀ cause, outcome = .error cause ↔ linkage.Refuses options cause) ∧
    ((∃ library, outcome = .ok library) ↔
      ∃ level exported, options.apiLevel = some level ∧ linkage.opened options.library = .ok exported ∧ 26 ≤ level ∧
        ∀ symbol ∈ Tier.promised Tier.table level, ¬ linkage.Lacks exported symbol) ∧
    ∀ library, outcome = .ok library →
      options.apiLevel = some library.level ∧
      (library.hasTier 28 = true ↔ 28 ≤ library.level) ∧ (library.hasTier 32 = true ↔ 32 ≤ library.level) ∧
      ∀ points : EntryPoints δ,
        let caps := DeviceCaps.ofApi (library.api points)
        caps = ⟨library.level, 28 ≤ library.level, 32 ≤ library.level⟩ ∧
        ∀ request options' config, (negotiate request options' caps).result = .ok config →
          ∀ builder (before : Output (WatchedDevice δ) τ),
            Ends (configure (library.api points).watched config builder) before fun _ after => ∃ events,
              Dealt before events after ∧ Told (config.channelCall builder :: config.calls builder) events ∧
                ∀ builder setting value answer, .answered (.configure builder setting value) answer ∈ events →
                  answer = true := by
  intro outcome
  refine ⟨fun cause => ⟨load_refused, load_refuses⟩, load_isOk_iff, fun library loaded => ?_⟩
  refine ⟨level_of_load loaded, hasHints_iff loaded, hasMasks_iff loaded, fun points => ?_⟩
  refine ⟨caps_of_load loaded, fun request options' config agreed builder before => ?_⟩
  apply (configure_course (library.api points).watched_reports before).weaken
  intro _ after course
  obtain ⟨events, dealt, told, given⟩ := course
  refine ⟨events, dealt, told, fun builder setting value answer among => ?_⟩
  rw [answer_eq_accepts (given _ among)]
  exact accepts_of_negotiate loaded agreed (told.call_mem among)

end LoadedLibrary

end PcmOutput
