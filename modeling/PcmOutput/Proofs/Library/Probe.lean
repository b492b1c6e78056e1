import PcmOutput.Capability

/-!
# A probe binds everything or nothing

Binding tier by tier comes to binding the entry points of all tiers up to the level, one after the other. It ends with
exactly these entry points, or with the first of them that is missing; what is bound at a level is therefore bound at
every higher one.
-/

set_option autoImplicit false

namespace PcmOutput

/-- The address can be called. -/
def Resolver.Finds (resolver : Resolver) (symbol : String) (address : Nat) : Prop :=
  resolver symbol = some address ∧ address ≠ 0

/-- The first of these entry points that has no address to call. -/
def Resolver.FirstMissing (resolver : Resolver) (symbols : List String) (symbol : String) : Prop :=
  ∃ before after, symbols = before ++ symbol :: after ∧
    (∀ earlier ∈ before, ∃ address, resolver.Finds earlier address) ∧ ∀ address, ¬ resolver.Finds symbol address

namespace Tier

/-- The entry points that a level promises, in the order of the table. -/
def promised (table : List Tier) (level : Int) : List String :=
  (table.filter fun tier => tier.level ≤ level).flatMap Tier.symbols

/-- The level is not below the first tier. -/
def Reached (table : List Tier) (level : Int) : Prop :=
  ∃ first ∈ table.head?, first.level ≤ level

def Ascending (table : List Tier) : Prop :=
  table.Pairwise fun lower higher => lower.level < higher.level

instance (table : List Tier) : Decidable (Ascending table) :=
  inferInstanceAs (Decidable (List.Pairwise _ _))

theorem mem_promised_iff {table : List Tier} {level : Int} {symbol : String} :
    symbol ∈ promised table level ↔ ∃ tier ∈ table, tier.level ≤ level ∧ symbol ∈ tier.symbols := by
  simp [promised, and_assoc]

theorem promised_mono {table : List Tier} {lower higher : Int} (below : lower ≤ higher) :
    promised table lower ⊆ promised table higher := by
  intro symbol
  rw [mem_promised_iff, mem_promised_iff]
  rintro ⟨tier, listed, reached, among⟩
  exact ⟨tier, listed, Int.le_trans reached below, among⟩

/-- Once a tier is too high, so are all tiers after it. -/
theorem promised_eq_nil {tier : Tier} {rest : List Tier} {level : Int} (ascending : Ascending (tier :: rest))
    (beyond : level < tier.level) : promised (tier :: rest) level = [] := by
  apply List.eq_nil_iff_forall_not_mem.mpr
  intro symbol among
  obtain ⟨tier', listed, reached, -⟩ := mem_promised_iff.mp among
  rcases List.mem_cons.mp listed with rfl | later
  · omega
  · have higher := (List.pairwise_cons.mp ascending).1 tier' later
    omega

theorem promised_cons {tier : Tier} {rest : List Tier} {level : Int} (reached : ¬ level < tier.level) :
    promised (tier :: rest) level = tier.symbols ++ promised rest level := by
  have within : tier.level ≤ level := by omega
  simp [promised, within]

end Tier

theorem Resolver.address?_eq_some_iff {resolver : Resolver} {symbol : String} {address : Nat} :
    resolver.address? symbol = some address ↔ resolver.Finds symbol address := by
  simp [Resolver.address?, Resolver.Finds, Option.filter_eq_some_iff]

theorem Resolver.address?_eq_none_iff {resolver : Resolver} {symbol : String} :
    resolver.address? symbol = none ↔ ∀ address, ¬ resolver.Finds symbol address := by
  simp only [Option.eq_none_iff_forall_ne_some, ne_eq, address?_eq_some_iff]

/-! ## What is bound -/

namespace BoundSymbols

/-- Exactly these entry points are bound, each once, to the addresses that can be called. -/
structure Binds (bound : BoundSymbols) (resolver : Resolver) (symbols : List String) : Prop where
  distinct : (bound.entries.map Prod.fst).Nodup
  entries : ∀ symbol address,
    (symbol, address) ∈ bound.entries ↔ symbol ∈ symbols ∧ resolver.Finds symbol address

variable {bound : BoundSymbols} {resolver : Resolver} {symbols : List String} {symbol : String} {address : Nat}

theorem Binds.none (level : Int) : Binds ⟨level, []⟩ resolver [] :=
  ⟨.nil, by simp⟩

theorem Binds.insert (binds : bound.Binds resolver symbols) (found : resolver.Finds symbol address) :
    (bound.insert symbol address).Binds resolver (symbols ++ [symbol]) where
  distinct := by
    refine List.nodup_cons.mpr ⟨by simp, ?_⟩
    exact binds.distinct.sublist (List.filter_sublist.map Prod.fst)
  entries := by
    intro other place
    have only : ∀ place, resolver.Finds symbol place → place = address := by
      intro place found'
      exact Option.some.inj (found'.1.symm.trans found.1)
    simp only [BoundSymbols.insert, List.mem_cons, List.mem_filter, binds.entries]
    grind

private theorem lookup_eq_some_iff_mem {entries : List (String × Nat)} (distinct : (entries.map Prod.fst).Nodup) :
    entries.lookup symbol = some address ↔ (symbol, address) ∈ entries := by
  induction entries with
  | nil => simp
  | cons entry rest ih =>
      obtain ⟨other, place⟩ := entry
      obtain ⟨fresh, distinct⟩ := List.nodup_cons.mp distinct
      by_cases same : symbol = other
      · subst same
        have absent : (symbol, address) ∉ rest :=
          fun among => fresh (List.mem_map.mpr ⟨(symbol, address), among, rfl⟩)
        simp [absent, eq_comm]
      · have apart : (symbol == other) = false := beq_eq_false_iff_ne.mpr same
        simp only [List.lookup_cons, apart, ih distinct, List.mem_cons, Prod.mk.injEq, same, false_and, false_or]

theorem Binds.address?_eq_some_iff (binds : bound.Binds resolver symbols) :
    bound.address? symbol = some address ↔ symbol ∈ symbols ∧ resolver.Finds symbol address := by
  rw [← binds.entries]
  exact lookup_eq_some_iff_mem binds.distinct

end BoundSymbols

/-! ## Binding in order -/

theorem bindSymbols_cons (resolver : Resolver) (symbol : String) (rest : List String) (bound : BoundSymbols) :
    (bindSymbols resolver (symbol :: rest) bound).result =
      match resolver.address? symbol with
      | some address => (bindSymbols resolver rest (bound.insert symbol address)).result
      | none => .error (.missingSymbol symbol bound.level) := by
  rw [bindSymbols]
  cases resolver.address? symbol <;> rfl

theorem bindSymbols_append (resolver : Resolver) (first second : List String) (bound : BoundSymbols) :
    (bindSymbols resolver (first ++ second) bound).result =
      match (bindSymbols resolver first bound).result with
      | .ok extended => (bindSymbols resolver second extended).result
      | .error cause => .error cause := by
  induction first generalizing bound with
  | nil => rfl
  | cons symbol rest ih =>
      rw [List.cons_append, bindSymbols_cons, bindSymbols_cons]
      cases resolver.address? symbol with
      | none => rfl
      | some address => exact ih _

theorem bindSymbols_level {resolver : Resolver} {symbols : List String} {bound extended : BoundSymbols}
    (succeeded : (bindSymbols resolver symbols bound).result = .ok extended) : extended.level = bound.level := by
  induction symbols generalizing bound with
  | nil =>
      cases succeeded
      rfl
  | cons symbol rest ih =>
      rw [bindSymbols_cons] at succeeded
      split at succeeded
      · exact (ih succeeded).trans rfl
      · cases succeeded

theorem bindSymbols_binds {resolver : Resolver} {symbols done : List String} {bound extended : BoundSymbols}
    (binds : bound.Binds resolver done) (succeeded : (bindSymbols resolver symbols bound).result = .ok extended) :
    extended.Binds resolver (done ++ symbols) ∧ ∀ symbol ∈ symbols, ∃ address, resolver.Finds symbol address := by
  induction symbols generalizing bound done with
  | nil =>
      cases succeeded
      exact ⟨by simpa using binds, by simp⟩
  | cons symbol rest ih =>
      rw [bindSymbols_cons] at succeeded
      cases found : resolver.address? symbol with
      | none =>
          rw [found] at succeeded
          cases succeeded
      | some address =>
          rw [found] at succeeded
          have finds := Resolver.address?_eq_some_iff.mp found
          obtain ⟨binds, others⟩ := ih (binds.insert finds) succeeded
          exact ⟨by simpa using binds, List.forall_mem_cons.mpr ⟨⟨address, finds⟩, others⟩⟩

theorem bindSymbols_isOk {resolver : Resolver} {symbols : List String} (bound : BoundSymbols)
    (found : ∀ symbol ∈ symbols, ∃ address, resolver.Finds symbol address) :
    ∃ extended, (bindSymbols resolver symbols bound).result = .ok extended := by
  induction symbols generalizing bound with
  | nil => exact ⟨bound, rfl⟩
  | cons symbol rest ih =>
      obtain ⟨address, finds⟩ := found symbol List.mem_cons_self
      obtain ⟨extended, succeeded⟩ :=
        ih (bound.insert symbol address) fun other among => found other (List.mem_cons_of_mem _ among)
      exact ⟨extended, by rw [bindSymbols_cons, Resolver.address?_eq_some_iff.mpr finds]; exact succeeded⟩

theorem Resolver.firstMissing_cons_iff {resolver : Resolver} {symbol missing : String} {rest : List String} :
    resolver.FirstMissing (symbol :: rest) missing ↔
      (∀ address, ¬ resolver.Finds symbol address) ∧ missing = symbol ∨
        (∃ address, resolver.Finds symbol address) ∧ resolver.FirstMissing rest missing := by
  constructor
  · rintro ⟨before, after, parts, found, absent⟩
    cases before with
    | nil =>
        cases parts
        exact .inl ⟨absent, rfl⟩
    | cons first before =>
        cases parts
        exact .inr ⟨found _ List.mem_cons_self, before, after, rfl,
          fun earlier among => found earlier (List.mem_cons_of_mem _ among), absent⟩
  · rintro (⟨absent, rfl⟩ | ⟨own, before, after, rfl, found, absent⟩)
    · exact ⟨[], rest, rfl, by simp, absent⟩
    · exact ⟨symbol :: before, after, rfl, List.forall_mem_cons.mpr ⟨own, found⟩, absent⟩

theorem bindSymbols_eq_error_iff {resolver : Resolver} {symbols : List String} {bound : BoundSymbols}
    {cause : OutputError} :
    (bindSymbols resolver symbols bound).result = .error cause ↔
      ∃ symbol, resolver.FirstMissing symbols symbol ∧ cause = .missingSymbol symbol bound.level := by
  induction symbols generalizing bound with
  | nil =>
      constructor
      · nofun
      · rintro ⟨symbol, ⟨before, after, parts, -⟩, -⟩
        cases before <;> cases parts
  | cons symbol rest ih =>
      rw [bindSymbols_cons]
      simp only [Resolver.firstMissing_cons_iff]
      cases found : resolver.address? symbol with
      | none =>
          have absent := Resolver.address?_eq_none_iff.mp found
          simp [absent, eq_comm]
      | some address =>
          have present : ∃ address, resolver.Finds symbol address :=
            ⟨address, Resolver.address?_eq_some_iff.mp found⟩
          have other : ¬ ∀ address, ¬ resolver.Finds symbol address := fun absent =>
            present.elim fun address finds => absent address finds
          have stays : (bound.insert symbol address).level = bound.level := rfl
          simp [ih, present, other, stays]

/-- The tiers up to the level are bound as if they were one. -/
theorem bindTiers_eq {resolver : Resolver} {tiers : List Tier} {bound : BoundSymbols}
    (ascending : Tier.Ascending tiers) :
    (bindTiers resolver tiers bound).result =
      (bindSymbols resolver (Tier.promised tiers bound.level) bound).result := by
  induction tiers generalizing bound with
  | nil => rfl
  | cons tier rest ih =>
      rw [bindTiers]
      by_cases beyond : bound.level < tier.level
      · rw [if_pos beyond, Tier.promised_eq_nil ascending beyond]
        rfl
      · rw [if_neg beyond, Tier.promised_cons beyond, bindSymbols_append, Noted.result_bind]
        cases extending : (bindSymbols resolver tier.symbols bound).result with
        | error cause => rfl
        | ok extended =>
            -- What was bound has the level still, so that the tiers that are left are cut at the same place.
            have level := bindSymbols_level extending
            rw [← level]
            exact ih (List.pairwise_cons.mp ascending).2

/-! ## Probes -/

variable {table : List Tier} {level : Int} {resolver : Resolver}

theorem probe_reached (ascending : Tier.Ascending table) (reached : Tier.Reached table level) :
    (probe level table resolver).result =
      (bindSymbols resolver (Tier.promised table level) ⟨level, []⟩).result := by
  obtain ⟨first, heads, within⟩ := reached
  cases table with
  | nil => cases heads
  | cons tier rest =>
      cases heads
      have notBelow : ¬ level < first.level := by omega
      rw [probe, if_neg notBelow]
      exact bindTiers_eq ascending

theorem probe_unreached (table : List Tier) (resolver : Resolver) (unreached : ¬ Tier.Reached table level) :
    (probe level table resolver).result =
      .error (.unsupportedApiLevel level ((table.head?.map Tier.level).getD 0)) := by
  cases table with
  | nil => rfl
  | cons tier rest =>
      have below : level < tier.level := Int.not_le.mp fun within => unreached ⟨tier, rfl, within⟩
      rw [probe, if_pos below]
      rfl

theorem probe_isOk_iff (ascending : Tier.Ascending table) :
    (∃ bound, (probe level table resolver).result = .ok bound) ↔ Tier.Reached table level ∧
      ∀ symbol ∈ Tier.promised table level, ∃ address, resolver.Finds symbol address := by
  by_cases reached : Tier.Reached table level
  · rw [probe_reached ascending reached]
    constructor
    · rintro ⟨bound, succeeded⟩
      exact ⟨reached, (bindSymbols_binds (.none level) succeeded).2⟩
    · rintro ⟨-, found⟩
      exact bindSymbols_isOk _ found
  · rw [probe_unreached table resolver reached]
    simp [reached]

theorem probe_binds (ascending : Tier.Ascending table) {bound : BoundSymbols}
    (succeeded : (probe level table resolver).result = .ok bound) :
    bound.level = level ∧ bound.Binds resolver (Tier.promised table level) := by
  obtain ⟨reached, -⟩ := (probe_isOk_iff ascending).mp ⟨bound, succeeded⟩
  rw [probe_reached ascending reached] at succeeded
  exact ⟨bindSymbols_level succeeded, (bindSymbols_binds (.none level) succeeded).1⟩

theorem probe_eq_error_iff (ascending : Tier.Ascending table) {cause : OutputError} :
    (probe level table resolver).result = .error cause ↔
      (Tier.Reached table level ∧
        ∃ symbol, resolver.FirstMissing (Tier.promised table level) symbol ∧ cause = .missingSymbol symbol level) ∨
      ¬ Tier.Reached table level ∧ cause = .unsupportedApiLevel level ((table.head?.map Tier.level).getD 0) := by
  by_cases reached : Tier.Reached table level
  · rw [probe_reached ascending reached, bindSymbols_eq_error_iff]
    simp [reached]
  · rw [probe_unreached table resolver reached]
    simp [reached, eq_comm]

/-- Whatever is found for a level is found for every lower one. -/
theorem probe_lower (ascending : Tier.Ascending table) {lower : Int} {bound : BoundSymbols}
    (succeeded : (probe level table resolver).result = .ok bound) (below : lower ≤ level)
    (reached : Tier.Reached table lower) :
    ∃ fewer, (probe lower table resolver).result = .ok fewer ∧
      ∀ symbol address, fewer.address? symbol = some address → bound.address? symbol = some address := by
  obtain ⟨-, found⟩ := (probe_isOk_iff ascending).mp ⟨bound, succeeded⟩
  obtain ⟨fewer, succeeded'⟩ := (probe_isOk_iff ascending).mpr
    ⟨reached, fun symbol among => found symbol (Tier.promised_mono below among)⟩
  obtain ⟨-, binds⟩ := probe_binds ascending succeeded
  obtain ⟨-, binds'⟩ := probe_binds ascending succeeded'
  refine ⟨fewer, succeeded', fun symbol address told => ?_⟩
  obtain ⟨among, finds⟩ := binds'.address?_eq_some_iff.mp told
  exact binds.address?_eq_some_iff.mpr ⟨Tier.promised_mono below among, finds⟩

/--
A probe of a table in ascending order succeeds exactly if the level is not below the first tier and everything that
the tiers up to the level list can be called. It then binds exactly this, each entry point once and to the address of
the resolver; else it tells the first that is missing. What succeeds at a level succeeds at every lower one from the
first tier on, and binds nothing else there.
-/
theorem probe_settled {table : List Tier} (ascending : Tier.Ascending table) (level : Int) (resolver : Resolver) :
    let outcome := (probe level table resolver).result
    ((∃ bound, outcome = .ok bound) ↔ Tier.Reached table level ∧
      ∀ tier ∈ table, tier.level ≤ level → ∀ symbol ∈ tier.symbols, ∃ address, resolver.Finds symbol address) ∧
    (∀ bound, outcome = .ok bound → bound.level = level ∧ (bound.entries.map Prod.fst).Nodup ∧
      ∀ symbol address, bound.address? symbol = some address ↔
        (∃ tier ∈ table, tier.level ≤ level ∧ symbol ∈ tier.symbols) ∧ resolver.Finds symbol address) ∧
    (∀ cause, outcome = .error cause ↔
      (Tier.Reached table level ∧
        ∃ symbol, resolver.FirstMissing (Tier.promised table level) symbol ∧ cause = .missingSymbol symbol level) ∨
      ¬ Tier.Reached table level ∧ cause = .unsupportedApiLevel level ((table.head?.map Tier.level).getD 0)) ∧
    ∀ bound, outcome = .ok bound → ∀ lower ≤ level, Tier.Reached table lower →
      ∃ fewer, (probe lower table resolver).result = .ok fewer ∧
        ∀ symbol address, fewer.address? symbol = some address → bound.address? symbol = some address := by
  intro outcome
  refine ⟨?_, fun bound succeeded => ?_, fun cause => probe_eq_error_iff ascending,
    fun bound succeeded lower below reached => probe_lower ascending succeeded below reached⟩
  · simp only [outcome, probe_isOk_iff ascending, Tier.mem_promised_iff]
    grind
  · obtain ⟨level, binds⟩ := probe_binds ascending succeeded
    refine ⟨level, binds.distinct, fun symbol address => ?_⟩
    rw [binds.address?_eq_some_iff, Tier.mem_promised_iff]

/-- A stub for an entry point has the address zero. -/
theorem probe_settled_stub :
    let table : List Tier := [⟨26, ["open", "close", "open"]⟩, ⟨28, ["hint", "mask"]⟩]
    let resolver : Resolver := fun symbol => if symbol = "mask" then some 0 else some symbol.length
    (∃ bound, (probe 27 table resolver).result = .ok bound) ∧
      (probe 28 table resolver).result = .error (.missingSymbol "mask" 28) := by
  intro table resolver
  have ascending : Tier.Ascending table := by decide
  constructor
  · refine (probe_settled ascending 27 resolver).1.mpr ⟨⟨_, rfl, by decide⟩, ?_⟩
    simp [table, resolver, Resolver.Finds]
  · refine ((probe_settled ascending 28 resolver).2.2.1 _).mpr (.inl ⟨⟨_, rfl, by decide⟩, "mask", ?_, rfl⟩)
    refine ⟨["open", "close", "open", "hint"], [], by decide, ?_, ?_⟩ <;> simp [resolver, Resolver.Finds]

end PcmOutput
