import PcmOutput.Proofs.Layouts.Masks

/-!
# When a list passes for the layout of a map

A list of speakers is compared with a map by its length and by its speakers being those of the map. A list with every
speaker once passes just if it is the map in some order. A list that doubles speakers passes as well, though it leaves
some of the map out; no map does, so that looking a map up in the table is exact.
-/

set_option autoImplicit false

namespace PcmOutput.ChannelMap

/-- As many speakers as the map has, and only such, but one of them twice. -/
def Doubles (map : ChannelMap) (speakers : List Speaker) : Prop :=
  speakers.length = map.size ∧ speakers ⊆ map.speakers ∧ ¬ speakers.Nodup

instance (map : ChannelMap) (speakers : List Speaker) : Decidable (map.Doubles speakers) :=
  inferInstanceAs (Decidable (_ ∧ _))

section Comparing

variable {map : ChannelMap} {speakers : List Speaker}

theorem sameLayout_iff :
    map.sameLayout speakers = true ↔ speakers.length = map.size ∧ speakers ⊆ map.speakers := by
  simp only [sameLayout, Bool.and_eq_true, beq_iff_eq, List.all_eq_true, contains_iff, List.subset_def]
  exact and_congr_left' eq_comm

/-- Among lists that pass, those in which no speaker stands twice are the map in some order. -/
theorem perm_iff_nodup (sized : speakers.length = map.size) (included : speakers ⊆ map.speakers) :
    speakers.Perm map.speakers ↔ speakers.Nodup := by
  constructor
  · intro same
    exact same.nodup_iff.mpr map.nodup
  · intro nodup
    have within : speakers.Subperm map.speakers := nodup.subperm included
    exact within.perm_of_length_le (Nat.le_of_eq sized.symm)

theorem perm_iff_members :
    speakers.Perm map.speakers ↔
      speakers.length = map.size ∧ ∀ speaker, speaker ∈ speakers ↔ speaker ∈ map.speakers := by
  constructor
  · intro same
    exact ⟨same.length_eq, fun speaker => same.mem_iff⟩
  · rintro ⟨sized, members⟩
    -- The map fits into the list with every speaker once, which leaves no room for another.
    have within : map.speakers.Subperm speakers := map.nodup.subperm fun speaker among => (members speaker).mpr among
    exact (within.perm_of_length_le (Nat.le_of_eq sized)).symm

theorem Doubles.not_perm (doubled : map.Doubles speakers) : ¬ speakers.Perm map.speakers := by
  intro same
  exact doubled.2.2 ((perm_iff_nodup doubled.1 doubled.2.1).mp same)

theorem sameLayout_iff_perm_or_doubles :
    map.sameLayout speakers = true ↔ speakers.Perm map.speakers ∨ map.Doubles speakers := by
  rw [sameLayout_iff]
  constructor
  · rintro ⟨sized, included⟩
    by_cases nodup : speakers.Nodup
    · exact .inl ((perm_iff_nodup sized included).mpr nodup)
    · exact .inr ⟨sized, included, nodup⟩
  · intro passing
    cases passing with
    | inl same => exact ⟨same.length_eq, same.subset⟩
    | inr doubled => exact ⟨doubled.1, doubled.2.1⟩

/-- A single speaker leaves no room to double it. -/
theorem exists_doubles_iff : (∃ speakers, map.Doubles speakers) ↔ 2 ≤ map.size := by
  constructor
  · rintro ⟨speakers, sized, -, repeated⟩
    rw [← sized]
    cases speakers with
    | nil => exact absurd List.nodup_nil repeated
    | cons first rest =>
        cases rest with
        | nil => exact absurd (List.pairwise_singleton _ first) repeated
        | cons second others => simp
  · intro several
    obtain ⟨first, rest, begins⟩ := List.exists_cons_of_ne_nil map.nonempty
    refine ⟨List.replicate map.size first, List.length_replicate, ?_, ?_⟩
    · intro speaker among
      rw [List.eq_of_mem_replicate among, begins]
      exact List.mem_cons_self
    · rw [List.nodup_replicate]
      omega

end Comparing

/--
A list passes for the layout of a map exactly if it is the map in some order, which is to say that it has as many
speakers and the same ones, or if it doubles speakers of the map, and it cannot be both. There is such a list for every
map of two channels or more. None of the lists that are compared with a map here is one: they are the speakers of maps,
and what is found for a map in the table is the layout with its speakers.
-/
theorem sameLayout_settled (map : ChannelMap) :
    (∀ speakers, map.sameLayout speakers = true ↔ speakers.Perm map.speakers ∨ map.Doubles speakers) ∧
    (∀ speakers, (map.sameLayout speakers = true ↔ speakers.Perm map.speakers) ↔ ¬ map.Doubles speakers) ∧
    (∀ speakers : List Speaker, speakers.Perm map.speakers ↔
      speakers.length = map.size ∧ ∀ speaker, speaker ∈ speakers ↔ speaker ∈ map.speakers) ∧
    ((∃ speakers, map.Doubles speakers) ↔ 2 ≤ map.size) ∧
    (∀ other : ChannelMap, ¬ map.Doubles other.speakers) ∧
    ∀ layout, Layout.matching? map = some layout ↔ layout ∈ Layout.table ∧ layout.map.speakers.Perm map.speakers := by
  refine ⟨fun speakers => sameLayout_iff_perm_or_doubles, ?_, fun speakers => perm_iff_members, exists_doubles_iff, ?_,
    fun layout => Layout.matching?_eq_some_iff⟩
  · intro speakers
    rw [sameLayout_iff_perm_or_doubles]
    constructor
    · intro exactly doubled
      exact doubled.not_perm (exactly.mp (.inr doubled))
    · intro sound
      exact or_iff_left sound
  · intro other doubled
    exact doubled.2.2 other.nodup

/-- The left speaker twice passes for stereo, and is not stereo in some order. -/
theorem sameLayout_twice_left :
    stereo.sameLayout [.frontLeft, .frontLeft] = true ∧
      ¬ [Speaker.frontLeft, .frontLeft].Perm stereo.speakers := by
  decide

end PcmOutput.ChannelMap
