import Mathlib.Data.Finset.Dedup
import Mathlib.Data.Finset.Card
import Mathlib.Data.Prod.Lex
import PcmOutput.Proofs.Layouts.Closest

/-!
# The closest layout by its speakers

A candidate is judged by two sets: the requested speakers that it lacks, and the speakers that it has beyond the request.
The first candidate with the least pair of their sizes is selected, among those that share a speaker with the request.
The order of the speakers in a map has no part in it.
-/

set_option autoImplicit false

namespace PcmOutput.ChannelMap

def speakerSet (map : ChannelMap) : Finset Speaker :=
  map.speakers.toFinset

/-- How many requested speakers a candidate lacks, and then how many others it has. -/
def remoteness (requested candidate : ChannelMap) : ℕ ×ₗ ℕ :=
  toLex ((requested.speakerSet \ candidate.speakerSet).card, (candidate.speakerSet \ requested.speakerSet).card)

def SharesSpeaker (requested candidate : ChannelMap) : Prop :=
  ∃ speaker ∈ requested.speakers, speaker ∈ candidate.speakers

/-! ## Sets of speakers -/

variable {requested candidate other : ChannelMap} {distance : Distance}

@[simp] theorem mem_speakerSet {map : ChannelMap} {speaker : Speaker} :
    speaker ∈ map.speakerSet ↔ speaker ∈ map.speakers :=
  List.mem_toFinset

theorem card_speakerSet (map : ChannelMap) : map.speakerSet.card = map.size :=
  List.toFinset_card_of_nodup map.nodup

theorem speakerSet_congr (same : candidate.speakers.Perm other.speakers) :
    candidate.speakerSet = other.speakerSet :=
  List.toFinset_eq_of_perm _ _ same

theorem overlap_eq_card (requested candidate : ChannelMap) :
    candidate.overlap requested.speakers = (requested.speakerSet ∩ candidate.speakerSet).card := by
  have shared : requested.speakerSet ∩ candidate.speakerSet = (requested.speakers.filter candidate.contains).toFinset := by
    ext speaker
    simp
  rw [shared, List.toFinset_card_of_nodup (requested.nodup.filter _), overlap, List.countP_eq_length_filter]

theorem card_lacking (requested candidate : ChannelMap) :
    (requested.speakerSet \ candidate.speakerSet).card = requested.size - candidate.overlap requested.speakers := by
  rw [Finset.card_sdiff, Finset.inter_comm, card_speakerSet, overlap_eq_card]

theorem card_added (requested candidate : ChannelMap) :
    (candidate.speakerSet \ requested.speakerSet).card = candidate.size - candidate.overlap requested.speakers := by
  rw [Finset.card_sdiff, card_speakerSet, overlap_eq_card]

/-- A distance is counted by the two differences of the sets of speakers. -/
theorem distance?_eq_some_iff :
    distance? requested candidate = some distance ↔ SharesSpeaker requested candidate ∧
      distance = ⟨(requested.speakerSet \ candidate.speakerSet).card,
        (candidate.speakerSet \ requested.speakerSet).card⟩ := by
  have shares : candidate.overlap requested.speakers = 0 ↔ ¬ SharesSpeaker requested candidate := by
    simp [SharesSpeaker, overlap, List.countP_eq_zero]
  rw [card_lacking, card_added]
  unfold distance?
  dsimp only
  split
  · rename_i apart
    simp [shares.mp apart]
  · rename_i shared
    have related : SharesSpeaker requested candidate := not_not.mp fun apart => shared (shares.mpr apart)
    simp [related, eq_comm]

theorem distance?_congr {request : ChannelMap} (same : candidate.speakers.Perm other.speakers)
    (alike : requested.speakers.Perm request.speakers) :
    distance? requested candidate = distance? request other := by
  have related : SharesSpeaker requested candidate ↔ SharesSpeaker request other := by
    simp only [SharesSpeaker, alike.mem_iff, same.mem_iff]
  apply Option.ext
  intro distance
  rw [distance?_eq_some_iff, distance?_eq_some_iff, related, speakerSet_congr same, speakerSet_congr alike]

/-! ## The least candidate -/

variable {candidates : List ChannelMap} {index place : Nat}

/-- A candidate leads another one if it is not more remote, and does not stand behind one that is as remote. -/
theorem leads_iff :
    Ranked.Leads ⟨index, ⟨(requested.speakerSet \ candidate.speakerSet).card,
        (candidate.speakerSet \ requested.speakerSet).card⟩⟩
      ⟨place, ⟨(requested.speakerSet \ other.speakerSet).card, (other.speakerSet \ requested.speakerSet).card⟩⟩ ↔
    remoteness requested candidate ≤ remoteness requested other ∧
      (remoteness requested other = remoteness requested candidate → index ≤ place) := by
  unfold Ranked.Leads remoteness
  rw [Prod.Lex.toLex_le_toLex, toLex_inj, Prod.mk.injEq]
  dsimp only
  omega

/-- The candidate at a place shares a speaker with the request, and no other candidate that does so is less remote, or as
remote and earlier. -/
def IsClosest (candidates : List ChannelMap) (requested : ChannelMap) (index : Nat) : Prop :=
  ∃ candidate, candidates[index]? = some candidate ∧ SharesSpeaker requested candidate ∧
    ∀ place other, candidates[place]? = some other → SharesSpeaker requested other →
      remoteness requested candidate ≤ remoteness requested other ∧
        (remoteness requested other = remoteness requested candidate → index ≤ place)

theorem IsClosest.unique (first : IsClosest candidates requested index) (second : IsClosest candidates requested place) :
    index = place := by
  obtain ⟨candidate, stands, shares, least⟩ := first
  obtain ⟨other, stands', shares', least'⟩ := second
  obtain ⟨nearer, earlier⟩ := least place other stands' shares'
  obtain ⟨nearer', earlier'⟩ := least' index candidate stands shares
  have same : remoteness requested candidate = remoteness requested other := le_antisymm nearer nearer'
  exact Nat.le_antisymm (earlier same.symm) (earlier' same)

theorem select_closest (selected : select candidates requested = some index) :
    IsClosest candidates requested index := by
  obtain ⟨candidate, distance, stands, far, leads⟩ := select_leads selected
  obtain ⟨shares, rfl⟩ := distance?_eq_some_iff.mp far
  refine ⟨candidate, stands, shares, ?_⟩
  intro place other stands' shares'
  exact leads_iff.mp (leads place other _ stands' (distance?_eq_some_iff.mpr ⟨shares', rfl⟩))

theorem select_none_iff :
    select candidates requested = none ↔ ∀ candidate ∈ candidates, ¬ SharesSpeaker requested candidate := by
  simp only [select_eq_none_iff, distance?_eq_none_iff, SharesSpeaker, not_exists, not_and]

theorem select_some_iff : select candidates requested = some index ↔ IsClosest candidates requested index := by
  constructor
  · exact select_closest
  · intro closest
    cases selected : select candidates requested with
    | none =>
        obtain ⟨candidate, stands, shares, -⟩ := closest
        exact absurd shares (select_none_iff.mp selected candidate (List.mem_of_getElem? stands))
    | some found => rw [(select_closest selected).unique closest]

/-! ## Exact candidates -/

theorem remoteness_of_perm (same : candidate.speakers.Perm requested.speakers) :
    remoteness requested candidate = toLex (0, 0) := by
  rw [remoteness, speakerSet_congr same, Finset.sdiff_self, Finset.card_empty]

theorem perm_of_remoteness (zero : remoteness requested candidate = toLex (0, 0)) :
    candidate.speakers.Perm requested.speakers := by
  rw [remoteness, toLex_inj, Prod.mk.injEq, Finset.card_eq_zero, Finset.card_eq_zero, Finset.sdiff_eq_empty_iff_subset,
    Finset.sdiff_eq_empty_iff_subset] at zero
  apply (List.perm_ext_iff_of_nodup candidate.nodup requested.nodup).mpr
  intro speaker
  rw [← mem_speakerSet, ← mem_speakerSet]
  exact ⟨fun among => zero.2 among, fun among => zero.1 among⟩

theorem shares_of_perm (same : candidate.speakers.Perm requested.speakers) : SharesSpeaker requested candidate := by
  obtain ⟨speaker, rest, begins⟩ := List.exists_cons_of_ne_nil requested.nonempty
  have among : speaker ∈ requested.speakers := begins ▸ List.mem_cons_self
  exact ⟨speaker, among, same.mem_iff.mpr among⟩

/-- The first candidate with the speakers of the request is the closest one. -/
theorem closest_of_perm (stands : candidates[index]? = some candidate)
    (same : candidate.speakers.Perm requested.speakers)
    (first : ∀ place other, candidates[place]? = some other → other.speakers.Perm requested.speakers → index ≤ place) :
    IsClosest candidates requested index := by
  refine ⟨candidate, stands, shares_of_perm same, ?_⟩
  intro place other stands' _
  rw [remoteness_of_perm same]
  constructor
  · exact Prod.Lex.toLex_le_toLex.mpr (by dsimp only; omega)
  · intro exactly
    exact first place other stands' (perm_of_remoteness exactly)

/-! ## Orders of speakers -/

theorem ranked_congr {others : List ChannelMap} {request : ChannelMap} (start : Nat)
    (same : List.Forall₂ (fun candidate other => candidate.speakers.Perm other.speakers) candidates others)
    (alike : requested.speakers.Perm request.speakers) :
    ranked requested start candidates = ranked request start others := by
  induction same generalizing start with
  | nil => rfl
  | cons first _ ih => rw [ranked, ranked, distance?_congr first alike, ih]

/--
Nothing is selected exactly if no candidate shares a speaker with the request. Otherwise it is the first candidate that
lacks the fewest requested speakers, and of these adds the fewest others. What a candidate shares with the request is
neither more than the request nor more than the candidate, so both counts are plain differences. The first candidate with
just the speakers of the request is selected before all others, and the order of the speakers changes nothing.
-/
theorem select_least (candidates : List ChannelMap) (requested : ChannelMap) :
    (select candidates requested = none ↔ ∀ candidate ∈ candidates, ¬ SharesSpeaker requested candidate) ∧
    (∀ index, select candidates requested = some index ↔ IsClosest candidates requested index) ∧
    (∀ candidate : ChannelMap, candidate.overlap requested.speakers ≤ requested.size ∧
      candidate.overlap requested.speakers ≤ candidate.size) ∧
    (∀ index candidate, candidates[index]? = some candidate → candidate.speakers.Perm requested.speakers →
      (∀ place other, candidates[place]? = some other → other.speakers.Perm requested.speakers → index ≤ place) →
        select candidates requested = some index) ∧
    (∀ others request, List.Forall₂ (fun candidate other => candidate.speakers.Perm other.speakers) candidates others →
      requested.speakers.Perm request.speakers → select others request = select candidates requested) := by
  refine ⟨select_none_iff, fun index => select_some_iff, fun candidate => ⟨overlap_le_size, overlap_le_candidate⟩, ?_, ?_⟩
  · intro index candidate stands same first
    exact select_some_iff.mpr (closest_of_perm stands same first)
  · intro others request same alike
    rw [select, select, ranked_congr 0 same alike]

end PcmOutput.ChannelMap
