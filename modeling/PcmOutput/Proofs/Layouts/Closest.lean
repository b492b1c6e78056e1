import Mathlib.Data.List.Perm.Subperm
import PcmOutput.ChannelMap.Selection

/-!
# The closest layout is the first of the closest

Candidates are ranked by the speakers they lack, then by the speakers they add, then by their place. What is selected
comes first in this order. A map lacks nothing and adds nothing exactly if it has the speakers of the request in
whatever order, so that an exact layout is always selected before all others.
-/

set_option autoImplicit false

namespace PcmOutput.ChannelMap

/-- As many speakers on both sides, and all of one side on the other, is the same up to the order. -/
theorem sameLayout_iff_perm {map other : ChannelMap} :
    map.sameLayout other.speakers = true ↔ map.speakers.Perm other.speakers := by
  simp only [sameLayout, size, Bool.and_eq_true, beq_iff_eq, List.all_eq_true, contains_iff]
  constructor
  · rintro ⟨sized, included⟩
    have within : other.speakers.Subperm map.speakers := other.nodup.subperm included
    exact (within.perm_of_length_le (Nat.le_of_eq sized)).symm
  · intro same
    exact ⟨same.length_eq, fun speaker among => same.mem_iff.mpr among⟩

/-! ## Distances -/

variable {requested candidate : ChannelMap} {distance : Distance}

theorem overlap_le_size : candidate.overlap requested.speakers ≤ requested.size :=
  List.countP_le_length

/-- What a candidate shares is no more than it has, so that the speakers it adds are counted by a subtraction. -/
theorem overlap_le_candidate : candidate.overlap requested.speakers ≤ candidate.size := by
  have shared : (requested.speakers.filter candidate.contains).Subperm candidate.speakers := by
    apply List.Nodup.subperm (requested.nodup.filter _)
    intro speaker among
    exact contains_iff.mp (List.mem_filter.mp among).2
  rw [overlap, List.countP_eq_length_filter]
  exact shared.length_le

theorem overlap_eq_size_iff :
    candidate.overlap requested.speakers = requested.size ↔ requested.speakers ⊆ candidate.speakers := by
  rw [overlap, size, List.countP_eq_length]
  simp only [contains_iff, List.subset_def]

theorem distance?_eq_none_iff :
    distance? requested candidate = none ↔ ∀ speaker ∈ requested.speakers, speaker ∉ candidate.speakers := by
  simp [distance?, overlap, List.countP_eq_zero]

theorem distance?_of_perm (same : candidate.speakers.Perm requested.speakers) :
    distance? requested candidate = some ⟨0, 0⟩ := by
  have all : candidate.overlap requested.speakers = requested.size :=
    overlap_eq_size_iff.mpr same.symm.subset
  have sized : candidate.size = requested.size := same.length_eq
  have nonempty : requested.size ≠ 0 := fun empty => requested.nonempty (List.length_eq_zero_iff.mp empty)
  simp [distance?, all, sized, nonempty]

theorem perm_of_distance? (zero : distance? requested candidate = some ⟨0, 0⟩) :
    candidate.speakers.Perm requested.speakers := by
  unfold distance? at zero
  dsimp only at zero
  split at zero
  · contradiction
  · simp only [Option.some.injEq, Distance.mk.injEq] at zero
    obtain ⟨lacking, adding⟩ := zero
    have bounded : candidate.overlap requested.speakers ≤ requested.size := overlap_le_size
    have all : requested.speakers ⊆ candidate.speakers := overlap_eq_size_iff.mp (by omega)
    have within : requested.speakers.Subperm candidate.speakers := requested.nodup.subperm all
    refine (within.perm_of_length_le ?_).symm
    show candidate.size ≤ requested.size
    omega

/-! ## Ranks -/

/-- Not farther than another candidate, and not later if it is as far. -/
def Ranked.Leads (first second : Ranked) : Prop :=
  first.distance.missing < second.distance.missing ∨
    first.distance.missing = second.distance.missing ∧
      (first.distance.extra < second.distance.extra ∨
        first.distance.extra = second.distance.extra ∧ first.index ≤ second.index)

theorem Ranked.Leads.refl (entry : Ranked) : entry.Leads entry :=
  .inr ⟨rfl, .inr ⟨rfl, Nat.le_refl _⟩⟩

theorem Ranked.Leads.trans {first second third : Ranked} (earlier : first.Leads second)
    (later : second.Leads third) : first.Leads third := by
  unfold Ranked.Leads at *
  omega

theorem Distance.closer_iff {left right : Distance} :
    left.closer right = true ↔
      left.missing < right.missing ∨ left.missing = right.missing ∧ left.extra < right.extra := by
  simp [closer]

/-- Of two candidates in the order of their places, the better one is before both. -/
theorem Ranked.better_leads {best next : Ranked} (ordered : best.index < next.index) :
    let better := if next.distance.closer best.distance then next else best
    better.Leads best ∧ better.Leads next := by
  dsimp only
  unfold Ranked.Leads
  split
  · rename_i closer
    rw [Distance.closer_iff] at closer
    omega
  · rename_i farther
    rw [Distance.closer_iff] at farther
    omega

theorem closestFrom_mem (best : Ranked) (rest : List Ranked) : closestFrom best rest ∈ best :: rest := by
  induction rest generalizing best with
  | nil => exact List.mem_singleton_self best
  | cons next rest ih =>
      rcases List.mem_cons.mp (ih (if next.distance.closer best.distance then next else best)) with found | among
      · rw [closestFrom, found]
        split
        · exact List.mem_cons_of_mem _ List.mem_cons_self
        · exact List.mem_cons_self
      · exact List.mem_cons_of_mem _ (List.mem_cons_of_mem _ among)

theorem closestFrom_leads {best : Ranked} {rest : List Ranked}
    (ordered : (best :: rest).Pairwise fun first second => first.index < second.index) :
    ∀ entry ∈ best :: rest, (closestFrom best rest).Leads entry := by
  induction rest generalizing best with
  | nil =>
      intro entry among
      obtain rfl := List.mem_singleton.mp among
      exact .refl _
  | cons next rest ih =>
      obtain ⟨before, ordered⟩ := List.pairwise_cons.mp ordered
      obtain ⟨before', ordered'⟩ := List.pairwise_cons.mp ordered
      obtain ⟨leads, leads'⟩ := Ranked.better_leads (before next List.mem_cons_self)
      -- The better of the two stands before the rest again, whichever it is.
      have onward : ∀ entry ∈ (if next.distance.closer best.distance then next else best) :: rest,
          (closestFrom best (next :: rest)).Leads entry := by
        apply ih
        refine List.pairwise_cons.mpr ⟨fun entry among => ?_, ordered'⟩
        split
        · exact before' entry among
        · exact before entry (List.mem_cons_of_mem _ among)
      have better := onward _ List.mem_cons_self
      intro entry among
      rcases List.mem_cons.mp among with rfl | among
      · exact better.trans leads
      · rcases List.mem_cons.mp among with rfl | among
        · exact better.trans leads'
        · exact onward entry (List.mem_cons_of_mem _ among)

/-- A candidate is ranked by its place if it shares a speaker with the request, and otherwise not at all. -/
theorem mem_ranked_iff {start : Nat} {candidates : List ChannelMap} {entry : Ranked} :
    entry ∈ ranked requested start candidates ↔ ∃ place candidate, candidates[place]? = some candidate ∧
      distance? requested candidate = some entry.distance ∧ entry.index = start + place := by
  induction candidates generalizing start with
  | nil => simp [ranked]
  | cons candidate rest ih =>
      rw [← Nat.or_exists_add_one]
      cases found : distance? requested candidate with
      | none => simp [ranked, found, ih, Nat.add_assoc, Nat.add_comm 1]
      | some distance =>
          have first : entry = ⟨start, distance⟩ ↔ distance = entry.distance ∧ entry.index = start := by
            obtain ⟨index, far⟩ := entry
            simp [and_comm, eq_comm]
          simp [ranked, found, ih, first, Nat.add_assoc, Nat.add_comm 1]

theorem ranked_ordered (requested : ChannelMap) (start : Nat) (candidates : List ChannelMap) :
    (ranked requested start candidates).Pairwise fun first second => first.index < second.index := by
  induction candidates generalizing start with
  | nil => exact .nil
  | cons candidate rest ih =>
      unfold ranked
      split
      · refine List.pairwise_cons.mpr ⟨fun entry among => ?_, ih _⟩
        obtain ⟨place, -, -, -, stands⟩ := mem_ranked_iff.mp among
        show start < entry.index
        omega
      · exact ih _

/-! ## Selection -/

variable {candidates : List ChannelMap} {index : Nat}

theorem select_eq_none_iff :
    select candidates requested = none ↔ ∀ candidate ∈ candidates, distance? requested candidate = none := by
  have unranked : ranked requested 0 candidates = [] ↔
      ∀ candidate ∈ candidates, distance? requested candidate = none := by
    rw [List.eq_nil_iff_forall_not_mem]
    constructor
    · intro empty candidate among
      obtain ⟨place, found⟩ := List.mem_iff_getElem?.mp among
      refine Option.eq_none_iff_forall_ne_some.mpr fun distance far => ?_
      exact empty ⟨0 + place, distance⟩ (mem_ranked_iff.mpr ⟨place, candidate, found, far, rfl⟩)
    · intro unrelated entry among
      obtain ⟨place, candidate, found, far, -⟩ := mem_ranked_iff.mp among
      rw [unrelated candidate (List.mem_iff_getElem?.mpr ⟨place, found⟩)] at far
      contradiction
  rw [← unranked, select]
  cases ranked requested 0 candidates <;> simp

/-- What is selected is a candidate that shares a speaker with the request, and it leads all of these. -/
theorem select_leads (selected : select candidates requested = some index) :
    ∃ candidate distance, candidates[index]? = some candidate ∧ distance? requested candidate = some distance ∧
      ∀ place other far, candidates[place]? = some other → distance? requested other = some far →
        Ranked.Leads ⟨index, distance⟩ ⟨place, far⟩ := by
  unfold select at selected
  split at selected
  · contradiction
  · rename_i first rest listed
    simp only [Option.some.injEq] at selected
    have among : closestFrom first rest ∈ ranked requested 0 candidates := listed ▸ closestFrom_mem first rest
    have leads := closestFrom_leads (listed ▸ ranked_ordered requested 0 candidates)
    rw [← listed] at leads
    obtain ⟨place, candidate, found, far, stands⟩ := mem_ranked_iff.mp among
    obtain rfl : place = index := by omega
    refine ⟨candidate, _, found, far, fun place' other far' found' apart => ?_⟩
    have after := leads ⟨place', far'⟩ (mem_ranked_iff.mpr ⟨place', other, found', apart, (Nat.zero_add _).symm⟩)
    rwa [← selected]

/-- If a candidate has the speakers of the request, then one with these speakers is selected. -/
theorem select_exact (among : candidate ∈ candidates) (same : candidate.speakers.Perm requested.speakers) :
    ∃ index chosen, select candidates requested = some index ∧ candidates[index]? = some chosen ∧
      chosen.speakers.Perm requested.speakers := by
  have near := distance?_of_perm same
  cases selected : select candidates requested with
  | none =>
      rw [select_eq_none_iff.mp selected candidate among] at near
      contradiction
  | some index =>
      obtain ⟨chosen, distance, found, far, leads⟩ := select_leads selected
      obtain ⟨place, stands⟩ := List.mem_iff_getElem?.mp among
      have before : Ranked.Leads ⟨index, distance⟩ ⟨place, ⟨0, 0⟩⟩ := leads place candidate ⟨0, 0⟩ stands near
      -- Nothing is closer than an exact layout.
      obtain rfl : distance = ⟨0, 0⟩ := by
        obtain ⟨missing, extra⟩ := distance
        simp only [Ranked.Leads] at before
        simp only [Distance.mk.injEq]
        omega
      exact ⟨index, chosen, rfl, found, perm_of_distance? far⟩

end PcmOutput.ChannelMap
