import Mathlib.Data.Nat.Bitwise
import PcmOutput.Negotiation
import PcmOutput.Proofs.Layouts.Closest

/-!
# Layouts and their masks

No two layouts of the table have the same speakers, and each mask is told by the speakers alone. To look for the
closest layout, to compare it with the request and to look its mask up comes to looking the request up.
-/

set_option autoImplicit false

namespace PcmOutput

/-! ## Bits of speakers -/

/-- The union of the mask bits of some speakers. -/
def Speaker.union (speakers : List Speaker) : Nat :=
  speakers.foldr (fun speaker mask => speaker.maskBit ||| mask) 0

theorem Speaker.testBit_union {speakers : List Speaker} {bit : Nat} :
    (union speakers).testBit bit = true ↔ ∃ speaker ∈ speakers, speaker.place = bit := by
  induction speakers with
  | nil => simp [union]
  | cons speaker rest ih =>
      have own : speaker.maskBit.testBit bit = true ↔ speaker.place = bit := by
        simp [maskBit, Nat.testBit_two_pow]
      have joined : union (speaker :: rest) = speaker.maskBit ||| union rest := rfl
      simp [joined, Nat.testBit_or, own, ih]

theorem Speaker.union_congr {first second : List Speaker} (same : ∀ speaker, speaker ∈ first ↔ speaker ∈ second) :
    union first = union second := by
  apply Nat.eq_of_testBit_eq
  intro bit
  rw [Bool.eq_iff_iff, testBit_union, testBit_union]
  simp only [same]

/-- The mask for the speakers of a map: the union of their bits, but the front left bit for mono. -/
def ChannelMap.mask (map : ChannelMap) : Nat :=
  if map = .mono then Speaker.frontLeft.maskBit else Speaker.union map.speakers

theorem ChannelMap.eq_mono_iff {map : ChannelMap} : map = .mono ↔ map.speakers.Perm [.frontCenter] := by
  obtain ⟨speakers, nonempty, nodup⟩ := map
  simp [mono, List.perm_singleton]

theorem ChannelMap.mask_congr {first second : ChannelMap} (same : first.speakers.Perm second.speakers) :
    first.mask = second.mask := by
  have central : first = .mono ↔ second = .mono := by
    rw [eq_mono_iff, eq_mono_iff]
    exact ⟨same.symm.trans, same.trans⟩
  rw [mask, mask, Speaker.union_congr fun speaker => same.mem_iff]
  simp only [central]

/-! ## The table -/

namespace Layout

theorem mask_eq {layout : Layout} (listed : layout ∈ table) : layout.mask = layout.map.mask := by
  revert layout
  decide

/-- The speakers tell the layout. -/
theorem unique {first second : Layout} (listed : first ∈ table) (listed' : second ∈ table)
    (same : first.map.speakers.Perm second.map.speakers) : first = second := by
  have apart : ∀ first ∈ table, ∀ second ∈ table, first.map.sameLayout second.map.speakers = true → first = second := by
    decide +kernel
  exact apart first listed second listed' (ChannelMap.sameLayout_iff_perm.mpr same)

theorem of_matching? {map : ChannelMap} {layout : Layout} (found : matching? map = some layout) :
    layout ∈ table ∧ layout.map.speakers.Perm map.speakers := by
  unfold matching? at found
  have alike : map.sameLayout layout.map.speakers = true := by simpa using List.find?_some found
  exact ⟨List.mem_of_find?_eq_some found, (ChannelMap.sameLayout_iff_perm.mp alike).symm⟩

theorem matching?_eq_some_iff {map : ChannelMap} {layout : Layout} :
    matching? map = some layout ↔ layout ∈ table ∧ layout.map.speakers.Perm map.speakers := by
  refine ⟨of_matching?, ?_⟩
  rintro ⟨listed, same⟩
  cases found : matching? map with
  | none =>
      have other := List.find?_eq_none.mp found layout listed
      exact absurd (ChannelMap.sameLayout_iff_perm.mpr same.symm) other
  | some first =>
      obtain ⟨listed', same'⟩ := of_matching? found
      rw [unique listed' listed (same'.trans same.symm)]

theorem matching?_congr {first second : ChannelMap} (same : first.speakers.Perm second.speakers) :
    matching? first = matching? second := by
  apply Option.ext
  intro layout
  rw [matching?_eq_some_iff, matching?_eq_some_iff]
  exact and_congr_right fun _ => ⟨fun alike => alike.trans same, fun alike => alike.trans same.symm⟩

end Layout

/-! ## Looking a layout up -/

/-- With masks, the channels to ask for are those of the layout that has the speakers of the request. -/
theorem selectChannels_masked {caps : DeviceCaps} (requested : ChannelMap) (masks : caps.channelMask = true) :
    (selectChannels requested caps).result =
      match Layout.matching? requested with
      | some layout => .ok (.mask layout.map layout.mask)
      | none => .error (.noChannelMap requested.name) := by
  unfold selectChannels
  rw [if_pos masks]
  cases found : Layout.matching? requested with
  | some layout =>
      obtain ⟨listed, same⟩ := Layout.matching?_eq_some_iff.mp found
      have among : layout.map ∈ ChannelMap.masked := List.mem_map_of_mem listed
      obtain ⟨index, chosen, selected, stands, alike⟩ := ChannelMap.select_exact among same
      have matched : Layout.matching? chosen = some layout := (Layout.matching?_congr alike).trans found
      simp only [selected, Option.bind_some, stands, ChannelMap.sameLayout_iff_perm.mpr alike, matched, if_true]
      split <;> rfl
  | none =>
      cases nearest : (ChannelMap.select ChannelMap.masked requested).bind fun index => ChannelMap.masked[index]? with
      | none => rfl
      | some closest =>
          have other : closest.sameLayout requested.speakers = false := by
            obtain ⟨index, -, stands⟩ := Option.bind_eq_some_iff.mp nearest
            obtain ⟨layout, listed, rfl⟩ := List.mem_map.mp (List.mem_of_getElem? stands)
            rw [Bool.eq_false_iff]
            intro alike
            have matched := Layout.matching?_eq_some_iff.mpr ⟨listed, ChannelMap.sameLayout_iff_perm.mp alike⟩
            rw [found] at matched
            contradiction
          simp only [other]
          rfl

end PcmOutput
