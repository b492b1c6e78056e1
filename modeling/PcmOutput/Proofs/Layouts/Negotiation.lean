import PcmOutput.Proofs.Agreement
import PcmOutput.Proofs.Layouts.Masks

/-!
# What can be agreed on

A negotiation fails for the rate, or because no mask stands for the speakers that are requested. What is agreed on
does not depend on the order of the channels.
-/

set_option autoImplicit false

namespace PcmOutput

theorem Layout.isSome_matching?_iff {map : ChannelMap} :
    (matching? map).isSome = true ↔
      ∃ layout ∈ table, ∀ speaker, speaker ∈ layout.map.speakers ↔ speaker ∈ map.speakers := by
  rw [Option.isSome_iff_exists]
  constructor
  · rintro ⟨layout, found⟩
    obtain ⟨listed, same⟩ := of_matching? found
    exact ⟨layout, listed, fun speaker => same.mem_iff⟩
  · rintro ⟨layout, listed, same⟩
    have alike := (List.perm_ext_iff_of_nodup layout.map.nodup map.nodup).mpr same
    exact ⟨layout, matching?_eq_some_iff.mpr ⟨listed, alike⟩⟩

/-- The channels can be asked for by their count, or by the mask of a layout with the same speakers. -/
theorem selectChannels_isOk_iff (requested : ChannelMap) (caps : DeviceCaps) :
    (∃ channels, (selectChannels requested caps).result = .ok channels) ↔
      caps.channelMask = false ∨ (Layout.matching? requested).isSome = true := by
  cases masks : caps.channelMask with
  | false => simp [selectChannels, masks]
  | true =>
      rw [selectChannels_masked requested masks]
      cases Layout.matching? requested <;> simp

theorem negotiate_eq_ok_iff {request : AudioRequest} {options : Options} {caps : DeviceCaps}
    {config : StreamConfiguration} :
    (negotiate request options caps).result = .ok config ↔
      (1 ≤ request.sampleRate ∧ request.sampleRate ≤ highestRate) ∧
        ∃ channels, (selectChannels request.channels caps).result = .ok channels ∧
          StreamConfiguration.agreed request options caps channels = config := by
  rw [negotiate_result]
  by_cases untold : request.sampleRate = 0 ∨ highestRate < request.sampleRate
  · rw [if_pos untold]
    have outside : ¬ (1 ≤ request.sampleRate ∧ request.sampleRate ≤ highestRate) := by omega
    simp [outside]
  · rw [if_neg untold]
    have within : 1 ≤ request.sampleRate ∧ request.sampleRate ≤ highestRate := by omega
    cases (selectChannels request.channels caps).result <;> simp [within, Except.map]

/-- The order of the channels makes no difference, but for the name of a layout that is refused. -/
theorem selectChannels_reordered {first second : ChannelMap} (same : first.speakers.Perm second.speakers)
    (caps : DeviceCaps) :
    (∃ channels, (selectChannels first caps).result = .ok channels ∧
        (selectChannels second caps).result = .ok channels) ∨
      (selectChannels first caps).result = .error (.noChannelMap first.name) ∧
        (selectChannels second caps).result = .error (.noChannelMap second.name) := by
  cases masks : caps.channelMask with
  | false =>
      have sized : first.size = second.size := same.length_eq
      exact .inl ⟨.count second.size, by simp [selectChannels, masks, sized], by simp [selectChannels, masks]⟩
  | true =>
      rw [selectChannels_masked first masks, selectChannels_masked second masks, Layout.matching?_congr same]
      cases Layout.matching? second with
      | none => exact .inr ⟨rfl, rfl⟩
      | some layout => exact .inl ⟨_, rfl, rfl⟩

theorem ChannelMap.size_le (map : ChannelMap) : map.size ≤ Speaker.all.length :=
  (map.nodup.subperm fun speaker _ => speaker.mem_all).length_le

section Outcomes

variable {request : AudioRequest} {options : Options} {caps : DeviceCaps} {config : StreamConfiguration}

/-- Where a mask is asked for, it is that of the layout which looking the request up finds. -/
theorem negotiate_masked (agreed : (negotiate request options caps).result = .ok config)
    (masks : caps.channelMask = true) :
    ∃ layout, Layout.matching? request.channels = some layout ∧ config.channels = .mask layout.map layout.mask := by
  obtain ⟨-, channels, selected, rfl⟩ := negotiate_eq_ok_iff.mp agreed
  rw [selectChannels_masked _ masks] at selected
  cases found : Layout.matching? request.channels with
  | none =>
      rw [found] at selected
      cases selected
  | some layout =>
      rw [found] at selected
      cases selected
      exact ⟨layout, rfl, rfl⟩

theorem negotiate_counted (agreed : (negotiate request options caps).result = .ok config)
    (unmasked : caps.channelMask = false) : config.channels = .count request.channels.size := by
  obtain ⟨-, channels, selected, rfl⟩ := negotiate_eq_ok_iff.mp agreed
  have counted : ChannelRequest.count request.channels.size = channels := by
    simpa [selectChannels, unmasked] using selected
  exact counted.symm

theorem negotiate_reordered {channels : ChannelMap} (same : channels.speakers.Perm request.channels.speakers) :
    let outcome := (negotiate request options caps).result
    let reordered := (negotiate { request with channels := channels } options caps).result
    (∃ config, outcome = .ok config ∧ reordered = .ok config) ∨
      (∃ text, outcome = .error (.invalidRequest text) ∧ reordered = .error (.invalidRequest text)) ∨
      outcome = .error (.noChannelMap request.channels.name) ∧ reordered = .error (.noChannelMap channels.name) := by
  intro outcome reordered
  have first : outcome = _ := negotiate_result request options caps
  have second : reordered = _ := negotiate_result { request with channels := channels } options caps
  by_cases untold : request.sampleRate = 0 ∨ highestRate < request.sampleRate
  · rw [if_pos untold] at first second
    exact .inr (.inl ⟨_, first, second⟩)
  · rw [if_neg untold] at first second
    rcases selectChannels_reordered same caps with ⟨selected, chosen, chosen'⟩ | ⟨refused, refused'⟩
    · rw [chosen'] at first
      rw [chosen] at second
      exact .inl ⟨_, first, second⟩
    · rw [refused'] at first
      rw [refused] at second
      exact .inr (.inr ⟨first, second⟩)

end Outcomes

/--
A negotiation succeeds exactly for a rate of 1 to 2147483647 and, where channels are asked for by a mask, for the
speakers of a layout of the table. This layout is the only one with these speakers, it is the one that looking the
request up finds, and its order and mask are asked for; otherwise the count of channels is. The order of the
requested channels changes nothing but the name of a layout that is refused.
-/
theorem negotiate_exact (request : AudioRequest) (options : Options) (caps : DeviceCaps) :
    let outcome := (negotiate request options caps).result
    ((∃ config, outcome = .ok config) ↔ (1 ≤ request.sampleRate ∧ request.sampleRate ≤ 2 ^ 31 - 1) ∧
      (caps.channelMask = false ∨ ∃ layout ∈ Layout.table, ∀ speaker,
        speaker ∈ layout.map.speakers ↔ speaker ∈ request.channels.speakers)) ∧
    (∀ config, outcome = .ok config → caps.channelMask = true →
      ∃ layout, Layout.matching? request.channels = some layout ∧ config.channels = .mask layout.map layout.mask ∧
        layout ∈ Layout.table ∧ layout.map.speakers.Perm request.channels.speakers ∧
        (∀ other ∈ Layout.table, (∀ speaker, speaker ∈ other.map.speakers ↔ speaker ∈ request.channels.speakers) →
          other = layout) ∧
        layout.mask = if request.channels = .mono then Speaker.frontLeft.maskBit
          else Speaker.union request.channels.speakers) ∧
    (∀ config, outcome = .ok config → caps.channelMask = false →
      config.channels = .count request.channels.size ∧ request.channels.size ≤ 2 ^ 31 - 1) ∧
    ∀ channels : ChannelMap, channels.speakers.Perm request.channels.speakers →
      let reordered := (negotiate { request with channels := channels } options caps).result
      (∃ config, outcome = .ok config ∧ reordered = .ok config) ∨
        (∃ text, outcome = .error (.invalidRequest text) ∧ reordered = .error (.invalidRequest text)) ∨
        outcome = .error (.noChannelMap request.channels.name) ∧ reordered = .error (.noChannelMap channels.name) := by
  intro outcome
  refine ⟨?_, ?_, ?_, fun channels same => negotiate_reordered same⟩
  · rw [← Layout.isSome_matching?_iff, ← selectChannels_isOk_iff]
    constructor
    · rintro ⟨config, agreed⟩
      obtain ⟨rated, channels, selected, -⟩ := negotiate_eq_ok_iff.mp agreed
      exact ⟨rated, channels, selected⟩
    · rintro ⟨rated, channels, selected⟩
      exact ⟨_, negotiate_eq_ok_iff.mpr ⟨rated, channels, selected, rfl⟩⟩
  · intro config agreed masks
    obtain ⟨layout, found, asked⟩ := negotiate_masked agreed masks
    obtain ⟨listed, same⟩ := Layout.of_matching? found
    refine ⟨layout, found, asked, listed, same, fun other listed' same' => ?_, ?_⟩
    · have alike := (List.perm_ext_iff_of_nodup other.map.nodup request.channels.nodup).mpr same'
      exact Layout.unique listed' listed (alike.trans same.symm)
    · rw [Layout.mask_eq listed, ChannelMap.mask_congr same]
      rfl
  · intro config agreed unmasked
    have few : request.channels.size ≤ 22 := request.channels.size_le
    exact ⟨negotiate_counted agreed unmasked, Nat.le_trans few (by decide)⟩

end PcmOutput
