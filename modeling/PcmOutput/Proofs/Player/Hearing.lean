import Mathlib.Logic.Basic
import PcmOutput.Player.Program
import PcmOutput.Proofs.Kinship.Overlay
import PcmOutput.Proofs.Player.Conduct
import PcmOutput.Proofs.Player.Turns

/-!
# A source that is heard

A source can keep what was read of it: for every read what it was itself just before, and what it was asked for. The
player does with it what it does with the source alone, so what is found out about the reads holds of every player.
-/

set_option autoImplicit false

namespace PcmOutput

variable {δ τ τ' : Type}

/-- A read of a source, and the source that was read. -/
structure Heard (τ : Type) where
  source : τ
  buffer : List UInt8
  frames : Nat
  deadline : Int

def Heard.reading [AudioSource τ] (heard : Heard τ) : Reading τ :=
  AudioSource.read heard.buffer heard.frames heard.deadline heard.source

abbrev HeardSource (τ : Type) := Watched τ (Heard τ)

instance [AudioSource τ] : AudioSource (HeardSource τ) where
  prepare format source := { source with subject := AudioSource.prepare format source.subject }
  read buffer frames deadline source :=
    let heard : Heard τ := ⟨source.subject, buffer, frames, deadline⟩
    ⟨heard.reading.buffer, heard.reading.pull, ⟨heard.reading.source, source.events ++ [heard]⟩⟩

/-! ## Sources of the same content -/

namespace Kinship

/-- The same device, and sources of which the first has the second one within it. -/
def within (content : τ → τ') : Kinship δ δ τ τ' where
  names := .same
  device := Eq
  source source source' := content source = source'
  close := True

variable {content : τ → τ'}

theorem within_apis (api : DeviceApi δ) : (within content : Kinship δ δ τ τ').Apis api api where
  level := rfl
  hasTier := rfl
  farewell := rfl
  resultText code same := by cases same; rfl
  stateText code same := by cases same; rfl
  answered {device _} call same := by
    cases same
    constructor
    · exact Renaming.same_answer (fun call => (api.respond call device).1) call
    · change (api.respond call device).2 = (api.respond (Renaming.same.call call) device).2
      rw [Renaming.same_call]

theorem within_loaders (load : Loader δ) : (within content : Kinship δ δ τ τ').Loaders load load := by
  intro options device device' same
  cases same
  constructor
  · rfl
  · cases (load options device).1.result with
    | error cause => exact .failed
    | ok api => exact .loaded (within_apis api)
  · rfl

theorem within_created (options : Options) (load : Loader δ) (source : τ) (device : δ) :
    (within content).Outputs True (Output.create options load source device)
      (Output.create options load (content source) device) where
  options := rfl
  loaders := within_loaders load
  phases := .idle rfl
  device := rfl
  drained _ := rfl
  told _ := rfl

end Kinship

theorem Kinship.heard_sources [AudioSource τ] :
    (Kinship.within Watched.subject : Kinship δ δ (HeardSource τ) τ).Sources where
  prepared format related := by
    cases related
    rfl
  read buffer frames deadline related := by
    cases related
    exact ⟨rfl, rfl, rfl⟩

/-! ## Performances for sources of the same content -/

namespace Player

variable {content : τ → τ'} {settled : Prop}

def PerformanceEnd.map (content : τ → τ') : PerformanceEnd τ → PerformanceEnd τ'
  | .finished source => .finished (content source)
  | .reload source => .reload (content source)
  | .failed message => .failed message
  | .crashed => .crashed

theorem PerformanceEnd.isReload_map {ended : PerformanceEnd τ} : (ended.map content).IsReload ↔ ended.IsReload := by
  cases ended <;> rfl

/-- Turns that end alike for sources of the same content are followed by turns for sources of the same content. -/
theorem performAll_map {once : τ → StateM (Scene δ) (PerformanceEnd τ)}
    {once' : τ' → StateM (Scene δ) (PerformanceEnd τ')}
    (same : ∀ source scene, (once' (content source)).run scene =
      (((once source).run scene).1.map content, ((once source).run scene).2))
    (most left : Nat) (source : τ) (scene : Scene δ) :
    (performAll once' most left (content source)).run scene = (performAll once most left source).run scene := by
  have alike : ∀ source scene, turnOf once' (content source) scene = ⟨content source, scene,
      (turnOf once source scene).ended.map content, (turnOf once source scene).left⟩ := by
    intro source scene
    unfold turnOf
    rw [same]
    rfl
  have ends : ∀ left source scene, ((turnOf once source scene).ended.IsReload → left = 0) →
      (performAll once' most left (content source)).run scene = (performAll once most left source).run scene := by
    intro left source scene last
    have last' : (turnOf once' (content source) scene).ended.IsReload → left = 0 := by
      intro reload
      rw [alike] at reload
      exact last (PerformanceEnd.isReload_map.mp reload)
    rw [performAll_last once most left source scene last, performAll_last once' most left _ scene last', alike]
    unfold Turn.outcome
    cases (turnOf once source scene).ended <;> rfl
  induction left generalizing source scene with
  | zero => exact ends 0 source scene fun _ => rfl
  | succ left ih =>
      cases ended : (turnOf once source scene).ended with
      | reload next =>
          have ended' : (turnOf once' (content source) scene).ended = .reload (content next) := by
            rw [alike, ended]
            rfl
          rw [performAll_again once most left ended, performAll_again once' most left ended', ih, alike]
      | finished | failed | crashed => exact ends _ source scene (by simp [ended, PerformanceEnd.IsReload])

open Kinship

theorem announce_matched :
    Matched ((within content : Kinship δ δ τ τ').Outputs settled) id announce announce := by
  refine Matched.read fun output output' outputs => ?_
  rw [outputs.streamFormat?, outputs.apiLevel?, outputs.deviceBuffer]
  cases output.streamFormat? with
  | none => exact Matched.done
  | some format => exact note_matched _ _

theorem intoSource_matched (ending : τ → PerformanceEnd τ) (ending' : τ' → PerformanceEnd τ')
    (same : ∀ source, ending' (content source) = (ending source).map content) :
    Matched ((within content : Kinship δ δ τ τ').Outputs settled) (PerformanceEnd.map content)
      (do let source ← Output.intoSource; return ending source)
      (do let source ← Output.intoSource; return ending' source) := by
  have returned : Matched ((within content : Kinship δ δ τ τ').Outputs settled) content Output.intoSource
      Output.intoSource := by
    apply uninit_matched.andThen
    intro _ output output' outputs
    exact ⟨outputs.source.symm, outputs⟩
  apply returned.andThen
  intro source
  rw [same]
  exact Matched.done

variable [AudioSource τ] [AudioSource τ']

theorem Conduct.matched (sources : (within content : Kinship δ δ τ τ').Sources) (tone : τ' → Tone)
    (conduct : Conduct δ) :
    Matched ((within content : Kinship δ δ τ τ').Outputs settled) id (conduct.work (tone ∘ content))
      (conduct.work tone) := by
  induction conduct with
  | rest => exact Matched.done
  | data request next ih =>
      have same : request.renamed .same = request := by
        simp [DataRequest.renamed, Renaming.same]
      have filled : Matched ((within content : Kinship δ δ τ τ').Outputs settled) id (dataCallback request)
          (dataCallback (request.renamed .same)) := dataCallback_matched sources request
      rw [same] at filled
      exact filled.andThen fun answer => ih answer
  | error code next ih => exact (errorCallback_matched code).andThen fun _ => ih
  | look next ih =>
      refine Matched.read fun output output' outputs => ?_
      have device : output.device = output'.device := outputs.device
      have source : content output.source = output'.source := outputs.source
      rw [← device, outputs.streamFormat?, ← source]
      exact ih _ _ _
  | change step next ih =>
      have changed : Matched ((within content : Kinship δ δ τ τ').Outputs settled) id
          (modify fun output => { output with device := step output.device })
          (modify fun output => { output with device := step output.device }) := by
        refine Matched.change fun output output' outputs => outputs.onDevice ?_
        exact congrArg step outputs.device
      exact changed.andThen fun _ => ih

variable (sources : (within content : Kinship δ δ τ τ').Sources) (tone : τ' → Tone) (venue : Venue δ)
include sources

theorem conclude_matched (waitable : Bool) :
    Matched ((within content : Kinship δ δ τ τ').Outputs settled) (PerformanceEnd.map content)
      (conclude (venue.host (tone ∘ content)) waitable) (conclude (venue.host tone) waitable) := by
  unfold conclude
  split
  · exact Matched.done
  · apply (venue.playing.matched sources tone).andThen
    intro _
    refine Matched.read fun output output' outputs => ?_
    have mailbox : output'.mailbox = output.mailbox := congrArg (fun told => told.2.2.1) (outputs.told trivial)
    rw [mailbox]
    split
    · exact intoSource_matched _ _ fun _ => rfl
    · exact intoSource_matched _ _ fun _ => rfl
    · exact (note_matched _ _).andThen fun _ => intoSource_matched _ _ fun _ => rfl

theorem performance_matched (request : AudioRequest) (waitable : Bool) :
    Matched ((within content : Kinship δ δ τ τ').Outputs settled) (PerformanceEnd.map content)
      (performance (venue.host (tone ∘ content)) request waitable) (performance (venue.host tone) request waitable) := by
  have begun : Matched ((within content : Kinship δ δ τ τ').Outputs settled) (Except.map id)
      (begin (venue.host (tone ∘ content)) request).run (begin (venue.host tone) request).run := by
    apply (init_matched sources request).orFail
    intro _
    apply announce_matched.always
    intro _
    exact startMeanwhile_matched (venue.starting.matched sources tone)
  apply begun.andThen
  intro result
  cases result with
  | error cause => exact uninit_matched.andThen fun _ => Matched.done
  | ok => exact conclude_matched sources tone venue waitable

theorem perform_matched (options : Options) (request : AudioRequest) (waitable : Bool) (source : τ) (scene : Scene δ) :
    let ran := (perform (venue.host (tone ∘ content)) options request waitable source).run scene
    (perform (venue.host tone) options request waitable (content source)).run scene = (ran.1.map content, ran.2) := by
  intro ran
  have matched : Matched ((within content : Kinship δ δ τ τ').Outputs True) _ _ _ :=
    performance_matched sources tone venue request waitable
  obtain ⟨ended, outputs⟩ := matched _ _ (within_created options venue.load source scene.device)
  have device := outputs.device
  have journal := congrArg (fun told => told.2.2.2) (outputs.told trivial)
  refine Prod.ext ended ?_
  change Scene.mk _ (scene.journal ++ _) = Scene.mk _ (scene.journal ++ _)
  exact congrArg₂ Scene.mk device.symm (congrArg (scene.journal ++ ·) journal)

end Player

end PcmOutput
