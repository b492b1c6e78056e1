import PcmOutput.Proofs.Agreement
import PcmOutput.Proofs.Kinship.Steps

/-!
# Devices within devices

A device may carry another one within it, together with something that it keeps of what it sees. As long as it
answers as the inner device does, an output on the one is kin to an output on the other, and comes to the same.
-/

set_option autoImplicit false

namespace PcmOutput

variable {δ δ' τ τ' : Type}

theorem Renaming.same_call (call : Call) : Renaming.same.call call = call := by
  cases call <;> rfl

theorem Renaming.same_answer (respond : (call : Call) → call.Answer) (call : Call) :
    respond (Renaming.same.call call) = Renaming.same.answer call (respond call) := by
  have mapped : ∀ {handle : Type} (answer : Except Int handle), answer = answer.map id := by
    intro handle answer
    cases answer <;> rfl
  cases call with
  | createBuilder => exact mapped _
  | openStream builder => exact mapped _
  | _ => rfl

namespace Kinship

/-- The second device and the second source have the first ones within them. -/
def overlay (inner : δ' → δ) (content : τ' → τ) : Kinship δ δ' τ τ' where
  names := .same
  device device device' := inner device' = device
  source source source' := content source' = source
  close := True

variable {inner : δ' → δ} {content : τ' → τ}

/-- The API of an outer device answers as the inner device does. -/
structure Passes (inner : δ' → δ) (api : DeviceApi δ) (api' : DeviceApi δ') : Prop where
  level : api'.level = api.level
  hasTier : api'.hasTier = api.hasTier
  farewell : api'.farewell = api.farewell
  resultText : ∀ device code, api'.resultText device code = api.resultText (inner device) code
  stateText : ∀ device code, api'.stateText device code = api.stateText (inner device) code
  answer : ∀ call device, (api'.respond call device).1 = (api.respond call (inner device)).1
  onward : ∀ call device, inner (api'.respond call device).2 = (api.respond call (inner device)).2

theorem Passes.apis {api : DeviceApi δ} {api' : DeviceApi δ'} (passes : Passes inner api api') :
    (overlay inner content).Apis api api' where
  level := passes.level
  hasTier := passes.hasTier
  farewell := passes.farewell
  resultText code related := by rw [← related, passes.resultText]
  stateText code related := by rw [← related, passes.stateText]
  answered {device device'} call related := by
    cases related
    constructor
    · exact (passes.answer _ device').trans
        (Renaming.same_answer (fun call => (api.respond call (inner device')).1) call)
    · change inner (api'.respond (Renaming.same.call call) device').2 = (api.respond call (inner device')).2
      rw [passes.onward, Renaming.same_call]

/-- What the outer loader finds passes on what the inner loader finds. -/
structure Carries (inner : δ' → δ) (wrap : DeviceApi δ → DeviceApi δ') (load : Loader δ)
    (load' : Loader δ') : Prop where
  passes : ∀ api, Passes inner api (wrap api)
  loaded : ∀ options device, (load' options device).1 = ((load options (inner device)).1 >>= fun api => pure (wrap api))
  onward : ∀ options device, inner (load' options device).2 = (load options (inner device)).2

theorem Carries.loaders {wrap : DeviceApi δ → DeviceApi δ'} {load : Loader δ} {load' : Loader δ'}
    (carries : Carries inner wrap load load') : (overlay inner content).Loaders load load' := by
  intro options device device' related
  cases related
  have loaded := carries.loaded options device'
  rw [Noted.bind_pure_eq] at loaded
  constructor
  · rw [loaded]
  · rw [loaded]
    cases found : (load options (inner device')).1.result with
    | error cause => exact .failed
    | ok api => exact .loaded (carries.passes api).apis
  · exact carries.onward options device'

theorem overlay_created (options : Options) {load : Loader δ} {load' : Loader δ'} (source' : τ') (device' : δ')
    (loaders : (overlay inner content).Loaders load load') :
    (overlay inner content).Outputs True (Output.create options load (content source') (inner device'))
      (Output.create options load' source' device') where
  options := rfl
  loaders := loaders
  phases := .idle rfl
  device := rfl
  drained _ := rfl
  told _ := rfl

end Kinship

end PcmOutput
