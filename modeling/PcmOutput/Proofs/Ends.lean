import PcmOutput.Output.Basic

/-!
# What work comes to

Work on an output is followed step by step: each step starts where the one before it ended. One rule joins
two steps of work that always succeeds, and one joins two steps of work that may fail.
-/

set_option autoImplicit false

namespace PcmOutput

variable {δ τ first second : Type}

/-- Begun with an output, the work ends with a value and an output for which `holds` is true. -/
def Ends (work : Work δ τ first) (before : Output δ τ) (holds : first → Output δ τ → Prop) : Prop :=
  holds (work.run before).1 (work.run before).2

namespace Ends

theorem done {before : Output δ τ} {result : first} {holds : first → Output δ τ → Prop}
    (reached : holds result before) : Ends (pure result) before holds :=
  reached

theorem read {next : Output δ τ → Work δ τ second} {before : Output δ τ} {holds : second → Output δ τ → Prop}
    (goesOn : Ends (next before) before holds) : Ends (get >>= next) before holds :=
  goesOn

theorem readAlways {next : Output δ τ → Attempt δ τ second} {before : Output δ τ}
    {holds : Except OutputError second → Output δ τ → Prop}
    (goesOn : Ends (next before).run before holds) : Ends (get >>= next : Attempt δ τ second).run before holds :=
  goesOn

theorem change {before : Output δ τ} {rule : Output δ τ → Output δ τ} {holds : Unit → Output δ τ → Prop}
    (reached : holds () (rule before)) : Ends (modify rule) before holds :=
  reached

theorem weaken {work : Work δ τ first} {before : Output δ τ} {strong weak : first → Output δ τ → Prop}
    (ended : Ends work before strong) (implied : ∀ result after, strong result after → weak result after) :
    Ends work before weak :=
  implied _ _ ended

theorem andThen {work : Work δ τ first} {next : first → Work δ τ second} {before : Output δ τ}
    {between : first → Output δ τ → Prop} {holds : second → Output δ τ → Prop}
    (started : Ends work before between)
    (goesOn : ∀ result middle, between result middle → Ends (next result) middle holds) :
    Ends (work >>= next) before holds :=
  goesOn _ _ started

theorem failed {before : Output δ τ} {cause : OutputError}
    {holds : Except OutputError first → Output δ τ → Prop} (reached : holds (.error cause) before) :
    Ends (throw cause : Attempt δ τ first).run before holds :=
  reached

theorem succeeded {before : Output δ τ} {result : first}
    {holds : Except OutputError first → Output δ τ → Prop} (reached : holds (.ok result) before) :
    Ends (pure result : Attempt δ τ first).run before holds :=
  reached

theorem orFail {work : Attempt δ τ first} {next : first → Attempt δ τ second} {before : Output δ τ}
    {between : Except OutputError first → Output δ τ → Prop}
    {holds : Except OutputError second → Output δ τ → Prop}
    (started : Ends work.run before between)
    (fails : ∀ cause middle, between (.error cause) middle → holds (.error cause) middle)
    (goesOn : ∀ result middle, between (.ok result) middle → Ends (next result).run middle holds) :
    Ends (work >>= next).run before holds := by
  rw [ExceptT.run_bind]
  apply started.andThen
  intro result middle reached
  cases result with
  | error cause => exact fails cause middle reached
  | ok result => exact goesOn result middle reached

theorem always {work : Work δ τ first} {next : first → Attempt δ τ second} {before : Output δ τ}
    {between : first → Output δ τ → Prop} {holds : Except OutputError second → Output δ τ → Prop}
    (started : Ends work before between)
    (goesOn : ∀ result middle, between result middle → Ends (next result).run middle holds) :
    Ends (PcmOutput.always work >>= next).run before holds :=
  goesOn _ _ started

theorem alwaysDone {work : Work δ τ first} {before : Output δ τ}
    {between : first → Output δ τ → Prop} {holds : Except OutputError first → Output δ τ → Prop}
    (ended : Ends work before between)
    (implied : ∀ result after, between result after → holds (.ok result) after) :
    Ends (PcmOutput.always work).run before holds :=
  implied _ _ ended

variable {condition : Prop} {decision : Decidable condition} {optional : Work δ τ Unit} {before : Output δ τ}
  {between : Output δ τ → Prop}

/-- A step that is taken under a condition only may as well be skipped, for what comes after it. -/
theorem perhaps {next : Unit → Work δ τ second} {holds : second → Output δ τ → Prop}
    (taken : Ends optional before fun _ after => between after) (skipped : between before)
    (goesOn : ∀ middle, between middle → Ends (next ()) middle holds) :
    Ends (if condition then optional >>= next else next ()) before holds := by
  split
  · exact taken.andThen fun _ middle reached => goesOn middle reached
  · exact goesOn before skipped

theorem perhapsAlways {next : Unit → Attempt δ τ second} {holds : Except OutputError second → Output δ τ → Prop}
    (taken : Ends optional before fun _ after => between after) (skipped : between before)
    (goesOn : ∀ middle, between middle → Ends (next ()).run middle holds) :
    Ends (if condition then PcmOutput.always optional >>= next else next ()).run before holds := by
  split
  · exact Ends.always taken fun _ middle reached => goesOn middle reached
  · exact goesOn before skipped

end Ends

end PcmOutput
