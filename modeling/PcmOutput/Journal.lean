import PcmOutput.Error

/-!
# The journal

What the output tells about its own work: lines of text, each with the weight it has for a reader. Work
that may fail and does not touch a device gives its lines together with its result.
-/

set_option autoImplicit false

namespace PcmOutput

/-- The weight of a line. -/
inductive Level
  | debug | info | warning | error
deriving DecidableEq, Repr

def Level.name : Level → String
  | .debug => "DEBUG"
  | .info => "INFO"
  | .warning => "WARN"
  | .error => "ERROR"

/-- A line of the journal. -/
structure Line where
  level : Level
  text : String
deriving DecidableEq, Repr

/-- The result of some work, or the error that ended it, with the lines that were written on the way. -/
structure Noted (value : Type) where
  lines : List Line
  result : Except OutputError value

namespace Noted

/-- Work goes on after a success; the lines stand in the order in which they were written. -/
def andThen {first second : Type} (work : Noted first) (next : first → Noted second) : Noted second :=
  match work.result with
  | .ok value => ⟨work.lines ++ (next value).lines, (next value).result⟩
  | .error cause => ⟨work.lines, .error cause⟩

instance : Monad Noted where
  pure value := ⟨[], .ok value⟩
  bind := andThen

def note (level : Level) (text : String) : Noted Unit :=
  ⟨[⟨level, text⟩], .ok ()⟩

def fail {value : Type} (cause : OutputError) : Noted value :=
  ⟨[], .error cause⟩

@[simp] theorem result_pure {value : Type} (done : value) : (pure done : Noted value).result = .ok done :=
  rfl

@[simp] theorem result_note (level : Level) (text : String) : (note level text).result = .ok () :=
  rfl

@[simp] theorem result_fail {value : Type} (cause : OutputError) :
    (fail cause : Noted value).result = .error cause :=
  rfl

/-- The lines have no part in the result. -/
theorem result_bind {first second : Type} (work : Noted first) (next : first → Noted second) :
    (work >>= next).result =
      match work.result with
      | .ok value => (next value).result
      | .error cause => .error cause := by
  show (andThen work next).result = _
  unfold andThen
  cases work.result <;> rfl

end Noted

end PcmOutput
