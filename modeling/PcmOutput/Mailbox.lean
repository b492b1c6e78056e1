/-!
# The mailbox of an output

The messages an output leaves for its owner. A mailbox holds a few of them, in order; a message that
finds it full, or its owner gone, is lost.
-/

set_option autoImplicit false

namespace PcmOutput

/-- What an output tells its owner. -/
inductive Message
  /-- The stream failed; the output has to be made anew. -/
  | reload
  /-- The source has ended and the stream stopped. -/
  | drained
deriving DecidableEq, Repr

def Message.name : Message → String
  | .reload => "reload"
  | .drained => "drained"

/-- Messages that wait for the owner, the oldest first. -/
structure Mailbox where
  waiting : List Message := []
  /-- Whether the owner still reads. -/
  attended : Bool := true
deriving DecidableEq, Repr

namespace Mailbox

def capacity : Nat := 8

/-- Why a message was lost. -/
inductive Refusal
  | full | unattended
deriving DecidableEq, Repr

def Refusal.message : Refusal → String
  | .full => "no available capacity"
  | .unattended => "channel closed"

/-- Leaves a message, unless nobody reads or there is no room. -/
def post (mailbox : Mailbox) (message : Message) : Except Refusal Mailbox :=
  if !mailbox.attended then .error .unattended
  else if capacity ≤ mailbox.waiting.length then .error .full
  else .ok { mailbox with waiting := mailbox.waiting ++ [message] }

def collect (mailbox : Mailbox) : List Message × Mailbox :=
  (mailbox.waiting, { mailbox with waiting := [] })

/-- The owner goes, and the messages with it. -/
def abandon (_ : Mailbox) : Mailbox :=
  { waiting := [], attended := false }

end Mailbox

end PcmOutput
