import PcmOutput.Speaker

/-!
# Channel maps

The speaker of every channel of a frame, in the order of the channels. A map has at least one channel
and no speaker twice.
-/

set_option autoImplicit false

namespace PcmOutput

/-- One speaker for every interleaved channel. -/
structure ChannelMap where
  speakers : List Speaker
  nonempty : speakers ≠ [] := by decide
  nodup : speakers.Nodup := by decide
deriving DecidableEq, Repr

namespace ChannelMap

/-- The map of these speakers, unless there are none or one stands twice. -/
def ofSpeakers? (speakers : List Speaker) : Option ChannelMap :=
  if nonempty : speakers ≠ [] then
    if nodup : speakers.Nodup then some ⟨speakers, nonempty, nodup⟩ else none
  else none

/-- One channel, played in front of the listener. -/
def mono : ChannelMap where
  speakers := [.frontCenter]

def stereo : ChannelMap where
  speakers := [.frontLeft, .frontRight]

def size (map : ChannelMap) : Nat :=
  map.speakers.length

def contains (map : ChannelMap) (speaker : Speaker) : Bool :=
  map.speakers.contains speaker

/-- As many channels as there are speakers in the list, and every one of these among them. -/
def sameLayout (map : ChannelMap) (speakers : List Speaker) : Bool :=
  map.size == speakers.length && speakers.all map.contains

def overlap (map : ChannelMap) (speakers : List Speaker) : Nat :=
  speakers.countP map.contains

@[simp] theorem contains_iff {map : ChannelMap} {speaker : Speaker} :
    map.contains speaker = true ↔ speaker ∈ map.speakers := by
  simp [contains]

theorem ofSpeakers?_eq_some_iff {speakers : List Speaker} {map : ChannelMap} :
    ofSpeakers? speakers = some map ↔ map.speakers = speakers := by
  constructor
  · intro made
    unfold ofSpeakers? at made
    split at made
    · split at made
      · cases made
        rfl
      · contradiction
    · contradiction
  · intro same
    subst same
    simp [ofSpeakers?, map.nonempty, map.nodup]

theorem ofSpeakers?_eq_none_iff {speakers : List Speaker} :
    ofSpeakers? speakers = none ↔ speakers = [] ∨ ¬ speakers.Nodup := by
  unfold ofSpeakers?
  by_cases nonempty : speakers ≠ []
  · by_cases nodup : speakers.Nodup <;> simp [nonempty, nodup]
  · simp only [ne_eq, Decidable.not_not] at nonempty
    simp [nonempty]

@[simp] theorem ofSpeakers?_speakers (map : ChannelMap) : ofSpeakers? map.speakers = some map :=
  ofSpeakers?_eq_some_iff.mpr rfl

end ChannelMap

end PcmOutput
