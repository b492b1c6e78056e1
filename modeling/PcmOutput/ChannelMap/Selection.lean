import PcmOutput.ChannelMap.Basic

/-!
# The closest layout

Among several maps, the one that is closest to a requested map: it lacks the fewest of the requested
speakers, then adds the fewest others, then stands first. A map that shares no speaker with the
request is never taken.
-/

set_option autoImplicit false

namespace PcmOutput.ChannelMap

/-- How far a map is from a request: the speakers it lacks, then the speakers it adds. -/
structure Distance where
  missing : Nat
  extra : Nat
deriving DecidableEq, Repr

/-- The smaller count of missing speakers is closer, then the smaller count of extra ones. -/
def Distance.closer (left right : Distance) : Bool :=
  left.missing < right.missing || left.missing == right.missing && left.extra < right.extra

/-- The distance of a map that shares a speaker with the request. -/
def distance? (requested candidate : ChannelMap) : Option Distance :=
  let common := candidate.overlap requested.speakers
  if common = 0 then none
  else some { missing := requested.size - common, extra := candidate.size - common }

/-- A candidate's place in the list, with its distance. -/
structure Ranked where
  index : Nat
  distance : Distance
deriving DecidableEq, Repr

/-- The candidates that share a speaker with the request, from place `start` on. -/
def ranked (requested : ChannelMap) (start : Nat) : List ChannelMap → List Ranked
  | [] => []
  | candidate :: rest =>
    match distance? requested candidate with
    | some distance => ⟨start, distance⟩ :: ranked requested (start + 1) rest
    | none => ranked requested (start + 1) rest

/-- The first of the closest, given the best one so far. -/
def closestFrom (best : Ranked) : List Ranked → Ranked
  | [] => best
  | next :: rest => closestFrom (if next.distance.closer best.distance then next else best) rest

/-- The place of the closest candidate, if any candidate shares a speaker with the request. -/
def select (candidates : List ChannelMap) (requested : ChannelMap) : Option Nat :=
  match ranked requested 0 candidates with
  | [] => none
  | first :: rest => some (closestFrom first rest).index

end PcmOutput.ChannelMap
