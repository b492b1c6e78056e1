import PcmOutput.Toml.Value

/-!
# Tables in the making

Statements fill tables one key at a time. A table is stated by a header, implied by a longer header, or
made by a key with points; this decides which later statements may add to it. No key is set twice.
-/

set_option autoImplicit false

namespace PcmOutput.Toml

/-- How a table came to be. -/
inductive TableKind
  /-- By its own header, or as the top of everything. -/
  | stated
  /-- As a step on the way of a header to another table. -/
  | implied
  /-- As a step on the way of a key with points. -/
  | pointed
deriving DecidableEq, Repr

/-- What stands under a key while tables are filled. -/
inductive Node
  | leaf (value : Value)
  | table (kind : TableKind) (entries : List (String × Node))
  /-- Tables under one key, the newest first. -/
  | series (tables : List (List (String × Node)))

abbrev Branch := List (String × Node)

namespace Branch

/-- Changes what stands under a key, or makes it; an entry keeps its place. -/
def update? (key : String) (change : Option Node → Option Node) : Branch → Option Branch
  | [] => (change none).map fun node => [(key, node)]
  | (other, node) :: rest =>
    if other = key then (change (some node)).map fun changed => (key, changed) :: rest
    else (update? key change rest).map fun changed => (other, node) :: changed

/--
Changes the table at the end of a path. Missing tables on the way are made, of the kind `through`. A
series is entered at its newest table. A key with points enters no table that was stated.
-/
def descend? (through : TableKind) (change : TableKind → Branch → Option Branch) :
    List String → TableKind → Branch → Option Branch
  | [], kind, entries => change kind entries
  | key :: path, _, entries =>
    update? key
      (fun
        | none => (descend? through change path through []).map (Node.table through)
        | some (.leaf _) => none
        | some (.series []) => none
        | some (.series (newest :: older)) =>
          (descend? through change path .stated newest).map fun changed => .series (changed :: older)
        | some (.table kind inner) =>
          if through = .pointed ∧ kind = .stated then none
          else (descend? through change path kind inner).map (Node.table kind))
      entries

/-- Sets a key that is not set yet. -/
def insert? (key : String) (value : Value) : Branch → Option Branch :=
  update? key fun
    | none => some (.leaf value)
    | some _ => none

/--
Sets the value of a key with points. The last table on its way has to be one that such keys made, and
without points the table must not be one that such keys made.
-/
def assign? (path : List String) (key : String) (value : Value) : TableKind → Branch → Option Branch :=
  descend? .pointed
    (fun kind entries =>
      if (kind = .pointed ↔ path = []) then none else insert? key value entries)
    path

def extract (key : String) : Branch → Option Node × Branch
  | [] => (none, [])
  | (other, node) :: rest =>
    if other = key then (some node, rest)
    else
      let (found, left) := extract key rest
      (found, (other, node) :: left)

/-- Opens the table of a header: a new one, or one that was only implied so far. It comes last. -/
def state? (path : List String) (key : String) : Branch → Option Branch :=
  descend? .implied
    (fun _ entries =>
      match extract key entries with
      | (none, left) => some (left ++ [(key, .table .stated [])])
      | (some (.table .implied inner), left) => some (left ++ [(key, .table .stated inner)])
      | (some _, _) => none)
    path .stated

def extend? (path : List String) (key : String) : Branch → Option Branch :=
  descend? .implied
    (fun _ entries =>
      update? key
        (fun
          | none => some (.series [[]])
          | some (.series tables) => some (.series ([] :: tables))
          | some _ => none)
        entries)
    path .stated

end Branch

mutual

def Node.finish : Node → Value
  | .leaf value => value
  | .table _ entries => .table (finishEntries entries)
  | .series tables => .array (finishTables tables []) 

def finishEntries : List (String × Node) → List (String × Value)
  | [] => []
  | (key, node) :: rest => (key, node.finish) :: finishEntries rest

/-- The finished tables of a series, put before those already finished, the oldest first. -/
def finishTables : List (List (String × Node)) → List Value → List Value
  | [], finished => finished
  | newest :: older, finished => finishTables older (.table (finishEntries newest) :: finished)

end

end PcmOutput.Toml
