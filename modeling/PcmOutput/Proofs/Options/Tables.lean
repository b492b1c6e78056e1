import PcmOutput.Options.Profile
import PcmOutput.Proofs.Options.Entries

/-!
# Tables of options

The entries of a table are set in the order of their keys, however they are written, and a key with the mark of the
output comes before the same key without it. So a table decides an option by its plain key, and by the marked one only
if there is no plain one.
-/

set_option autoImplicit false

namespace PcmOutput

/-! ## Entries sorted by key -/

namespace Toml

variable {key name : String} {value : Value} {entries written : List (String × Value)}

/-- The keys do not descend. -/
def Sorted (entries : List (String × Value)) : Prop :=
  entries.Pairwise fun first second => first.1 ≤ second.1

theorem insertSorted_sorted (sorted : Sorted entries) : Sorted (insertSorted (key, value) entries) := by
  induction entries with
  | nil => exact List.pairwise_singleton _ _
  | cons first rest ih =>
      obtain ⟨before, sorted'⟩ := List.pairwise_cons.mp sorted
      rw [insertSorted]
      split
      · rename_i earlier
        refine List.pairwise_cons.mpr ⟨fun entry among => ?_, sorted⟩
        have least : key ≤ first.1 := Std.le_of_lt earlier
        rcases List.mem_cons.mp among with rfl | later
        · exact least
        · exact String.le_trans least (before entry later)
      · rename_i later
        refine List.pairwise_cons.mpr ⟨fun entry among => ?_, ih sorted'⟩
        rcases List.mem_cons.mp ((insertSorted_perm _ _).mem_iff.mp among) with rfl | old
        · exact String.not_lt.mp later
        · exact before entry old

/-- The last value of a key is that of the inserted entry, if this has the key. -/
theorem lookup_reverse_insertSorted (sorted : Sorted entries) :
    (insertSorted (key, value) entries).reverse.lookup name =
      if name = key then some value else entries.reverse.lookup name := by
  have alone : [(key, value)].lookup name = if name = key then some value else none := by
    by_cases same : name = key
    · simp [same]
    · simp [List.lookup_cons, beq_eq_false_iff_ne.mpr same, same]
  induction entries with
  | nil => exact alone
  | cons first rest ih =>
      obtain ⟨before, sorted'⟩ := List.pairwise_cons.mp sorted
      rw [insertSorted]
      split
      · rename_i earlier
        rw [List.reverse_cons, List.lookup_append, alone]
        by_cases same : name = key
        · -- No entry behind the inserted one has its key.
          have absent : (first :: rest).reverse.lookup name = none := by
            refine List.lookup_eq_none_iff.mpr fun entry among => ?_
            have beyond : key < entry.1 := by
              rcases List.mem_cons.mp (List.mem_reverse.mp among) with rfl | later
              · exact earlier
              · exact Std.lt_of_lt_of_le earlier (before entry later)
            rw [same]
            exact bne_iff_ne.mpr (Std.ne_of_lt beyond)
          rw [absent, Option.none_or, if_pos same]
        · rw [if_neg same, if_neg same, Option.or_none]
      · rw [List.reverse_cons, List.reverse_cons, List.lookup_append, List.lookup_append, ih sorted']
        split <;> rfl

/-- Sorting the entries of a table keeps, for each key, the canonical form of the first value written for it. -/
theorem canonicalEntries?_spec (canonical : canonicalEntries? written = some entries) :
    Sorted entries ∧ ∀ name, entries.reverse.lookup name = (written.lookup name).bind Value.canonical? := by
  induction written generalizing entries with
  | nil =>
      cases canonical
      exact ⟨.nil, fun name => rfl⟩
  | cons first rest ih =>
      obtain ⟨key, value⟩ := first
      rw [canonicalEntries?] at canonical
      cases item : value.canonical? with
      | none =>
          rw [item] at canonical
          cases canonical
      | some formed =>
          cases later : canonicalEntries? rest with
          | none =>
              rw [item, later] at canonical
              cases canonical
          | some sorted =>
              rw [item, later] at canonical
              obtain rfl := Option.some.inj canonical
              obtain ⟨ordered, looked⟩ := ih later
              refine ⟨insertSorted_sorted ordered, fun name => ?_⟩
              rw [lookup_reverse_insertSorted ordered, looked, List.lookup_cons]
              by_cases same : name = key
              · simp [same, item]
              · simp [same, beq_eq_false_iff_ne.mpr same]

end Toml

/-! ## The text of a value -/

/-- The text that a value of a table sets an option to. -/
def Toml.Value.text? : Toml.Value → Option String
  | .text content => some content
  | .integer number => some (toString number)
  | _ => none

theorem Toml.Value.text?_canonical? (value : Toml.Value) : value.canonical?.bind Toml.Value.text? = value.text? := by
  cases value with
  | array items =>
      rw [canonical?]
      cases canonicalItems? items <;> rfl
  | table entries =>
      rw [canonical?]
      cases carried? entries with
      | none => cases canonicalEntries? entries <;> rfl
      | some carried =>
          cases carried with
          | text content =>
              dsimp only
              cases moment? content <;> rfl
          | _ => rfl
  | _ => rfl

namespace Options

/-- The text that a table sets this key to, mark and all. -/
def tableText? (table : List (String × Toml.Value)) (name : String) : Option String :=
  (table.lookup name).bind Toml.Value.text?

theorem readItem_eq_ok_iff {item : String × Toml.Value} {entry : Entry} :
    readItem item = .ok entry ↔ entry.key = item.1 ∧ item.2.text? = some entry.value := by
  obtain ⟨name, value⟩ := item
  obtain ⟨key, text⟩ := entry
  cases value <;> simp [readItem, Toml.Value.text?, eq_comm]

/-! ## Plain keys over marked ones -/

/-- The text of the last entry with exactly this key. -/
def lastKeyed? (name : String) (entries : List Entry) : Option String :=
  lastNamed? (· = name) entries

theorem lastKeyed?_cons (name : String) (entry : Entry) (rest : List Entry) :
    lastKeyed? name (entry :: rest) = (lastKeyed? name rest).or (if entry.key = name then some entry.value else none) :=
  lastNamed?_cons entry rest

theorem exists_of_lastKeyed? {name text : String} {entries : List Entry} (last : lastKeyed? name entries = some text) :
    ∃ entry ∈ entries, entry.key = name := by
  obtain ⟨entry, found, -⟩ := Option.map_eq_some_iff.mp last
  exact ⟨entry, List.mem_reverse.mp (List.mem_of_find?_eq_some found), by simpa using List.find?_some found⟩

theorem marked_lt_name (key : OptionKey) : keyMark ++ key.name < key.name := by
  cases key <;> decide

/-- Among entries in the order of their keys, a plain key stands behind the marked one. -/
theorem lastText?_sorted {entries : List Entry} (sorted : entries.Pairwise fun first second => first.key ≤ second.key)
    (key : OptionKey) :
    lastText? key entries = (lastKeyed? key.name entries).or (lastKeyed? (keyMark ++ key.name) entries) := by
  induction entries with
  | nil => rfl
  | cons first rest ih =>
      obtain ⟨before, sorted'⟩ := List.pairwise_cons.mp sorted
      rw [lastText?_cons, lastKeyed?_cons, lastKeyed?_cons, ih sorted']
      have apart : keyMark ++ key.name ≠ key.name := Std.ne_of_lt (marked_lt_name key)
      cases plain : lastKeyed? key.name rest with
      | some text => rfl
      | none =>
          cases marked : lastKeyed? (keyMark ++ key.name) rest with
          | some text =>
              -- The plain key cannot stand here, before the marked one.
              obtain ⟨entry, among, same⟩ := exists_of_lastKeyed? marked
              have earlier : first.key < key.name :=
                Std.lt_of_le_of_lt (same ▸ before entry among) (marked_lt_name key)
              simp [Std.ne_of_lt earlier]
          | none =>
              by_cases own : first.key = key.name
              · simp [OptionKey.Names, own]
              · simp [OptionKey.Names, own]

section Items

variable {items : List (String × Toml.Value)} {entries : List Entry}

theorem find?_items (read : List.Forall₂ (fun item entry => readItem item = .ok entry) items entries) (name : String) :
    (entries.find? fun entry => entry.key = name).map Entry.value = tableText? items name := by
  induction read with
  | nil => rfl
  | @cons item entry rest entries told later ih =>
      obtain ⟨own, text⟩ := readItem_eq_ok_iff.mp told
      rw [tableText?, List.lookup_cons]
      by_cases same : name = item.1
      · simp [own, same, text]
      · simpa [own, Ne.symm same, beq_eq_false_iff_ne.mpr same, tableText?] using ih

theorem keys_of_items (read : List.Forall₂ (fun item entry => readItem item = .ok entry) items entries) :
    entries.map Entry.key = items.map Prod.fst := by
  induction read with
  | nil => rfl
  | cons told later ih => rw [List.map_cons, List.map_cons, ih, (readItem_eq_ok_iff.mp told).1]

theorem sorted_of_items (read : List.Forall₂ (fun item entry => readItem item = .ok entry) items entries)
    (sorted : Toml.Sorted items) : entries.Pairwise fun first second => first.key ≤ second.key := by
  have ordered : (items.map Prod.fst).Pairwise (· ≤ ·) := List.pairwise_map.mpr sorted
  rw [← keys_of_items read] at ordered
  exact List.pairwise_map.mp ordered

/-- A table decides an option by its plain key, and by its marked key if there is no plain one. -/
theorem lastText?_table {written : List (String × Toml.Value)} (canonical : Toml.canonicalEntries? written = some items)
    (read : List.Forall₂ (fun item entry => readItem item = .ok entry) items entries) (key : OptionKey) :
    lastText? key entries = (tableText? written key.name).or (tableText? written (keyMark ++ key.name)) := by
  obtain ⟨sorted, looked⟩ := Toml.canonicalEntries?_spec canonical
  have told (name : String) : lastKeyed? name entries = tableText? written name := by
    rw [lastKeyed?, lastNamed?, find?_items (List.forall₂_reverse_iff.mpr read), tableText?, looked, Option.bind_assoc,
      tableText?]
    congr 1
    exact funext Toml.Value.text?_canonical?
  rw [lastText?_sorted (sorted_of_items read sorted), told, told]

end Items

end Options

end PcmOutput
