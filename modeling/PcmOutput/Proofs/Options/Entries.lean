import Mathlib.Data.List.Forall2
import PcmOutput.Proofs.Options.Fields

/-!
# Entries in order

Entries that are set one after another leave every option as the last entry that names it sets it, and an option that
none of them names as it was. So nothing but the order of the entries for one option matters.
-/

set_option autoImplicit false

namespace PcmOutput

/-- The option is what the trimmed text stands for, if there is a text, and otherwise what it was. -/
def OptionKey.Decided (key : OptionKey) (text? : Option String) (before after : key.Value) : Prop :=
  match text? with
  | some text => key.read? (Text.trim text) = some after
  | none => after = before

theorem OptionKey.Decided.unique {key : OptionKey} {text? : Option String} {before first second : key.Value}
    (decided : key.Decided text? before first) (decided' : key.Decided text? before second) : first = second := by
  cases text? with
  | none => exact Eq.trans decided (Eq.symm decided')
  | some text => exact Option.some.inj (Eq.trans (Eq.symm decided) decided')

namespace Options

/-! ## Entries that can be set -/

def Entry.settable (entry : Entry) : Bool :=
  (({} : Options).set entry.key entry.value).isOk

theorem Entry.settable_iff {entry : Entry} :
    entry.settable = true ↔ ∃ (key : OptionKey) (value : key.Value), entry.Sets key value := by
  unfold settable
  cases done : ({} : Options).set entry.key entry.value with
  | ok changed =>
      obtain ⟨key, value, sets, -⟩ := set_eq_ok_iff.mp done
      exact iff_of_true rfl ⟨key, value, sets⟩
  | error cause =>
      refine iff_of_false Bool.false_ne_true ?_
      rintro ⟨key, value, sets⟩
      rw [sets.set] at done
      contradiction

/-- The options after an entry; one that cannot be set changes nothing. -/
def change (options : Options) (entry : Entry) : Options :=
  match options.set entry.key entry.value with
  | .ok changed => changed
  | .error _ => options

theorem Entry.Sets.change {entry : Entry} {key : OptionKey} {value : key.Value} (sets : entry.Sets key value)
    (options : Options) : options.change entry = options.put key value := by
  rw [Options.change, sets.set]

theorem set_of_settable {entry : Entry} (settable : entry.settable = true) (options : Options) :
    options.set entry.key entry.value = .ok (options.change entry) := by
  obtain ⟨key, value, sets⟩ := Entry.settable_iff.mp settable
  rw [sets.set, sets.change]

theorem set_of_not_settable {entry : Entry} (unsettable : entry.settable = false) (options : Options) :
    ∃ cause, options.set entry.key entry.value = .error cause := by
  cases done : options.set entry.key entry.value with
  | error cause => exact ⟨cause, rfl⟩
  | ok changed =>
      obtain ⟨key, value, sets, -⟩ := set_eq_ok_iff.mp done
      rw [Entry.settable_iff.mpr ⟨key, value, sets⟩] at unsettable
      contradiction

/-! ## Items -/

section Items

variable {item : Type} {read : item → Except OutputError Entry} {items : List item}

/-- The entries that are set before the first item that cannot be read or set. -/
def taken (read : item → Except OutputError Entry) : List item → List Entry
  | [] => []
  | first :: rest =>
    match read first with
    | .error _ => []
    | .ok entry => if entry.settable then entry :: taken read rest else []

theorem taken_settable : ∀ entry ∈ taken read items, entry.settable = true := by
  induction items with
  | nil => simp [taken]
  | cons first rest ih =>
      unfold taken
      cases read first with
      | error cause => simp
      | ok entry =>
          dsimp only
          split
          · rename_i settable
            intro other among
            rcases List.mem_cons.mp among with rfl | later
            · exact settable
            · exact ih other later
          · simp

theorem applyItems_options (options : Options) :
    (applyItems read items options).options = (taken read items).foldl change options := by
  induction items generalizing options with
  | nil => rfl
  | cons first rest ih =>
      unfold applyItems taken
      cases read first with
      | error cause => rfl
      | ok entry =>
          dsimp only
          cases settable : entry.settable with
          | true =>
              rw [set_of_settable settable, if_pos rfl, List.foldl_cons]
              exact ih _
          | false =>
              obtain ⟨cause, failed⟩ := set_of_not_settable settable options
              rw [failed, if_neg Bool.false_ne_true]
              rfl

/-- All items are set exactly if each of them can be read and set, whatever the options are. -/
theorem applyItems_isOk_iff {options : Options} :
    (applyItems read items options).result = .ok () ↔
      ∀ item ∈ items, ∃ entry, read item = .ok entry ∧ entry.settable = true := by
  induction items generalizing options with
  | nil => simp [applyItems]
  | cons first rest ih =>
      rw [applyItems, List.forall_mem_cons]
      cases told : read first with
      | error cause => simp
      | ok entry =>
          dsimp only
          cases settable : entry.settable with
          | true =>
              rw [set_of_settable settable]
              exact ih.trans (and_iff_right ⟨entry, rfl, settable⟩).symm
          | false =>
              obtain ⟨cause, failed⟩ := set_of_not_settable settable options
              simp [failed, settable]

theorem forall₂_taken (all : ∀ item ∈ items, ∃ entry, read item = .ok entry ∧ entry.settable = true) :
    List.Forall₂ (fun item entry => read item = .ok entry) items (taken read items) := by
  induction items with
  | nil => exact .nil
  | cons first rest ih =>
      obtain ⟨⟨entry, told, settable⟩, later⟩ := List.forall_mem_cons.mp all
      rw [taken, told]
      simp only [settable, if_true]
      exact .cons told (ih later)

end Items

/-! ## The last entry for a key -/

/-- The text of the last entry whose key is one of these names. -/
def lastNamed? (names : String → Prop) [DecidablePred names] (entries : List Entry) : Option String :=
  (entries.reverse.find? fun entry => names entry.key).map Entry.value

theorem lastNamed?_append {names : String → Prop} [DecidablePred names] (first second : List Entry) :
    lastNamed? names (first ++ second) = (lastNamed? names second).or (lastNamed? names first) := by
  rw [lastNamed?, List.reverse_append, List.find?_append, Option.map_or]
  rfl

theorem lastNamed?_cons {names : String → Prop} [DecidablePred names] (entry : Entry) (rest : List Entry) :
    lastNamed? names (entry :: rest) =
      (lastNamed? names rest).or (if names entry.key then some entry.value else none) := by
  rw [← List.singleton_append, lastNamed?_append]
  congr 1
  by_cases named : names entry.key <;> simp [lastNamed?, named]

/-- The text of the last entry that names the key. -/
def lastText? (key : OptionKey) (entries : List Entry) : Option String :=
  lastNamed? key.Names entries

section Last

variable {key : OptionKey} {entries : List Entry}

theorem lastText?_append (first second : List Entry) :
    lastText? key (first ++ second) = (lastText? key second).or (lastText? key first) :=
  lastNamed?_append first second

theorem lastText?_cons (entry : Entry) (rest : List Entry) :
    lastText? key (entry :: rest) =
      (lastText? key rest).or (if key.Names entry.key then some entry.value else none) :=
  lastNamed?_cons entry rest

/-- Entries that can be set leave each option as the last of them that names it says. -/
theorem decided_foldl_change (settable : ∀ entry ∈ entries, entry.settable = true) (options : Options)
    (key : OptionKey) :
    key.Decided (lastText? key entries) (options.get key) ((entries.foldl change options).get key) := by
  induction entries generalizing options with
  | nil => rfl
  | cons entry rest ih =>
      -- A later entry for the key decides alone; without one, nothing after this entry changes the option.
      have later := ih (fun other among => settable other (List.mem_cons_of_mem _ among)) (options.change entry)
      obtain ⟨own, value, sets⟩ := Entry.settable_iff.mp (settable entry List.mem_cons_self)
      rw [List.foldl_cons, lastText?_cons]
      cases last : lastText? key rest with
      | some text =>
          rw [last] at later
          exact later
      | none =>
          rw [last] at later
          have stays : ((rest.foldl change (options.change entry)).get key) = (options.change entry).get key := later
          rw [Option.none_or, stays, sets.change]
          by_cases named : key.Names entry.key
          · obtain rfl := named.unique sets.1
            rw [if_pos named, get_put]
            exact sets.2
          · have different : key ≠ own := fun same => named (same ▸ sets.1)
            rw [if_neg named, get_put_of_ne different]
            rfl

/-- Entries come to the same if the last ones for each key do. -/
theorem foldl_change_congr {others : List Entry} (settable : ∀ entry ∈ entries, entry.settable = true)
    (settable' : ∀ entry ∈ others, entry.settable = true) (same : ∀ key, lastText? key others = lastText? key entries)
    (options : Options) : others.foldl change options = entries.foldl change options := by
  apply ext_get
  intro key
  have decided := decided_foldl_change settable' options key
  rw [same key] at decided
  exact decided.unique (decided_foldl_change settable options key)

end Last

end Options

end PcmOutput
