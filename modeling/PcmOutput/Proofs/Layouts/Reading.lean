import PcmOutput.Proofs.Layouts.ReadBack
import PcmOutput.Proofs.Text.Literals

/-!
# What is read as a channel map

The texts that stand for a channel map, and what is wrong with each of the others. A text is a layout name, or a numeral
of 32 bits, or pieces between dashes, and what it is decides alone what is made of it: a numeral without a layout is not
tried as a list of speakers, though its sign is a dash.
-/

set_option autoImplicit false

namespace PcmOutput

namespace Text

/-! ## Pieces between dashes -/

theorem intercalate_fields (separator : Char) (characters : List Char) :
    [separator].intercalate (fields separator characters) = characters := by
  induction characters with
  | nil => rfl
  | cons character rest ih =>
      rw [fields]
      -- A separator stands before the first piece of the rest, another character is the first one of it.
      split
      · rename_i same
        obtain ⟨piece, pieces, split⟩ := List.exists_cons_of_ne_nil (fields_ne_nil separator rest)
        rw [split] at ih ⊢
        rw [List.intercalate_cons_cons, ih, same]
        rfl
      · obtain ⟨piece, pieces, split⟩ := List.exists_cons_of_ne_nil (fields_ne_nil separator rest)
        rw [split] at ih ⊢
        cases pieces with
        | nil => simpa using ih
        | cons next others =>
            rw [List.intercalate_cons_cons] at ih ⊢
            rw [List.cons_append, List.cons_append, ih]

theorem absent_of_mem_fields {separator : Char} {characters piece : List Char}
    (among : piece ∈ fields separator characters) : separator ∉ piece := by
  induction characters generalizing piece with
  | nil =>
      rw [fields, List.mem_singleton] at among
      simp [among]
  | cons character rest ih =>
      rw [fields] at among
      split at among
      · rcases List.mem_cons.mp among with rfl | later
        · exact List.not_mem_nil
        · exact ih later
      · rename_i other
        obtain ⟨first, pieces, split⟩ := List.exists_cons_of_ne_nil (fields_ne_nil separator rest)
        rw [split] at among ih
        rcases List.mem_cons.mp among with rfl | later
        · simp [Ne.symm other, ih List.mem_cons_self]
        · exact ih (List.mem_cons_of_mem _ later)

end Text

namespace ChannelMap

open Text

variable {text piece : String} {speakers : List Speaker} {map : ChannelMap}

/-- The text is at least one piece, with a dash between each two and none within. -/
structure MadeOf (text : String) (parts : List String) : Prop where
  nonempty : parts ≠ []
  undashed : ∀ part ∈ parts, '-' ∉ part.toList
  joined : text = "-".intercalate parts

theorem pieces_eq_iff {parts : List String} : pieces text = parts ↔ MadeOf text parts := by
  constructor
  · intro same
    subst same
    refine ⟨by simpa [pieces] using fields_ne_nil '-' text.toList, ?_, ?_⟩
    · intro part among
      obtain ⟨field, within, rfl⟩ := List.mem_map.mp among
      rw [String.toList_ofList]
      exact absent_of_mem_fields within
    · have same : (pieces text).map String.toList = fields '-' text.toList := by
        simp [pieces, Function.comp_def]
      rw [← String.toList_inj, String.toList_intercalate, same]
      exact (intercalate_fields '-' text.toList).symm
  · intro made
    obtain ⟨some, undashed, rfl⟩ := made
    have apart : ∀ field ∈ parts.map String.toList, '-' ∉ field := by
      intro field among
      obtain ⟨part, within, rfl⟩ := List.mem_map.mp among
      exact undashed part within
    rw [pieces, String.toList_intercalate]
    change (fields '-' (['-'].intercalate _)).map String.ofList = parts
    rw [fields_intercalate (by simpa using some) apart, List.map_map]
    simp [Function.comp_def]

/-! ## Lists of speakers -/

def Nameless (piece : String) : Prop :=
  ∀ speaker : Speaker, speaker.name ≠ piece

theorem ofName?_eq_none_iff : Speaker.ofName? piece = none ↔ Nameless piece := by
  simp [Speaker.ofName?, Nameless, List.find?_eq_none, Speaker.mem_all]

theorem speakersOf_ok_iff {parts : List String} :
    speakersOf parts = .ok speakers ↔ parts = speakers.map Speaker.name := by
  constructor
  · intro read
    induction parts generalizing speakers with
    | nil =>
        cases read
        rfl
    | cons part rest ih =>
        rw [speakersOf] at read
        split at read
        · contradiction
        · rename_i speaker found
          cases others : speakersOf rest with
          | error cause =>
              rw [others] at read
              contradiction
          | ok known =>
              rw [others] at read
              cases read
              rw [List.map_cons, Speaker.name_of_ofName? found, ih others]
  · intro same
    subst same
    exact speakersOf_names speakers

theorem speakersOf_error_iff {parts : List String} {cause : ParseError} :
    speakersOf parts = .error cause ↔ ∃ (known : List Speaker) (piece : String) (rest : List String),
      parts = known.map Speaker.name ++ piece :: rest ∧ Nameless piece ∧ cause = .unknownSpeaker piece := by
  constructor
  · intro read
    induction parts with
    | nil => contradiction
    | cons part rest ih =>
        rw [speakersOf] at read
        split at read
        · rename_i unknown
          cases read
          exact ⟨[], part, rest, rfl, ofName?_eq_none_iff.mp unknown, rfl⟩
        · rename_i speaker found
          cases others : speakersOf rest with
          | error failed =>
              rw [others] at read
              cases read
              obtain ⟨known, piece, later, rfl, nameless, rfl⟩ := ih others
              exact ⟨speaker :: known, piece, later, by rw [List.map_cons, Speaker.name_of_ofName? found]; rfl,
                nameless, rfl⟩
          | ok known =>
              rw [others] at read
              contradiction
  · intro unknown
    obtain ⟨known, piece, rest, rfl, nameless, rfl⟩ := unknown
    induction known with
    | nil => simp [speakersOf, ofName?_eq_none_iff.mpr nameless]
    | cons speaker known ih => simp [speakersOf, ih, Except.map]

theorem MadeOf.names (some : speakers ≠ []) :
    MadeOf ("-".intercalate (speakers.map Speaker.name)) (speakers.map Speaker.name) where
  nonempty := by simpa using some
  undashed part among := by
    obtain ⟨speaker, -, rfl⟩ := List.mem_map.mp among
    exact speaker.name_undashed
  joined := rfl

/-- What becomes of a text that is read as a list of speakers. -/
inductive ListReading (text : String) : Except ParseError ChannelMap → Prop
  | known {map : ChannelMap} : text = "-".intercalate (map.speakers.map Speaker.name) → ListReading text (.ok map)
  | unknown {known : List Speaker} {piece : String} {rest} :
      MadeOf text (known.map Speaker.name ++ piece :: rest) → Nameless piece →
      ListReading text (.error (.unknownSpeaker piece))
  | repeated {speakers : List Speaker} :
      speakers ≠ [] → ¬ speakers.Nodup → text = "-".intercalate (speakers.map Speaker.name) →
      ListReading text (.error (.invalidLayout text))

theorem ofSpeakerList_reading (text : String) : ListReading text (ofSpeakerList text) := by
  unfold ofSpeakerList
  split
  · rename_i cause failed
    obtain ⟨known, piece, rest, parts, nameless, rfl⟩ := speakersOf_error_iff.mp failed
    exact .unknown (pieces_eq_iff.mp parts) nameless
  · rename_i speakers known
    have parts : MadeOf text (speakers.map Speaker.name) := pieces_eq_iff.mp (speakersOf_ok_iff.mp known)
    split
    · rename_i map made
      refine .known ?_
      rw [ofSpeakers?_eq_some_iff.mp made]
      exact parts.joined
    · rename_i refused
      have some : speakers ≠ [] := by simpa using parts.nonempty
      exact .repeated some ((ofSpeakers?_eq_none_iff.mp refused).resolve_left some) parts.joined

theorem ListReading.read {result : Except ParseError ChannelMap} (reading : ListReading text result) :
    ofSpeakerList text = result := by
  cases reading with
  | known listed => rw [listed, ← ChannelMap.listed, ofSpeakerList_listed]
  | unknown parts nameless =>
      rw [ofSpeakerList, speakersOf_error_iff.mpr ⟨_, _, _, pieces_eq_iff.mpr parts, nameless, rfl⟩]
  | @repeated speakers some twice listed =>
      have known : speakersOf (pieces text) = .ok speakers := by
        rw [speakersOf_ok_iff, pieces_eq_iff, listed]
        exact .names some
      have refused : ofSpeakers? speakers = none := ofSpeakers?_eq_none_iff.mpr (.inr twice)
      rw [ofSpeakerList, known]
      simp only [refused]

/-! ## Layout names, counts and lists -/

/-- What a device plays when it is asked for this many channels. -/
def Default (count : Int) (map : ChannelMap) : Prop :=
  ∃ index : Nat, count = index ∧ byCount[index]? = some (some map)

theorem ofCount?_eq_some_iff {count : Int} : ofCount? count = some map ↔ Default count map := by
  cases count with
  | ofNat index => simp [ofCount?, Default, Option.join_eq_some_iff]
  | negSucc below => simp [ofCount?, Default]

theorem ofCount?_eq_none_iff {count : Int} : ofCount? count = none ↔ ∀ map, ¬ Default count map := by
  simp only [Option.eq_none_iff_forall_ne_some, ne_eq, ofCount?_eq_some_iff]

/-- What becomes of a text without blanks around it. -/
inductive Reading (text : String) : Except ParseError ChannelMap → Prop
  | named {layout} : layout ∈ Layout.table → layout.name = text → Reading text (.ok layout.map)
  | counted {count} {map : ChannelMap} : Int32Literal text count → Default count map → Reading text (.ok map)
  | uncounted {count} : Int32Literal text count → (∀ map, ¬ Default count map) →
      Reading text (.error (.noDefaultLayout count))
  | listed {result} : (∀ layout ∈ Layout.table, layout.name ≠ text) → (∀ count, ¬ Int32Literal text count) →
      ListReading text result → Reading text result

theorem parse_reading (text : String) : Reading (trim text) (parse text) := by
  unfold parse
  dsimp only
  split
  · rename_i layout found
    exact .named (List.mem_of_find?_eq_some found) (by simpa using List.find?_some found)
  · rename_i nameless
    have unnamed : ∀ layout ∈ Layout.table, layout.name ≠ trim text := by
      simpa [Layout.named?] using nameless
    split
    · rename_i count read
      split
      · rename_i map found
        exact .counted (int32?_eq_some_iff.mp read) (ofCount?_eq_some_iff.mp found)
      · rename_i missing
        exact .uncounted (int32?_eq_some_iff.mp read) (ofCount?_eq_none_iff.mp missing)
    · rename_i unread
      exact .listed unnamed (int32?_eq_none_iff.mp unread) (ofSpeakerList_reading _)

theorem named?_of_literal {count : Int} (literal : Int32Literal text count) : Layout.named? text = none := by
  refine List.find?_eq_none.mpr fun layout inTable => ?_
  intro same
  have numeral := int32?_eq_some_iff.mpr literal
  rw [← beq_iff_eq.mp same, Layout.name_no_numeral inTable] at numeral
  contradiction

theorem Reading.read {result : Except ParseError ChannelMap} (reading : Reading (trim text) result) :
    parse text = result := by
  unfold parse
  cases reading with
  | named inTable same =>
      have found := Layout.named?_name inTable
      rw [same] at found
      simp only [found]
  | counted literal default =>
      simp only [named?_of_literal literal, int32?_eq_some_iff.mpr literal, ofCount?_eq_some_iff.mpr default]
  | uncounted literal missing =>
      simp only [named?_of_literal literal, int32?_eq_some_iff.mpr literal, ofCount?_eq_none_iff.mpr missing]
  | listed unnamed unread others =>
      have nameless : Layout.named? (trim text) = none := by
        simpa [Layout.named?] using unnamed
      simp only [nameless, int32?_eq_none_iff.mpr unread, others.read]

/--
Without the blanks around it, a text is accepted exactly if it is the name of a layout, or a numeral of 32 bits that a
layout stands for, or no such numeral and the names of different speakers between dashes; what it is, it is read as. A
numeral without a layout is reported as one and is not read as a list. Of any other text the first piece that names no
speaker is reported, or else that a speaker stands in it twice. Every map that is read has speakers, and none twice.
-/
theorem parse_iff (text : String) :
    IsCore text (trim text) ∧
    (∀ map, parse text = .ok map ↔
      (∃ layout ∈ Layout.table, layout.name = trim text ∧ layout.map = map) ∨
      (∃ count, Int32Literal (trim text) count ∧ Default count map) ∨
      ((∀ count, ¬ Int32Literal (trim text) count) ∧
        trim text = "-".intercalate (map.speakers.map Speaker.name))) ∧
    (∀ map, parse text = .ok map → map.speakers ≠ [] ∧ map.speakers.Nodup) ∧
    (∀ result, parse text = result ↔ Reading (trim text) result) := by
  have reads : ∀ result, parse text = result ↔ Reading (trim text) result := by
    intro result
    constructor
    · intro same
      exact same ▸ parse_reading text
    · exact Reading.read
  refine ⟨trim_core text, ?_, fun map _ => ⟨map.nonempty, map.nodup⟩, reads⟩
  intro map
  rw [reads]
  constructor
  · intro reading
    cases reading with
    | named inTable same => exact .inl ⟨_, inTable, same, rfl⟩
    | counted literal default => exact .inr (.inl ⟨_, literal, default⟩)
    | listed _ unread others =>
        cases others with
        | known listed => exact .inr (.inr ⟨unread, listed⟩)
  · intro accepted
    rcases accepted with ⟨layout, inTable, same, rfl⟩ | ⟨count, literal, default⟩ | ⟨unread, listed⟩
    · exact .named inTable same
    · exact .counted literal default
    · -- No layout has a name that is a list of speakers, so that a list is read as one whatever is tried before.
      refine .listed ?_ unread (.known listed)
      intro layout inTable same
      exact map.listed_no_name inTable (same.trans listed)

end ChannelMap

end PcmOutput
