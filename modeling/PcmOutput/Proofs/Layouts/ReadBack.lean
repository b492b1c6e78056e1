import PcmOutput.ChannelMap.Notation

/-!
# Channel maps read back

What is written for a map is read back as this map, whatever blanks stand around it. Layout names, counts of channels
and lists of speakers are never taken for each other: no list of speakers is a layout name or a numeral, and no layout
name is a numeral.
-/

set_option autoImplicit false

namespace PcmOutput

open Text

/-! ## Names -/

theorem Speaker.name_sound (speaker : Speaker) : ∀ character ∈ speaker.name.toList, isBlank character = false := by
  have sound : speaker.name.toList.any isBlank = false := by
    cases speaker <;> decide
  simpa using sound

theorem Speaker.name_undashed (speaker : Speaker) : '-' ∉ speaker.name.toList := by
  cases speaker <;> decide

/-- The first character is neither a digit nor a sign. -/
theorem Speaker.name_begins (speaker : Speaker) :
    ∃ first rest, speaker.name.toList = first :: rest ∧ digit? first = none ∧ first ≠ '+' ∧ first ≠ '-' := by
  cases speaker <;> exact ⟨_, _, rfl, by decide⟩

namespace Layout

theorem named?_name {layout : Layout} (listed : layout ∈ table) : named? layout.name = some layout := by
  revert layout
  decide +kernel

theorem name_sound {layout : Layout} (listed : layout ∈ table) :
    ∀ character ∈ layout.name.toList, isBlank character = false := by
  have sound : ∀ layout ∈ table, layout.name.toList.any isBlank = false := by
    decide +kernel
  simpa using sound layout listed

theorem name_no_numeral {layout : Layout} (listed : layout ∈ table) : int32? layout.name = none := by
  revert layout
  decide +kernel

/-- A layout name read as a list of speakers has a piece that names none. -/
theorem name_no_list {layout : Layout} (listed : layout ∈ table) :
    ∃ piece ∈ ChannelMap.pieces layout.name, Speaker.ofName? piece = none := by
  revert layout
  decide +kernel

theorem map_of_ofMap? {map : ChannelMap} {layout : Layout} (found : ofMap? map = some layout) :
    layout ∈ table ∧ layout.map = map := by
  unfold ofMap? at found
  have same : layout.map.speakers = map.speakers := by simpa using List.find?_some found
  exact ⟨List.mem_of_find?_eq_some found, Option.some.inj <|
    (ChannelMap.ofSpeakers?_speakers _).symm.trans (ChannelMap.ofSpeakers?_eq_some_iff.mpr same.symm)⟩

end Layout

namespace ChannelMap

/-! ## Lists of speakers -/

/-- The speakers of a map between dashes, also where their layout has a name. -/
def listed (map : ChannelMap) : String :=
  "-".intercalate (map.speakers.map Speaker.name)

theorem toList_listed (map : ChannelMap) :
    map.listed.toList = ['-'].intercalate (map.speakers.map fun speaker => speaker.name.toList) := by
  rw [listed, String.toList_intercalate, List.map_map]
  rfl

/-- What stands in a list of speakers: dashes, and what stands in their names. -/
theorem mem_listed {map : ChannelMap} {character : Char} (among : character ∈ map.listed.toList) :
    character = '-' ∨ ∃ speaker : Speaker, character ∈ speaker.name.toList := by
  rw [toList_listed] at among
  -- The induction leaves the maps: the rest of the speakers may be none.
  generalize map.speakers = speakers at among
  induction speakers with
  | nil => cases among
  | cons speaker rest ih =>
      cases rest with
      | nil => exact .inr ⟨speaker, by simpa using among⟩
      | cons next others =>
          simp only [List.map_cons, List.intercalate_cons_cons, List.mem_append, List.mem_singleton] at among
          rcases among with (own | dash) | later
          · exact .inr ⟨speaker, own⟩
          · exact .inl dash
          · exact ih (by simpa using later)

theorem listed_sound (map : ChannelMap) : ∀ character ∈ map.listed.toList, isBlank character = false := by
  intro character among
  rcases mem_listed among with rfl | ⟨speaker, own⟩
  · decide
  · exact speaker.name_sound character own

theorem listed_begins (map : ChannelMap) :
    ∃ first rest, map.listed.toList = first :: rest ∧ digit? first = none ∧ first ≠ '+' ∧ first ≠ '-' := by
  obtain ⟨speaker, others, same⟩ := List.exists_cons_of_ne_nil map.nonempty
  obtain ⟨first, rest, begins, other⟩ := speaker.name_begins
  rw [toList_listed, same]
  cases others with
  | nil => exact ⟨first, rest, by simpa using begins, other⟩
  | cons next others =>
      rw [List.map_cons, List.map_cons, List.intercalate_cons_cons, begins]
      exact ⟨first, _, rfl, other⟩

theorem listed_no_numeral (map : ChannelMap) : int32? map.listed = none := by
  obtain ⟨first, rest, begins, noDigit, noPlus, noMinus⟩ := map.listed_begins
  simp [int32?, begins, integer?, noPlus, noMinus, digits?, digitsFrom?, noDigit]

theorem pieces_listed (map : ChannelMap) : pieces map.listed = map.speakers.map Speaker.name := by
  have some : map.speakers.map (fun speaker => speaker.name.toList) ≠ [] := by
    simpa using map.nonempty
  have undashed : ∀ piece ∈ map.speakers.map (fun speaker => speaker.name.toList), '-' ∉ piece := by
    intro piece among
    obtain ⟨speaker, -, rfl⟩ := List.mem_map.mp among
    exact speaker.name_undashed
  rw [pieces, toList_listed, fields_intercalate some undashed, List.map_map]
  exact List.map_congr_left fun speaker _ => String.ofList_toList

theorem speakersOf_names (speakers : List Speaker) : speakersOf (speakers.map Speaker.name) = .ok speakers := by
  induction speakers with
  | nil => rfl
  | cons speaker rest ih => simp [speakersOf, ih, Except.map]

theorem ofSpeakerList_listed (map : ChannelMap) : ofSpeakerList map.listed = .ok map := by
  simp [ofSpeakerList, pieces_listed, speakersOf_names]

/-- Every piece of a list names a speaker, and of a layout name some piece does not. -/
theorem listed_no_name (map : ChannelMap) {layout : Layout} (inTable : layout ∈ Layout.table) :
    layout.name ≠ map.listed := by
  intro same
  obtain ⟨piece, among, nameless⟩ := Layout.name_no_list inTable
  rw [same, pieces_listed] at among
  obtain ⟨speaker, -, rfl⟩ := List.mem_map.mp among
  rw [Speaker.ofName?_name] at nameless
  contradiction

/-! ## Reading -/

/-- Blanks around a text without blanks make no difference. -/
theorem parse_padded {before text after : String}
    (leading : ∀ character ∈ before.toList, isBlank character = true)
    (sound : ∀ character ∈ text.toList, isBlank character = false)
    (trailing : ∀ character ∈ after.toList, isBlank character = true) :
    parse (before ++ text ++ after) = parse text := by
  rw [parse, parse, trim_padded leading sound trailing, trim_of_forall sound]

theorem parse_listed (map : ChannelMap) : parse map.listed = .ok map := by
  have nameless : Layout.named? map.listed = none := by
    refine List.find?_eq_none.mpr fun layout inTable => ?_
    simpa using map.listed_no_name inTable
  simp only [parse, trim_of_forall map.listed_sound, nameless, map.listed_no_numeral, map.ofSpeakerList_listed]

/-- A map is written as the name of its layout, or as its speakers. -/
theorem written (map : ChannelMap) :
    (∃ layout ∈ Layout.table, layout.map = map ∧ map.name = layout.name) ∨ map.name = map.listed := by
  unfold name
  cases found : Layout.ofMap? map with
  | none => exact .inr rfl
  | some layout =>
      obtain ⟨inTable, own⟩ := Layout.map_of_ofMap? found
      exact .inl ⟨layout, inTable, own, rfl⟩

theorem name_sound (map : ChannelMap) : ∀ character ∈ map.name.toList, isBlank character = false := by
  rcases map.written with ⟨layout, inTable, -, named⟩ | named
  · exact named ▸ Layout.name_sound inTable
  · exact named ▸ map.listed_sound

theorem parse_written (map : ChannelMap) : parse map.name = .ok map := by
  rcases map.written with ⟨layout, inTable, own, named⟩ | named
  · have first : Layout.named? layout.name = some layout := Layout.named?_name inTable
    rw [named, parse, trim_of_forall (Layout.name_sound inTable)]
    simp only [first, own]
  · rw [named, parse_listed]

/--
What is written for a map is read back as this map with its order, whatever blanks stand around it. So no two maps are
written alike: a layout name is only written for its own layout, and what is written is never a numeral. The list of
the speakers of a map is neither a layout name nor a numeral, and is read back as this map too.
-/
theorem read_back (map : ChannelMap) :
    (∀ before after : String, (∀ character ∈ before.toList, isBlank character = true) →
      (∀ character ∈ after.toList, isBlank character = true) →
        parse (before ++ map.name ++ after) = .ok map ∧ parse (before ++ map.listed ++ after) = .ok map) ∧
    (∀ other : ChannelMap, other.name = map.name → other = map) ∧
    (∀ layout ∈ Layout.table, layout.name = map.name → layout.map = map) ∧
    int32? map.name = none ∧
    (∀ layout ∈ Layout.table, layout.name ≠ map.listed) ∧ int32? map.listed = none := by
  refine ⟨fun before after leading trailing => ?_, fun other same => ?_, fun layout inTable same => ?_, ?_,
    fun layout inTable => map.listed_no_name inTable, map.listed_no_numeral⟩
  · rw [parse_padded leading map.name_sound trailing, parse_padded leading map.listed_sound trailing]
    exact ⟨map.parse_written, map.parse_listed⟩
  · have alike : (Except.ok other : Except ParseError ChannelMap) = .ok map := by
      rw [← other.parse_written, same, map.parse_written]
    exact Except.ok.inj alike
  · rcases map.written with ⟨own, listed, rfl, named⟩ | named
    · have found := Layout.named?_name inTable
      rw [same, named, Layout.named?_name listed] at found
      rw [Option.some.inj found]
    · exact absurd (same.trans named) (map.listed_no_name inTable)
  · rcases map.written with ⟨layout, inTable, -, named⟩ | named
    · rw [named, Layout.name_no_numeral inTable]
    · rw [named, map.listed_no_numeral]

end ChannelMap

end PcmOutput
