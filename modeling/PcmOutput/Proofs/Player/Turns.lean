import PcmOutput.Player.Performance
import PcmOutput.Proofs.Watched

/-!
# The turns of a player

A player gives its source one turn after another, until a turn does not end with the wish for another one, or the
reloads are used up. This holds of all kinds of turns, so the turns that were given can be kept with the device.
-/

set_option autoImplicit false

namespace PcmOutput.Player

variable {δ τ : Type}

/-- A turn as it was given: what it began with, how it ended, and what it left. -/
structure Turn (δ τ : Type) where
  source : τ
  scene : Scene δ
  ended : PerformanceEnd τ
  left : Scene δ

def Scene.noted (level : Level) (text : String) (scene : Scene δ) : Scene δ :=
  { scene with journal := scene.journal ++ [⟨level, text⟩] }

def Scene.unwatched {ε : Type} (scene : Scene (Watched δ ε)) : Scene δ :=
  ⟨scene.device.subject, scene.journal⟩

def PerformanceEnd.IsReload : PerformanceEnd τ → Prop
  | .reload _ => True
  | .finished _ | .failed _ | .crashed => False

section Turns

variable (performOnce : τ → StateM (Scene δ) (PerformanceEnd τ))

def turnOf (source : τ) (scene : Scene δ) : Turn δ τ :=
  let (ended, left) := (performOnce source).run scene
  ⟨source, scene, ended, left⟩

/-- The same turns, kept with the device. -/
def recorded (source : τ) : StateM (Scene (Watched δ (Turn δ τ))) (PerformanceEnd τ) :=
  modifyGet fun scene =>
    let turn := turnOf performOnce source scene.unwatched
    (turn.ended, ⟨⟨turn.left.device, scene.device.events ++ [turn]⟩, turn.left.journal⟩)

/-- What a player comes to with a turn that is its last one. -/
def Turn.outcome (most : Nat) (turn : Turn δ τ) : Ending × Scene δ :=
  match turn.ended with
  | .finished _ => (.finished, turn.left.noted .info "Done")
  | .failed message => (.failed message, turn.left.noted .error message)
  | .crashed => (.crashed, turn.left)
  | .reload _ => (.failed s!"giving up after {most} reloads", turn.left)

/-- Turns that are given one after another, with so many reloads left, and what they come to. -/
inductive Series (most : Nat) : Nat → τ → Scene δ → List (Turn δ τ) → Ending × Scene δ → Prop
  | last {left source scene} :
      ((turnOf performOnce source scene).ended.IsReload → left = 0) →
      Series most left source scene [turnOf performOnce source scene] ((turnOf performOnce source scene).outcome most)
  | again {left source scene next rest outcome} :
      (turnOf performOnce source scene).ended = .reload next →
      Series most left next ((turnOf performOnce source scene).left.noted .warning
        s!"Reloading audio output ({most - left}/{most})") rest outcome →
      Series most (left + 1) source scene (turnOf performOnce source scene :: rest) outcome

/-- A turn that is not followed by another one settles what the player comes to. -/
theorem performAll_last (most left : Nat) (source : τ) (scene : Scene δ)
    (last : (turnOf performOnce source scene).ended.IsReload → left = 0) :
    (performAll performOnce most left source).run scene = (turnOf performOnce source scene).outcome most := by
  unfold turnOf at last ⊢
  rw [performAll.eq_def, StateT.run_bind]
  change (fun given : PerformanceEnd τ × Scene δ => _) ((performOnce source).run scene) = _
  generalize (performOnce source).run scene = given at last ⊢
  obtain ⟨ended, after⟩ := given
  cases ended with
  | reload next =>
      cases last trivial
      rfl
  | finished | failed | crashed => rfl

theorem performAll_again (most left : Nat) {source next : τ} {scene : Scene δ}
    (again : (turnOf performOnce source scene).ended = .reload next) :
    (performAll performOnce most (left + 1) source).run scene =
      (performAll performOnce most left next).run ((turnOf performOnce source scene).left.noted .warning
        s!"Reloading audio output ({most - left}/{most})") := by
  unfold turnOf at again ⊢
  rw [performAll, StateT.run_bind]
  change (fun given : PerformanceEnd τ × Scene δ => _) ((performOnce source).run scene) = _
  generalize (performOnce source).run scene = given at again ⊢
  obtain ⟨ended, after⟩ := given
  cases again
  rfl

theorem outcome_recorded (most : Nat) (source : τ) (scene : Scene (Watched δ (Turn δ τ))) :
    let turn := turnOf performOnce source scene.unwatched
    let kept := (turnOf (recorded performOnce) source scene).outcome most
    kept.2.device.events = scene.device.events ++ [turn] ∧ turn.outcome most = (kept.1, kept.2.unwatched) := by
  intro turn kept
  have same : kept = Turn.outcome most ⟨source, scene, turn.ended,
      ⟨⟨turn.left.device, scene.device.events ++ [turn]⟩, turn.left.journal⟩⟩ := rfl
  rw [same]
  unfold Turn.outcome
  cases turn.ended <;> exact ⟨rfl, rfl⟩

/-- A player gives a series of turns, and keeping them changes nothing. -/
theorem performAll_series (most left : Nat) (source : τ) (scene : Scene (Watched δ (Turn δ τ))) :
    let ran := (performAll (recorded performOnce) most left source).run scene
    (∃ turns, ran.2.device.events = scene.device.events ++ turns ∧
      Series performOnce most left source scene.unwatched turns (ran.1, ran.2.unwatched)) ∧
    (performAll performOnce most left source).run scene.unwatched = (ran.1, ran.2.unwatched) := by
  have ends : ∀ (left : Nat) (source : τ) (scene : Scene (Watched δ (Turn δ τ))),
      ((turnOf performOnce source scene.unwatched).ended.IsReload → left = 0) →
      let ran := (performAll (recorded performOnce) most left source).run scene
      (∃ turns, ran.2.device.events = scene.device.events ++ turns ∧
        Series performOnce most left source scene.unwatched turns (ran.1, ran.2.unwatched)) ∧
      (performAll performOnce most left source).run scene.unwatched = (ran.1, ran.2.unwatched) := by
    intro left source scene last
    obtain ⟨events, outcome⟩ := outcome_recorded performOnce most source scene
    rw [performAll_last (recorded performOnce) most left source scene last,
      performAll_last performOnce most left source _ last]
    exact ⟨⟨_, events, outcome ▸ .last last⟩, outcome⟩
  -- The induction is on the reloads left; with none left, whatever a turn ends with is the end.
  induction left generalizing source scene with
  | zero => exact ends 0 source scene fun _ => rfl
  | succ left ih =>
      cases ended : (turnOf performOnce source scene.unwatched).ended with
      | reload next =>
          have kept : (turnOf (recorded performOnce) source scene).ended = .reload next := ended
          rw [performAll_again _ most left kept, performAll_again _ most left ended]
          obtain ⟨⟨turns, events, series⟩, same⟩ := ih next ((turnOf (recorded performOnce) source scene).left.noted
            .warning s!"Reloading audio output ({most - left}/{most})")
          refine ⟨⟨turnOf performOnce source scene.unwatched :: turns, ?_, .again ended series⟩, same⟩
          rw [events]
          exact List.append_assoc _ [_] _
      | finished | failed | crashed => exact ends _ source scene (by simp [ended, PerformanceEnd.IsReload])

namespace Series

variable {performOnce} {most left : Nat} {source : τ} {scene : Scene δ} {turns : List (Turn δ τ)}
  {outcome : Ending × Scene δ}

/-- The first turn is for the source that the player begins with, and there is no more than one turn for each reload. -/
theorem begins (series : Series performOnce most left source scene turns outcome) :
    turns.head? = some (turnOf performOnce source scene) ∧ turns.length ≤ left + 1 := by
  induction series with
  | last => exact ⟨rfl, by simp⟩
  | again _ _ ih => exact ⟨rfl, by simpa using ih.2⟩

/-- Every turn but the last one ended with the wish for another one, which went on from what the turn left. -/
theorem onward (series : Series performOnce most left source scene turns outcome) (index : Nat) (earlier later : Turn δ τ)
    (first : turns[index]? = some earlier) (second : turns[index + 1]? = some later) :
    earlier.ended = .reload later.source ∧ later.scene = earlier.left.noted .warning
      s!"Reloading audio output ({most - (left - (index + 1))}/{most})" := by
  induction series generalizing index with
  | last => simp at second
  | again ended rest ih =>
      cases index with
      | zero =>
          have head := rest.begins.1
          rw [List.head?_eq_getElem?] at head
          simp only [List.getElem?_cons_zero, Option.some.injEq] at first
          simp only [List.getElem?_cons_succ, head, Option.some.injEq] at second
          rw [← first, ← second]
          exact ⟨ended, rfl⟩
      | succ index =>
          rw [Nat.add_sub_add_right]
          exact ih index first second

theorem genuine (series : Series performOnce most left source scene turns outcome) :
    ∀ turn ∈ turns, turn = turnOf performOnce turn.source turn.scene := by
  induction series with
  | last =>
      intro turn among
      rw [List.mem_singleton] at among
      rw [among]
      rfl
  | again ended rest ih =>
      intro turn among
      rcases List.mem_cons.mp among with same | later
      · rw [same]
        rfl
      · exact ih turn later

/-- The last turn settles what the player comes to; it wishes for another one only if no reload is left. -/
theorem ends (series : Series performOnce most left source scene turns outcome) :
    ∃ final, turns.getLast? = some final ∧ outcome = final.outcome most ∧
      (final.ended.IsReload → turns.length = left + 1) := by
  induction series with
  | last last =>
      refine ⟨_, rfl, rfl, ?_⟩
      intro reload
      rw [last reload]
      rfl
  | again ended rest ih =>
      obtain ⟨final, last, settled, used⟩ := ih
      refine ⟨final, ?_, settled, ?_⟩
      · rw [List.getLast?_cons, last]
        rfl
      · intro reload
        rw [List.length_cons, used reload]

theorem reloads (series : Series performOnce most left source scene turns outcome) {final : Turn δ τ}
    (last : turns.getLast? = some final) (reload : final.ended.IsReload) :
    ∀ turn ∈ turns, turn.ended.IsReload := by
  induction series with
  | last =>
      cases last
      simpa using reload
  | again ended rest ih =>
      intro turn among
      rcases List.mem_cons.mp among with same | later
      · rw [same, ended]
        trivial
      · -- What follows is a series with turns of its own, so that both end with the same turn.
        obtain ⟨final', last', -⟩ := rest.ends
        rw [List.getLast?_cons, last'] at last
        cases last
        exact ih last' turn later

end Series

end Turns

end PcmOutput.Player
