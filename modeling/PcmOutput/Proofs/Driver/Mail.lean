import PcmOutput.Proofs.Driver.Custody
import PcmOutput.Proofs.State.Belief

/-!
# The mail of a driver

What a driver leaves for its owner goes into one mailbox of eight places, and what finds no place is lost. The owner is
asked for another driver by the first error callback only: the message arrives if there was room for it at that moment,
and no later callback sends it again.
-/

set_option autoImplicit false

namespace PcmOutput

variable {δ τ : Type}

namespace Mailbox

/-- The owner takes the oldest message. -/
def receive (mailbox : Mailbox) : Option Message × Mailbox :=
  (mailbox.waiting.head?, { mailbox with waiting := mailbox.waiting.tail })

def hasRoom (mailbox : Mailbox) : Bool :=
  mailbox.attended && decide (mailbox.waiting.length < capacity)

/-- The messages that were put into a mailbox after those that were in it. -/
def arrived (before after : Mailbox) : List Message :=
  after.waiting.drop before.waiting.length

variable {mailbox after : Mailbox} {message : Message} {taken : List Message}

theorem offered_eq : mailbox.offered message =
    { mailbox with waiting := mailbox.waiting ++ if mailbox.hasRoom then [message] else [] } := by
  obtain ⟨waiting, attended⟩ := mailbox
  unfold offered post hasRoom
  cases attended with
  | false => simp
  | true =>
      by_cases full : capacity ≤ waiting.length
      · simp [full, Nat.not_lt.mpr full]
      · simp [full, Nat.lt_of_not_le full]

theorem arrived_offered :
    mailbox.arrived (mailbox.offered message) = if mailbox.hasRoom then [message] else [] := by
  rw [offered_eq]
  exact List.drop_left

theorem arrived_self : mailbox.arrived mailbox = [] :=
  List.drop_length

theorem arrived_taken (split : mailbox.waiting = taken ++ after.waiting) : mailbox.arrived after = [] := by
  apply List.drop_eq_nil_of_le
  rw [split, List.length_append]
  omega

end Mailbox

/-- A turn of the device or of the owner, who may also take the messages one by one. -/
inductive Turn
  | acted (act : Act)
  | received

namespace Turn

def next [AudioSource τ] (turn : Turn) (driver : Driver (WatchedDevice δ) τ) : Driver (WatchedDevice δ) τ :=
  match turn with
  | .acted act => (act.handling.run driver).2
  | .received => { driver with desk := { driver.desk with mailbox := driver.desk.mailbox.receive.2 } }

def taken (mailbox : Mailbox) : Turn → List Message
  | .acted (.step .collect) => mailbox.collect.1
  | .received => mailbox.receive.1.toList
  | _ => []

/-- Whether the turn is an error callback that finds its context. -/
def complains (driver : Driver δ τ) : Turn → Bool
  | .acted (.step (.error _)) => driver.context.isSome
  | _ => false

end Turn

/-- A driver with all that ever came into its mailbox, and what of it the owner got. -/
structure Ledger (δ τ : Type) where
  driver : Driver (WatchedDevice δ) τ
  sent : List Message := []
  received : List Message := []
  /-- The mailbox as each error callback found it. -/
  complaints : List Mailbox := []

namespace Ledger

def enter [AudioSource τ] (ledger : Ledger δ τ) (turn : Turn) : Ledger δ τ :=
  let mailbox := ledger.driver.desk.mailbox
  let next := turn.next ledger.driver
  { driver := next
    sent := ledger.sent ++ mailbox.arrived next.desk.mailbox
    received := ledger.received ++ turn.taken mailbox
    complaints := ledger.complaints ++ if turn.complains ledger.driver then [mailbox] else [] }

/-- Whether the first error callback found room for its message. -/
def carried (ledger : Ledger δ τ) : Bool :=
  ledger.complaints.head?.any Mailbox.hasRoom

end Ledger

def Driver.ledger [AudioSource τ] (turns : List Turn) (driver : Driver (WatchedDevice δ) τ) : Ledger δ τ :=
  turns.foldl Ledger.enter { driver := driver }

/-! ## What a turn does to the mailbox -/

section

variable {driver next : Driver δ τ} {output after : Output δ τ}

theorem Fits.withMailbox (fits : Fits driver output) (mailbox : Mailbox) :
    Fits { driver with desk := { driver.desk with mailbox := mailbox } } { output with mailbox := mailbox } := by
  obtain ⟨desk, phase⟩ := fits
  cases phase with
  | idle source => exact .intro { desk with mailbox := mailbox } (.idle source)
  | ready session => exact .intro { desk with mailbox := mailbox } (.ready session)

/-- Everything a turn can do to the mailbox, and to the word that the owner has been asked. -/
inductive Mailing (driver : Driver δ τ) (turn : Turn) (next : Driver δ τ) : Prop where
  | taken : turn.complains driver = false → next.desk.reloadRequested = driver.desk.reloadRequested →
      next.desk.mailbox.attended = driver.desk.mailbox.attended →
      driver.desk.mailbox.waiting = turn.taken driver.desk.mailbox ++ next.desk.mailbox.waiting →
      Mailing driver turn next
  | ended : turn.complains driver = false → turn.taken driver.desk.mailbox = [] →
      next.desk.reloadRequested = driver.desk.reloadRequested →
      next.desk.mailbox = driver.desk.mailbox.offered .drained → Mailing driver turn next
  | asked : turn.complains driver = true → turn.taken driver.desk.mailbox = [] →
      driver.desk.reloadRequested = false → next.desk.reloadRequested = true →
      next.desk.mailbox = driver.desk.mailbox.offered .reload → Mailing driver turn next
  | askedAgain : turn.complains driver = true → turn.taken driver.desk.mailbox = [] →
      driver.desk.reloadRequested = true → next.desk.reloadRequested = true →
      next.desk.mailbox = driver.desk.mailbox → Mailing driver turn next
  | abandoned : turn = .acted (.step .abandon) → next.desk.reloadRequested = driver.desk.reloadRequested →
      next.desk.mailbox = driver.desk.mailbox.abandon → Mailing driver turn next

theorem Mailing.silent {turn : Turn} (fits : Fits driver output) (fits' : Fits next after)
    (uncomplaining : turn.complains driver = false) (untaken : turn.taken driver.desk.mailbox = [])
    (requested : after.reloadRequested = output.reloadRequested) (mailbox : after.mailbox = output.mailbox) :
    Mailing driver turn next := by
  rw [← fits.mailbox, ← fits'.mailbox] at mailbox
  rw [← fits.reloadRequested, ← fits'.reloadRequested] at requested
  exact .taken uncomplaining requested (by rw [mailbox]) (by rw [untaken, mailbox, List.nil_append])

theorem Mailing.balance {turn : Turn} (mailing : Mailing driver turn next) (reads : next.desk.mailbox.attended = true) :
    driver.desk.mailbox.attended = true ∧
      driver.desk.mailbox.waiting ++ driver.desk.mailbox.arrived next.desk.mailbox =
        turn.taken driver.desk.mailbox ++ next.desk.mailbox.waiting := by
  cases mailing with
  | taken _ _ present split =>
      exact ⟨present.symm.trans reads, by rw [Mailbox.arrived_taken split, List.append_nil, split]⟩
  | ended _ untaken _ mailbox | asked _ untaken _ _ mailbox =>
      rw [mailbox, Mailbox.offered_eq] at reads
      rw [untaken, mailbox, Mailbox.arrived_offered, Mailbox.offered_eq]
      exact ⟨reads, rfl⟩
  | askedAgain _ untaken _ _ mailbox =>
      rw [mailbox] at reads ⊢
      exact ⟨reads, by rw [untaken, Mailbox.arrived_self, List.append_nil, List.nil_append]⟩
  | abandoned _ _ mailbox =>
      rw [mailbox] at reads
      cases reads

theorem Mailing.attended {turn : Turn} (mailing : Mailing driver turn next) (stays : turn ≠ .acted (.step .abandon)) :
    next.desk.mailbox.attended = driver.desk.mailbox.attended := by
  cases mailing with
  | taken _ _ present => exact present
  | ended _ _ _ mailbox | asked _ _ _ _ mailbox => rw [mailbox, Mailbox.offered_eq]
  | askedAgain _ _ _ _ mailbox => rw [mailbox]
  | abandoned turned => exact absurd turned stays

theorem Mailing.asks {turn : Turn} (mailing : Mailing driver turn next) :
    (turn.complains driver = false ∧ next.desk.reloadRequested = driver.desk.reloadRequested ∧
      (driver.desk.mailbox.arrived next.desk.mailbox).count .reload = 0) ∨
    (turn.complains driver = true ∧ next.desk.reloadRequested = true ∧
      (driver.desk.mailbox.arrived next.desk.mailbox).count .reload =
        (!driver.desk.reloadRequested && driver.desk.mailbox.hasRoom).toNat) := by
  cases mailing with
  | taken uncomplaining same _ split =>
      exact .inl ⟨uncomplaining, same, by rw [Mailbox.arrived_taken split]; rfl⟩
  | ended uncomplaining _ same mailbox =>
      refine .inl ⟨uncomplaining, same, ?_⟩
      rw [mailbox, Mailbox.arrived_offered]
      split <;> rfl
  | asked complains _ unasked requested mailbox =>
      refine .inr ⟨complains, requested, ?_⟩
      rw [mailbox, Mailbox.arrived_offered, unasked]
      cases driver.desk.mailbox.hasRoom <;> rfl
  | askedAgain complains _ asked requested mailbox =>
      refine .inr ⟨complains, requested, ?_⟩
      rw [mailbox, Mailbox.arrived_self, asked]
      rfl
  | abandoned turned same mailbox =>
      subst turned
      refine .inl ⟨rfl, same, ?_⟩
      rw [mailbox]
      exact List.count_eq_zero_of_not_mem (by simp [Mailbox.arrived, Mailbox.abandon])

end

section

variable [AudioSource τ] {driver next : Driver (WatchedDevice δ) τ} {output after : Output (WatchedDevice δ) τ}

theorem Delivering.mailing {request : DataRequest} {answer : DataAnswer} {filled : Output (WatchedDevice δ) τ}
    (delivering : Delivering request output answer filled) (fits : Fits driver output)
    (fits' : Fits next (filled.witnessing (.calledBack request.stream answer.result))) :
    Mailing driver (.acted (.step (.data request))) next := by
  cases delivering with
  | lost => exact .silent fits fits' rfl rfl rfl rfl
  | filled _ _ _ reading =>
      have requested := reading.reloadRequested
      have mailbox := reading.mailbox
      split at mailbox
      · refine .ended rfl rfl ?_ ?_
        · rw [fits.reloadRequested, fits'.reloadRequested]
          exact requested
        · rw [fits.mailbox, fits'.mailbox]
          exact mailbox
      · exact .silent fits fits' rfl rfl requested mailbox

omit [AudioSource τ] in
theorem Complaining.mailing {code : Int} (complaining : Complaining output after) (fits : Fits driver output)
    (fits' : Fits next after) : Mailing driver (.acted (.step (.error code))) next := by
  have complains : (Turn.acted (.step (.error code))).complains driver = output.session?.isSome := by
    rw [Turn.complains, fits.context, Option.isSome_map]
  cases complaining with
  | idle idle =>
      rw [Output.session?, idle] at complains
      exact .silent fits fits' complains rfl rfl rfl
  | ready ready =>
      rw [Output.session?, ready] at complains
      have mailbox := fits'.mailbox
      rw [← fits.mailbox] at mailbox
      cases requested : output.reloadRequested with
      | true =>
          rw [requested] at mailbox
          exact .askedAgain complains rfl (fits.reloadRequested.trans requested) fits'.reloadRequested mailbox
      | false =>
          rw [requested] at mailbox
          exact .asked complains rfl (fits.reloadRequested.trans requested) fits'.reloadRequested mailbox

theorem Fits.mailing (fits : Fits driver output) (reports : output.Reports) (turn : Turn) :
    Mailing driver turn (turn.next driver) := by
  cases turn with
  | received =>
      refine .taken rfl rfl rfl ?_
      show _ = driver.desk.mailbox.waiting.head?.toList ++ driver.desk.mailbox.waiting.tail
      cases driver.desk.mailbox.waiting <;> rfl
  | acted act =>
      obtain ⟨-, fits'⟩ := act.handling_refines.run fits
      have acted : Acted output act _ _ := act.work_acted reports
      change Mailing driver (.acted act) (act.handling.run driver).2
      generalize next : (act.handling.run driver).2 = driver' at fits' ⊢
      generalize (act.work.run output).1 = outcome, (act.work.run output).2 = after at acted fits'
      cases acted with
      | counted kept => exact .silent fits fits' rfl rfl kept.reloadRequested kept.mailbox
      | filled delivering => exact delivering.mailing fits fits'
      | completed other course =>
          cases course with
          | init kept | start kept | setPause kept | reset kept | uninit kept =>
              exact .silent fits fits' rfl rfl kept.reloadRequested kept.mailbox
          | lost | filled => exact absurd rfl (other _)
          | error complaining => exact complaining.mailing fits fits'
          -- the course of a reader does not say what it leaves, so the handling is run
          | mailbox which =>
              subst next
              rcases which with rfl | rfl
              · exact .taken rfl rfl rfl (List.append_nil _).symm
              · exact .abandoned rfl rfl rfl

theorem Fits.turned (fits : Fits driver output) (reports : output.Reports) (turn : Turn) :
    ∃ after, Fits (turn.next driver) after ∧ after.Reports := by
  cases turn with
  | acted act => exact ⟨_, (act.handling_refines.run fits).2, (act.work_acted reports).reports reports⟩
  | received => exact ⟨_, fits.withMailbox _, reports.loader, reports.session⟩

end

/-! ## Runs -/

namespace Ledger

/-- What was sent and got tells what the mailbox and the driver know. -/
structure Balanced [AudioSource τ] (ledger : Ledger δ τ) : Prop where
  fits : ∃ output, Fits ledger.driver output ∧ output.Reports
  requested : ledger.driver.desk.reloadRequested = !ledger.complaints.isEmpty
  reloads : ledger.sent.count .reload = ledger.carried.toNat
  delivered : ledger.driver.desk.mailbox.attended = true →
    ledger.sent = ledger.received ++ ledger.driver.desk.mailbox.waiting
  attended : ledger.driver.desk.mailbox.attended = true → ∀ found ∈ ledger.complaints, found.attended = true

variable [AudioSource τ] {ledger : Ledger δ τ}

theorem Balanced.entered (balanced : ledger.Balanced) (turn : Turn) : (ledger.enter turn).Balanced := by
  obtain ⟨output, fits, reports⟩ := balanced.fits
  have mailing := fits.mailing reports turn
  refine ⟨fits.turned reports turn, ?requested, ?reloads, ?delivered, ?attended⟩
  case requested =>
    have requested := balanced.requested
    rcases mailing.asks with ⟨complains, same, -⟩ | ⟨complains, same, -⟩ <;> simp [enter, complains, same, requested]
  case reloads =>
    have reloads := balanced.reloads
    have requested := balanced.requested
    simp only [carried] at reloads
    simp only [enter, carried, List.count_append, reloads]
    rcases mailing.asks with ⟨complains, -, unasked⟩ | ⟨complains, -, asked⟩
    · simp [complains, unasked]
    -- the word that the owner was asked is out from the first complaint on, so a later one leaves no message
    · rw [asked, complains, requested]
      cases ledger.complaints <;> simp
  case delivered =>
    intro reads
    obtain ⟨read, balance⟩ := mailing.balance reads
    simp only [enter]
    rw [balanced.delivered read, List.append_assoc, balance, List.append_assoc]
  case attended =>
    intro reads found among
    obtain ⟨read, -⟩ := mailing.balance reads
    rcases List.mem_append.mp among with earlier | now
    · exact balanced.attended read found earlier
    · split at now
      · rw [List.mem_singleton.mp now]
        exact read
      · cases now

theorem Balanced.onward (balanced : ledger.Balanced) (turns : List Turn) : (turns.foldl enter ledger).Balanced := by
  induction turns generalizing ledger with
  | nil => exact balanced
  | cons turn rest ih => exact ih (balanced.entered turn)

theorem Balanced.read (balanced : ledger.Balanced) (reads : ledger.driver.desk.mailbox.attended = true)
    {turns : List Turn} (stays : .acted (.step .abandon) ∉ turns) :
    (turns.foldl enter ledger).driver.desk.mailbox.attended = true := by
  induction turns generalizing ledger with
  | nil => exact reads
  | cons turn rest ih =>
      obtain ⟨here, later⟩ := List.ne_and_not_mem_of_not_mem_cons stays
      obtain ⟨output, fits, reports⟩ := balanced.fits
      exact ih (balanced.entered turn) (((fits.mailing reports turn).attended here.symm).trans reads) later

theorem complaints_onward (ledger : Ledger δ τ) (turns : List Turn) :
    ∃ more, (turns.foldl enter ledger).complaints = ledger.complaints ++ more := by
  induction turns generalizing ledger with
  | nil => exact ⟨[], (List.append_nil _).symm⟩
  | cons turn rest ih =>
      obtain ⟨more, same⟩ := ih (ledger.enter turn)
      exact ⟨_, same.trans (List.append_assoc _ _ _)⟩

end Ledger

theorem Driver.ledger_balanced [AudioSource τ] (options : Options) (load : Loader δ) (source : τ) (device : δ)
    (turns : List Turn) : ((Driver.fresh options load source device).ledger turns).Balanced := by
  have fresh : ({ driver := Driver.fresh options load source device } : Ledger δ τ).Balanced :=
    { fits := ⟨_, Driver.fresh_fits options load source device, Output.begun_reports options load source device⟩
      requested := rfl
      reloads := rfl
      delivered := fun _ => rfl
      attended := by simp }
  exact fresh.onward turns

theorem Driver.errorCallback_leaves (driver : Driver (WatchedDevice δ) τ) (code : Int) : ∃ mailbox journal,
    ((Driver.errorCallback code).run driver).2 = { driver with desk := { driver.desk with
      reloadRequested := driver.desk.reloadRequested || driver.context.isSome
      mailbox := mailbox
      journal := journal } } := by
  obtain ⟨desk, api, builder, stream, context, config, source, format, reached, deviceBuffer⟩ := driver
  cases context with
  | none =>
      refine ⟨desk.mailbox, desk.journal, ?_⟩
      rw [Option.isSome_none, Bool.or_false]
      rfl
  | some context =>
      let text := ((resultText context.api code).run desk).1
      let noted := { desk with journal := desk.journal ++ [Line.mk .error s!"{text}, trying to reload..."] }
      obtain ⟨mailbox, journal, asked⟩ : ∃ mailbox journal, (requestReload.run noted).2 =
          { noted with reloadRequested := true, mailbox := mailbox, journal := journal } :=
        ⟨_, requestReload_course⟩
      refine ⟨mailbox, journal, ?_⟩
      rw [Option.isSome_some, Bool.or_true]
      exact congrArg (fun desk => Driver.mk desk api builder stream (some context) config source format reached
        deviceBuffer) asked

/--
Whatever is done to a driver, and whether or not its owner reads, at most one message in all asks for another driver. The
word that the owner was asked stands from the first error callback on. An error callback changes nothing but this word,
the mailbox and the journal, and the device notices nothing of it.
-/
theorem Driver.reload_once [AudioSource τ] (options : Options) (load : Loader δ) (source : τ) (device : δ)
    (turns : List Turn) :
    let begun := Driver.fresh options load source device
    let ledger := begun.ledger turns
    let driver := ledger.driver
    ledger.sent.count .reload ≤ 1 ∧
    (driver.desk.reloadRequested = true ↔ ledger.complaints ≠ []) ∧
    (driver.desk.reloadRequested = true → ∀ later, (begun.ledger (turns ++ later)).driver.desk.reloadRequested = true) ∧
    ∀ code, let next := ((Act.step (.error code)).handling.run driver).2
      (∃ mailbox journal, next = { driver with desk := { driver.desk with
        reloadRequested := driver.desk.reloadRequested || driver.context.isSome
        mailbox := mailbox
        journal := journal } }) ∧
      next.state = driver.state ∧ next.traffic = driver.traffic := by
  intro begun ledger driver
  have balanced : ∀ turns, (begun.ledger turns).Balanced := Driver.ledger_balanced options load source device
  have asked : ∀ turns, (begun.ledger turns).driver.desk.reloadRequested = true ↔ (begun.ledger turns).complaints ≠ [] := by
    intro turns
    rw [(balanced turns).requested, Bool.not_eq_true', List.isEmpty_eq_false_iff]
  refine ⟨?_, asked turns, fun requested later => ?_, fun code => ?_⟩
  · rw [(balanced turns).reloads]
    exact Bool.toNat_le _
  · obtain ⟨more, same⟩ := ledger.complaints_onward later
    rw [asked, Driver.ledger, List.foldl_append]
    change (later.foldl Ledger.enter ledger).complaints ≠ []
    rw [same]
    exact List.append_ne_nil_of_left_ne_nil ((asked turns).mp requested) more
  · obtain ⟨mailbox, journal, same⟩ := driver.errorCallback_leaves code
    change ((Act.step (.error code)).handling.run driver).2 = _ at same
    refine ⟨⟨mailbox, journal, same⟩, ?_, ?_⟩
    · rw [same]
      rfl
    · rw [same]
      rfl

/--
An owner who stays has or gets every message that was put into the mailbox. Among them is the one that asks for another
driver exactly if fewer messages were unread when the first error callback ran than the mailbox holds; if it was full,
no later callback makes up for it.
-/
theorem Driver.reload_arrives_iff [AudioSource τ] (options : Options) (load : Loader δ) (source : τ) (device : δ)
    (turns : List Turn) (stays : .acted (.step .abandon) ∉ turns) :
    let ledger := (Driver.fresh options load source device).ledger turns
    let waiting := ledger.driver.desk.mailbox.waiting
    ledger.sent = ledger.received ++ waiting ∧
      (.reload ∈ ledger.received ∨ .reload ∈ waiting ↔
        ∃ found rest, ledger.complaints = found :: rest ∧ found.waiting.length < Mailbox.capacity) := by
  intro ledger waiting
  have balanced : ledger.Balanced := Driver.ledger_balanced options load source device turns
  have reads : ledger.driver.desk.mailbox.attended = true :=
    (Driver.ledger_balanced options load source device []).read rfl stays
  have delivered := balanced.delivered reads
  have attended := balanced.attended reads
  refine ⟨delivered, ?_⟩
  rw [← List.mem_append, ← delivered, ← List.count_pos_iff, balanced.reloads, Ledger.carried]
  cases complaints : ledger.complaints with
  | nil => simp
  | cons found rest =>
      have present := attended found (by simp [complaints])
      simp [Mailbox.hasRoom, present, Nat.pos_iff_ne_zero]

def SimulatedSource.fitful : SimulatedSource where
  program := .scripted { endingReads := List.range' 1 8 }

/-- The owner starts the stream anew whenever it has ended, and an error follows. -/
def Turn.endings (count : Nat) : List Turn :=
  .acted (.step (.init .plain)) ::
    (List.replicate count [.acted (.step .start), .acted (.step (.data (.genuine ⟨1⟩)))]).flatten ++
    [.acted (.step (.error ResultCode.disconnected))]

theorem Driver.reload_arrives_seven :
    let turns := Turn.endings 7 ++ [.received]
    let ledger := (Driver.fresh {} (presentLoader (SimulatedDevice.api 27 [])) SimulatedSource.fitful {}).ledger turns
    .acted (.step .abandon) ∉ turns ∧ ledger.complaints = [⟨List.replicate 7 .drained, true⟩] ∧
      (.reload ∈ ledger.received ∨ .reload ∈ ledger.driver.desk.mailbox.waiting) := by
  have stays : .acted (.step .abandon) ∉ Turn.endings 7 ++ [.received] := by simp [Turn.endings]
  have complained : ((Driver.fresh {} (presentLoader (SimulatedDevice.api 27 [])) SimulatedSource.fitful {}).ledger
      (Turn.endings 7 ++ [.received])).complaints = [⟨List.replicate 7 .drained, true⟩] := by
    decide +kernel
  obtain ⟨-, arrives⟩ := Driver.reload_arrives_iff {} (presentLoader (SimulatedDevice.api 27 []))
    SimulatedSource.fitful {} _ stays
  exact ⟨stays, complained, arrives.mpr ⟨_, _, complained, by decide⟩⟩

/-- The eighth message that was not read leaves no room for the one that matters, and it is not sent again. -/
theorem Driver.reload_lost :
    let turns := Turn.endings 8 ++ [.acted (.step .collect), .acted (.step (.error ResultCode.disconnected)), .received]
    let ledger := (Driver.fresh {} (presentLoader (SimulatedDevice.api 27 [])) SimulatedSource.fitful {}).ledger turns
    .acted (.step .abandon) ∉ turns ∧ ledger.complaints.length = 2 ∧
      .reload ∉ ledger.received ∧ .reload ∉ ledger.driver.desk.mailbox.waiting := by
  refine ⟨by simp [Turn.endings], ?_⟩
  decide +kernel

end PcmOutput
