import Dswifi.DlPlay.BootSafety

/-! Whom the host gives up on. Two counters of a record go up with every pass, and
replies, chunks and changes of the stage clear them; whether a finished client is
held by the application is looked at only when one of them has run out. -/

namespace Dswifi.DlPlay

open Runs MpHost KickRequests

/-! What a console was given. -/

/-- Passes that a console was here for: since it last answered, in SEND_COMPLETE with
the boot mode automatic all the time, in SEND_COMPLETE with the boot mode manual, in
STATION since it named a file or got a chunk, and in APP since it said something. -/
structure Spent where
  quiet : Nat := 0
  complete : Nat := 0
  held : Nat := 0
  station : Nat := 0
  app : Nat := 0

/-- A pass of a host whose beacon is started. -/
def Passes (world : World) : Event → Prop
  | .update ready beaconOk _ => beaconRunning ready beaconOk world.host = true
  | _ => False

instance (world : World) : (event : Event) → Decidable (Passes world event)
  | .update ready beaconOk _ => inferInstanceAs (Decidable (beaconRunning ready beaconOk world.host = true))
  | .packet _ _ _ _ | .mpHost _ | .setBootMode _ | .setGather _ | .setPace _ _ | .bootClient _
  | .bootAll | .lockRoom _ | .appSend _ | .setAppHandler _ => inferInstanceAs (Decidable False)

def passed (world : World) (event : Event) : Nat := if Passes world event then 1 else 0

/-- A reply of the console on `aid` that is heard, of this kind. -/
def Replies (kind : UInt8 → List UInt8 → Prop) (world : World) (aid : Nat) : Event → Prop
  | .packet type macaddr portByte reply => Hears world type macaddr aid ∧ kind portByte reply
  | _ => False

instance (kind : UInt8 → List UInt8 → Prop) [∀ portByte reply, Decidable (kind portByte reply)]
    (world : World) (aid : Nat) : (event : Event) → Decidable (Replies kind world aid event)
  | .packet type macaddr portByte reply =>
      inferInstanceAs (Decidable (Hears world type macaddr aid ∧ kind portByte reply))
  | .update _ _ _ | .mpHost _ | .setBootMode _ | .setGather _ | .setPace _ _ | .bootClient _
  | .bootAll | .lockRoom _ | .appSend _ | .setAppHandler _ => inferInstanceAs (Decidable False)

def chunkFor (aid : Nat) : Note → Bool
  | .stationChunk served _ _ => decide (served = aid)
  | _ => false

/-- What an event adds to the time spent on the console on `aid`. -/
def spend (world : World) (aid : Nat) (event : Event) (spent : Spent) : Spent :=
  let client := world.host.clients aid
  let stage := ((step world event).host.clients aid).stage
  let passed := passed world event
  { quiet :=
      if Replies (fun _ _ => True) world aid event then 0 else spent.quiet + passed
    complete :=
      if stage ≠ .sendComplete ∨ Passes world event ∧ world.host.bootMode = .manual then 0
      else spent.complete + passed
    held :=
      if stage ≠ .sendComplete then 0
      else if world.host.bootMode = .manual then spent.held + passed else spent.held
    station :=
      if stage ≠ .station ∨ Replies (Names client) world aid event ∨
          (recorded world event).any (chunkFor aid) = true then 0
      else spent.station + passed
    app :=
      if stage ≠ .app ∨ Replies (Says .app) world aid event then 0 else spent.app + passed }

/-- A host, and the time it spent on the console of each id since it was associated. -/
structure Patient where
  world : World
  spent : Nat → Spent

def attend (patient : Patient) (event : Event) : Patient :=
  { world := step patient.world event
    spent := fun aid =>
      if (step patient.world event).here aid then spend patient.world aid event (patient.spent aid)
      else {} }

def attendStart (hosting : Hosting) : Patient := { world := start hosting, spent := fun _ => {} }

/-- What justifies to give up on a console: it was silent, it sat on a finished
download, it asked for nothing, or its program said nothing. -/
def Justified (spent : Spent) : Prop :=
  spent.quiet > silentFrames ∨ spent.complete > completeFrames ∨ spent.station > stationIdleFrames ∨
    spent.app > appIdleFrames

def GivesUpJustly (patient : Patient) (event : Event) : Prop :=
  ∀ aid reason, .giveUpOnClient aid reason ∈ recorded patient.world event →
    Justified ((attend patient event).spent aid)

/-- No console takes over counters that are running, and a pass in automatic mode
finds no console at the limit for finished downloads that was held in manual mode. -/
def HoldsNobody (patient : Patient) : Event → Prop
  | .mpHost operation => ∀ aid ∈ aids, patient.world.here aid = false →
      (associatedMask (MpHost.step patient.world.mp operation)).getLsbD aid = true →
      (patient.world.host.clients aid).idleCount = 0 ∧ (patient.world.host.clients aid).waitCount = 0
  | .update ready beaconOk _ => beaconRunning ready beaconOk patient.world.host = true →
      patient.world.host.bootMode = .automatic →
      ∀ aid ∈ aids, patient.world.here aid = true →
        (patient.world.host.clients aid).stage = .sendComplete →
        (patient.world.host.clients aid).waitCount ≥ completeFrames → (patient.spent aid).held = 0
  | _ => True

instance (patient : Patient) : (event : Event) → Decidable (HoldsNobody patient event)
  | .mpHost operation => inferInstanceAs (Decidable (∀ aid ∈ aids, patient.world.here aid = false →
      (associatedMask (MpHost.step patient.world.mp operation)).getLsbD aid = true →
      (patient.world.host.clients aid).idleCount = 0 ∧ (patient.world.host.clients aid).waitCount = 0))
  | .update ready beaconOk _ => inferInstanceAs (Decidable
      (beaconRunning ready beaconOk patient.world.host = true →
      patient.world.host.bootMode = .automatic →
      ∀ aid ∈ aids, patient.world.here aid = true →
        (patient.world.host.clients aid).stage = .sendComplete →
        (patient.world.host.clients aid).waitCount ≥ completeFrames → (patient.spent aid).held = 0))
  | .packet _ _ _ _ | .setBootMode _ | .setGather _ | .setPace _ _ | .bootClient _
  | .bootAll | .lockRoom _ | .appSend _ | .setAppHandler _ => inferInstanceAs (Decidable True)

/-! The counters of a record. -/

/-- The stages that the host gives up on. -/
def Parked (stage : Stage) : Prop := stage = .sendComplete ∨ stage = .station ∨ stage = .app

/-- The record counts no more than what was spent. -/
structure Counted (client : Client) (spent : Spent) : Prop where
  quiet : client.idleCount ≤ spent.quiet
  complete : client.stage = .sendComplete → spent.held = 0 → client.waitCount ≤ spent.complete
  station : client.stage = .station → client.waitCount ≤ spent.station
  app : client.stage = .app → client.waitCount ≤ spent.app

theorem Counted.of_zero {client : Client} (spent : Spent) (idle : client.idleCount = 0)
    (wait : client.waitCount = 0) : Counted client spent := by
  refine ⟨?_, fun _ _ => ?_, fun _ => ?_, fun _ => ?_⟩
  · exact idle ▸ Nat.zero_le _
  · exact wait ▸ Nat.zero_le _
  · exact wait ▸ Nat.zero_le _
  · exact wait ▸ Nat.zero_le _

/-- No turn enters a stage that the host gives up on, and one in it counts. -/
theorem Turn.parked {bootMode : BootMode} {gather : Bool} {client after : Client} {outcome : Outcome}
    (turn : Turn bootMode gather client after outcome) :
    after.idleCount ≤ client.idleCount + 1 ∧
      (Parked after.stage → after.stage = client.stage ∧ after.waitCount ≤ client.waitCount + 1) := by
  cases turn with
  | idle stage => exact ⟨Nat.le_succ _, fun _ => ⟨rfl, Nat.le_succ _⟩⟩
  | silent stage long => exact ⟨Nat.le_refl _, fun _ => ⟨rfl, Nat.le_refl _⟩⟩
  | stalled stage stuck => exact ⟨Nat.le_refl _, fun _ => ⟨rfl, Nat.le_refl _⟩⟩
  | served stage heard going turn =>
      cases turn with
      | asked stage => exact ⟨Nat.le_refl _, fun _ => ⟨rfl, Nat.le_refl _⟩⟩
      | stays outcome quiet kept station early => exact ⟨Nat.le_refl _, fun _ => ⟨rfl, Nat.le_refl _⟩⟩
      | ended | admitted | offered | released =>
          exact ⟨Nat.le_refl _, fun parked => by rcases parked with p | p | p <;> cases p⟩

theorem PassRecord.parked {bootMode : BootMode} {gather : Bool} {client after : Client}
    (record : PassRecord bootMode gather client true after) :
    after.idleCount ≤ client.idleCount + 1 ∧
      (Parked after.stage → after.stage = client.stage ∧ after.waitCount ≤ client.waitCount + 1) := by
  cases record with
  | served only same =>
      have turn := (clientPass_turn bootMode gather (arrive true client)).parked
      obtain ⟨_, wait, rfl, kept⟩ := only
      have fewer : wait ≤ (clientPass bootMode gather (arrive true client)).1.waitCount := by
        rcases kept with same | zero
        · exact Nat.le_of_eq same
        · exact zero ▸ Nat.zero_le _
      rcases arrive_here client with ⟨_, arrived⟩ | ⟨_, present⟩
      · rw [arrived] at turn fewer ⊢
        refine ⟨turn.1, fun parked => ?_⟩
        have connected : (clientPass bootMode gather (setClientStage client .connected)).1.stage =
          .connected := (turn.2 parked).1
        rcases parked with p | p | p <;> exact nomatch connected.symm.trans p
      · rw [present] at turn fewer ⊢
        exact ⟨turn.1, fun parked => ⟨(turn.2 parked).1, fewer.trans (turn.2 parked).2⟩⟩

theorem takeProgress_counters (client : Client) (reply : List UInt8) :
    (takeProgress client reply).idleCount = client.idleCount ∧
      (takeProgress client reply).waitCount ≤ client.waitCount := by
  unfold takeProgress
  split
  · refine ⟨rfl, ?_⟩
    dsimp only
    split
    · exact Nat.zero_le _
    · exact Nat.le_refl _
  · exact ⟨rfl, Nat.le_refl _⟩

theorem completeRequest_counters (client : Client) :
    (completeRequest client).idleCount = client.idleCount ∧
      ((completeRequest client).waitCount = 0 ∨
        (completeRequest client).waitCount = client.waitCount ∧
          (completeRequest client).stage = client.stage) := by
  simp only [completeRequest]
  split
  · split
    · exact ⟨rfl, .inl rfl⟩
    · exact ⟨rfl, .inr ⟨rfl, rfl⟩⟩
  · split
    · exact ⟨rfl, .inl rfl⟩
    · exact ⟨rfl, .inr ⟨rfl, rfl⟩⟩

section Reply
variable {bootMode : BootMode} {gather : Bool} {portByte : UInt8} {reply : List UInt8}
  {client after : Client}

/-- A reply never adds to a counter, and one that changes the stage clears it. -/
theorem ReplyTurn.counters (turn : ReplyTurn bootMode gather portByte reply client after) :
    after.idleCount = client.idleCount ∧ (after.waitCount = 0 ∨
      after.waitCount ≤ client.waitCount ∧ after.stage = client.stage) := by
  cases turn with
  | completed opcode completes =>
      obtain ⟨idle, wait⟩ := completeRequest_counters (withPiece client reply)
      refine ⟨idle, wait.imp id fun same => ⟨Nat.le_of_eq same.1, same.2⟩⟩
  | progress opcode kept =>
      obtain ⟨idle, wait⟩ := takeProgress_counters client reply
      exact ⟨idle, .inr ⟨wait, takeProgress_stage client reply⟩⟩
  | pulled opcode free stage => exact ⟨(takeProgress_counters client reply).1, .inl rfl⟩
  | ignored idle => exact ⟨rfl, .inr ⟨Nat.le_refl _, rfl⟩⟩
  | named names => exact ⟨rfl, .inl rfl⟩
  | piece opcode missing inside => exact ⟨rfl, .inr ⟨Nat.le_refl _, rfl⟩⟩
  | accepted idle => exact ⟨rfl, .inr ⟨Nat.le_refl _, rfl⟩⟩
  | _ => exact ⟨rfl, .inl rfl⟩

/-- What the program of a client says clears the counter. -/
theorem ReplyTurn.app (turn : ReplyTurn bootMode gather portByte reply client after)
    (app : Says .app portByte reply) (stage : after.stage = .app) : after.waitCount = 0 := by
  cases turn with
  | ignored idle => exact absurd app idle
  | accepted idle => exact absurd app idle
  | named names => exact nomatch names.2.1.symm.trans app.2.2.1
  | piece opcode missing inside => exact nomatch opcode.2.2.2.symm.trans app.2.2.2
  | completed opcode completes => exact nomatch opcode.2.2.2.symm.trans app.2.2.2
  | progress opcode kept => exact nomatch opcode.2.2.2.symm.trans app.2.2.2
  | pulled opcode free stage => exact nomatch opcode.2.2.2.symm.trans app.2.2.2
  | finished opcode stage => exact nomatch opcode.2.2.2.symm.trans app.2.2.2
  | booted opcode stage told => exact nomatch opcode.2.2.2.symm.trans app.2.2.2
  | toStation | offered | started => cases stage
  | returned opcode => rfl

/-- So does a file that it names. -/
theorem replyClient_names (names : Names client portByte reply) :
    (replyClient bootMode gather portByte reply client).waitCount = 0 := by
  have long : ¬ (reply.length > replyMaxSize ∨ reply.length = 0) := by
    obtain ⟨short, _, _, size, _⟩ := names
    simp only [stationRequestSize, stationNameSize] at size
    omega
  have taken : handleStationReply (heard client) portStationName reply =
      takeRequest (heard client) reply := by
    have named : Names (heard client) portByte reply := names
    rw [handleStationReply_eq _ portByte reply names.2.1 names.1, if_pos named]
  simp only [replyClient, if_neg long, names.2.1]
  exact congrArg Client.waitCount taken

end Reply

/-! One step. -/

structure PatientInv (patient : Patient) : Prop where
  host : HostInv patient.world
  here : ∀ aid, aid ∈ aids → patient.world.here aid = true →
    Counted (patient.world.host.clients aid) (patient.spent aid)

/-- What an event does to the counters of a record whose console stays. -/
structure Ticks (world : World) (aid : Nat) (event : Event) (after : Client) : Prop where
  idle : after.idleCount ≤ (world.host.clients aid).idleCount + passed world event
  heard : Replies (fun _ _ => True) world aid event → after.idleCount = 0
  wait : Parked after.stage → after.waitCount = 0 ∨ after.stage = (world.host.clients aid).stage ∧
    after.waitCount ≤ (world.host.clients aid).waitCount + passed world event
  named : Replies (Names (world.host.clients aid)) world aid event → after.waitCount = 0
  chunk : (recorded world event).any (chunkFor aid) = true → after.waitCount = 0
  app : Replies (Says .app) world aid event → after.stage = .app → after.waitCount = 0

theorem Ticks.counted {world : World} {aid : Nat} {event : Event} {spent : Spent}
    (ticks : Ticks world aid event ((step world event).host.clients aid))
    (counted : Counted (world.host.clients aid) spent) :
    Counted ((step world event).host.clients aid) (spend world aid event spent) := by
  unfold spend
  dsimp only
  generalize (step world event).host.clients aid = after at ticks ⊢
  refine ⟨?_, fun stage held => ?_, fun stage => ?_, fun stage => ?_⟩
  · -- the passes since the last answer
    dsimp only
    split
    · exact Nat.le_of_eq (ticks.heard ‹_›)
    · exact ticks.idle.trans (Nat.add_le_add_right counted.quiet _)
  · -- the passes since the whole program is held
    dsimp only at held ⊢
    rw [if_neg (not_not.mpr stage)] at held
    rcases ticks.wait (.inl stage) with zero | ⟨same, wait⟩
    · rw [zero]
      exact Nat.zero_le _
    · have before := same.symm.trans stage
      by_cases manual : world.host.bootMode = .manual
      · -- a pass in manual mode would have been counted as such
        rw [if_pos manual] at held
        have none : ¬ Passes world event := fun passes => by
          simp [passed, passes] at held
        rw [if_neg (by simp [stage, none])]
        exact wait.trans (Nat.add_le_add_right (counted.complete before (by omega)) _)
      · rw [if_neg manual] at held
        rw [if_neg (by simp [stage, manual])]
        exact wait.trans (Nat.add_le_add_right (counted.complete before held) _)
  · -- the passes since a chunk was taken, or the file was asked for
    dsimp only
    split
    · rename_i cleared
      rcases cleared with other | named | chunk
      · exact absurd stage other
      · exact Nat.le_of_eq (ticks.named named)
      · exact Nat.le_of_eq (ticks.chunk chunk)
    · rcases ticks.wait (.inr (.inl stage)) with zero | ⟨same, wait⟩
      · rw [zero]
        exact Nat.zero_le _
      · exact wait.trans (Nat.add_le_add_right (counted.station (same.symm.trans stage)) _)
  · -- the passes since the program said something
    dsimp only
    split
    · rename_i cleared
      rcases cleared with other | said
      · exact absurd stage other
      · exact Nat.le_of_eq (ticks.app said stage)
    · rcases ticks.wait (.inr (.inr stage)) with zero | ⟨same, wait⟩
      · rw [zero]
        exact Nat.zero_le _
      · exact wait.trans (Nat.add_le_add_right (counted.app (same.symm.trans stage)) _)

/-- A chunk is only recorded by a pass, which clears the counter. -/
theorem chunk_step {world : World} (valid : HostInv world) (event : Event) {aid : Nat}
    (chunk : (recorded world event).any (chunkFor aid) = true) :
    ((step world event).host.clients aid).waitCount = 0 := by
  obtain ⟨item, handed, own⟩ := List.any_eq_true.mp chunk
  have note := (log_step valid event).drop _ handed
  cases item with
  | stationChunk served index length =>
      obtain rfl : served = aid := by simpa [chunkFor] using own
      obtain ⟨ready, beaconOk, pass, rfl⟩ := note.pass (by simp) (by simp) (by simp)
      exact note
  | _ => cases own

/-- An answer starts the counters again, and no time passes. -/
theorem ticks_packet {world : World} (valid : HostInv world) (type : PacketType) (macaddr : Mac)
    (portByte : UInt8) (reply : List UInt8) (aid : Nat) :
    Ticks world aid (.packet type macaddr portByte reply)
      ((step world (.packet type macaddr portByte reply)).host.clients aid) := by
  have chunk := @chunk_step _ valid (.packet type macaddr portByte reply) aid
  have record := packet_clients world type macaddr portByte reply aid
  by_cases hears : Hears world type macaddr aid
  · rw [if_pos hears, heardClient] at record
    have turn := replyClient_turn world.host.bootMode world.host.gather portByte reply
      (world.host.clients aid)
    rw [← record] at turn
    obtain ⟨idle, wait⟩ := turn.counters
    refine ⟨?_, fun _ => idle, fun _ => ?_, fun names => ?_, chunk, fun app stage => ?_⟩
    · rw [step, idle]
      exact Nat.zero_le _
    · exact wait.imp id fun same => ⟨same.2, same.1.trans (Nat.le_add_right _ _)⟩
    · rw [step, record]
      exact replyClient_names names.2
    · exact turn.app app.2 stage
  · rw [if_neg hears] at record
    rw [step, record] at chunk ⊢
    exact ⟨Nat.le_add_right _ _, fun heard => absurd heard.1 hears,
      fun _ => .inr ⟨rfl, Nat.le_add_right _ _⟩, fun names => absurd names.1 hears, chunk,
      fun app => absurd app.1 hears⟩

theorem ticks_step {world : World} (valid : HostInv world) (event : Event) {aid : Nat}
    (member : aid ∈ aids) (here : world.here aid = true) :
    Ticks world aid event ((step world event).host.clients aid) := by
  have chunk := @chunk_step _ valid event aid
  by_cases packet : ∃ type macaddr portByte reply, event = .packet type macaddr portByte reply
  · obtain ⟨type, macaddr, portByte, reply, rfl⟩ := packet
    exact ticks_packet valid type macaddr portByte reply aid
  · -- nobody answers here, so only a pass lets time pass
    have silent : ∀ kind, ¬ Replies kind world aid event := by
      intro kind replies
      cases event with
      | packet type macaddr portByte reply => exact packet ⟨_, _, _, _, rfl⟩
      | _ => exact replies
    have record := record_step valid event member
    generalize (step world event).host.clients aid = after at record chunk ⊢
    have same : ∀ client : Client, client.idleCount = (world.host.clients aid).idleCount →
        (Parked client.stage → client.stage = (world.host.clients aid).stage ∧
          client.waitCount = (world.host.clients aid).waitCount) →
        ((recorded world event).any (chunkFor aid) = true → client.waitCount = 0) →
        Ticks world aid event client := by
      intro client idle kept chunk
      refine ⟨?_, fun heard => absurd heard (silent _), fun parked => ?_,
        fun names => absurd names (silent _), chunk, fun app => absurd app (silent _)⟩
      · exact idle ▸ Nat.le_add_right _ _
      · exact .inr ⟨(kept parked).1, (kept parked).2 ▸ Nat.le_add_right _ _⟩
    cases record with
    | same event quiet => exact same _ rfl (fun _ => ⟨rfl, rfl⟩) chunk
    | pass ready beaconOk pass running record =>
        rw [show (associatedMask world.mp).getLsbD aid = true from here] at record
        have one : passed world (.update ready beaconOk pass) = 1 := if_pos running
        obtain ⟨idle, parked⟩ := record.parked
        exact ⟨one ▸ idle, fun heard => absurd heard (silent _), fun stage => .inr (one ▸ parked stage),
          fun names => absurd names (silent _), chunk, fun app => absurd app (silent _)⟩
    | reply type macaddr portByte reply hears turn => exact absurd ⟨_, _, _, _, rfl⟩ packet
    | boot event told stage =>
        exact same _ rfl (fun parked => by rcases parked with p | p | p <;> cases p) chunk

theorem PatientInv.step {patient : Patient} (valid : PatientInv patient) (event : Event)
    (holds : HoldsNobody patient event) : PatientInv (attend patient event) := by
  refine ⟨valid.host.step event, fun aid member here => ?_⟩
  have now : (DlPlay.step patient.world event).here aid = true := here
  have spent : (attend patient event).spent aid = spend patient.world aid event (patient.spent aid) := by
    simp only [attend, if_pos now]
  rw [spent]
  cases before : patient.world.here aid with
  | true => exact (ticks_step valid.host event member before).counted (valid.here aid member before)
  | false =>
      rcases here_step valid.host now with same | ⟨operation, rfl, joined⟩
      · exact absurd same (by simp [before])
      · obtain ⟨idle, wait⟩ := holds aid member before joined
        exact .of_zero _ idle wait

theorem PatientInv.start (hosting : Hosting) : PatientInv (attendStart hosting) :=
  ⟨.start hosting, fun _ _ _ => .of_zero _ rfl rfl⟩

/-- A client that a pass gives up on is left with counters that ran out. -/
theorem gaveUp_step {world : World} (valid : HostInv world) {event : Event} {aid : Nat}
    {reason : GaveUpReason} (gaveUp : .giveUpOnClient aid reason ∈ recorded world event) :
    aid ∈ aids ∧ world.here aid = true ∧ (step world event).here aid = true ∧ Passes world event ∧
      (((step world event).host.clients aid).idleCount > silentFrames ∨
        Stalled world.host.bootMode ((step world event).host.clients aid) ∧
          ((step world event).host.clients aid).stage = (world.host.clients aid).stage ∧
          ((step world event).host.clients aid).waitCount = (world.host.clients aid).waitCount + 1) := by
  have note := (log_step valid event).drop _ gaveUp
  obtain ⟨ready, beaconOk, pass, rfl⟩ := note.pass (by simp) (by simp) (by simp)
  by_cases running : beaconRunning ready beaconOk world.host = true
  · obtain ⟨member, here, ended⟩ : PassNote world (step world (.update ready beaconOk pass))
        (.giveUpOnClient aid reason) := note
    have done : PassDone world (step world (.update ready beaconOk pass)) :=
      update_done running valid.stations
    have stays : (step world (.update ready beaconOk pass)).here aid = true := by
      rw [World.here, done.mp.associated]
      exact here
    refine ⟨member, here, stays, running, ?_⟩
    have record := done.record aid member
    rw [here] at record
    generalize (step world (.update ready beaconOk pass)).host.clients aid = after at record
    cases record with
    | served only same =>
        have turn := turnOf_turn world.host (arrive true (world.host.clients aid))
        rw [ended] at turn
        have kept := same fun joined => by cases ended.symm.trans joined
        rw [turnOf, ← kept] at turn
        cases turn with
        | silent stage long => exact .inl long
        | stalled stage stuck =>
            rcases arrive_here (world.host.clients aid) with ⟨_, arrived⟩ | ⟨_, present⟩
            · rw [arrived] at stuck
              rcases stuck with ⟨_, other, _⟩ | ⟨other, _⟩ | ⟨other, _⟩ <;> cases other
            · rw [present] at stuck ⊢
              exact .inr ⟨stuck, rfl, rfl⟩
        | served stage heard going turn =>
            cases turn with
            | stays outcome quiet kept => exact absurd rfl (kept reason)
  · rw [recorded, step, (update_idle running).2.2.1, List.drop_length] at gaveUp
    cases gaveUp

theorem justly_step {patient : Patient} (valid : PatientInv patient) (event : Event)
    (holds : HoldsNobody patient event) : GivesUpJustly patient event := by
  intro aid reason gaveUp
  obtain ⟨member, here, stays, passes, ended⟩ := gaveUp_step valid.host gaveUp
  have counted := (valid.step event holds).here aid member stays
  change Counted ((step patient.world event).host.clients aid) _ at counted
  rcases ended with silent | ⟨⟨going, complete, late⟩ | ⟨station, late⟩ | ⟨app, late⟩, same, wait⟩
  · exact .inl (Nat.lt_of_lt_of_le silent counted.quiet)
  · have automatic : patient.world.host.bootMode = .automatic := by
      cases mode : patient.world.host.bootMode with
      | automatic => rfl
      | manual => exact absurd ⟨mode, complete⟩ going
    have free : (patient.spent aid).held = 0 := by
      cases event with
      | update ready beaconOk pass =>
          exact holds passes automatic aid member here (same.symm.trans complete) (by omega)
      | _ => exact passes.elim
    have still : ((attend patient event).spent aid).held = 0 := by
      simp [attend, show (step patient.world event).here aid = true from stays, spend, complete,
        automatic, free]
    exact .inr (.inl (Nat.lt_of_lt_of_le late (counted.complete complete still)))
  · exact .inr (.inr (.inl (Nat.lt_of_lt_of_le late (counted.station station))))
  · exact .inr (.inr (.inr (Nat.lt_of_lt_of_le late (counted.app app))))

/-- As long as no console takes over running counters, and no console that was held in
manual mode is at the limit for finished downloads when a pass comes in automatic
mode, giving up is justified. -/
theorem gives_up_justly (hosting : Hosting) (events : List Event)
    (holds : EachStep attend HoldsNobody (attendStart hosting) events) :
    EachStep attend GivesUpJustly (attendStart hosting) events :=
  each_step_of_guard (fun _ event valid holds => PatientInv.step valid event holds)
    (fun _ event valid holds => justly_step valid event holds) _ _ (.start hosting) holds

/-- A console takes the program in manual mode, waits for two passes, and is started. -/
def heldAndStarted : List Event :=
  [.setBootMode .manual] ++ arrivesEvents (1, 2, 3) ++ takesProgram (1, 2, 3) ++
    [passEvent plainPass, passEvent plainPass, .setBootMode .automatic, passEvent plainPass,
      saysEvent (1, 2, 3) 10 [], passEvent plainPass]

theorem gives_up_justly_once : EachStep attend GivesUpJustly (attendStart smallHosting) heldAndStarted ∧
    ((run attend (attendStart smallHosting) heldAndStarted).world.host.clients 1).stage = .bootRequest :=
  ⟨gives_up_justly smallHosting heldAndStarted (by decide +kernel), by decide +kernel⟩

/-! A console that the application holds, and then lets go. -/

/-- A pass gives up on every client whose turn ends so. -/
theorem pass_givesUp {ready beaconOk : Bool} {pass : Pass} {world : World} (valid : HostInv world)
    (running : beaconRunning ready beaconOk world.host = true) {aid : Nat} (member : aid ∈ aids)
    (here : world.here aid = true) {reason : GaveUpReason}
    (ended : (turnOf world.host (arrive true (world.host.clients aid))).2 = .giveUp reason) :
    .giveUpOnClient aid reason ∈ recorded world (.update ready beaconOk pass) := by
  rw [recorded, step, update_running running]
  generalize begun : ({ world with host := { world.host with beaconStarted := true } } : World) = next
  have log : world.log = next.log := by rw [← begun]
  have turn : turnOf next.host (arrive ((associatedMask next.mp).getLsbD aid) (next.host.clients aid)) =
      turnOf world.host (arrive true (world.host.clients aid)) := by
    rw [← begun, ← here]
    rfl
  have some : associatedMask next.mp ≠ 0 := by
    rw [← begun]
    exact mask_ne_zero here
  have stations : ∀ aid, StationInv (next.host.clients aid).station := by
    rw [← begun]
    exact valid.stations
  rw [log, servePass_here pass some]
  refine (delivers_sendGroups pass _ ((gathered next).valid stations)).log.earlier
    ((roomApplied_log next next).later (gatherClients_givesUp _ member ?_))
  rw [roomApplied_turn next aid member, turn]
  exact ended

theorem attend_world (patient : Patient) (events : List Event) :
    (run attend patient events).world = run step patient.world events := by
  induction events generalizing patient with
  | nil => rfl
  | cons event rest ih => exact ih (attend patient event)

theorem attend_quiet (patient : Patient) (events : List Event) (aid : Nat) :
    ((run attend patient events).spent aid).quiet ≤ (patient.spent aid).quiet + events.length := by
  induction events generalizing patient with
  | nil => exact Nat.le_refl _
  | cons event rest ih =>
      have one : ((attend patient event).spent aid).quiet ≤ (patient.spent aid).quiet + 1 := by
        simp only [attend, spend, passed]
        split
        · dsimp only
          split
          · exact Nat.zero_le _
          · split <;> omega
        · exact Nat.zero_le _
      have more := ih (attend patient event)
      rw [run_cons, List.length_cons]
      omega

/-- No pass in manual mode is counted as one in automatic mode. -/
theorem attend_manual {patient : Patient} {event : Event} {aid : Nat}
    (manual : Passes patient.world event → patient.world.host.bootMode = .manual)
    (none : (patient.spent aid).complete = 0) : ((attend patient event).spent aid).complete = 0 := by
  simp only [attend, spend, passed]
  split
  · dsimp only
    split
    · rfl
    · rename_i counts
      rw [none, if_neg fun passes => counts (.inr ⟨passes, manual passes⟩)]
  · rfl

theorem attend_complete (patient : Patient) (event : Event) (aid : Nat) :
    ((attend patient event).spent aid).complete ≤ (patient.spent aid).complete + 1 := by
  simp only [attend, spend, passed]
  split
  · dsimp only
    split
    · exact Nat.zero_le _
    · split <;> omega
  · exact Nat.zero_le _

/-- Nothing is spent on a console in STATION or APP that is in another stage. -/
theorem attend_elsewhere {patient : Patient} {event : Event} {aid : Nat}
    (stage : ((step patient.world event).host.clients aid).stage = .sendComplete) :
    ((attend patient event).spent aid).station = 0 ∧ ((attend patient event).spent aid).app = 0 := by
  simp only [attend, spend]
  split
  · simp [stage]
  · exact ⟨rfl, rfl⟩

theorem bootMode_step {world : World} (valid : HostInv world) {event : Event}
    (kept : ∀ mode, event ≠ .setBootMode mode) :
    (step world event).host.bootMode = world.host.bootMode := by
  have mode := (modes_step valid event).1
  generalize (step world event).host.bootMode = after at mode
  cases event with
  | setBootMode other => exact absurd rfl (kept other)
  | _ => exact mode

theorem attend_held {patient : Patient} {aid : Nat} (valid : HostInv patient.world)
    (manual : patient.world.host.bootMode = .manual) (none : (patient.spent aid).complete = 0)
    (events : List Event) (kept : ∀ event ∈ events, ∀ mode, event ≠ .setBootMode mode) :
    ((run attend patient events).spent aid).complete = 0 := by
  induction events generalizing patient with
  | nil => exact none
  | cons event rest ih =>
      have next : HostInv (attend patient event).world := valid.step event
      have still : (attend patient event).world.host.bootMode = .manual :=
        (bootMode_step valid (kept event List.mem_cons_self)).trans manual
      exact ih next still (attend_manual (fun _ => manual) none)
        fun other member => kept other (List.mem_cons_of_mem _ member)

theorem Waits.setBootMode {bootMode : BootMode} {gather : Bool} {macaddr : Mac} {world : World}
    {aid : Nat} {client : Client} (waits : Waits bootMode gather macaddr world aid client)
    (mode : BootMode) : Waits mode gather macaddr (step world (.setBootMode mode)) aid client :=
  ⟨waits.valid.step (.setBootMode mode), waits.active, rfl, waits.gather, waits.here, waits.sender,
    waits.record⟩

/-- A held client only counts. -/
theorem clientPass_held (gather : Bool) {client : Client} (stage : client.stage = .sendComplete)
    {n : Nat} (short : client.idleCount + n < silentFrames) :
    clientPass .manual gather (counted n client) = (counted (n + 1) client, .nothing) := by
  have heard : client.idleCount + (n + 1) ≤ silentFrames := by omega
  simp [clientPass, stagePass, counted, countPass, stage, heard, Nat.add_assoc]

theorem clientPass_released (gather : Bool) {client : Client} (stage : client.stage = .sendComplete)
    {n : Nat} (short : client.idleCount + n < silentFrames) (late : client.waitCount + n ≥ completeFrames) :
    clientPass .automatic gather (counted n client) = (counted (n + 1) client, .giveUp .stalled) := by
  have heard : client.idleCount + (n + 1) ≤ silentFrames := by omega
  have beyond : completeFrames < client.waitCount + (n + 1) := by omega
  simp [clientPass, counted, countPass, stage, heard, beyond, Nat.add_assoc]

/-- A console takes the program. -/
def programHeld : List Event := arrivesEvents (1, 2, 3) ++ takesProgram (1, 2, 3)

def heldConsole : List Event := .setBootMode .manual :: programHeld

theorem heldConsole_waits :
    Waits .manual false (1, 2, 3) (run step (start smallHosting) heldConsole) 1
      ((run step (start smallHosting) heldConsole).host.clients 1) :=
  ⟨hostInv_run _ _, by decide +kernel, by decide +kernel, by decide +kernel, by decide +kernel,
    by decide +kernel, rfl⟩

theorem programHeld_complete : ((run attend (attendStart smallHosting) heldConsole).spent 1).complete = 0 := by
  have begun : HostInv (attend (attendStart smallHosting) (.setBootMode .manual)).world :=
    (HostInv.start smallHosting).step (.setBootMode .manual)
  have none := @attend_manual (attendStart smallHosting) (.setBootMode .manual) 1 (fun passes => passes.elim) rfl
  refine attend_held begun rfl none programHeld fun event member mode same => ?_
  subst same
  simp [programHeld, arrivesEvents, joinsEvents, takesProgram, saysEvent, passEvent] at member

/-- Held for 181 passes and let go, it is given up on by the next pass. -/
theorem gives_up_after_hold : ¬ EachStep attend GivesUpJustly (attendStart smallHosting)
    (heldConsole ++ List.replicate 181 (passEvent plainPass) ++ [.setBootMode .automatic] ++
      [passEvent plainPass]) := by
  rw [each_step_append]
  rintro ⟨_, last, _⟩
  have waits := heldConsole_waits
  have stage : ((run step (start smallHosting) heldConsole).host.clients 1).stage = .sendComplete := by
    decide +kernel
  have idled : ((run step (start smallHosting) heldConsole).host.clients 1).idleCount = 0 := by
    decide +kernel
  have fresh := programHeld_complete
  have quiet := attend_quiet (attendStart smallHosting)
    (heldConsole ++ List.replicate 181 (passEvent plainPass) ++ [.setBootMode .automatic]) 1
  have start : (attendStart smallHosting).world = DlPlay.start smallHosting := rfl
  rw [run_append, run_append, run_cons, run_nil] at last quiet
  rw [← start, ← attend_world] at waits stage idled
  generalize run attend (attendStart smallHosting) heldConsole = patient at *
  generalize patient.world.host.clients 1 = client at *
  have member : 1 ∈ aids := (mem_aids 1).mpr (by decide)
  -- the host waits for the console through 181 passes in manual mode
  have held := waits.passes member (by rw [stage]; decide) plainPass 181 fun k below => by
    rw [clientPass_held false stage (by rw [idled, silentFrames]; omega)]
    exact ⟨rfl, Outcome.noConfusion⟩
  have complete := attend_held waits.valid waits.bootMode fresh
    (List.replicate 181 (passEvent plainPass)) fun event member mode same => by
      rw [List.eq_of_mem_replicate member] at same
      cases same
  rw [← attend_world] at held
  generalize run attend patient (List.replicate 181 (passEvent plainPass)) = patient at *
  replace complete := @attend_manual _ (.setBootMode .automatic) _ (fun passes => passes.elim) complete
  -- and then the mode is changed back, with the counter far beyond its limit
  have released := held.setBootMode .automatic
  rw [show step patient.world (.setBootMode .automatic) =
    (attend patient (.setBootMode .automatic)).world from rfl] at released
  generalize attend patient (.setBootMode .automatic) = patient at *
  have turn := clientPass_released false (n := 181) stage (by rw [idled, silentFrames]; omega)
    (by rw [completeFrames]; omega)
  have staying : arrive true (DlPlay.counted 181 client) = DlPlay.counted 181 client := by
    simp [arrive, DlPlay.counted, stage]
  have gaveUp : .giveUpOnClient 1 .stalled ∈ recorded patient.world (passEvent plainPass) := pass_givesUp released.valid
    (beaconRunning_ready released.active) member released.here (by
      rw [released.record, staying, turnOf, released.bootMode, released.gather, turn])
  have after := released.pass member (by rw [DlPlay.counted, stage]; decide) (by rw [turn]; exact Outcome.noConfusion) plainPass
  rw [turn] at after
  obtain ⟨station, app⟩ := @attend_elsewhere patient (passEvent plainPass) 1
    (by rw [after.record]; exact stage)
  have once := attend_complete patient (passEvent plainPass) 1
  have late := attend_quiet patient [passEvent plainPass] 1
  -- none of the limits has been reached in the passes that count
  rcases last 1 .stalled gaveUp with silent | long | idle | mute
  · have none : ((attendStart smallHosting).spent 1).quiet = 0 := rfl
    have joined : heldConsole.length = 13 := rfl
    rw [List.length_append, List.length_append, List.length_replicate, joined, none,
      List.length_singleton] at quiet
    rw [run_cons, run_nil, List.length_singleton] at late
    have few := late.trans (Nat.add_le_add_right quiet 1)
    exact absurd silent (Nat.not_lt.mpr (few.trans (by decide)))
  · simp only [completeFrames] at long
    omega
  · exact absurd (station ▸ idle) (Nat.not_lt_zero _)
  · exact absurd (app ▸ mute) (Nat.not_lt_zero _)

end Dswifi.DlPlay
