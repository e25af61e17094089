import Dswifi.DlPlay.Waiting

/-! Who is told to start the program. Only the console that says that it holds
the whole program moves its record to SEND_COMPLETE, but a record is that of an
association id: a pass forgets it when it finds nobody on the id, and a console
that takes the id over before the next pass takes the record over too. -/

namespace Dswifi.DlPlay

open Runs MpHost

/-- A STOPREQ of the client `aid` that is the end of its transfer. -/
def ReportsWhole (world : World) (aid : Nat) : Event → Prop
  | .packet type macaddr portByte reply =>
      Hears world type macaddr aid ∧ Says .stopReq portByte reply ∧
        (world.host.clients aid).stage = .sendProceed
  | _ => False

instance (world : World) (aid : Nat) : (event : Event) → Decidable (ReportsWhole world aid event)
  | .packet type macaddr portByte reply =>
      inferInstanceAs (Decidable (Hears world type macaddr aid ∧ Says .stopReq portByte reply ∧
        (world.host.clients aid).stage = .sendProceed))
  | .update _ _ _ | .mpHost _ | .setBootMode _ | .setGather _ | .setPace _ _ | .bootClient _
  | .bootAll | .lockRoom _ | .appSend _ | .setAppHandler _ => inferInstanceAs (Decidable False)

/-- A host, and the ids whose console reported the whole program since it was
associated. -/
structure Watched where
  world : World
  whole : Nat → Bool

def watch (watched : Watched) (event : Event) : Watched :=
  { world := step watched.world event
    whole := fun aid => (step watched.world event).here aid &&
      (decide (ReportsWhole watched.world aid event) || watched.whole aid) }

def watchStart (hosting : Hosting) : Watched := { world := start hosting, whole := fun _ => false }

/-- A request to start the program. -/
def IsBootReq (bytes : List UInt8) : Prop :=
  byteAt bytes 1 = flagsNormal ∧ byteAt bytes 2 = cmdOpBootreq

/-- The requests to start that a step queues name only consoles that reported
the whole program. -/
def BootsWhole (watched : Watched) (event : Event) : Prop :=
  ∀ bytes, .frame bytes true ∈ (step watched.world event).log.drop watched.world.log.length →
    IsBootReq bytes → ∀ aid, (footer bytes).getLsbD aid = true → watched.whole aid = true

/-- The stages of a client that holds the whole program. -/
def HoldsWhole (stage : Stage) : Prop := stage = .sendComplete ∨ stage = .bootRequest

instance (stage : Stage) : Decidable (HoldsWhole stage) := by unfold HoldsWhole; infer_instance

/-- A console takes over an id whose record says that it holds the program. -/
def TakesOver (watched : Watched) : Event → Prop
  | .mpHost operation => ∃ aid ∈ aids, watched.world.here aid = false ∧
      (associatedMask (MpHost.step watched.world.mp operation)).getLsbD aid = true ∧
      HoldsWhole (watched.world.host.clients aid).stage
  | _ => False

instance (watched : Watched) : (event : Event) → Decidable (TakesOver watched event)
  | .mpHost operation => inferInstanceAs (Decidable (∃ aid ∈ aids, watched.world.here aid = false ∧
      (associatedMask (MpHost.step watched.world.mp operation)).getLsbD aid = true ∧
      HoldsWhole (watched.world.host.clients aid).stage))
  | .update _ _ _ | .packet _ _ _ _ | .setBootMode _ | .setGather _ | .setPace _ _ | .bootClient _
  | .bootAll | .lockRoom _ | .appSend _ | .setAppHandler _ => inferInstanceAs (Decidable False)

structure WatchInv (watched : Watched) : Prop where
  host : HostInv watched.world
  whole : ∀ aid, aid ∈ aids → HoldsWhole (watched.world.host.clients aid).stage →
    watched.world.here aid = true → watched.whole aid = true

/-! The record. -/

theorem StageEdge.holds {before after : Stage} (edge : StageEdge before after)
    (holds : HoldsWhole after) : HoldsWhole before ∨ before = .sendProceed := by
  cases edge with
  | complete => exact .inr rfl
  | boot => exact .inl (.inl rfl)
  | _ => rcases holds with holds | holds <;> cases holds

/-- No turn ends a transfer: only the client itself does. -/
theorem Turn.holds {bootMode : BootMode} {gather : Bool} {client after : Client} {outcome : Outcome}
    (turn : Turn bootMode gather client after outcome) (holds : HoldsWhole after.stage) :
    HoldsWhole client.stage := by
  cases turn with
  | served stage heard going turn =>
      cases turn with
      | ended stage => exact .inr stage
      | asked stage => exact .inr stage
      | stays outcome quiet kept station early => exact holds
      | admitted stage late => exact absurd holds (show ¬ HoldsWhole .reqAccepted by decide)
      | offered stage late => exact absurd holds (show ¬ HoldsWhole .waitToSend by decide)
      | released stage free late => exact absurd holds (show ¬ HoldsWhole .sendProceed by decide)
  | _ => exact holds

theorem PassRecord.holds {bootMode : BootMode} {gather here : Bool} {client after : Client}
    (record : PassRecord bootMode gather client here after) (holds : HoldsWhole after.stage) :
    here = true ∧ HoldsWhole client.stage := by
  cases record with
  | absent idle => exact absurd holds (idle ▸ show ¬ HoldsWhole .none by decide)
  | cleared => exact absurd holds (by decide)
  | served only same =>
      rw [only.stage] at holds
      have before := (clientPass_turn bootMode gather (arrive true client)).holds holds
      by_cases idle : client.stage = .none
      · have arrived : (arrive true client).stage = .connected := by
          simp [arrive, idle, setClientStage]
        exact absurd before (arrived ▸ show ¬ HoldsWhole .connected by decide)
      · have present : arrive true client = client := by simp [arrive, idle]
        exact ⟨rfl, present ▸ before⟩

theorem ReplyTurn.holds {bootMode : BootMode} {gather : Bool} {portByte : UInt8}
    {reply : List UInt8} {client after : Client}
    (turn : ReplyTurn bootMode gather portByte reply client after) (holds : HoldsWhole after.stage) :
    HoldsWhole client.stage ∨ Says .stopReq portByte reply ∧ client.stage = .sendProceed := by
  cases turn with
  | finished opcode stage => exact .inr ⟨opcode, stage⟩
  | booted opcode stage told => exact .inl (.inl stage)
  | progress opcode kept => exact .inl (takeProgress_stage client reply ▸ holds)
  | completed opcode completes =>
      rcases completeRequest_edge (withPiece client reply) with same | edge
      · exact .inl (show HoldsWhole (withPiece client reply).stage from same ▸ holds)
      · rw [completeRequest_stage] at holds
        split at holds
        · exact absurd holds (by decide)
        · exact .inl holds
  | toStation stage station => exact absurd holds (show ¬ HoldsWhole .station by decide)
  | offered stage => exact absurd holds (show ¬ HoldsWhole .waitToSend by decide)
  | started stage free program => exact absurd holds (show ¬ HoldsWhole .sendProceed by decide)
  | pulled opcode free stage => exact absurd holds (show ¬ HoldsWhole .sendProceed by decide)
  | returned opcode => exact absurd holds (show ¬ HoldsWhole .app by decide)
  | ignored idle => exact .inl holds
  | named names => exact .inl holds
  | piece opcode missing inside => exact .inl holds
  | accepted idle => exact .inl holds

/-! One step. -/

theorem WatchInv.step {watched : Watched} (valid : WatchInv watched) (event : Event)
    (fresh : ¬ TakesOver watched event) : WatchInv (watch watched event) := by
  refine ⟨valid.host.step event, fun aid member holds here => ?_⟩
  have record := record_step valid.host event member
  have now : (DlPlay.step watched.world event).here aid = true := here
  have kept : watched.world.here aid = true → HoldsWhole (watched.world.host.clients aid).stage →
      (watch watched event).whole aid = true := fun before holds => by
    simp [watch, now, valid.whole aid member holds before]
  replace holds : HoldsWhole ((DlPlay.step watched.world event).host.clients aid).stage := holds
  generalize (DlPlay.step watched.world event).host.clients aid = after at record holds
  rcases here_step valid.host now with before | ⟨operation, rfl, joined⟩
  · cases record with
    | same event quiet => exact kept before holds
    | pass ready beaconOk pass running record => exact kept before (record.holds holds).2
    | reply type macaddr portByte reply hears turn =>
        rcases turn.holds holds with held | ⟨opcode, stage⟩
        · exact kept before held
        · have reports : ReportsWhole watched.world aid (.packet type macaddr portByte reply) :=
            ⟨hears, opcode, stage⟩
          simp [watch, now, reports]
    | boot event asked stage => exact kept before (.inl stage)
  · cases record with
    | same event quiet =>
        cases before : watched.world.here aid with
        | true => exact kept before holds
        | false => exact absurd ⟨aid, member, before, joined, holds⟩ fresh
    | boot event asked stage => rcases asked with asked | asked <;> cases asked

theorem WatchInv.start (hosting : Hosting) : WatchInv (watchStart hosting) :=
  ⟨.start hosting, fun _ _ holds => absurd holds (show ¬ HoldsWhole .none by decide)⟩

/-- The frames of the other groups, and of the station ports, are no requests to start. -/
theorem bootReq_frame {world next : World} {bytes : List UInt8} {queued : Bool}
    (note : PassNote world next (.frame bytes queued)) (request : IsBootReq bytes) :
    ∀ aid, (footer bytes).getLsbD aid = true →
      aid ∈ aids ∧ (next.host.clients aid).stage = .bootRequest := by
  rcases note with ⟨opcode, other, normal | ended⟩ | ⟨served, ⟨port, low, high, header⟩, _⟩ |
    ⟨dest, ⟨_, same⟩, told⟩
  · exact absurd (normal.2.symm.trans request.2) other
  · exact absurd (ended.1.symm.trans request.1) (by decide)
  · have ports : port = 13 ∨ port = 14 ∨ port = 15 := by
      simp only [portStationName, portStationFile] at low high
      omega
    have normal := header.symm.trans request.1
    rcases ports with rfl | rfl | rfl <;> exact absurd normal (by decide)
  · exact same ▸ told

theorem boots_step {watched : Watched} (valid : WatchInv watched) (event : Event) :
    BootsWhole watched event := by
  intro bytes queued request aid listed
  have note := (log_step valid.host event).drop _ queued
  obtain ⟨ready, beaconOk, pass, rfl⟩ := note.pass (by simp) (by simp) (by simp)
  have note : PassNote watched.world (step watched.world (.update ready beaconOk pass))
    (.frame bytes true) := note
  obtain ⟨member, stage⟩ := bootReq_frame note request aid listed
  by_cases running : beaconRunning ready beaconOk watched.world.host = true
  · have done : PassDone watched.world (step watched.world (.update ready beaconOk pass)) :=
      update_done running valid.host.stations
    obtain ⟨here, holds⟩ := (done.record aid member).holds (.inr stage)
    exact valid.whole aid member holds here
  · rw [step, (update_idle running).2.2.1, List.drop_length] at queued
    cases queued

/-- As long as no console takes over the record of one that held the whole
program, every console that is told to start it reported that it holds it. -/
theorem boots_only_whole (hosting : Hosting) (events : List Event)
    (fresh : EachStep watch (fun watched event => ¬ TakesOver watched event) (watchStart hosting) events) :
    EachStep watch BootsWhole (watchStart hosting) events :=
  each_step_of_guard (fun _ event valid fresh => WatchInv.step valid event fresh)
    (fun _ event valid _ => boots_step valid event) _ _ (.start hosting) fresh

/-- A console takes the program: its request, the boot information, and that it
holds every block. -/
def takesProgram (macaddr : Mac) : List Event :=
  [saysEvent macaddr 7 [0, 0, 0, 0, 0, 0, 10], saysEvent macaddr 7 [1, 0x41, 0, 0x41, 0, 0x41, 0],
    saysEvent macaddr 7 [2, 0x41, 0, 0x41, 0, 0x41, 0], saysEvent macaddr 7 [3, 0x41, 0, 0x41, 0, 0x41, 0],
    saysEvent macaddr 7 [4, 0x41, 0, 0, 0, 0, 0], saysEvent macaddr 8 [], saysEvent macaddr 8 [],
    saysEvent macaddr 10 [], saysEvent macaddr 10 []]

def programTaken : List Event :=
  arrivesEvents (1, 2, 3) ++ takesProgram (1, 2, 3) ++ [passEvent plainPass]

theorem boots_only_whole_once : EachStep watch BootsWhole (watchStart smallHosting) programTaken ∧
    Note.frame [3, 0x11, 5, 0, 0, 0, 0, 0, 2, 0] true ∈
      (run watch (watchStart smallHosting) programTaken).world.log :=
  ⟨boots_only_whole smallHosting programTaken (by decide +kernel), by decide +kernel⟩

/-- A console that has asked to start leaves, and another one takes its id before
the next pass: it is told to start a program it never asked for. -/
theorem boots_newcomer : ¬ EachStep watch BootsWhole (watchStart smallHosting)
    (arrivesEvents (1, 2, 3) ++ takesProgram (1, 2, 3) ++ [.mpHost (.clientDisconnect (1, 2, 3))] ++
      joinsEvents (4, 5, 6) ++ [passEvent plainPass]) := by
  rw [each_step_append]
  rintro ⟨_, last, _⟩
  have queued := last [3, 0x11, 5, 0, 0, 0, 0, 0, 2, 0] (by decide +kernel) ⟨rfl, rfl⟩ 1 (by decide)
  exact absurd queued (by decide +kernel)

end Dswifi.DlPlay
