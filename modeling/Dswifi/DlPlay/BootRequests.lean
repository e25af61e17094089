import Dswifi.DlPlay.Addressing
import Dswifi.DlPlay.BootSafety

/-! How often a client is told to start. A client acts on the second request after
the one it accepted, and the host counts three passes; but it counts a pass before
it knows whether the request goes out. -/

namespace Dswifi.DlPlay

open Runs MpHost

/-! The requests. -/

/-- A request to start that the ring has taken, for a list with `aid` in it. -/
def tellsToStart (aid : Nat) : Note → Bool
  | .frame bytes queued => queued && decide (byteAt bytes 1 = flagsNormal) &&
      decide (byteAt bytes 2 = cmdOpBootreq) && (footer bytes).getLsbD aid
  | _ => false

def refused : Note → Bool
  | .frame _ queued => !queued
  | _ => false

/-- The console on `aid` says that it will start. -/
def Accepts (world : World) (aid : Nat) : Event → Prop
  | .packet type macaddr portByte reply =>
      Hears world type macaddr aid ∧ Says .bootReqAccepted portByte reply
  | _ => False

instance (world : World) (aid : Nat) : (event : Event) → Decidable (Accepts world aid event)
  | .packet type macaddr portByte reply =>
      inferInstanceAs (Decidable (Hears world type macaddr aid ∧ Says .bootReqAccepted portByte reply))
  | .update _ _ _ | .mpHost _ | .setBootMode _ | .setGather _ | .setPace _ _ | .bootClient _
  | .bootAll | .lockRoom _ | .appSend _ | .setAppHandler _ => inferInstanceAs (Decidable False)

/-! What the next pass does with a client. -/

/-- It counts a request to start. -/
def CountsBoot (client : Client) : Prop :=
  client.idleCount < silentFrames ∧ client.stage = .bootRequest ∧ client.waitCount < bootFrames ∧
    0 < client.bootAccepted ∧ client.bootAccepted ≤ bootExtraFrames

/-- It says that the exchange is over, in place of all other messages. -/
def EndsSession (client : Client) : Prop :=
  client.idleCount < silentFrames ∧
    (client.stage = .sessionEnd ∧ client.waitCount < sessionEndFrames ∨
      client.stage = .bootRequest ∧
        (client.bootAccepted > bootExtraFrames ∨ client.waitCount ≥ bootFrames))

/-- It takes the client for one that was told often enough. -/
def CountedOut (client : Client) : Prop :=
  client.idleCount < silentFrames ∧ client.stage = .bootRequest ∧ client.bootAccepted > bootExtraFrames

instance (client : Client) : Decidable (CountsBoot client) := by unfold CountsBoot; infer_instance
instance (client : Client) : Decidable (EndsSession client) := by unfold EndsSession; infer_instance
instance (client : Client) : Decidable (CountedOut client) := by unfold CountedOut; infer_instance

/-- A pass that counts a request to `aid`, but ends another client's session or finds
the ring full. -/
def Misses (world : World) (aid : Nat) : Event → Prop
  | .update ready beaconOk pass => beaconRunning ready beaconOk world.host = true ∧
      CountsBoot (world.host.clients aid) ∧
      ((∃ other ∈ aids, world.here other = true ∧ EndsSession (world.host.clients other)) ∨
        (recorded world (.update ready beaconOk pass)).any refused = true)
  | _ => False

instance (world : World) (aid : Nat) : (event : Event) → Decidable (Misses world aid event)
  | .update ready beaconOk pass => inferInstanceAs (Decidable
      (beaconRunning ready beaconOk world.host = true ∧ CountsBoot (world.host.clients aid) ∧
      ((∃ other ∈ aids, world.here other = true ∧ EndsSession (world.host.clients other)) ∨
        (recorded world (.update ready beaconOk pass)).any refused = true)))
  | .packet _ _ _ _ | .mpHost _ | .setBootMode _ | .setGather _ | .setPace _ _ | .bootClient _
  | .bootAll | .lockRoom _ | .appSend _ | .setAppHandler _ => inferInstanceAs (Decidable False)

/-- A host, and of the console on each id since it was associated: whether it has
accepted a request to start, the requests queued to it since it first did, and the
passes that missed it. -/
structure Telling where
  world : World
  accepted : Nat → Bool
  queued : Nat → Nat
  missed : Nat → Nat

def tell (telling : Telling) (event : Event) : Telling :=
  { world := step telling.world event
    accepted := fun aid => (step telling.world event).here aid &&
      (decide (Accepts telling.world aid event) || telling.accepted aid)
    queued := fun aid =>
      if (step telling.world event).here aid && telling.accepted aid then
        telling.queued aid + (recorded telling.world event).countP (tellsToStart aid)
      else 0
    missed := fun aid =>
      if (step telling.world event).here aid then
        telling.missed aid + if Misses telling.world aid event then 1 else 0
      else 0 }

def tellStart (hosting : Hosting) : Telling :=
  { world := start hosting, accepted := fun _ => false, queued := fun _ => 0, missed := fun _ => 0 }

/-- A client whose counter takes it to SESSION_END was told twice. -/
def ToldTwice (telling : Telling) (event : Event) : Prop :=
  ∀ aid ∈ aids, (telling.world.host.clients aid).stage = .bootRequest →
    (telling.world.host.clients aid).bootAccepted > bootExtraFrames →
    ((step telling.world event).host.clients aid).stage = .sessionEnd → 2 ≤ telling.queued aid

/-- No console takes over the counter of another one, and of the passes that were
counted for a client at most one missed it. -/
def TellsOn (telling : Telling) : Event → Prop
  | .mpHost operation => ∀ aid ∈ aids, telling.world.here aid = false →
      (associatedMask (MpHost.step telling.world.mp operation)).getLsbD aid = true →
      (telling.world.host.clients aid).bootAccepted = 0
  | .update ready beaconOk _ => beaconRunning ready beaconOk telling.world.host = true →
      ∀ aid ∈ aids, telling.world.here aid = true → CountedOut (telling.world.host.clients aid) →
        telling.missed aid ≤ 1
  | _ => True

instance (telling : Telling) : (event : Event) → Decidable (TellsOn telling event)
  | .mpHost operation => inferInstanceAs (Decidable (∀ aid ∈ aids, telling.world.here aid = false →
      (associatedMask (MpHost.step telling.world.mp operation)).getLsbD aid = true →
      (telling.world.host.clients aid).bootAccepted = 0))
  | .update ready beaconOk _ => inferInstanceAs (Decidable
      (beaconRunning ready beaconOk telling.world.host = true →
      ∀ aid ∈ aids, telling.world.here aid = true → CountedOut (telling.world.host.clients aid) →
        telling.missed aid ≤ 1))
  | .packet _ _ _ _ | .setBootMode _ | .setGather _ | .setPace _ _ | .bootClient _
  | .bootAll | .lockRoom _ | .appSend _ | .setAppHandler _ => inferInstanceAs (Decidable True)

/-! The counter. -/

theorem countPass_countsBoot {client : Client} (heard : ¬ (countPass client).idleCount > silentFrames)
    (stage : client.stage = .bootRequest)
    (going : ¬ (client.bootAccepted > 0 ∧ client.bootAccepted > bootExtraFrames ∨
      (countPass client).waitCount > bootFrames)) (counts : client.bootAccepted > 0) :
    CountsBoot client := by
  simp only [countPass, not_or, not_and] at heard going
  have early := going.1 counts
  refine ⟨by omega, stage, by omega, counts, by omega⟩

/-- A turn counts at most one request, and then it is for the group of those requests. -/
theorem clientPass_bootAccepted (bootMode : BootMode) (gather : Bool) (client : Client) :
    (clientPass bootMode gather client).1.bootAccepted = client.bootAccepted ∨
      CountsBoot client ∧ (clientPass bootMode gather client).2 = .join .boot ∧
        (clientPass bootMode gather client).1.bootAccepted = client.bootAccepted + 1 := by
  unfold clientPass
  split
  · exact .inl rfl
  · dsimp only
    split
    · exact .inl rfl
    · rename_i heard
      split
      · exact .inl rfl
      · cases stage : client.stage with
        | bootRequest =>
            have counted : (countPass client).stage = .bootRequest := stage
            simp only [stagePass, counted]
            split
            · exact .inl rfl
            · rename_i going
              by_cases counts : client.bootAccepted > 0
              · refine .inr ⟨countPass_countsBoot heard stage going counts, rfl, ?_⟩
                have counts : (countPass client).bootAccepted > 0 := counts
                simp only [countBoot, if_pos counts]
                rfl
              · have counts : ¬ (countPass client).bootAccepted > 0 := counts
                simp only [countBoot, if_neg counts]
                exact .inl rfl
        | connected | reqAccepted | waitToSend | sessionEnd =>
            have counted : (countPass client).stage = _ := stage
            simp only [stagePass, counted]
            split <;> exact .inl rfl
        | none | sendProceed | sendComplete | station | app =>
            have counted : (countPass client).stage = _ := stage
            simp only [stagePass, counted]
            exact .inl rfl

theorem PassRecord.bootAccepted {bootMode : BootMode} {gather : Bool} {client after : Client}
    (record : PassRecord bootMode gather client true after) :
    after.bootAccepted = client.bootAccepted ∨
      CountsBoot client ∧ (clientPass bootMode gather (arrive true client)).2 = .join .boot ∧
        after.bootAccepted = client.bootAccepted + 1 := by
  cases record with
  | served only same =>
      obtain ⟨_, _, rfl, _⟩ := only
      have turn := clientPass_bootAccepted bootMode gather (arrive true client)
      rcases arrive_here client with ⟨_, arrived⟩ | ⟨_, present⟩
      · rw [arrived] at turn ⊢
        rcases turn with kept | ⟨counts, _⟩
        · exact .inl kept
        · exact nomatch counts.2.1
      · rw [present] at turn ⊢
        exact turn

theorem handleStationReply_bootAccepted (client : Client) (port : Nat) (reply : List UInt8) :
    (handleStationReply client port reply).bootAccepted = client.bootAccepted := by
  unfold handleStationReply
  split
  · rfl
  · split
    · rfl
    · split
      · rfl
      · dsimp only
        split
        · rfl
        · split <;> rfl

theorem handleFileRequest_bootAccepted (client : Client) (reply : List UInt8) :
    (handleFileRequest client reply).bootAccepted = client.bootAccepted := by
  have complete : ∀ client : Client,
      (completeRequest client).bootAccepted = client.bootAccepted := by
    intro client
    simp only [completeRequest]
    split <;> split <;> rfl
  unfold handleFileRequest
  split
  · rfl
  · dsimp only
    split
    · rfl
    · split
      · rfl
      · exact complete _

theorem continueReq_bootAccepted (gather : Bool) (client : Client) (reply : List UInt8) :
    (continueReq gather client reply).bootAccepted = client.bootAccepted := by
  have progress : (takeProgress client reply).bootAccepted = client.bootAccepted := by
    unfold takeProgress
    split <;> rfl
  unfold continueReq
  dsimp only
  split <;> exact progress

/-- Only a client that says it will start starts the counter. -/
theorem replyClient_bootAccepted (bootMode : BootMode) (gather : Bool) (portByte : UInt8)
    (reply : List UInt8) (client : Client) :
    (replyClient bootMode gather portByte reply client).bootAccepted = client.bootAccepted ∨
      Says .bootReqAccepted portByte reply ∧
        (replyClient bootMode gather portByte reply client).bootAccepted = 1 := by
  unfold replyClient
  dsimp only
  split
  · exact .inl rfl
  · rename_i inside
    split
    · exact .inl (handleStationReply_bootAccepted _ _ reply)
    · rename_i port
      unfold multibootReply
      split
      · exact .inl rfl
      · exact .inl rfl
      · exact .inl (handleFileRequest_bootAccepted _ reply)
      · refine .inl ?_
        unfold acceptFileInfo
        split
        · split <;> rfl
        · split
          · rfl
          · split <;> rfl
      · exact .inl (continueReq_bootAccepted gather _ reply)
      · refine .inl ?_
        unfold stopReq
        split
        · rfl
        · split
          · split <;> rfl
          · rfl
      · rw [appReply_eq]
        exact .inl rfl
      · rename_i op
        unfold bootReqAccepted
        split
        · exact .inr ⟨⟨by omega, by omega, port, op⟩, rfl⟩
        · exact .inl rfl

/-! The pass that counts a request. -/

theorem stagePass_sessionEnd {gather : Bool} {client : Client}
    (joined : (stagePass gather client).2 = .join .sessionEnd) :
    client.stage = .sessionEnd ∧ client.waitCount ≤ sessionEndFrames ∨
      client.stage = .bootRequest ∧
        (client.bootAccepted > bootExtraFrames ∨ client.waitCount > bootFrames) := by
  cases stage : client.stage with
  | sessionEnd =>
      simp only [stagePass, stage] at joined
      split at joined
      · exact .inl ⟨rfl, ‹_›⟩
      · cases joined
  | bootRequest =>
      simp only [stagePass, stage] at joined
      split at joined
      · rename_i beyond
        exact .inr ⟨rfl, beyond.imp And.right id⟩
      · cases joined
  | connected | reqAccepted | waitToSend =>
      simp only [stagePass, stage] at joined
      split at joined <;> cases joined
  | none | sendProceed | sendComplete | station | app =>
      simp only [stagePass, stage] at joined
      cases joined

theorem clientPass_sessionEnd {bootMode : BootMode} {gather : Bool} {client : Client}
    (joined : (clientPass bootMode gather client).2 = .join .sessionEnd) : EndsSession client := by
  unfold clientPass at joined
  split at joined
  · cases joined
  · dsimp only at joined
    split at joined
    · cases joined
    · rename_i heard
      split at joined
      · cases joined
      · simp only [countPass, Nat.not_lt] at heard
        refine ⟨heard, (stagePass_sessionEnd joined).imp_right ?_⟩
        rintro ⟨stage, beyond⟩
        exact ⟨stage, beyond.imp_right Nat.le_of_lt_succ⟩

/-- A turn that joins a group is that of a client that is here. -/
theorem clientTurn_here {world : World} {aid : Nat} {group : Group}
    (joined : (clientTurn world aid).2 = .join group) : world.here aid = true := by
  cases here : world.here aid with
  | true => rfl
  | false =>
      rw [clientTurn, here, turnOf_away] at joined
      cases joined

theorem joins_sessionEnd {world : World} {aid : Nat}
    (joined : (clientTurn world aid).2 = .join .sessionEnd) :
    world.here aid = true ∧ EndsSession (world.host.clients aid) := by
  have here := clientTurn_here joined
  refine ⟨here, ?_⟩
  rw [clientTurn, turnOf, here] at joined
  have ends := clientPass_sessionEnd joined
  rcases arrive_here (world.host.clients aid) with ⟨_, arrived⟩ | ⟨_, present⟩
  · rw [arrived] at ends
    rcases ends.2 with ⟨other, _⟩ | ⟨other, _⟩ <;> cases other
  · exact present ▸ ends

/-- The frame that tells these clients to start. -/
theorem sendBootReq_log (pass : Pass) (world : World) (dest : Mask) : ∃ bytes queued,
    .frame bytes queued ∈ (sendBootReq pass world dest).log.drop world.log.length ∧
      byteAt bytes 1 = flagsNormal ∧ byteAt bytes 2 = cmdOpBootreq ∧
      footer bytes = dest &&& associatedMask world.mp := by
  have laid : ∃ frame, messageFrame world (.command .bootReq dest) = some frame := ⟨_, rfl⟩
  obtain ⟨frame, laid⟩ := laid
  obtain ⟨header, opcode, list⟩ := command_bytes laid nofun
  have started : cmdStart world flagsNormal (shortPayload cmdOpBootreq) dest = some frame := laid
  refine ⟨frame, pass.txAccepts world.log.length, ?_, header, opcode, list⟩
  rw [sendBootReq, cmdStartSend, started]
  simp [cmdSend, World.note]

/-- The pass tells a client of the group to start, if nobody's session ends. -/
theorem pass_tells {ready beaconOk : Bool} {pass : Pass} {world : World}
    (running : beaconRunning ready beaconOk world.host = true) {aid : Nat} (member : aid ∈ aids)
    (joined : (clientTurn world aid).2 = .join .boot)
    (nobody : ∀ other ∈ aids, world.here other = true → ¬ EndsSession (world.host.clients other)) :
    ∃ bytes queued, .frame bytes queued ∈ recorded world (.update ready beaconOk pass) ∧
      byteAt bytes 1 = flagsNormal ∧ byteAt bytes 2 = cmdOpBootreq ∧
      (footer bytes).getLsbD aid = true := by
  have here := clientTurn_here joined
  have some : associatedMask world.begun.mp ≠ 0 := mask_ne_zero here
  have groups := groups_begun world
  have silent := gathered_noFrame world.begun
  have same : associatedMask (gatherClients (roomApplied world.begun)).world.mp =
      associatedMask world.mp := (gathered world.begun).mp.associated
  rw [recorded, step, update_running running]
  change ∃ bytes queued, _ ∈ (servePass pass world.begun).log.drop world.begun.log.length ∧ _
  rw [servePass_here pass some]
  generalize gatherClients (roomApplied world.begun) = gathering at groups silent same
  -- the groups are served in order, and only the one of the session ends comes first
  have noEnd : gathering.bmp .sessionEnd = 0 := by
    refine BitVec.eq_of_getLsbD_eq fun other _ => ?_
    suffices unset : ¬ (gathering.bmp .sessionEnd).getLsbD other = true by simpa using unset
    intro set
    obtain ⟨inside, ended⟩ := (groups.bmp other .sessionEnd).mp set
    obtain ⟨present, beyond⟩ := joins_sessionEnd ended
    exact nobody other inside present beyond
  have set := (groups.bmp aid .boot).mpr ⟨member, joined⟩
  have boots : gathering.bmp .boot ≠ 0 := mask_ne_zero set
  have sent : sendGroups pass gathering = sendBootReq pass gathering.world (gathering.bmp .boot) := by
    unfold sendGroups
    dsimp only
    rw [if_neg (not_not.mpr noEnd), if_pos boots]
  rw [sent]
  obtain ⟨bytes, queued, handed, header, opcode, list⟩ :=
    sendBootReq_log pass gathering.world (gathering.bmp .boot)
  refine ⟨bytes, queued, silent.later handed, header, opcode, ?_⟩
  rw [list, same, BitVec.getLsbD_and, set, Bool.true_and]
  exact here

/-! One step. -/

/-- What the counter says, but for the passes that missed the client. -/
structure TellInv (telling : Telling) : Prop where
  host : HostInv telling.world
  counter : ∀ aid, aid ∈ aids → telling.world.here aid = true →
    0 < (telling.world.host.clients aid).bootAccepted → telling.accepted aid = true ∧
      (telling.world.host.clients aid).bootAccepted ≤ telling.queued aid + telling.missed aid + 1

theorem tell_accepted {telling : Telling} {event : Event} {aid : Nat}
    (here : (step telling.world event).here aid = true) (accepted : telling.accepted aid = true) :
    (tell telling event).accepted aid = true ∧
      (tell telling event).queued aid =
        telling.queued aid + (recorded telling.world event).countP (tellsToStart aid) ∧
      (tell telling event).missed aid =
        telling.missed aid + if Misses telling.world aid event then 1 else 0 := by
  refine ⟨?_, ?_, ?_⟩
  · simp [tell, here, accepted]
  · simp [tell, here, accepted]
  · simp [tell, here]

/-- A pass that counts a request queues it, or misses the client. -/
theorem counted_step {telling : Telling} {ready beaconOk : Bool} {pass : Pass} {aid : Nat}
    (member : aid ∈ aids)
    (running : beaconRunning ready beaconOk telling.world.host = true)
    (counts : CountsBoot (telling.world.host.clients aid))
    (joined : (clientTurn telling.world aid).2 = .join .boot) :
    1 ≤ (recorded telling.world (.update ready beaconOk pass)).countP (tellsToStart aid) +
      if Misses telling.world aid (.update ready beaconOk pass) then 1 else 0 := by
  by_cases misses : Misses telling.world aid (.update ready beaconOk pass)
  · rw [if_pos misses]
    exact Nat.le_add_left _ _
  · have blockers : ¬ ((∃ other ∈ aids, telling.world.here other = true ∧
          EndsSession (telling.world.host.clients other)) ∨
        (recorded telling.world (.update ready beaconOk pass)).any refused = true) :=
      fun blocked => misses ⟨running, counts, blocked⟩
    -- nothing was refused and nobody came first, so the request is in the queue
    obtain ⟨free, taken⟩ := not_or.mp blockers
    obtain ⟨bytes, queued, handed, header, opcode, listed⟩ := @pass_tells _ _ pass _ running _ member
      joined fun other inside here ends => free ⟨other, inside, here, ends⟩
    have took : queued = true := by
      by_contra refuses
      refine taken (List.any_eq_true.mpr ⟨_, handed, ?_⟩)
      simpa [refused] using refuses
    have told : 0 < (recorded telling.world (.update ready beaconOk pass)).countP (tellsToStart aid) := by
      refine List.countP_pos_iff.mpr ⟨_, handed, ?_⟩
      simp [tellsToStart, took, header, opcode, listed]
    omega

/-- The counter starts when its client accepts, and goes up with a pass. -/
theorem bootAccepted_step {world : World} (valid : HostInv world) (event : Event) {aid : Nat}
    (member : aid ∈ aids) (here : world.here aid = true) :
    ((step world event).host.clients aid).bootAccepted = (world.host.clients aid).bootAccepted ∨
    Accepts world aid event ∧ ((step world event).host.clients aid).bootAccepted = 1 ∨
    ∃ ready beaconOk pass, event = .update ready beaconOk pass ∧
      beaconRunning ready beaconOk world.host = true ∧ CountsBoot (world.host.clients aid) ∧
      (clientTurn world aid).2 = .join .boot ∧
      ((step world event).host.clients aid).bootAccepted = (world.host.clients aid).bootAccepted + 1 := by
  by_cases packet : ∃ type macaddr portByte reply, event = .packet type macaddr portByte reply
  · obtain ⟨type, macaddr, portByte, reply, rfl⟩ := packet
    rw [step, packet_clients]
    by_cases hears : Hears world type macaddr aid
    · rw [if_pos hears, heardClient]
      exact (replyClient_bootAccepted world.host.bootMode world.host.gather portByte reply
        (world.host.clients aid)).imp id fun first => .inl ⟨⟨hears, first.1⟩, first.2⟩
    · rw [if_neg hears]
      exact .inl rfl
  · have record := record_step valid event member
    generalize (step world event).host.clients aid = after at record
    cases record with
    | same event quiet => exact .inl rfl
    | pass ready beaconOk pass running record =>
        rw [show (associatedMask world.mp).getLsbD aid = true from here] at record
        rcases record.bootAccepted with same | ⟨counts, joined, next⟩
        · exact .inl same
        · have turn : (clientTurn world aid).2 = .join .boot := by
            rw [clientTurn, turnOf, here]
            exact joined
          exact .inr (.inr ⟨ready, beaconOk, pass, rfl, running, counts, turn, next⟩)
    | reply type macaddr portByte reply hears turn => exact absurd ⟨_, _, _, _, rfl⟩ packet
    | boot event told stage => exact .inl rfl

/-- The bound on the counter of a client that stays. -/
theorem counter_step {telling : Telling} (valid : TellInv telling) (event : Event) {aid : Nat}
    (member : aid ∈ aids) (before : telling.world.here aid = true)
    (now : (step telling.world event).here aid = true)
    (positive : 0 < ((step telling.world event).host.clients aid).bootAccepted) :
    (tell telling event).accepted aid = true ∧
      ((step telling.world event).host.clients aid).bootAccepted ≤
        (tell telling event).queued aid + (tell telling event).missed aid + 1 := by
  have more := @tell_accepted telling _ _ now
  rcases bootAccepted_step valid.host event member before with
    same | ⟨accepts, first⟩ | ⟨ready, beaconOk, pass, rfl, running, counts, joined, next⟩
  · obtain ⟨accepted, bound⟩ := valid.counter aid member before (same ▸ positive)
    obtain ⟨still, queued, missed⟩ := more accepted
    rw [same, queued, missed]
    exact ⟨still, by omega⟩
  · rw [first]
    exact ⟨by simp [tell, now, accepts], Nat.le_add_left _ _⟩
  · obtain ⟨accepted, bound⟩ := valid.counter aid member before counts.2.2.2.1
    obtain ⟨still, queued, missed⟩ := more accepted
    have told := @counted_step _ _ _ pass _ member running counts joined
    rw [next, queued, missed]
    exact ⟨still, by omega⟩

theorem TellInv.step {telling : Telling} (valid : TellInv telling) (event : Event)
    (tells : TellsOn telling event) : TellInv (tell telling event) := by
  refine ⟨valid.host.step event, fun aid member here positive => ?_⟩
  have now : (DlPlay.step telling.world event).here aid = true := here
  cases before : telling.world.here aid with
  | true => exact counter_step valid event member before now positive
  | false =>
      rcases here_step valid.host now with same | ⟨operation, rfl, joined⟩
      · exact absurd same (by simp [before])
      · -- nobody has counted anything for the console that comes
        have zero : ((tell telling (.mpHost operation)).world.host.clients aid).bootAccepted = 0 :=
          tells aid member before joined
        omega

theorem TellInv.start (hosting : Hosting) : TellInv (tellStart hosting) :=
  ⟨.start hosting, fun _ _ _ positive => absurd positive (Nat.lt_irrefl 0)⟩

/-- No reply ends a session. -/
theorem ReplyTurn.ended {bootMode : BootMode} {gather : Bool} {portByte : UInt8}
    {reply : List UInt8} {client after : Client}
    (turn : ReplyTurn bootMode gather portByte reply client after) (ended : after.stage = .sessionEnd) :
    client.stage = .sessionEnd := by
  cases turn with
  | progress opcode kept => exact (takeProgress_stage client reply).symm.trans ended
  | completed opcode completes =>
      rw [completeRequest_stage] at ended
      split at ended
      · cases ended
      · exact ended
  | ignored idle => exact ended
  | named names => exact ended
  | piece opcode missing inside => exact ended
  | accepted idle => exact ended
  | _ => cases ended

/-- Only a pass ends a session, and it has counted the client out then. -/
theorem ended_step {world : World} (valid : HostInv world) (event : Event) {aid : Nat}
    (member : aid ∈ aids) (before : (world.host.clients aid).stage = .bootRequest)
    (beyond : (world.host.clients aid).bootAccepted > bootExtraFrames)
    (after : ((step world event).host.clients aid).stage = .sessionEnd) :
    ∃ ready beaconOk pass, event = .update ready beaconOk pass ∧
      beaconRunning ready beaconOk world.host = true ∧ world.here aid = true ∧
      CountedOut (world.host.clients aid) := by
  have record := record_step valid event member
  generalize (step world event).host.clients aid = client at record after
  cases record with
  | same event quiet => exact nomatch before.symm.trans after
  | pass ready beaconOk pass running record =>
      refine ⟨ready, beaconOk, pass, rfl, running, ?_⟩
      cases here : (associatedMask world.mp).getLsbD aid with
      | false =>
          rw [here] at record
          cases record with
          | absent idle => exact nomatch before.symm.trans idle
          | cleared => cases after
      | true =>
          rw [here] at record
          refine ⟨here, ?_, before, beyond⟩
          cases record with
          | served only same =>
              rw [only.stage] at after
              rcases arrive_here (world.host.clients aid) with ⟨idle, _⟩ | ⟨_, present⟩
              · exact nomatch before.symm.trans idle
              · rw [present] at after
                have turn := clientPass_turn world.host.bootMode world.host.gather (world.host.clients aid)
                generalize clientPass world.host.bootMode world.host.gather (world.host.clients aid) =
                  passed at turn after
                obtain ⟨client', outcome⟩ := passed
                cases turn with
                | idle stage => exact nomatch before.symm.trans stage
                | silent stage long => exact nomatch before.symm.trans after
                | stalled stage stuck => exact nomatch before.symm.trans after
                | served stage heard going turn => exact heard
  | reply type macaddr portByte reply hears turn =>
      have same : (world.host.clients aid).stage = .sessionEnd := turn.ended after
      exact nomatch before.symm.trans same
  | boot event told stage => exact nomatch before.symm.trans stage

theorem told_step {telling : Telling} (valid : TellInv telling) (event : Event)
    (tells : TellsOn telling event) : ToldTwice telling event := by
  intro aid member before beyond after
  obtain ⟨ready, beaconOk, pass, rfl, running, here, out⟩ :=
    ended_step valid.host event member before beyond after
  have missed := tells running aid member here out
  have bound := (valid.counter aid member here (Nat.lt_of_le_of_lt (Nat.zero_le _) beyond)).2
  simp only [bootExtraFrames] at beyond
  omega

/-- As long as no console takes over the counter of another one, and at most one of
the passes that were counted for a client went to another group or to a full ring,
no client is counted out before it was told twice. -/
theorem told_twice (hosting : Hosting) (events : List Event)
    (tells : EachStep tell TellsOn (tellStart hosting) events) :
    EachStep tell ToldTwice (tellStart hosting) events :=
  each_step_of_guard (fun _ event valid tells => TellInv.step valid event tells)
    (fun _ event valid tells => told_step valid event tells) _ _ (.start hosting) tells

/-- A pass that finds the ring full. -/
def fullPass : Pass := { plainPass with txAccepts := fun _ => false }

/-- A console takes the program, accepts the request to start, and is counted out by
the last of these passes. -/
def countedOut (passes : List Pass) : List Event :=
  arrivesEvents (1, 2, 3) ++ takesProgram (1, 2, 3) ++ [passEvent plainPass, saysEvent (1, 2, 3) 11 []] ++
    passes.map passEvent ++ [passEvent plainPass]

theorem told_twice_once :
    EachStep tell ToldTwice (tellStart smallHosting) (countedOut [plainPass, fullPass, plainPass]) ∧
      ((run tell (tellStart smallHosting) (countedOut [plainPass, fullPass, plainPass])).world.host.clients
        1).stage = .sessionEnd :=
  ⟨told_twice smallHosting _ (by decide +kernel), by decide +kernel⟩

/-- Three passes with a full ring count the client out: none of the requests since it
accepted went out. -/
theorem counted_out_untold : ¬ EachStep tell ToldTwice (tellStart smallHosting)
    (countedOut [fullPass, fullPass, fullPass]) := by
  rw [countedOut, each_step_append]
  rintro ⟨_, last, _⟩
  have twice := last 1 (by decide) (by decide +kernel) (by decide +kernel) (by decide +kernel)
  exact absurd twice (by decide +kernel)

end Dswifi.DlPlay
