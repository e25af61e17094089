import Dswifi.DlPlay.Waiting

/-! A console running the Download Station program wants files, not the blocks of
a program. Three ways lead it into a stage of the transfer all the same: the
timeout of WAIT_TO_SEND, a reply that asks for a block there, and a request
that is complete only when the transfer runs. -/

namespace Dswifi.DlPlay

open Runs MpHost

/-- The stages of the transfer of a program. -/
def Fed (stage : Stage) : Prop :=
  stage = .sendProceed ∨ stage = .sendComplete ∨ stage = .bootRequest

instance (stage : Stage) : Decidable (Fed stage) := by unfold Fed; infer_instance

def FedStation (client : Client) : Prop := clientIsStation client = true ∧ Fed client.stage

def NeverFed (world : World) : Prop := ∀ aid, aid ∈ aids → ¬ FedStation (world.host.clients aid)

/-- A station client in WAIT_TO_SEND, of a host that does not gather. -/
def Waiting (world : World) (client : Client) : Prop :=
  clientIsStation client = true ∧ client.stage = .waitToSend ∧ world.host.gather = false

/-- The steps that lead the station client `aid` into the transfer. -/
def FeedsAt (world : World) (aid : Nat) : Event → Prop
  | .update ready beaconOk _ =>
      beaconRunning ready beaconOk world.host = true ∧
        (associatedMask world.mp).getLsbD aid = true ∧
        Waiting world (world.host.clients aid) ∧
        startSendFrames ≤ (world.host.clients aid).waitCount ∧
        (world.host.clients aid).idleCount < silentFrames
  | .packet type macaddr portByte reply =>
      Hears world type macaddr aid ∧
        (Says .continueReq portByte reply ∧ Waiting world (world.host.clients aid) ∨
          Says .fileReq portByte reply ∧ Completes (world.host.clients aid) reply ∧
            (world.host.clients aid).request.valid = false ∧
            isStationName (decodeRequest (withPiece (world.host.clients aid) reply)).request = true ∧
            Fed (world.host.clients aid).stage)
  | _ => False

def Feeds (world : World) (event : Event) : Prop := ∃ aid, aid ∈ aids ∧ FeedsAt world aid event

/-- A complete request says what its name says. -/
def NameInv (client : Client) : Prop :=
  client.request.valid = true → client.request.isStation = isStationName client.request

structure FeedInv (world : World) : Prop where
  host : HostInv world
  never : NeverFed world
  names : ∀ aid, aid ∈ aids → NameInv (world.host.clients aid)

/-! The name. -/

theorem completeRequest_request (client : Client) :
    (completeRequest client).request =
      if client.request.valid then
        { client.request with isStation := isStationName client.request }
      else
        { (decodeRequest client).request with
          isStation := isStationName (decodeRequest client).request } := by
  cases valid : client.request.valid with
  | false =>
      simp only [completeRequest, valid, Bool.not_false, if_true, Bool.false_eq_true, if_false]
      split <;> rfl
  | true =>
      simp only [completeRequest, valid, Bool.not_true, Bool.false_eq_true, if_false, if_true]
      split <;> rfl

theorem completeRequest_name (client : Client) : NameInv (completeRequest client) := by
  intro _
  rw [completeRequest_request]
  split <;> rfl

theorem takeProgress_name {client : Client} (named : NameInv client) (reply : List UInt8) :
    NameInv (takeProgress client reply) := by
  unfold takeProgress
  split
  · exact named
  · exact named

theorem ReplyTurn.name {bootMode : BootMode} {gather : Bool} {portByte : UInt8}
    {reply : List UInt8} {client after : Client}
    (turn : ReplyTurn bootMode gather portByte reply client after) (named : NameInv client) :
    NameInv after := by
  cases turn with
  | completed opcode completes => exact completeRequest_name _
  | progress opcode kept => exact takeProgress_name named reply
  | pulled opcode free stage => exact takeProgress_name named reply
  | _ => exact named

theorem request_of_said {before after : Client} (same : after.said = before.said) :
    after.request = before.request := congrArg (fun said => said.2.2.1) same

theorem PassRecord.request {bootMode : BootMode} {gather : Bool} {client after : Client}
    {here : Bool} (record : PassRecord bootMode gather client here after) :
    after.request = client.request ∨ after = {} := record.said.imp_left request_of_said

/-- No step separates the flag of a complete request from its name. -/
theorem RecordStep.name {world : World} {aid : Nat} {event : Event} {after : Client}
    (record : RecordStep world aid event after) (named : NameInv (world.host.clients aid)) :
    NameInv after := by
  cases record with
  | same event quiet => exact named
  | pass ready beaconOk pass running record =>
      rcases record.request with same | rfl
      · rw [NameInv, same]
        exact named
      · exact nofun
  | reply type macaddr portByte reply hears turn => exact turn.name named
  | boot event asked stage => exact named

/-! A step that feeds a station client is one of the three. -/

theorem StageEdge.fed {before after : Stage} (edge : StageEdge before after) (fed : Fed after) :
    Fed before ∨ before = .waitToSend := by
  cases edge with
  | proceed => exact .inr rfl
  | complete => exact .inl (.inl rfl)
  | boot => exact .inl (.inr (.inl rfl))
  | _ => rcases fed with fed | fed | fed <;> cases fed

/-- The timeout of WAIT_TO_SEND is the only turn that starts the transfer. -/
theorem Turn.fed {bootMode : BootMode} {gather : Bool} {client after : Client} {outcome : Outcome}
    (turn : Turn bootMode gather client after outcome) (before : ¬ Fed client.stage)
    (fed : Fed after.stage) : client.stage = .waitToSend ∧ gather = false ∧
      startSendFrames ≤ client.waitCount ∧ client.idleCount < silentFrames := by
  cases turn with
  | served stage heard going turn =>
      cases turn with
      | released stage free late =>
          simp only [countPass] at late
          exact ⟨stage, free, by omega, by omega⟩
      | ended stage => exact absurd (.inr (.inr stage)) before
      | asked stage => exact absurd (.inr (.inr stage)) before
      | admitted stage late => exact absurd fed (show ¬ Fed .reqAccepted by decide)
      | offered stage late => exact absurd fed (show ¬ Fed .waitToSend by decide)
      | stays outcome quiet kept station early => exact absurd fed before
  | _ => exact absurd fed before

theorem clientIsStation_of {before after : Client} (same : after.request = before.request) :
    clientIsStation after = clientIsStation before := by rw [clientIsStation, clientIsStation, same]

theorem PassRecord.fed {bootMode : BootMode} {gather here : Bool} {client after : Client}
    (record : PassRecord bootMode gather client here after) (before : ¬ FedStation client)
    (fed : FedStation after) : here = true ∧ clientIsStation client = true ∧
      client.stage = .waitToSend ∧ gather = false ∧ startSendFrames ≤ client.waitCount ∧
      client.idleCount < silentFrames := by
  obtain ⟨station, fed⟩ := fed
  have mine : clientIsStation client = true := by
    rcases record.request with same | rfl
    · exact (clientIsStation_of same).symm.trans station
    · cases station
  have unfed : ¬ Fed client.stage := fun fed => before ⟨mine, fed⟩
  cases record with
  | absent idle => exact absurd fed unfed
  | cleared => exact absurd fed (by decide)
  | served only same =>
      rw [only.stage] at fed
      have turn := clientPass_turn bootMode gather (arrive true client)
      by_cases idle : client.stage = .none
      · have arrived : (arrive true client).stage = .connected := by
          simp [arrive, idle, setClientStage]
        have waits := turn.fed (by rw [arrived]; decide) fed
        cases arrived.symm.trans waits.1
      · have present : arrive true client = client := by simp [arrive, idle]
        rw [present] at turn fed
        exact ⟨rfl, mine, turn.fed unfed fed⟩

theorem completeRequest_fed {client : Client} (named : NameInv client)
    (before : ¬ FedStation client) (fed : FedStation (completeRequest client)) :
    client.request.valid = false ∧ isStationName (decodeRequest client).request = true ∧
      Fed client.stage := by
  obtain ⟨station, fed⟩ := fed
  have stage : Fed client.stage := by
    rw [completeRequest_stage] at fed
    split at fed
    · exact absurd fed (by decide)
    · exact fed
  rw [clientIsStation, completeRequest_request] at station
  cases valid : client.request.valid with
  | true =>
      -- its name was known before, so it was a station client before
      rw [if_pos valid, Bool.and_eq_true] at station
      have known : clientIsStation client = true := by
        rw [clientIsStation, valid, named valid]
        exact station.2
      exact absurd ⟨known, stage⟩ before
  | false =>
      rw [valid, if_neg (by decide), Bool.and_eq_true] at station
      exact ⟨rfl, station.2, stage⟩

theorem takeProgress_isStation (client : Client) (reply : List UInt8) :
    clientIsStation (takeProgress client reply) = clientIsStation client := by
  unfold takeProgress
  split <;> rfl

theorem ReplyTurn.fed {bootMode : BootMode} {gather : Bool} {portByte : UInt8}
    {reply : List UInt8} {client after : Client}
    (turn : ReplyTurn bootMode gather portByte reply client after) (named : NameInv client)
    (before : ¬ FedStation client) (fed : FedStation after) :
    Says .continueReq portByte reply ∧ clientIsStation client = true ∧
        client.stage = .waitToSend ∧ gather = false ∨
      Says .fileReq portByte reply ∧ Completes client reply ∧ client.request.valid = false ∧
        isStationName (decodeRequest (withPiece client reply)).request = true ∧ Fed client.stage := by
  obtain ⟨station, stage⟩ := fed
  cases turn with
  | ignored idle => exact absurd ⟨station, stage⟩ before
  | named names => exact absurd ⟨station, stage⟩ before
  | piece opcode missing inside => exact absurd ⟨station, stage⟩ before
  | completed opcode completes =>
      exact .inr ⟨opcode, completes,
        completeRequest_fed (show NameInv (withPiece client reply) from named) before
          ⟨station, stage⟩⟩
  | toStation => exact absurd stage (show ¬ Fed .station by decide)
  | offered => exact absurd stage (show ¬ Fed .waitToSend by decide)
  | started from_ free program => exact nomatch program.symm.trans station
  | progress opcode kept =>
      rw [takeProgress_stage] at stage
      rw [takeProgress_isStation] at station
      exact absurd ⟨station, stage⟩ before
  | pulled opcode free waits =>
      exact .inl ⟨opcode, (takeProgress_isStation client reply).symm.trans station, waits, free⟩
  | finished opcode from_ => exact absurd ⟨station, .inl from_⟩ before
  | booted opcode from_ told => exact absurd ⟨station, .inr (.inl from_)⟩ before
  | returned opcode => exact absurd stage (show ¬ Fed .app by decide)
  | accepted idle => exact absurd ⟨station, stage⟩ before

theorem feeds_of_fed {world : World} (valid : FeedInv world) (event : Event) {aid : Nat}
    (member : aid ∈ aids) (fed : FedStation ((step world event).host.clients aid)) :
    FeedsAt world aid event := by
  have before := valid.never aid member
  have record := record_step valid.host event member
  generalize (step world event).host.clients aid = client at record fed
  cases record with
  | same event quiet => exact absurd fed before
  | pass ready beaconOk pass running record =>
      obtain ⟨here, station, stage, free, late, heard⟩ := record.fed before fed
      exact ⟨running, here, ⟨station, stage, free⟩, late, heard⟩
  | reply type macaddr portByte reply hears turn =>
      rcases turn.fed (valid.names aid member) before fed with
        ⟨opcode, station, stage, free⟩ | complete
      · exact ⟨hears, .inl ⟨opcode, station, stage, free⟩⟩
      · exact ⟨hears, .inr complete⟩
  | boot event asked stage => exact absurd ⟨fed.1, .inr (.inl stage)⟩ before

/-! Each of the three does feed it. -/

/-- A reply of the multiboot port is taken by its opcode. -/
theorem replyClient_opcode {op : ReplyOp} {portByte : UInt8} {reply : List UInt8}
    (opcode : Says op portByte reply) (bootMode : BootMode) (gather : Bool) (client : Client) :
    replyClient bootMode gather portByte reply client =
      multibootReply bootMode gather (heard client) reply := by
  obtain ⟨short, some, port, _⟩ := opcode
  have inside : ¬ (reply.length > replyMaxSize ∨ reply.length = 0) := by omega
  simp only [replyClient, if_neg inside, port, heard]

/-- The timeout of WAIT_TO_SEND, for a client that was heard of. -/
theorem Turn.releases {bootMode : BootMode} {gather : Bool} {client after : Client}
    {outcome : Outcome} (turn : Turn bootMode gather client after outcome)
    (stage : client.stage = .waitToSend) (free : gather = false)
    (late : startSendFrames ≤ client.waitCount) (heard : client.idleCount < silentFrames) :
    after.stage = .sendProceed := by
  have going : ¬ Stalled bootMode (countPass client) := by
    rintro (⟨_, other, _⟩ | ⟨other, _⟩ | ⟨other, _⟩) <;>
      exact nomatch stage.symm.trans (show client.stage = _ from other)
  cases turn with
  | idle other => exact nomatch stage.symm.trans other
  | silent _ long => omega
  | stalled _ stuck => exact absurd stuck going
  | served _ _ _ turn =>
      have waits : (countPass client).stage = .waitToSend := stage
      cases turn with
      | released _ _ _ => rfl
      | ended other => exact nomatch waits.symm.trans other
      | asked other => exact nomatch waits.symm.trans other
      | admitted other _ => exact nomatch waits.symm.trans other
      | offered other _ => exact nomatch waits.symm.trans other
      | stays outcome quiet kept station early =>
          have soon := early waits free
          simp only [countPass] at soon
          omega

theorem PassRecord.releases {bootMode : BootMode} {gather : Bool} {client after : Client}
    (record : PassRecord bootMode gather client true after) (stage : client.stage = .waitToSend)
    (free : gather = false) (late : startSendFrames ≤ client.waitCount)
    (heard : client.idleCount < silentFrames) :
    after.stage = .sendProceed ∧ after.request = client.request := by
  cases record with
  | served only same =>
      have present : arrive true client = client := by simp [arrive, stage]
      rw [present] at only same
      have turn := clientPass_turn bootMode gather client
      refine ⟨only.stage.trans (turn.releases stage free late heard), ?_⟩
      obtain ⟨_, _, rfl, _⟩ := only
      exact request_of_said turn.said

theorem continueReq_feeds {gather : Bool} {client : Client} (reply : List UInt8)
    (station : clientIsStation client = true) (stage : client.stage = .waitToSend)
    (free : gather = false) : FedStation (continueReq gather client reply) := by
  have waits : (takeProgress client reply).stage = .waitToSend :=
    (takeProgress_stage client reply).trans stage
  simp only [continueReq, free, Bool.not_false, true_and]
  rw [if_pos waits]
  exact ⟨(takeProgress_isStation client reply).trans station, .inl rfl⟩

theorem handleFileRequest_feeds {client : Client} {reply : List UInt8}
    (completes : Completes client reply) (fresh : client.request.valid = false)
    (name : isStationName (decodeRequest (withPiece client reply)).request = true)
    (fed : Fed client.stage) : FedStation (handleFileRequest client reply) := by
  obtain ⟨long, inside, full⟩ := completes
  have complete : handleFileRequest client reply = completeRequest (withPiece client reply) := by
    simp only [handleFileRequest, if_neg (Nat.not_lt.mpr long), if_neg (Nat.not_le.mpr inside)]
    exact if_neg fun missing => missing full
  have unread : (withPiece client reply).request.valid = false := fresh
  have other : client.stage ≠ .connected := by
    intro connected
    rw [connected] at fed
    exact absurd fed (by decide)
  rw [complete]
  constructor
  · rw [clientIsStation, completeRequest_request, unread, if_neg (by decide), name]
    rfl
  · rw [completeRequest_stage]
    exact (if_neg other).symm ▸ fed

theorem fed_of_feeds {world : World} (valid : FeedInv world) (event : Event) {aid : Nat}
    (member : aid ∈ aids) (feeds : FeedsAt world aid event) :
    FedStation ((step world event).host.clients aid) := by
  cases event with
  | update ready beaconOk pass =>
      obtain ⟨running, here, ⟨station, stage, free⟩, late, heard⟩ := feeds
      have done : PassDone world (update ready beaconOk pass world) :=
        update_done running valid.host.stations
      have record := done.record aid member
      rw [here] at record
      obtain ⟨moved, request⟩ := record.releases stage free late heard
      exact ⟨(clientIsStation_of request).trans station, .inl moved⟩
  | packet type macaddr portByte reply =>
      obtain ⟨hears, feeds⟩ := feeds
      rw [step, packet_clients, if_pos hears, heardClient]
      rcases feeds with ⟨opcode, station, stage, free⟩ | ⟨opcode, completes, fresh, name, fed⟩
      · rw [replyClient_opcode opcode]
        simp only [multibootReply, opcode.2.2.2]
        exact continueReq_feeds reply station stage free
      · rw [replyClient_opcode opcode]
        simp only [multibootReply, opcode.2.2.2]
        exact handleFileRequest_feeds (show Completes (heard (world.host.clients aid)) reply from
          completes) fresh name fed
  | _ => exact feeds.elim

/-! Runs. -/

theorem never_fed_iff {world : World} (valid : FeedInv world) (event : Event) :
    NeverFed (step world event) ↔ ¬ Feeds world event := by
  constructor
  · rintro never ⟨aid, member, feeds⟩
    exact never aid member (fed_of_feeds valid event member feeds)
  · intro quiet aid member fed
    exact quiet ⟨aid, member, feeds_of_fed valid event member fed⟩

theorem FeedInv.step {world : World} (valid : FeedInv world) (event : Event)
    (quiet : ¬ Feeds world event) : FeedInv (step world event) :=
  ⟨valid.host.step event, (never_fed_iff valid event).mpr quiet, fun aid member =>
    (record_step valid.host event member).name (valid.names aid member)⟩

theorem FeedInv.start (hosting : Hosting) : FeedInv (start hosting) :=
  ⟨.start hosting, fun _ _ fed => (nomatch fed.1), fun _ _ => nofun⟩

/-- A run never feeds a station client exactly when none of its steps is one of
the three that do. -/
theorem station_never_fed_iff (hosting : Hosting) (events : List Event) :
    Always step NeverFed (start hosting) events ↔
      EachStep step (fun world event => ¬ Feeds world event) (start hosting) events := by
  have each : EachStep step (fun world event => NeverFed (step world event)) (start hosting) events ↔
      EachStep step (fun world event => ¬ Feeds world event) (start hosting) events :=
    each_step_iff_guard (fun _ event valid quiet => valid.step event quiet)
      (fun _ event valid => never_fed_iff valid event) (start hosting) events (.start hosting)
  exact ⟨fun always => each.mp always.2, fun quiet => ⟨(FeedInv.start hosting).never, each.mpr quiet⟩⟩

/-! A station console whose answer to the boot information is lost. -/

/-- The timeout of REQ_ACCEPTED counts up to its limit and then moves on. -/
theorem Turn.fileInfo {bootMode : BootMode} {gather : Bool} {client after : Client}
    {outcome : Outcome} (turn : Turn bootMode gather client after outcome)
    (stage : client.stage = .reqAccepted) :
    outcome ≠ .join .station ∧ (client.waitCount < fileInfoFrames → after = countPass client) := by
  have accepted : (countPass client).stage = .reqAccepted := stage
  refine ⟨fun joined => ?_, fun early => ?_⟩
  · rw [joined] at turn
    cases stage.symm.trans turn.station.2
  · cases turn with
    | idle other => cases stage.symm.trans other
    | silent _ long => rfl
    | stalled _ stuck => rfl
    | served _ _ _ turn =>
        cases turn with
        | ended other => cases accepted.symm.trans other
        | asked other => cases accepted.symm.trans other
        | admitted other _ => cases accepted.symm.trans other
        | offered _ late =>
            simp only [countPass] at late
            omega
        | released other _ _ => cases accepted.symm.trans other
        | stays _ _ _ _ _ => rfl

def stationAdmitted (macaddr : Mac) : List Event := arrivesEvents macaddr ++ stationRequest macaddr

theorem stationAdmitted_waits :
    Waits .automatic false (1, 2, 3) (run step (start smallHosting) (stationAdmitted (1, 2, 3))) 1
      ((run step (start smallHosting) (stationAdmitted (1, 2, 3))).host.clients 1) :=
  ⟨hostInv_run _ _, by decide +kernel, by decide +kernel, by decide +kernel, by decide +kernel,
    by decide +kernel, rfl⟩

/-- Ninety silent passes and one more: the boot information counts as taken. -/
theorem stationAdmitted_late {client : Client} (stage : client.stage = .reqAccepted)
    (waited : client.waitCount = 0) (idled : client.idleCount = 0) :
    (clientPass .automatic false (counted 90 client)).1.stage = .waitToSend ∧
      (clientPass .automatic false (counted 90 client)).2 ≠ .join .station ∧
      (clientPass .automatic false (counted 90 client)).1.request = client.request := by
  have turn := clientPass_turn .automatic false (counted 90 client)
  refine ⟨?_, (turn.fileInfo stage).1, request_of_said turn.said⟩
  simp [clientPass, stagePass, countPass, counted, stage, waited, idled, silentFrames,
    fileInfoFrames, setClientStage]

theorem station_fed_by_timeout : ¬ Always step NeverFed (start smallHosting)
    (stationAdmitted (1, 2, 3) ++ List.replicate 91 (passEvent plainPass) ++
      [saysEvent (1, 2, 3) 9 [0, 0, 0, 0]]) := by
  intro always
  have never := always_run always
  rw [run_append, run_append] at never
  have waits := stationAdmitted_waits
  have stage : ((run step (start smallHosting) (stationAdmitted (1, 2, 3))).host.clients 1).stage =
      .reqAccepted := by decide +kernel
  have waited : ((run step (start smallHosting) (stationAdmitted (1, 2, 3))).host.clients 1).waitCount =
      0 := by decide +kernel
  have idled : ((run step (start smallHosting) (stationAdmitted (1, 2, 3))).host.clients 1).idleCount =
      0 := by decide +kernel
  have station : clientIsStation
      ((run step (start smallHosting) (stationAdmitted (1, 2, 3))).host.clients 1) = true := by
    decide +kernel
  generalize run step (start smallHosting) (stationAdmitted (1, 2, 3)) = world at *
  generalize world.host.clients 1 = client at *
  have member : 1 ∈ aids := (mem_aids 1).mpr (by decide)
  -- the answer is lost, and the host waits out the time of REQ_ACCEPTED
  have counted := waits.passes member (by rw [stage]; decide) plainPass 90 fun k below => by
    obtain ⟨other, counts⟩ := (clientPass_turn .automatic false (counted k client)).fileInfo stage
    exact ⟨counts (by simpa [DlPlay.counted, waited, fileInfoFrames] using below), other⟩
  obtain ⟨moved, other, request⟩ := stationAdmitted_late stage waited idled
  have late := (counted.pass member (by rw [DlPlay.counted, stage]; decide) other plainPass).reply
    member 0 [9, 0, 0, 0, 0]
  have opcode : Says .continueReq 0 [9, 0, 0, 0, 0] := by decide
  -- a request for a block is then all that it takes
  have fed : FedStation (continueReq false
      (heard (clientPass .automatic false (DlPlay.counted 90 client)).1) [9, 0, 0, 0, 0]) :=
    continueReq_feeds _ ((clientIsStation_of request).trans station) moved rfl
  have record := late.record
  rw [replyClient_opcode opcode] at record
  have last : List.replicate 91 (passEvent plainPass) =
      List.replicate 90 (passEvent plainPass) ++ [passEvent plainPass] := List.replicate_succ' (n := 90)
  rw [last, run_append] at never
  refine never 1 member ?_
  rw [run_cons, run_cons, run_nil, run_nil, saysEvent, record]
  exact fed

end Dswifi.DlPlay
