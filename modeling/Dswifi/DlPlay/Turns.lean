import Dswifi.DlPlay.Sends

/-! What one client's turn in a pass, and one reply, can do to its record, told
once. -/

namespace Dswifi.DlPlay

open MpHost KickRequests

/-! Turns. -/

/-- The switch over the stages: four timeouts, a request to start, or nothing. -/
inductive StageTurn (gather : Bool) (client : Client) : Client → Outcome → Prop where
  | ended (stage : client.stage = .bootRequest) :
      StageTurn gather client (setClientStage client .sessionEnd) (.join .sessionEnd)
  | asked (stage : client.stage = .bootRequest) :
      StageTurn gather client (countBoot client) (.join .boot)
  | admitted (stage : client.stage = .connected) (late : client.waitCount > requestFrames) :
      StageTurn gather client (setClientStage client .reqAccepted) (.join .fileInfo)
  | offered (stage : client.stage = .reqAccepted) (late : client.waitCount > fileInfoFrames) :
      StageTurn gather client (setClientStage client .waitToSend) .nothing
  | released (stage : client.stage = .waitToSend) (free : gather = false)
      (late : client.waitCount > startSendFrames) :
      StageTurn gather client (setClientStage client .sendProceed) (.join .send)
  | stays (outcome : Outcome) (quiet : outcome ≠ .join .boot)
      (kept : ∀ reason, outcome ≠ .giveUp reason)
      (station : outcome = .join .station → client.stage = .station)
      (early : client.stage = .waitToSend → gather = false → client.waitCount ≤ startSendFrames) :
      StageTurn gather client client outcome

theorem stagePass_turn (gather : Bool) (client : Client) :
    StageTurn gather client (stagePass gather client).1 (stagePass gather client).2 := by
  have other : ∀ {stage : Stage}, client.stage = stage → stage ≠ .waitToSend →
      client.stage = .waitToSend → gather = false → client.waitCount ≤ startSendFrames :=
    fun is not waits => absurd (is.symm.trans waits) not
  -- each stage has its own limit; beyond it the stage is left
  cases stage : client.stage with
  | bootRequest =>
      by_cases beyond : client.bootAccepted > 0 ∧ client.bootAccepted > bootExtraFrames ∨
          client.waitCount > bootFrames
      · simpa only [stagePass, stage, if_pos beyond] using .ended stage
      · simpa only [stagePass, stage, if_neg beyond] using .asked stage
  | connected =>
      by_cases beyond : client.waitCount > requestFrames
      · simpa only [stagePass, stage, if_pos beyond] using .admitted stage beyond
      · simpa only [stagePass, stage, if_neg beyond] using
          .stays (.join .start) nofun nofun nofun (other stage nofun)
  | reqAccepted =>
      by_cases beyond : client.waitCount > fileInfoFrames
      · simpa only [stagePass, stage, if_pos beyond] using .offered stage beyond
      · simpa only [stagePass, stage, if_neg beyond] using
          .stays (.join .fileInfo) nofun nofun nofun (other stage nofun)
  | waitToSend =>
      by_cases beyond : !gather ∧ client.waitCount > startSendFrames
      · simpa only [stagePass, stage, if_pos beyond] using
          .released stage (by simpa using beyond.1) beyond.2
      · simp only [stagePass, stage, if_neg beyond]
        refine .stays .nothing nofun nofun nofun fun _ free => ?_
        by_contra late
        exact beyond ⟨by simp [free], Nat.lt_of_not_le late⟩
  | sessionEnd =>
      by_cases beyond : client.waitCount ≤ sessionEndFrames
      · simpa only [stagePass, stage, if_pos beyond] using
          .stays (.join .sessionEnd) nofun nofun nofun (other stage nofun)
      · simpa only [stagePass, stage, if_neg beyond] using
          .stays .nothing nofun nofun nofun (other stage nofun)
  | sendProceed =>
      simpa only [stagePass, stage] using .stays (.join .send) nofun nofun nofun (other stage nofun)
  | station =>
      simpa only [stagePass, stage] using
        .stays (.join .station) nofun nofun (fun _ => stage) (other stage nofun)
  | app =>
      simpa only [stagePass, stage] using .stays (.join .app) nofun nofun nofun (other stage nofun)
  | none =>
      simpa only [stagePass, stage] using .stays .nothing nofun nofun nofun (other stage nofun)
  | sendComplete =>
      simpa only [stagePass, stage] using .stays .nothing nofun nofun nofun (other stage nofun)

/-- A client that has stopped getting anywhere, after its counters went up. -/
def Stalled (bootMode : BootMode) (client : Client) : Prop :=
  ¬ (bootMode = .manual ∧ client.stage = .sendComplete) ∧ client.stage = .sendComplete ∧
      client.waitCount > completeFrames ∨
    client.stage = .station ∧ client.waitCount > stationIdleFrames ∨
    client.stage = .app ∧ client.waitCount > appIdleFrames

inductive Turn (bootMode : BootMode) (gather : Bool) (client : Client) : Client → Outcome → Prop where
  | idle (stage : client.stage = .none) : Turn bootMode gather client client .nothing
  | silent (stage : client.stage ≠ .none) (long : client.idleCount + 1 > silentFrames) :
      Turn bootMode gather client (countPass client) (.giveUp .silent)
  | stalled (stage : client.stage ≠ .none) (stuck : Stalled bootMode (countPass client)) :
      Turn bootMode gather client (countPass client) (.giveUp .stalled)
  | served {after : Client} {outcome : Outcome} (stage : client.stage ≠ .none)
      (heard : client.idleCount + 1 ≤ silentFrames) (going : ¬ Stalled bootMode (countPass client))
      (turn : StageTurn gather (countPass client) after outcome) :
      Turn bootMode gather client after outcome

theorem clientPass_turn (bootMode : BootMode) (gather : Bool) (client : Client) :
    Turn bootMode gather client (clientPass bootMode gather client).1
      (clientPass bootMode gather client).2 := by
  unfold clientPass
  split
  · exact .idle ‹_›
  · dsimp only
    split
    · exact .silent ‹_› ‹_›
    · split
      · exact .stalled ‹_› ‹_›
      · exact .served ‹_› (Nat.le_of_not_lt ‹_›) ‹_› (stagePass_turn gather (countPass client))

/-- The stages a turn can lead from and to. -/
theorem StageTurn.station_same {gather : Bool} {client after : Client} {outcome : Outcome}
    (turn : StageTurn gather client after outcome) : after.station = client.station := by
  cases turn <;> rfl

theorem Turn.station_same {bootMode : BootMode} {gather : Bool} {client after : Client}
    {outcome : Outcome} (turn : Turn bootMode gather client after outcome) :
    after.station = client.station := by
  cases turn with
  | idle stage => rfl
  | silent stage long => rfl
  | stalled stage stuck => rfl
  | served stage heard going turn => exact turn.station_same

/-- What the pieces of its request left in a record. -/
def Client.said (client : Client) : ByteMemory.Memory × BitVec 8 × ClientRequest × List UInt8 :=
  (client.reqBuffer, client.reqMask, client.request, client.nameAscii)

theorem Turn.said {bootMode : BootMode} {gather : Bool} {client after : Client}
    {outcome : Outcome} (turn : Turn bootMode gather client after outcome) :
    after.said = client.said := by
  cases turn with
  | served stage heard going turn => cases turn <;> rfl
  | _ => rfl

/-- Only a client told to start is in the group of the requests to start. -/
theorem Turn.boot {bootMode : BootMode} {gather : Bool} {client after : Client}
    (turn : Turn bootMode gather client after (.join .boot)) :
    client.stage = .bootRequest ∧ after.stage = .bootRequest := by
  cases turn with
  | served stage heard going turn =>
      cases turn with
      | asked stage => exact ⟨stage, stage⟩
      | stays outcome quiet => exact absurd rfl quiet

/-- Only a client in STATION is in the group of the station clients. -/
theorem Turn.station {bootMode : BootMode} {gather : Bool} {client after : Client}
    (turn : Turn bootMode gather client after (.join .station)) :
    after = countPass client ∧ client.stage = .station := by
  cases turn with
  | served stage heard going turn =>
      cases turn with
      | stays outcome quiet kept station => exact ⟨rfl, station rfl⟩

/-! Replies. -/

/-- A reply of the multiboot port with this opcode. -/
def Says (op : ReplyOp) (portByte : UInt8) (reply : List UInt8) : Prop :=
  reply.length ≤ replyMaxSize ∧ reply.length ≠ 0 ∧ replyPort portByte = none ∧
    replyOp (byteAt reply 0) = some op

instance (op : ReplyOp) (portByte : UInt8) (reply : List UInt8) :
    Decidable (Says op portByte reply) := by unfold Says; infer_instance

/-- A request for content that the handler writes down. One for what is already
going out is not. -/
def Names (client : Client) (portByte : UInt8) (reply : List UInt8) : Prop :=
  reply.length ≤ replyMaxSize ∧ replyPort portByte = some portStationName ∧
    client.stage = .station ∧ stationRequestSize ≤ reply.length ∧
    stationStreamMin ≤ u16At reply stationNameSize ∧ u16At reply stationNameSize ≤ stationStreamMax ∧
    (client.station.state = .idle ∨ client.station.state = .done ∨
      client.station.port ≠ stationStreamPort (u16At reply stationNameSize))

instance (client : Client) (portByte : UInt8) (reply : List UInt8) :
    Decidable (Names client portByte reply) := by unfold Names; infer_instance

def takeRequest (client : Client) (reply : List UInt8) : Client :=
  { client with
    waitCount := 0
    station := { client.station with
      pending := true
      pendingName := reply.take stationNameSize
      pendingStream := u16At reply stationNameSize } }

theorem handleStationReply_eq (client : Client) (portByte : UInt8) (reply : List UInt8) {port : Nat}
    (sent : replyPort portByte = some port) (short : reply.length ≤ replyMaxSize) :
    handleStationReply client port reply =
      if Names client portByte reply then takeRequest client reply else client := by
  unfold handleStationReply
  split
  · rename_i stage
    rw [if_neg fun names => stage names.2.2.1]
  · split
    · rename_i other
      rw [if_neg fun names => other (Option.some.inj (sent.symm.trans names.2.1))]
    · split
      · rename_i small
        rw [if_neg fun names => absurd names.2.2.2.1 (Nat.not_le_of_lt small)]
      · dsimp only
        split
        · rename_i unknown
          refine (if_neg fun names => ?_).symm
          have low := names.2.2.2.2.1
          have high := names.2.2.2.2.2.1
          omega
        · rename_i stage menu long known
          split
          · rename_i busy
            refine (if_neg fun names => ?_).symm
            rcases names.2.2.2.2.2.2 with idle | done | other
            · exact busy.1 idle
            · exact busy.2.1 done
            · exact other busy.2.2
          · rename_i free
            refine (if_pos ⟨short, ?_, of_not_not stage, by omega, by omega, by omega, ?_⟩).symm
            · rw [sent, of_not_not menu]
            · by_cases idle : client.station.state = .idle
              · exact .inl idle
              · by_cases done : client.station.state = .done
                · exact .inr (.inl done)
                · exact .inr (.inr fun same => free ⟨idle, done, same⟩)

/-- The last missing piece of a request, or one after it. -/
def Completes (client : Client) (reply : List UInt8) : Prop :=
  2 + reqPieceSize ≤ reply.length ∧ (byteAt reply 1).toNat < reqPieceCount ∧
    client.reqMask ||| bit 8 (byteAt reply 1).toNat = reqAllPieces

instance (client : Client) (reply : List UInt8) : Decidable (Completes client reply) := by
  unfold Completes
  infer_instance

/-- The record with the piece that a reply carries. -/
def withPiece (client : Client) (reply : List UInt8) : Client :=
  takePiece client (byteAt reply 1).toNat reply

inductive ReplyTurn (bootMode : BootMode) (gather : Bool) (portByte : UInt8) (reply : List UInt8)
    (client : Client) : Client → Prop where
  | ignored (idle : ¬ Says .app portByte reply) : ReplyTurn bootMode gather portByte reply client client
  | named (names : Names client portByte reply) :
      ReplyTurn bootMode gather portByte reply client (takeRequest client reply)
  | piece (opcode : Says .fileReq portByte reply)
      (missing : (withPiece client reply).reqMask ≠ reqAllPieces)
      (inside : (byteAt reply 1).toNat < reqPieceCount) :
      ReplyTurn bootMode gather portByte reply client (withPiece client reply)
  | completed (opcode : Says .fileReq portByte reply) (completes : Completes client reply) :
      ReplyTurn bootMode gather portByte reply client (completeRequest (withPiece client reply))
  | toStation (stage : client.stage = .reqAccepted) (station : clientIsStation client = true) :
      ReplyTurn bootMode gather portByte reply client (setClientStage client .station)
  | offered (stage : client.stage = .reqAccepted) :
      ReplyTurn bootMode gather portByte reply client (setClientStage client .waitToSend)
  | started (stage : client.stage = .waitToSend) (free : gather = false)
      (program : clientIsStation client = false) :
      ReplyTurn bootMode gather portByte reply client (setClientStage client .sendProceed)
  | progress (opcode : Says .continueReq portByte reply)
      (kept : ¬ (gather = false ∧ client.stage = .waitToSend)) :
      ReplyTurn bootMode gather portByte reply client (takeProgress client reply)
  | pulled (opcode : Says .continueReq portByte reply) (free : gather = false)
      (stage : client.stage = .waitToSend) :
      ReplyTurn bootMode gather portByte reply client
        (setClientStage (takeProgress client reply) .sendProceed)
  | finished (opcode : Says .stopReq portByte reply) (stage : client.stage = .sendProceed) :
      ReplyTurn bootMode gather portByte reply client (setClientStage client .sendComplete)
  | booted (opcode : Says .stopReq portByte reply) (stage : client.stage = .sendComplete)
      (told : bootMode = .automatic ∨ client.bootRequested = true) :
      ReplyTurn bootMode gather portByte reply client (setClientStage client .bootRequest)
  | returned (opcode : Says .app portByte reply) :
      ReplyTurn bootMode gather portByte reply client (setClientStage client .app)
  | accepted (idle : ¬ Says .app portByte reply) :
      ReplyTurn bootMode gather portByte reply client { client with bootAccepted := 1 }

theorem takeProgress_stage (client : Client) (reply : List UInt8) :
    (takeProgress client reply).stage = client.stage := by
  unfold takeProgress
  split <;> rfl

theorem appReply_eq (client : Client) : appReply client = setClientStage client .app := by
  unfold appReply
  dsimp only
  split
  · rfl
  · rename_i stage
    simp only [setClientStage, ← of_not_not stage]

theorem handleFileRequest_turn (bootMode : BootMode) (gather : Bool) (portByte : UInt8)
    (reply : List UInt8) (client : Client) (opcode : Says .fileReq portByte reply) :
    ReplyTurn bootMode gather portByte reply client (handleFileRequest client reply) := by
  have quiet : ¬ Says .app portByte reply := fun app => nomatch opcode.2.2.2.symm.trans app.2.2.2
  unfold handleFileRequest
  split
  · exact .ignored quiet
  · rename_i long
    dsimp only
    split
    · exact .ignored quiet
    · rename_i inside
      split
      · exact .piece opcode ‹_› (Nat.lt_of_not_le inside)
      · rename_i full
        exact .completed opcode ⟨Nat.le_of_not_lt long, Nat.lt_of_not_le inside, of_not_not full⟩

theorem multibootReply_turn (bootMode : BootMode) (gather : Bool) (portByte : UInt8)
    (reply : List UInt8) (client : Client) (short : reply.length ≤ replyMaxSize)
    (some : reply.length ≠ 0) (port : replyPort portByte = none) :
    ReplyTurn bootMode gather portByte reply client
      (multibootReply bootMode gather client reply) := by
  have quiet : ∀ op, replyOp (byteAt reply 0) = op → op ≠ .some .app → ¬ Says .app portByte reply :=
    fun op read other app => other (read.symm.trans app.2.2.2)
  -- one case for each opcode, in the order of the switch
  unfold multibootReply
  split
  · rename_i op
    exact .ignored (quiet _ op nofun)
  · rename_i op
    exact .ignored (quiet _ op nofun)
  · exact handleFileRequest_turn bootMode gather portByte reply client ⟨short, some, port, ‹_›⟩
  · rename_i op
    have idle := quiet _ op nofun
    unfold acceptFileInfo
    split
    · split
      · exact .toStation ‹_› ‹_›
      · exact .ignored idle
    · split
      · exact .offered ‹_›
      · split
        · rename_i program _ waiting
          exact .started waiting.2 (by simpa using waiting.1) (by simpa using program)
        · exact .ignored idle
  · rename_i op
    have opcode : Says .continueReq portByte reply := ⟨short, some, port, op⟩
    unfold continueReq
    dsimp only
    rw [takeProgress_stage]
    split
    · rename_i waiting
      exact .pulled opcode (by simpa using waiting.1) waiting.2
    · rename_i kept
      exact .progress opcode (by simpa using kept)
  · rename_i op
    have opcode : Says .stopReq portByte reply := ⟨short, some, port, op⟩
    have idle := quiet _ op nofun
    unfold stopReq
    split
    · exact .finished opcode ‹_›
    · split
      · split
        · exact .booted opcode ‹_› ‹_›
        · exact .ignored idle
      · exact .ignored idle
  · rename_i op
    rw [appReply_eq]
    exact .returned ⟨short, some, port, op⟩
  · rename_i op
    have idle := quiet _ op nofun
    unfold bootReqAccepted
    split
    · exact .accepted idle
    · exact .ignored idle

/-- The record of a client that has just been heard. -/
def heard (client : Client) : Client := { client with idleCount := 0 }

theorem replyClient_turn (bootMode : BootMode) (gather : Bool) (portByte : UInt8)
    (reply : List UInt8) (client : Client) :
    ReplyTurn bootMode gather portByte reply (heard client)
      (replyClient bootMode gather portByte reply client) := by
  unfold replyClient
  dsimp only
  split
  · rename_i outside
    refine .ignored fun app => ?_
    have short := app.1
    have some := app.2.1
    omega
  · rename_i inside
    have short : reply.length ≤ replyMaxSize := by omega
    split
    · rename_i port sent
      rw [handleStationReply_eq _ portByte reply sent short]
      split
      · exact .named ‹_›
      · exact .ignored fun app => nomatch sent.symm.trans app.2.2.1
    · exact multibootReply_turn bootMode gather portByte reply _ short (by omega) ‹_›

/-- A reply leaves the transfer alone, but for a request that is written down. -/
theorem ReplyTurn.station {bootMode : BootMode} {gather : Bool} {portByte : UInt8}
    {reply : List UInt8} {client after : Client}
    (turn : ReplyTurn bootMode gather portByte reply client after) :
    after.station = client.station ∨
      Names client portByte reply ∧ after.station = (takeRequest client reply).station := by
  have progress : (takeProgress client reply).station = client.station := by
    unfold takeProgress
    split <;> rfl
  have complete : ∀ client : Client, (completeRequest client).station = client.station := by
    intro client
    simp only [completeRequest]
    split <;> split <;> rfl
  cases turn with
  | named names => exact .inr ⟨names, rfl⟩
  | completed opcode completes => exact .inl (complete _)
  | progress opcode kept => exact .inl progress
  | pulled opcode free stage => exact .inl progress
  | _ => exact .inl rfl

end Dswifi.DlPlay
