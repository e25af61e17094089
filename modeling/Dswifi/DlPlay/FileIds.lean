import Dswifi.DlPlay.Addressing
import Dswifi.DlPlay.BlankRecords

/-! The file that the blocks of the program name. One frame serves every client in
SEND_PROCEED, and it names the file of the one with the highest id. -/

namespace Dswifi.DlPlay

open Runs MpHost ByteMemory

/-! What a console asked for. -/

/-- The request of the console on an id, told by its pieces alone: `asked` is the
file it named in the first request that was complete. -/
structure FileRequest where
  pieces : Nat → Bool := fun _ => false
  fileByte : UInt8 := 0
  asked : Option UInt8 := none

/-- The piece of a request that names the file, and where it does. -/
def filePiece : Nat := 4
def filePieceByte : Nat := 6

def FileRequest.hear (request : FileRequest) (reply : List UInt8) : FileRequest :=
  let piece := (byteAt reply 1).toNat
  if reply.length < 2 + reqPieceSize ∨ piece ≥ reqPieceCount then request else
    let pieces := Function.update request.pieces piece true
    let fileByte := if piece = filePiece then byteAt reply filePieceByte else request.fileByte
    { pieces
      fileByte
      asked := request.asked <|>
        if (List.range reqPieceCount).all pieces then some fileByte else none }

/-- A host, and what the console on each id has asked for since it was associated. -/
structure Asking where
  world : World
  own : Nat → FileRequest

/-- What a console adds to its request with an event. -/
def Event.addsTo (world : World) (aid : Nat) (request : FileRequest) : Event → FileRequest
  | .packet type macaddr portByte reply =>
    if Hears world type macaddr aid ∧ Says .fileReq portByte reply then request.hear reply else request
  | _ => request

def ask (asking : Asking) (event : Event) : Asking :=
  { world := step asking.world event
    own := fun aid =>
      if (step asking.world event).here aid then event.addsTo asking.world aid (asking.own aid)
      else {} }

def askStart (hosting : Hosting) : Asking := { world := start hosting, own := fun _ => {} }

def fileIdAt : Nat := 3

/-- Every block that a step hands out carries the number of the file that each of
the clients named at its end asked for. -/
def FilesAgree (asking : Asking) (event : Event) : Prop :=
  ∀ bytes queued, Hands asking.world event bytes queued → byteAt bytes 1 = flagsNormal →
    byteAt bytes 2 = cmdOpData → ∀ aid, (footer bytes).getLsbD aid = true →
      (asking.own aid).asked = some (byteAt bytes fileIdAt)

/-! The condition. -/

/-- The next pass sends this client a message that comes before all blocks. -/
def ComesFirst (client : Client) : Prop :=
  client.idleCount < silentFrames ∧
    (client.stage = .none ∨ client.stage = .connected ∨
      client.stage = .reqAccepted ∧ client.waitCount < fileInfoFrames ∨
      client.stage = .bootRequest ∨ client.stage = .sessionEnd ∧ client.waitCount < sessionEndFrames)

instance (client : Client) : Decidable (ComesFirst client) := by unfold ComesFirst; infer_instance

/-- The next pass counts this client among those that take the program. -/
def Receives (gather : Bool) (client : Client) : Prop :=
  client.idleCount < silentFrames ∧
    (client.stage = .sendProceed ∨
      client.stage = .waitToSend ∧ gather = false ∧ client.waitCount ≥ startSendFrames)

instance (gather : Bool) (client : Client) : Decidable (Receives gather client) := by
  unfold Receives
  infer_instance

/-- The clients that take the program have all completed a request, for one file. -/
def OneFile (world : World) : Prop :=
  ∀ aid ∈ aids, world.here aid = true → Receives world.host.gather (world.host.clients aid) →
    (world.host.clients aid).request.valid = true ∧
    ∀ other ∈ aids, world.here other = true →
      Receives world.host.gather (world.host.clients other) →
        (world.host.clients other).request.fileId = (world.host.clients aid).request.fileId

instance (world : World) : Decidable (OneFile world) := by unfold OneFile; infer_instance

/-- A step after which the blocks name the right file: no console takes over the
pieces of another one, and a pass that comes to the blocks has one file to send. -/
def KeepsFile (world : World) : Event → Prop
  | .mpHost operation => ∀ aid ∈ aids, world.here aid = false →
      (associatedMask (MpHost.step world.mp operation)).getLsbD aid = true →
      (world.host.clients aid).reqMask = 0
  | .update ready beaconOk _ => beaconRunning ready beaconOk world.host = true →
      (∃ aid ∈ aids, world.here aid = true ∧ ComesFirst (world.host.clients aid)) ∨ OneFile world
  | _ => True

instance (world : World) : (event : Event) → Decidable (KeepsFile world event)
  | .mpHost operation => inferInstanceAs (Decidable (∀ aid ∈ aids, world.here aid = false →
      (associatedMask (MpHost.step world.mp operation)).getLsbD aid = true →
      (world.host.clients aid).reqMask = 0))
  | .update ready beaconOk _ => inferInstanceAs (Decidable
      (beaconRunning ready beaconOk world.host = true →
      (∃ aid ∈ aids, world.here aid = true ∧ ComesFirst (world.host.clients aid)) ∨ OneFile world))
  | .packet _ _ _ _ | .setBootMode _ | .setGather _ | .setPace _ _ | .bootClient _
  | .bootAll | .lockRoom _ | .appSend _ | .setAppHandler _ => inferInstanceAs (Decidable True)

/-! The record holds what its console asked for. -/

structure Asked (client : Client) (request : FileRequest) : Prop where
  mask : ∀ piece, client.reqMask.getLsbD piece = request.pieces piece
  known : ∀ piece, request.pieces piece = true → piece < reqPieceCount
  buffer : client.reqBuffer 28 = request.fileByte
  asked : request.asked = if client.request.valid then some client.request.fileId else none

theorem asked_blank : Asked {} {} := ⟨by simp, nofun, rfl, rfl⟩

theorem Asked.of_unasked {client : Client} (unasked : Unasked client) : Asked client {} := by
  refine ⟨by simp [unasked.pieces], nofun, by rw [unasked.buffer], ?_⟩
  rw [unasked.undecoded]
  rfl

theorem Asked.of_said {before after : Client} {request : FileRequest} (asked : Asked before request)
    (same : after.said = before.said) : Asked after request := by
  simp only [Client.said, Prod.mk.injEq] at same
  obtain ⟨buffer, mask, decoded, _⟩ := same
  exact ⟨mask ▸ asked.mask, asked.known, buffer ▸ asked.buffer, decoded ▸ asked.asked⟩

theorem Asked.takeProgress {client : Client} {request : FileRequest} (asked : Asked client request)
    (reply : List UInt8) : Asked (takeProgress client reply) request := by
  unfold DlPlay.takeProgress
  split
  · exact ⟨asked.mask, asked.known, asked.buffer, asked.asked⟩
  · exact asked

/-- All pieces are there when the mask says so. -/
theorem reqMask_all_iff {client : Client} {pieces : Nat → Bool}
    (mask : ∀ piece, client.reqMask.getLsbD piece = pieces piece)
    (known : ∀ piece, pieces piece = true → piece < reqPieceCount) :
    client.reqMask = reqAllPieces ↔ (List.range reqPieceCount).all pieces = true := by
  have full : ∀ piece, reqAllPieces.getLsbD piece = decide (piece < reqPieceCount) := by
    intro piece
    by_cases low : piece < 8
    · have bits : ∀ piece < 8, reqAllPieces.getLsbD piece = decide (piece < reqPieceCount) := by
        decide
      exact bits piece low
    · rw [BitVec.getLsbD_of_ge _ _ (by omega), reqPieceCount]
      exact (decide_eq_false (by omega)).symm
  rw [List.all_eq_true]
  constructor
  · intro same piece member
    rw [← mask, same, full]
    exact decide_eq_true (List.mem_range.mp member)
  · intro all
    refine BitVec.eq_of_getLsbD_eq fun piece _ => ?_
    rw [mask, full]
    by_cases inside : piece < reqPieceCount
    · rw [all piece (List.mem_range.mpr inside), decide_eq_true inside]
    · rw [decide_eq_false inside, Bool.eq_false_iff]
      exact fun set => inside (known piece set)

theorem takePiece_bits {client : Client} {pieces : Nat → Bool}
    (mask : ∀ other, client.reqMask.getLsbD other = pieces other) {piece : Nat}
    (inside : piece < reqPieceCount) (reply : List UInt8) (other : Nat) :
    (takePiece client piece reply).reqMask.getLsbD other = Function.update pieces piece true other := by
  have below : piece < 5 := inside
  rw [takePiece, BitVec.getLsbD_or, bit, BitVec.getLsbD_twoPow, mask]
  by_cases same : other = piece
  · subst other
    simp
    omega
  · have apart : ¬ piece = other := fun equal => same equal.symm
    simp [same, apart]

/-- A piece in the record and the same piece in the request. -/
theorem Asked.piece {client : Client} {request : FileRequest} (asked : Asked client request)
    {piece : Nat} (inside : piece < reqPieceCount) (reply : List UInt8) :
    (∀ other, (takePiece client piece reply).reqMask.getLsbD other =
      Function.update request.pieces piece true other) ∧
    (∀ other, Function.update request.pieces piece true other = true → other < reqPieceCount) ∧
    (takePiece client piece reply).reqBuffer 28 =
      if piece = filePiece then byteAt reply filePieceByte else request.fileByte := by
  have below : piece < 5 := inside
  refine ⟨takePiece_bits asked.mask inside reply, fun other => ?_, ?_⟩
  · by_cases same : other = piece
    · exact fun _ => same ▸ inside
    · rw [Function.update_of_ne same]
      exact asked.known other
  · simp only [takePiece, storePiece]
    by_cases last : piece = filePiece
    · subst last
      rfl
    · have elsewhere : ¬ (piece * reqPieceSize ≤ 28 ∧ 28 < piece * reqPieceSize + reqPieceSize) := by
        simp only [filePiece] at last
        simp only [reqPieceSize]
        omega
      rw [if_neg elsewhere, if_neg last]
      exact asked.buffer

theorem completeRequest_asked {client : Client} {request : FileRequest}
    (mask : ∀ piece, client.reqMask.getLsbD piece = request.pieces piece)
    (known : ∀ piece, request.pieces piece = true → piece < reqPieceCount)
    (buffer : client.reqBuffer 28 = request.fileByte) {before : Option UInt8}
    (asked : before = if client.request.valid then some client.request.fileId else none)
    (now : request.asked = (before <|> some request.fileByte)) :
    Asked (completeRequest client) request := by
  have decoded : (completeRequest client).request.valid = true ∧
      (completeRequest client).request.fileId =
        if client.request.valid then client.request.fileId else client.reqBuffer 28 := by
    simp only [completeRequest]
    split <;> split <;> simp_all [decodeRequest, setClientStage]
  have kept : (completeRequest client).reqBuffer = client.reqBuffer := by
    simp only [completeRequest]
    split <;> split <;> rfl
  refine ⟨completeRequest_mask client ▸ mask, known, kept ▸ buffer, ?_⟩
  rw [now, asked, decoded.1, decoded.2, buffer, if_pos rfl]
  split <;> rfl

theorem handleFileRequest_asked {client : Client} {request : FileRequest}
    (asked : Asked client request) (reply : List UInt8) :
    Asked (handleFileRequest client reply) (request.hear reply) := by
  unfold handleFileRequest FileRequest.hear
  dsimp only
  by_cases short : reply.length < 2 + reqPieceSize
  · rw [if_pos short, if_pos (.inl short)]
    exact asked
  · rw [if_neg short]
    by_cases outside : (byteAt reply 1).toNat ≥ reqPieceCount
    · rw [if_pos outside, if_pos (.inr outside)]
      exact asked
    · rw [if_neg outside, if_neg (not_or.mpr ⟨short, outside⟩)]
      obtain ⟨mask, known, buffer⟩ := asked.piece (Nat.lt_of_not_le outside) reply
      have complete := reqMask_all_iff mask known
      by_cases full : (takePiece client (byteAt reply 1).toNat reply).reqMask = reqAllPieces
      · rw [if_neg (not_not.mpr full), if_pos (complete.mp full)]
        exact completeRequest_asked mask known buffer asked.asked rfl
      · rw [if_pos full, if_neg (complete.not.mp full)]
        have unchanged : (request.asked <|> none) = request.asked := by
          cases request.asked <;> rfl
        exact ⟨mask, known, buffer, unchanged.trans asked.asked⟩

theorem replyClient_fileReq (bootMode : BootMode) (gather : Bool) {portByte : UInt8}
    {reply : List UInt8} (client : Client) (opcode : Says .fileReq portByte reply) :
    replyClient bootMode gather portByte reply client = handleFileRequest (heard client) reply := by
  obtain ⟨short, some, port, op⟩ := opcode
  have long : ¬ (reply.length > replyMaxSize ∨ reply.length = 0) :=
    not_or.mpr ⟨Nat.not_lt.mpr short, some⟩
  simp only [replyClient, if_neg long, port, multibootReply, op]
  rfl

/-- A record goes on holding what its console says. -/
theorem replyClient_asked (bootMode : BootMode) (gather : Bool) (portByte : UInt8)
    (reply : List UInt8) {client : Client} {request : FileRequest} (asked : Asked client request) :
    Asked (replyClient bootMode gather portByte reply client)
      (if Says .fileReq portByte reply then request.hear reply else request) := by
  have heard : Asked (heard client) request := asked.of_said rfl
  by_cases opcode : Says .fileReq portByte reply
  · rw [if_pos opcode, replyClient_fileReq bootMode gather client opcode]
    exact handleFileRequest_asked heard reply
  · rw [if_neg opcode]
    have turn := replyClient_turn bootMode gather portByte reply client
    generalize replyClient bootMode gather portByte reply client = after at turn
    cases turn with
    | piece said missing inside => exact absurd said opcode
    | completed said completes => exact absurd said opcode
    | progress said kept => exact heard.takeProgress reply
    | pulled said free stage => exact (heard.takeProgress reply).of_said rfl
    | _ => exact heard.of_said rfl

/-! One step. -/

structure AskInv (asking : Asking) : Prop where
  host : HostInv asking.world
  pieces : ∀ aid, aid ∈ aids → PieceInv (asking.world.host.clients aid)
  here : ∀ aid, aid ∈ aids → asking.world.here aid = true →
    Asked (asking.world.host.clients aid) (asking.own aid)
  away : ∀ aid, asking.world.here aid = false → asking.own aid = {}

theorem asked_step {world : World} (valid : HostInv world) (event : Event) {aid : Nat}
    (member : aid ∈ aids) (here : world.here aid = true) {request : FileRequest}
    (asked : Asked (world.host.clients aid) request) :
    Asked ((step world event).host.clients aid) (event.addsTo world aid request) := by
  by_cases packet : ∃ type macaddr portByte reply, event = .packet type macaddr portByte reply
  · obtain ⟨type, macaddr, portByte, reply, rfl⟩ := packet
    rw [step, packet_clients, Event.addsTo]
    by_cases hears : Hears world type macaddr aid
    · have after := replyClient_asked world.host.bootMode world.host.gather portByte reply asked
      rw [if_pos hears, heardClient]
      by_cases opcode : Says .fileReq portByte reply
      · rw [if_pos opcode] at after
        rw [if_pos ⟨hears, opcode⟩]
        exact after
      · rw [if_neg opcode] at after
        rw [if_neg fun both => opcode both.2]
        exact after
    · rw [if_neg hears, if_neg fun both => hears both.1]
      exact asked
  · have silent : event.addsTo world aid request = request := by
      cases event with
      | packet type macaddr portByte reply => exact absurd ⟨_, _, _, _, rfl⟩ packet
      | _ => rfl
    rw [silent]
    have record := record_step valid event member
    generalize (step world event).host.clients aid = after at record
    cases record with
    | same event quiet => exact asked
    | pass ready beaconOk pass running record =>
        rw [show (associatedMask world.mp).getLsbD aid = true from here] at record
        exact asked.of_said record.said_here
    | reply type macaddr portByte reply hears turn => exact absurd ⟨_, _, _, _, rfl⟩ packet
    | boot event told stage => exact asked.of_said rfl

theorem AskInv.step {asking : Asking} (valid : AskInv asking) (event : Event)
    (keeps : KeepsFile asking.world event) : AskInv (ask asking event) := by
  have pieces : ∀ aid, aid ∈ aids →
      PieceInv ((DlPlay.step asking.world event).host.clients aid) :=
    fun aid member => pieces_step valid.host event member (valid.pieces aid member)
  refine ⟨valid.host.step event, pieces, fun aid member here => ?_, fun aid away => ?_⟩
  · have now : (DlPlay.step asking.world event).here aid = true := here
    have own : (ask asking event).own aid = event.addsTo asking.world aid (asking.own aid) := by
      simp only [ask, if_pos now]
    rw [own]
    cases before : asking.world.here aid with
    | true => exact asked_step valid.host event member before (valid.here aid member before)
    | false =>
        rcases here_step valid.host now with same | ⟨operation, rfl, joined⟩
        · exact absurd same (by simp [before])
        · have none := keeps aid member before joined
          rw [valid.away aid before]
          exact .of_unasked (valid.pieces aid member none)
  · have left : ¬ (DlPlay.step asking.world event).here aid = true := by
      rw [Bool.not_eq_true]
      exact away
    simp only [ask, if_neg left]

theorem AskInv.start (hosting : Hosting) : AskInv (askStart hosting) :=
  ⟨.start hosting, fun _ _ _ => unasked_blank, fun _ _ _ => asked_blank, fun _ _ => rfl⟩

/-! The blocks. -/

theorem block_fileId {world : World} {block : Nat} {fileId : UInt8} {dest : Mask}
    {frame : List UInt8} (laid : messageFrame world (.command (.block block fileId) dest) = some frame) :
    byteAt frame fileIdAt = fileId := by
  simp only [messageFrame, commandPayload, Option.bind_eq_some_iff, Option.map_eq_some_iff] at laid
  obtain ⟨_, ⟨_, _, rfl⟩, laid⟩ := laid
  simp only [cmdStart, Option.ite_none_left_eq_some, Option.some.injEq] at laid
  obtain ⟨_, rfl⟩ := laid
  rfl

theorem clientPass_arrive_said (bootMode : BootMode) (gather : Bool) (client : Client) :
    (clientPass bootMode gather (arrive true client)).1.said = client.said :=
  PassRecord.said_here (.served (.refl _) fun _ => rfl)

/-- A turn that joins the senders is that of a client that receives. -/
theorem Turn.send {bootMode : BootMode} {gather : Bool} {client after : Client}
    (turn : Turn bootMode gather client after (.join .send)) (stage : after.stage = .sendProceed) :
    Receives gather client := by
  cases turn with
  | served here heard going turn =>
      refine ⟨heard, ?_⟩
      cases turn with
      | released waits free late => exact .inr ⟨waits, free, Nat.le_of_lt_succ late⟩
      | stays outcome quiet kept station early => exact .inl stage

/-- A client that joins the senders is here, and receives. -/
theorem joins_send {world : World} {aid : Nat} (joined : (clientTurn world aid).2 = .join .send) :
    world.here aid = true ∧ Receives world.host.gather (world.host.clients aid) ∧
      (clientTurn world aid).1.said = (world.host.clients aid).said := by
  have stage := ((clientTurn_joins world aid (show groupStage .send = some .sendProceed from rfl)).mp joined).1
  unfold clientTurn at joined stage ⊢
  cases here : world.here aid with
  | false =>
      rw [here, turnOf_away] at joined
      cases joined
  | true =>
      rw [here] at joined stage
      have turn := turnOf_turn world.host (arrive true (world.host.clients aid))
      rw [joined] at turn
      have receives := turn.send stage
      refine ⟨rfl, ?_, clientPass_arrive_said _ _ _⟩
      rcases arrive_here (world.host.clients aid) with ⟨_, arrived⟩ | ⟨_, present⟩
      · rw [arrived] at receives
        rcases receives.2 with sends | ⟨waits, _⟩
        · exact nomatch sends
        · exact nomatch waits
      · exact present ▸ receives

/-- The groups that come before all blocks. -/
def FirstGroup (group : Group) : Prop :=
  group = .sessionEnd ∨ group = .boot ∨ group = .start ∨ group = .fileInfo

theorem stagePass_first (gather : Bool) {client : Client}
    (first : client.stage = .connected ∨ client.stage = .reqAccepted ∧ client.waitCount ≤ fileInfoFrames ∨
      client.stage = .bootRequest ∨ client.stage = .sessionEnd ∧ client.waitCount ≤ sessionEndFrames) :
    ∃ group, FirstGroup group ∧ (stagePass gather client).2 = .join group := by
  rcases first with stage | ⟨stage, early⟩ | stage | ⟨stage, early⟩
  · simp only [stagePass, stage]
    split
    · exact ⟨.fileInfo, .inr (.inr (.inr rfl)), rfl⟩
    · exact ⟨.start, .inr (.inr (.inl rfl)), rfl⟩
  · simp only [stagePass, stage, if_neg (Nat.not_lt.mpr early)]
    exact ⟨.fileInfo, .inr (.inr (.inr rfl)), rfl⟩
  · simp only [stagePass, stage]
    split
    · exact ⟨.sessionEnd, .inl rfl, rfl⟩
    · exact ⟨.boot, .inr (.inl rfl), rfl⟩
  · simp only [stagePass, stage, if_pos early]
    exact ⟨.sessionEnd, .inl rfl, rfl⟩

theorem ComesFirst.joins {client : Client} (first : ComesFirst client) (bootMode : BootMode)
    (gather : Bool) : ∃ group, FirstGroup group ∧
      (clientPass bootMode gather (arrive true client)).2 = .join group := by
  obtain ⟨heard, first⟩ := first
  have arrived : (arrive true client).idleCount = client.idleCount ∧
      ((arrive true client).stage = .connected ∨
        (arrive true client).stage = .reqAccepted ∧ (arrive true client).waitCount < fileInfoFrames ∨
        (arrive true client).stage = .bootRequest ∨
        (arrive true client).stage = .sessionEnd ∧ (arrive true client).waitCount < sessionEndFrames) := by
    rcases arrive_here client with ⟨_, arrived⟩ | ⟨present, same⟩
    · rw [arrived]
      exact ⟨rfl, .inl rfl⟩
    · rw [same]
      exact ⟨rfl, first.resolve_left present⟩
  generalize arrive true client = client' at arrived
  obtain ⟨same, stage⟩ := arrived
  have present : client'.stage ≠ .none := by
    rcases stage with is | ⟨is, _⟩ | is | ⟨is, _⟩ <;> simp [is]
  -- it was heard lately and is in a stage without a limit of its own, so nobody gives it up
  have loud : ¬ (countPass client').idleCount > silentFrames := by
    simp only [countPass, same]
    omega
  have going : ¬ Stalled bootMode (countPass client') := by
    rcases stage with is | ⟨is, _⟩ | is | ⟨is, _⟩ <;> simp [Stalled, countPass, is]
  have served : clientPass bootMode gather client' = stagePass gather (countPass client') := by
    unfold clientPass
    rw [if_neg present]
    dsimp only
    rw [if_neg loud]
    exact if_neg going
  rw [served]
  exact stagePass_first gather (stage.imp id (.imp id (.imp id id)))

theorem Rotates.first {gathering : Gathering} (rotates : Rotates gathering) {group : Group}
    (first : FirstGroup group) : gathering.bmp group = 0 := by
  rcases first with rfl | rfl | rfl | rfl
  · exact rotates.sessionEnd
  · exact rotates.boot
  · exact rotates.start
  · exact rotates.fileInfo

/-- Nothing comes first in a pass that sends a block. -/
theorem Rotates.nobody {world : World} {gathering : Gathering} (rotates : Rotates gathering)
    (groups : GroupsOf world gathering) {aid : Nat} (member : aid ∈ aids)
    (here : world.here aid = true) : ¬ ComesFirst (world.host.clients aid) := by
  intro first
  obtain ⟨group, early, joined⟩ := first.joins world.host.bootMode world.host.gather
  have set := (groups.bmp aid group).mpr ⟨member, by rw [clientTurn, turnOf, here, joined]⟩
  rw [rotates.first early] at set
  simp at set

/-- The clients of the blocks asked for the file that they name. -/
theorem block_agrees {asking : Asking} (valid : AskInv asking) (one : OneFile asking.world)
    {gathering : Gathering} (groups : GroupsOf asking.world gathering) {aid : Nat}
    (listed : (gathering.bmp .send).getLsbD aid = true) :
    (asking.own aid).asked = some gathering.sendFileId := by
  have some : gathering.bmp .send ≠ 0 := mask_ne_zero listed
  obtain ⟨member, joined⟩ := (groups.bmp aid .send).mp listed
  obtain ⟨here, receives, _⟩ := joins_send joined
  obtain ⟨last, lastListed, named⟩ := groups.fileId some
  obtain ⟨lastMember, lastJoined⟩ := (groups.bmp last .send).mp lastListed
  obtain ⟨lastHere, lastReceives, said⟩ := joins_send lastJoined
  obtain ⟨complete, same⟩ := one aid member here receives
  have request : (clientTurn asking.world last).1.request =
      (asking.world.host.clients last).request := congrArg (fun said => said.2.2.1) said
  rw [(valid.here aid member here).asked, if_pos complete, named, request,
    same last lastMember lastHere lastReceives]

theorem files_step {asking : Asking} (valid : AskInv asking) (event : Event)
    (keeps : KeepsFile asking.world event) : FilesAgree asking event := by
  intro bytes queued handed header opcode aid listed
  obtain ⟨ready, beaconOk, pass, rfl, running, _, gathering, groups, built, message, mask, voiced, laid⟩ :=
    step_frame valid.host handed
  cases message with
  | station served message =>
      exact absurd ((station_bytes laid).1.symm.trans header)
        (stationHeader_normal voiced.2 (station_bytes laid).2.1)
  | command command dest =>
      cases command with
      | sessionEnd => exact absurd ((sessionEnd_bytes laid).symm.trans header) (by decide)
      | block block fileId =>
          obtain ⟨rfl, rfl, rotates⟩ := voiced
          rw [(command_bytes laid nofun).2.2, BitVec.getLsbD_and, Bool.and_eq_true] at listed
          rw [block_fileId laid]
          refine block_agrees valid ((keeps running).resolve_left ?_) groups listed.1
          rintro ⟨other, member, here, first⟩
          exact rotates.nobody groups member here first
      | _ => exact absurd ((command_bytes laid nofun).2.1.symm.trans opcode) (by decide)

/-- As long as no console takes over pieces of another one's request, and the clients
that a pass sends the program to have asked for one file, every block names the file
that each of its clients asked for. -/
theorem files_agree (hosting : Hosting) (events : List Event)
    (keeps : EachStep ask (fun asking event => KeepsFile asking.world event) (askStart hosting) events) :
    EachStep ask FilesAgree (askStart hosting) events :=
  each_step_of_guard (fun _ event valid keeps => AskInv.step valid event keeps)
    (fun _ event valid keeps => files_step valid event keeps) _ _ (.start hosting) keeps

/-- The request of a console with one letter for a name. -/
def fileRequest (macaddr : Mac) (fileId : UInt8) : List Event :=
  [saysEvent macaddr 7 [0, 0, 0, 0, 0, 0, 1], saysEvent macaddr 7 [1, 0x41, 0, 0, 0, 0, 0],
    saysEvent macaddr 7 [2, 0, 0, 0, 0, 0, 0], saysEvent macaddr 7 [3, 0, 0, 0, 0, 0, 0],
    saysEvent macaddr 7 [4, 0, 0, 0, 0, fileId, 0], saysEvent macaddr 8 [], saysEvent macaddr 8 []]

/-- Two consoles that take the program, each with the file it asks for. -/
def twoTakers (first second : UInt8) : List Event :=
  arrivesEvents (1, 2, 3) ++ arrivesEvents (4, 5, 6) ++ fileRequest (1, 2, 3) first ++
    fileRequest (4, 5, 6) second ++ [passEvent plainPass]

/-- A block for both of them, with this number. -/
def blockForBoth (fileId : UInt8) : Note → Bool
  | .frame bytes _ => byteAt bytes 1 = flagsNormal ∧ byteAt bytes 2 = cmdOpData ∧
      footer bytes = 6#16 ∧ byteAt bytes fileIdAt = fileId
  | _ => false

theorem files_agree_two : EachStep ask FilesAgree (askStart smallHosting) (twoTakers 3 3) ∧
    (run ask (askStart smallHosting) (twoTakers 3 3)).world.log.any (blockForBoth 3) = true :=
  ⟨files_agree smallHosting (twoTakers 3 3) (by decide +kernel), by decide +kernel⟩

/-- Two consoles that ask for different files: the first one throws away every block. -/
theorem files_disagree : ¬ EachStep ask FilesAgree (askStart smallHosting) (twoTakers 3 4) := by
  rw [twoTakers, each_step_append]
  rintro ⟨_, last, _⟩
  have found : ∃ item ∈ (step (run ask (askStart smallHosting) (arrivesEvents (1, 2, 3) ++
      arrivesEvents (4, 5, 6) ++ fileRequest (1, 2, 3) 3 ++ fileRequest (4, 5, 6) 4)).world
        (passEvent plainPass)).log.drop (run ask (askStart smallHosting) (arrivesEvents (1, 2, 3) ++
          arrivesEvents (4, 5, 6) ++ fileRequest (1, 2, 3) 3 ++
            fileRequest (4, 5, 6) 4)).world.log.length, blockForBoth 4 item = true := by
    decide +kernel
  obtain ⟨item, handed, both⟩ := found
  cases item with
  | frame bytes queued =>
      simp only [blockForBoth, decide_eq_true_eq] at both
      obtain ⟨header, opcode, list, named⟩ := both
      have agrees := last bytes queued handed header opcode 1 (by rw [list]; decide)
      rw [named] at agrees
      exact absurd agrees (by decide +kernel)
  | _ => cases both

end Dswifi.DlPlay
