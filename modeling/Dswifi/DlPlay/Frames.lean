import Dswifi.DlPlay.Framing
import Dswifi.DlPlay.Waiting

/-! The frames of a pass, each told as the message it carries: which groups of
clients a pass speaks to, and what it says to them. -/

namespace Dswifi.DlPlay

open Runs MpHost

/-- A note that a sender may leave: a frame with an allowed message in it, laid out
while the same clients were associated, or how a station client was served. -/
def Utters (allowed : World → Message → Prop) (mask : Mask) : Note → Prop
  | .frame bytes _ => ∃ built message, associatedMask built.mp = mask ∧ allowed built message ∧
      messageFrame built message = some bytes
  | .stationServe _ | .stationAccepted _ _ _ _ | .stationChunk _ _ _ => True
  | _ => False

/-- What the frames of a pass are made from. -/
def Host.material (host : Host) : Rom × List UInt8 := (host.rom, host.appOut)

structure Speaks (allowed : World → Message → Prop) (world next : World) : Prop where
  mask : associatedMask next.mp = associatedMask world.mp
  material : next.host.material = world.host.material
  log : Appends (Utters allowed (associatedMask world.mp)) world next

namespace Speaks
variable {allowed : World → Message → Prop} {first second third : World}

theorem of_same (mask : second.mp = first.mp) (material : second.host.material = first.host.material)
    (log : second.log = first.log) : Speaks allowed first second :=
  ⟨by rw [mask], material, .of_log log⟩

theorem refl (world : World) : Speaks allowed world world := .of_same rfl rfl rfl

theorem trans (before : Speaks allowed first second) (after : Speaks allowed second third) :
    Speaks allowed first third :=
  ⟨after.mask.trans before.mask, after.material.trans before.material,
    before.log.trans (before.mask ▸ after.log)⟩

theorem mono {wider : World → Message → Prop} (weaker : ∀ built message, allowed built message →
    wider built message) (spoken : Speaks allowed first second) : Speaks wider first second := by
  refine ⟨spoken.mask, spoken.material, spoken.log.mono fun item fits => ?_⟩
  cases item with
  | frame bytes queued =>
      obtain ⟨built, message, mask, allows, laid⟩ := fits
      exact ⟨built, message, mask, weaker built message allows, laid⟩
  | _ => exact fits

/-- A frame handed over by a world that has only counted since it was laid out. -/
theorem send (pass : Pass) {world : World} (built : World) (message : Message)
    {frame : List UInt8} (mp : built.mp = world.mp) (allows : allowed built message)
    (laid : messageFrame built message = some frame) :
    Speaks allowed world (cmdSend pass world frame).1 :=
  ⟨rfl, rfl, .note world ⟨built, message, by rw [mp], allows, laid⟩⟩

/-- Most messages are laid out and handed over in one go. -/
theorem command (pass : Pass) (world : World) {command : Command} {dest : Mask}
    {payload : List UInt8} (written : commandPayload world.host command = some payload)
    (allows : allowed world (.command command dest)) :
    Speaks allowed world (cmdStartSend pass world (commandHeader command) payload dest).1 := by
  unfold cmdStartSend
  split
  · exact .refl world
  · rename_i frame laid
    exact .send pass world (.command command dest) rfl allows
      (by simp only [messageFrame, written, Option.bind_some, laid])

end Speaks

/-! The program. -/

/-- What goes out with the blocks: a dummy in place of one, or a block for `dest`
that names the file. -/
def StreamMessage (dest : Mask) (fileId : UInt8) (_ : World) : Message → Prop
  | .command .dummy _ => True
  | .command (.block _ named) target => target = dest ∧ named = fileId
  | _ => False

section Program
variable (pass : Pass) (dest : Mask) (fileId : UInt8)

theorem speaks_sendDummy {allowed : World → Message → Prop} (world : World)
    (allows : allowed world (.command .dummy 0xFFFF)) :
    Speaks allowed world (sendDummy pass world) := .command pass world rfl allows

theorem speaks_sendStart {allowed : World → Message → Prop} (world : World)
    (allows : allowed world (.command .start dest)) :
    Speaks allowed world (sendStart pass world dest) := .command pass world rfl allows

theorem speaks_sendBootReq {allowed : World → Message → Prop} (world : World)
    (allows : allowed world (.command .bootReq dest)) :
    Speaks allowed world (sendBootReq pass world dest) := .command pass world rfl allows

theorem speaks_sendSessionEnd {allowed : World → Message → Prop} (world : World)
    (allows : allowed world (.command .sessionEnd 0)) :
    Speaks allowed world (sendSessionEnd pass world) := .command pass world rfl allows

theorem speaks_sendBlock (world : World) (block : Nat) :
    Speaks (StreamMessage dest fileId) world (sendBlock pass world block dest fileId).1 := by
  unfold sendBlock
  split
  · exact speaks_sendDummy pass world trivial
  · rename_i data size found
    dsimp only
    split
    · exact .refl world
    · rename_i frame laid
      have counted : Speaks (StreamMessage dest fileId) world (countPacket world) := .of_same rfl rfl rfl
      refine counted.trans (.send pass world (.command (.block block fileId) dest) rfl ⟨rfl, rfl⟩ ?_)
      simp only [messageFrame, commandPayload, found, Option.map_some, Option.bind_some]
      exact laid

theorem speaks_sendWanted (wanted : List Nat) (sent : Nat) (world : World) :
    Speaks (StreamMessage dest fileId) world (sendWanted pass dest fileId wanted sent world).1 :=
  sendWanted_relates pass dest fileId .refl .trans (speaks_sendBlock pass dest fileId) wanted sent world

theorem speaks_sendStream (next : Nat) (wanted : List Nat) (count sent : Nat) (world : World) :
    Speaks (StreamMessage dest fileId) world
      (sendStream pass dest fileId next wanted count sent world).1 :=
  sendStream_relates pass dest fileId .refl .trans (speaks_sendBlock pass dest fileId)
    (fun _ => .of_same rfl rfl rfl) next wanted count sent world

theorem speaks_sendNextBlock (world : World) :
    Speaks (StreamMessage dest fileId) world (sendNextBlock pass world dest fileId) :=
  sendNextBlock_relates pass dest fileId .refl .trans (speaks_sendBlock pass dest fileId)
    (fun _ => .of_same rfl rfl rfl) (fun _ _ => .of_same rfl rfl rfl)
    (fun world => speaks_sendDummy pass world trivial) world

theorem speaks_sendFileInfo {allowed : World → Message → Prop} (world : World)
    (allows : allowed world (.command .fileInfo dest)) :
    Speaks allowed world (sendFileInfo pass world dest) := by
  unfold sendFileInfo
  split
  · exact .refl world
  · rename_i frame laid
    have counted : Speaks allowed world (countPacket world) := .of_same rfl rfl rfl
    refine counted.trans (.send pass world (.command .fileInfo dest) rfl allows ?_)
    simp only [messageFrame, commandPayload, Option.bind_some]
    exact laid

theorem speaks_sendApp {allowed : World → Message → Prop} (world : World)
    (allows : allowed world (.command .app dest)) : Speaks allowed world (sendApp pass world dest) := by
  have sent : Speaks allowed world
      (cmdStartSend pass world (commandHeader .app) (cmdOpApp :: world.host.appOut) dest).1 :=
    .command pass world rfl allows
  unfold sendApp
  dsimp only
  split
  · exact sent.trans (.of_same rfl rfl rfl)
  · exact sent

end Program

/-! The stations. -/

/-- What serving the client `aid` may say, on the ports of a station. -/
def ServeMessage (aid : Nat) (built : World) : Message → Prop
  | .station served message => served = aid ∧
      portStationName ≤ stationPort (built.host.clients aid).station message
  | _ => False

section Stations
variable {aid : Nat}

theorem Speaks.changeStation {allowed : World → Message → Prop} (world : World) (aid : Nat)
    (change : StationClient → StationClient) :
    Speaks allowed world (world.changeStation aid change) := .of_same rfl rfl rfl

theorem stationCmdStart_frame {world started : World} {port size : Nat}
    (begun : stationCmdStart world aid port size = some started) :
    started.mp = world.mp ∧ started.host.material = world.host.material ∧
      started.log = world.log := by
  simp only [stationCmdStart, Option.ite_none_left_eq_some, Option.some.injEq] at begun
  obtain ⟨_, _, rfl⟩ := begun
  exact ⟨rfl, rfl, rfl⟩

/-- A frame laid out once the counter of its port has gone up. -/
theorem speaks_stationFrame (pass : Pass) {world started : World} (message : StationMessage)
    (port : portStationName ≤ stationPort (world.host.clients aid).station message)
    (begun : stationCmdStart world aid (stationPort (world.host.clients aid).station message)
      (stationPayload (world.host.clients aid).station message).length = some started) :
    Speaks (ServeMessage aid) world (cmdSend pass started
      (stationFrame started aid (stationPort (world.host.clients aid).station message)
        (stationPayload (world.host.clients aid).station message))).1 := by
  obtain ⟨mp, material, log⟩ := stationCmdStart_frame begun
  have counted : Speaks (ServeMessage aid) world started := .of_same mp material log
  exact counted.trans (.send pass world (.station aid message) mp.symm ⟨rfl, port⟩
    (by simp only [messageFrame, begun, Option.map_some]))

theorem speaks_stationSendLength (pass : Pass) (world : World) :
    Speaks (ServeMessage aid) world (stationSendLength pass world aid) := by
  simp only [stationSendLength]
  split
  · exact .refl world
  · rename_i begun
    exact speaks_stationFrame pass .length (Nat.le_refl _) begun

theorem speaks_stationSendEnd (pass : Pass) (world : World)
    (port : portStationName ≤ (world.host.clients aid).station.port) :
    Speaks (ServeMessage aid) world (stationSendEnd pass world aid).1 := by
  simp only [stationSendEnd]
  split
  · exact .refl world
  · rename_i begun
    have sent := speaks_stationFrame pass .ending port begun
    simp only [apply_ite Prod.fst]
    split
    · exact sent
    · exact sent.trans (.changeStation _ aid _)

theorem stationChunkPayload_length (index size : Nat) (content : Nat → UInt8) :
    (stationChunkPayload index size content).length = stationIndexSize + (size + 1) / 2 * 2 := by
  simp only [stationChunkPayload, u16Bytes, List.length_append, List.length_cons, List.length_nil,
    List.length_map, List.length_range, List.length_replicate, stationIndexSize]
  omega

theorem speaks_stationSendData (pass : Pass) (world : World) (offset : Nat)
    (port : portStationName ≤ (world.host.clients aid).station.port) :
    Speaks (ServeMessage aid) world (stationSendData pass world aid offset).1 := by
  simp only [stationSendData]
  split
  · exact .refl world
  · rename_i started begun
    obtain ⟨mp, material, log⟩ := stationCmdStart_frame begun
    have counted : Speaks (ServeMessage aid) world started := .of_same mp material log
    split
    · exact counted.trans (Speaks.changeStation started aid fun station =>
        { station with ended := true })
    · rename_i content found
      rw [← stationChunkPayload_length (world.host.clients aid).station.index _ content] at begun
      have sent := speaks_stationFrame pass (.chunk _ content) port begun
      simp only [apply_ite Prod.fst]
      split
      · exact sent
      · exact sent.trans ⟨rfl, rfl, Appends.note (World.setClient _ aid _) trivial⟩

theorem speaks_stationSendChunk (pass : Pass) (world : World)
    (port : portStationName ≤ (world.host.clients aid).station.port) :
    Speaks (ServeMessage aid) world (stationSendChunk pass world aid).1 := by
  simp only [stationSendChunk]
  split
  · exact speaks_stationSendEnd pass world port
  · exact speaks_stationSendData pass world _ port

theorem speaks_stationAcceptRequest (pass : Pass) (world : World) :
    Speaks (ServeMessage aid) world (stationAcceptRequest pass world aid) := by
  have taken : Speaks (ServeMessage aid) world
      (world.changeStation aid fun station => { station with pending := false }) :=
    .changeStation world aid _
  simp only [stationAcceptRequest]
  split
  · exact taken
  · split
    · exact taken
    · exact (taken.trans (.changeStation _ aid _)).trans ⟨rfl, rfl, .note _ trivial⟩

theorem speaks_takeAsked (pass : Pass) (world : World) :
    Speaks (ServeMessage aid) world (takeAsked pass world aid) := by
  have noted : Speaks (ServeMessage aid) world (world.note (.stationServe aid)) :=
    ⟨rfl, rfl, .note world trivial⟩
  unfold takeAsked
  dsimp only
  split
  · exact noted.trans (speaks_stationAcceptRequest pass _)
  · exact noted

theorem speaks_serveState (pass : Pass) (world : World)
    (valid : StationInv (world.host.clients aid).station) :
    Speaks (ServeMessage aid) world (serveState pass world aid).1 := by
  unfold serveState
  dsimp only
  split
  · split
    · exact speaks_stationSendLength pass world
    · split
      · exact Speaks.changeStation world aid fun station =>
          { station with wait := 0, state := .data }
      · exact .refl world
  · rename_i data
    split
    · exact Speaks.changeStation world aid fun station =>
        { station with wait := 0, state := .done }
    · rename_i sending
      rw [stationSendChunks_one pass aid world (by simpa using sending)]
      exact speaks_stationSendChunk pass world (valid.port (by simp [data])).range.1
  · exact .refl world
  · exact .refl world

theorem speaks_stationServe (pass : Pass) (world : World)
    (valid : StationInv (world.host.clients aid).station) :
    Speaks (ServeMessage aid) world (stationServe pass world aid).1 := by
  have served := (serves_takeAsked pass world aid valid).trans (serves_countTurn _ aid)
  have counted : Speaks (ServeMessage aid) world (countTurn (takeAsked pass world aid) aid) :=
    (speaks_takeAsked pass world).trans (.changeStation _ aid _)
  rw [stationServe_eq]
  exact counted.trans (speaks_serveState pass _ (served.valid valid))

end Stations

/-! The groups. -/

/-- Nobody is being admitted, told to start or let go: the rotation has the pass. -/
structure Rotates (gathering : Gathering) : Prop where
  sessionEnd : gathering.bmp .sessionEnd = 0
  boot : gathering.bmp .boot = 0
  start : gathering.bmp .start = 0
  fileInfo : gathering.bmp .fileInfo = 0

/-- What a pass says to the groups of `gathering`. -/
def GroupMessage (gathering : Gathering) (built : World) : Message → Prop
  | .command .start dest => dest = gathering.bmp .start
  | .command .fileInfo dest => dest = gathering.bmp .fileInfo
  | .command (.block _ fileId) dest =>
    dest = gathering.bmp .send ∧ fileId = gathering.sendFileId ∧ Rotates gathering
  | .command .bootReq dest => dest = gathering.bmp .boot
  | .command .app dest => dest = gathering.bmp .app
  | .command .dummy _ => True
  | .command .sessionEnd _ => True
  | .station aid message => (gathering.bmp .station).getLsbD aid = true ∧
      portStationName ≤ stationPort (built.host.clients aid).station message

theorem speaks_sendBulk (pass : Pass) (gathering : Gathering) (rotates : Rotates gathering)
    (slots : List Nat) (world : World)
    (valid : ∀ aid, StationInv (world.host.clients aid).station) :
    Speaks (GroupMessage gathering) world
      (sendBulk pass gathering.bmp gathering.sendFileId slots world) := by
  refine @sendBulk_relates pass gathering.bmp gathering.sendFileId (Speaks (GroupMessage gathering))
    Speaks.trans (fun world slot => ?_) (fun world => ?_) (fun world => ?_) (fun world => ?_)
    (fun world aid member valid => ?_) slots world valid
  · exact .of_same rfl rfl rfl
  · exact speaks_sendDummy pass world trivial
  · -- the stream sends blocks, and the dummy when it has none
    refine (speaks_sendNextBlock pass _ _ world).mono fun built message stream => ?_
    cases message with
    | station aid message => exact stream.elim
    | command command dest =>
        cases command with
        | dummy => trivial
        | block block fileId => exact ⟨stream.1, stream.2, rotates⟩
        | _ => exact stream.elim
  · exact speaks_sendApp pass _ world rfl
  · refine (speaks_stationServe pass world valid).mono fun built message serves => ?_
    cases message with
    | command command dest => exact serves.elim
    | station aid message =>
        obtain ⟨rfl, port⟩ := serves
        exact ⟨member, port⟩

theorem speaks_kickMembers {allowed : World → Message → Prop} (bmp : Mask) (indices : List Nat)
    (world : World) : Speaks allowed world (indices.foldl (kickMember bmp) world) := by
  have kick : ∀ world aid, Speaks allowed world (kickMember bmp world aid) := fun world aid =>
    ⟨(kickMember_frame bmp world aid).1.associated, by rw [(kickMember_frame bmp world aid).2.1],
      .of_log (kickMember_frame bmp world aid).2.2⟩
  exact loop_invariant (fun next : World => Speaks allowed world next) (kickMember bmp)
    (fun next aid before => before.trans (kick next aid)) indices world (.refl world)

theorem speaks_sendGroups (pass : Pass) (gathering : Gathering)
    (valid : ∀ aid, StationInv (gathering.world.host.clients aid).station) :
    Speaks (GroupMessage gathering) gathering.world (sendGroups pass gathering) := by
  unfold sendGroups
  dsimp only
  split
  · exact (speaks_kickMembers (gathering.bmp .sessionEnd) aids gathering.world).trans
      (speaks_sendSessionEnd pass _ trivial)
  · rename_i sessionEnd
    split
    · exact speaks_sendBootReq pass _ gathering.world rfl
    · rename_i boot
      split
      · exact speaks_sendStart pass _ gathering.world rfl
      · rename_i start
        split
        · exact speaks_sendFileInfo pass _ gathering.world rfl
        · rename_i fileInfo
          exact speaks_sendBulk pass gathering ⟨of_not_not sessionEnd, of_not_not boot,
            of_not_not start, of_not_not fileInfo⟩ _ gathering.world valid

/-! The pass. -/

def NoFrame : Note → Prop
  | .frame _ _ => False
  | _ => True

theorem noticeAll_noFrame (world : World) : Appends NoFrame world (noticeAll world).world := by
  apply (noticeAll_log world).mono
  intro item reset
  cases item with
  | frame bytes queued => exact reset
  | _ => trivial

theorem told_noFrame (world : World) :
    Appends NoFrame world (tellPlayers (noticeAll world).world) :=
  (noticeAll_noFrame world).trans (.note _ trivial)

theorem gathered_noFrame (world : World) :
    Appends NoFrame world (gatherClients (roomApplied world)).world := by
  have room : Appends NoFrame world (roomApplied world) :=
    ((told_noFrame world).trans (.of_log rfl)).trans
      (appends_applyRoomState (fun _ => trivial) (World.setRoomFull _ _))
  refine room.trans ((gatherClients_log _).mono fun item fits => ?_)
  cases item with
  | frame bytes queued => exact fits
  | _ => trivial

theorem serveEmpty_noFrame (left : Bool) (world : World) :
    Appends NoFrame world (serveEmpty left world) := by
  cases left with
  | false =>
      exact (Appends.of_log rfl).trans
        (appends_applyRoomState (fun _ => trivial) (World.setRoomFull world false))
  | true =>
      have reset : Appends NoFrame world (resetClient world) :=
        (resetAll_log (fun _ => trivial) aids world).trans (.of_log (resetClient_log world))
      have idle : Appends NoFrame (resetClient world)
          ((resetClient world).note (.beaconPatchType beaconTypeIdle)) := .note _ trivial
      exact ((reset.trans idle).trans (.of_log rfl)).trans
        (appends_applyRoomState (fun _ => trivial) (World.setRoomFull _ false))

/-- A pass hands out a frame only if somebody is here, and then one of the messages
to the groups that the timers have gathered. -/
theorem servePass_frame {pass : Pass} {world : World}
    (valid : ∀ aid, StationInv (world.host.clients aid).station) {bytes : List UInt8} {queued : Bool}
    (handed : .frame bytes queued ∈ (servePass pass world).log.drop world.log.length) :
    associatedMask world.mp ≠ 0 ∧ Utters (GroupMessage (gatherClients (roomApplied world)))
      (associatedMask world.mp) (.frame bytes queued) := by
  by_cases empty : associatedMask world.mp = 0
  · rw [servePass_empty pass empty] at handed
    exact (((told_noFrame world).trans (serveEmpty_noFrame _ _)).drop _ handed).elim
  · refine ⟨empty, ?_⟩
    rw [servePass_here pass empty] at handed
    have loops := gathered world
    have spoken := speaks_sendGroups pass _ (loops.valid valid)
    have mask : associatedMask (gatherClients (roomApplied world)).world.mp =
        associatedMask world.mp := loops.mp.associated
    have said := spoken.log
    rw [mask] at said
    have silent := gathered_noFrame world
    generalize gatherClients (roomApplied world) = gathering at handed said silent ⊢
    have log : Appends (fun item => NoFrame item ∨
        Utters (GroupMessage gathering) (associatedMask world.mp) item) world
        (sendGroups pass gathering) :=
      (silent.mono fun _ => .inl).trans (said.mono fun _ => .inr)
    exact (log.drop _ handed).resolve_left id

/-! Who is spoken to. -/

/-- A client's turn in the pass that starts from `world`. -/
def clientTurn (world : World) (aid : Nat) : Client × Outcome :=
  turnOf world.host (arrive (world.here aid) (world.host.clients aid))

/-- The groups of the pass that starts from `world`. -/
structure GroupsOf (world : World) (gathering : Gathering) : Prop where
  bmp : ∀ aid group, (gathering.bmp group).getLsbD aid = true ↔
    aid ∈ aids ∧ (clientTurn world aid).2 = .join group
  /-- The file that the blocks name is that of a client that takes them. -/
  fileId : gathering.bmp .send ≠ 0 → ∃ aid, (gathering.bmp .send).getLsbD aid = true ∧
    gathering.sendFileId = (clientTurn world aid).1.request.fileId

theorem visit_sendFileId (gathering : Gathering) (aid : Nat) :
    (visit gathering aid).sendFileId =
      if (turnOf gathering.world.host (gathering.world.host.clients aid)).2 = .join .send then
        (turnOf gathering.world.host (gathering.world.host.clients aid)).1.request.fileId
      else gathering.sendFileId := by
  unfold visit turnOf
  dsimp only
  split
  · rename_i outcome
    simp [outcome]
  · rename_i outcome
    simp [outcome]
  · rename_i joined outcome
    simp [outcome]

/-- The file id is that of the client that was the last to join the senders. -/
theorem visits_fileId (world : World) (indices : List Nat) (gathering : Gathering)
    (distinct : indices.Nodup) (small : ∀ aid ∈ indices, aid < 16)
    (fresh : ∀ aid ∈ indices, gathering.world.host.clients aid = world.host.clients aid)
    (same : gathering.world.host.settings = world.host.settings)
    (found : gathering.bmp .send ≠ 0 → ∃ aid, (gathering.bmp .send).getLsbD aid = true ∧
      gathering.sendFileId = (turnOf world.host (world.host.clients aid)).1.request.fileId) :
    (indices.foldl visit gathering).bmp .send ≠ 0 →
      ∃ aid, ((indices.foldl visit gathering).bmp .send).getLsbD aid = true ∧
        (indices.foldl visit gathering).sendFileId =
          (turnOf world.host (world.host.clients aid)).1.request.fileId := by
  induction indices generalizing gathering with
  | nil => exact found
  | cons index rest ih =>
      obtain ⟨outside, unique⟩ := List.nodup_cons.mp distinct
      have turn : turnOf gathering.world.host (gathering.world.host.clients index) =
          turnOf world.host (world.host.clients index) := by
        rw [fresh index List.mem_cons_self, turnOf_modes same]
      rw [List.foldl_cons]
      refine ih _ unique (fun aid later => small aid (List.mem_cons_of_mem _ later))
        (fun aid later => ?_) ((visit_settings gathering index).trans same) ?_
      · have ne : aid ≠ index := fun equal => outside (equal ▸ later)
        rw [visit_clients, Function.update_of_ne ne]
        exact fresh aid (List.mem_cons_of_mem _ later)
      · -- every client that joins overwrites the id with its own
        have bmp := visit_bmp gathering index .send
        rw [← turnOf, turn] at bmp
        rw [visit_sendFileId, turn, bmp]
        split
        · have below := small index List.mem_cons_self
          exact fun _ => ⟨index, by simp [bit, below], rfl⟩
        · exact found

theorem aids_small {aid : Nat} (member : aid ∈ aids) : aid < 16 := by
  have range := (mem_aids aid).mp member
  simp only [maxMultiplayerClients] at range
  omega

theorem gatherClients_fileId (world : World) (some : (gatherClients world).bmp .send ≠ 0) :
    ∃ aid, ((gatherClients world).bmp .send).getLsbD aid = true ∧ (gatherClients world).sendFileId =
      (turnOf world.host (world.host.clients aid)).1.request.fileId := by
  have loop := visits_fileId world aids { world } nodup_aids (fun _ => aids_small) (fun _ _ => rfl) rfl
    fun zero => absurd rfl zero
  rw [gatherClients] at some ⊢
  exact loop some

theorem groups_gatherClients (world : World) :
    GroupsOf world (gatherClients (roomApplied world)) := by
  have turn : ∀ aid, aid ∈ aids → turnOf (roomApplied world).host
      ((roomApplied world).host.clients aid) = clientTurn world aid := roomApplied_turn world
  have bmp : ∀ aid group, ((gatherClients (roomApplied world)).bmp group).getLsbD aid = true ↔
      aid ∈ aids ∧ (clientTurn world aid).2 = .join group := by
    intro aid group
    rw [gatherClients_bmp]
    refine and_congr_right fun member => ?_
    rw [turn aid member]
  refine ⟨bmp, fun some => ?_⟩
  obtain ⟨aid, set, named⟩ := gatherClients_fileId (roomApplied world) some
  exact ⟨aid, set, by rw [named, turn aid ((bmp aid .send).mp set).1]⟩

/-- A host once its beacon is started. -/
def World.begun (world : World) : World :=
  { world with host := { world.host with beaconStarted := true } }

theorem groups_begun (world : World) :
    GroupsOf world (gatherClients (roomApplied world.begun)) := by
  have groups := groups_gatherClients world.begun
  exact ⟨groups.bmp, groups.fileId⟩

/-- Every frame of a pass carries a message to the groups of the pass. -/
theorem update_frame {ready beaconOk : Bool} {pass : Pass} {world : World}
    (valid : ∀ aid, StationInv (world.host.clients aid).station) {bytes : List UInt8} {queued : Bool}
    (handed : .frame bytes queued ∈ (update ready beaconOk pass world).log.drop world.log.length) :
    beaconRunning ready beaconOk world.host = true ∧ associatedMask world.mp ≠ 0 ∧
      ∃ gathering, GroupsOf world gathering ∧
        Utters (GroupMessage gathering) (associatedMask world.mp) (.frame bytes queued) := by
  by_cases running : beaconRunning ready beaconOk world.host = true
  · rw [update_running running, ← World.begun] at handed
    have begun : ∀ aid, StationInv (world.begun.host.clients aid).station := valid
    obtain ⟨some, uttered⟩ := servePass_frame begun handed
    exact ⟨running, some, _, groups_begun world, uttered⟩
  · rw [(update_idle running).2.2.1, List.drop_length] at handed
    cases handed

/-- A frame that a step hands out. -/
def Hands (world : World) (event : Event) (bytes : List UInt8) (queued : Bool) : Prop :=
  .frame bytes queued ∈ (step world event).log.drop world.log.length

theorem step_frame {world : World} (valid : HostInv world) {event : Event} {bytes : List UInt8}
    {queued : Bool} (handed : Hands world event bytes queued) :
    ∃ ready beaconOk pass, event = .update ready beaconOk pass ∧
      beaconRunning ready beaconOk world.host = true ∧ associatedMask world.mp ≠ 0 ∧
        ∃ gathering, GroupsOf world gathering ∧
          Utters (GroupMessage gathering) (associatedMask world.mp) (.frame bytes queued) := by
  have note := (log_step valid event).drop _ handed
  obtain ⟨ready, beaconOk, pass, rfl⟩ := note.pass (by simp) (by simp) (by simp)
  exact ⟨ready, beaconOk, pass, rfl, update_frame valid.stations handed⟩

/-! Framing. -/

/-- A receiver that goes by the announced size gets everything that the sender wrote,
and the right list of clients, if and only if what was written takes whole halfwords. -/
theorem frames_framed_iff (hosting : Hosting) (events : List Event) :
    EachStep step (fun world event => ∀ bytes queued, Hands world event bytes queued →
      ∃ built message, messageFrame built message = some bytes) (start hosting) events ∧
    ∀ built message bytes, messageFrame built message = some bytes →
      (Framed (messageWritten built message) (messageTrailer built message) bytes ↔
        WholeHalfwords built message) := by
  refine ⟨?_, fun built message bytes laid => messages_framed_iff laid⟩
  have kept : ∀ world event, HostInv world → HostInv (step world event) :=
    fun _ event valid => valid.step event
  refine each_step_of_invariant kept ?_ _ _ (.start hosting)
  intro world event valid bytes queued handed
  obtain ⟨_, _, _, rfl, _, _, _, _, built, message, _, _, laid⟩ := step_frame valid handed
  exact ⟨built, message, laid⟩

def appWorld (data : List UInt8) : World := step (start smallHosting) (.appSend data)

/-- A message of three bytes, behind its opcode. -/
theorem frames_framed_iff_app : Framed [cmdOpApp, 1, 2, 3] [0, 0]
    [2, flagsNormal, cmdOpApp, 1, 2, 3, 0, 0] :=
  ((frames_framed_iff smallHosting []).2 (appWorld [1, 2, 3]) (.command .app 0) _ (by decide)).mpr
    (show (appWorld [1, 2, 3]).host.appOut.length % 2 = 1 by decide)

/-- A message of two bytes: the last of them is announced as the list of clients. -/
theorem app_message_cut : ¬ ∀ built message bytes, messageFrame built message = some bytes →
    Framed (messageWritten built message) (messageTrailer built message) bytes := by
  intro framed
  have cut := (framed (appWorld [1, 2]) (.command .app 0)
    [1, flagsNormal, cmdOpApp, 1, 2, 0, 0] (by decide)).payload
  exact absurd cut (by decide)

end Dswifi.DlPlay
