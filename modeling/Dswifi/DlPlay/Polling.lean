import Dswifi.DlPlay.Addressing
import Dswifi.DlPlay.RomBlocks

/-! A client answers command frames and nothing else, so every pass that finds one
has to hand out a frame. Nothing the senders lay out is refused for its size, and
the rotation ends in a frame that says nothing. -/

namespace Dswifi.DlPlay

open Runs MpHost ByteMemory

/-- A frame was handed to Wifi_DlPlayCmdSend. -/
def Spoke (world next : World) : Prop :=
  ∃ bytes queued, .frame bytes queued ∈ next.log.drop world.log.length

namespace Spoke
variable {first second third : World} {allowed : Note → Prop}

theorem and_then (spoke : Spoke first second) (more : Appends allowed second third) :
    Spoke first third := by
  obtain ⟨bytes, queued, member⟩ := spoke
  exact ⟨bytes, queued, more.earlier member⟩

theorem after (before : Appends allowed first second) (spoke : Spoke second third) :
    Spoke first third := by
  obtain ⟨bytes, queued, member⟩ := spoke
  exact ⟨bytes, queued, before.later member⟩

theorem cmdSend (pass : Pass) (world : World) (frame : List UInt8) :
    Spoke world (cmdSend pass world frame).1 :=
  ⟨frame, (DlPlay.cmdSend pass world frame).2, by simp [DlPlay.cmdSend, World.note]⟩

end Spoke

/-! What fits into a frame. -/

/-- The longest payload that leaves room for the header and the list of clients. -/
def payloadMax : Nat := cmdFrameSize - 4

/-- The blocks and the message of the application fit. -/
structure Fits (material : Rom × List UInt8) : Prop where
  blocks : material.1.blockSize + blockOverhead ≤ payloadMax
  message : material.2.length ≤ appMaxSize

theorem cmdStart_fits (world : World) (header : UInt8) {payload : List UInt8} (dest : Mask)
    (short : payload.length ≤ payloadMax) : ∃ frame, cmdStart world header payload dest = some frame := by
  simp only [payloadMax, cmdFrameSize, cmdDataSize] at short
  have fits : ¬ (2 + payload.length + if header &&& flagsHasFooter ≠ 0 then 2 else 0) > cmdFrameSize := by
    simp only [cmdFrameSize, cmdDataSize]
    split <;> omega
  rw [cmdStart]
  dsimp only
  rw [if_neg fits]
  exact ⟨_, rfl⟩

theorem spoke_command (pass : Pass) (world : World) (header : UInt8) {payload : List UInt8}
    (dest : Mask) (short : payload.length ≤ payloadMax) :
    Spoke world (cmdStartSend pass world header payload dest).1 := by
  obtain ⟨frame, laid⟩ := cmdStart_fits world header dest short
  rw [cmdStartSend, laid]
  exact .cmdSend pass world frame

theorem romGetBlock_size {rom : Rom} {block : Int} {data size : Nat}
    (found : romGetBlock rom block = some (data, size)) : size ≤ rom.blockSize := by
  simp only [romGetBlock, Option.ite_none_left_eq_some, Option.map_eq_some_iff, Prod.mk.injEq] at found
  obtain ⟨_, segment, _, _, rfl⟩ := found
  split <;> omega

/-! The senders. -/

section Senders
variable (pass : Pass) (dest : Mask) (fileId : UInt8)

theorem spoke_sendDummy (world : World) : Spoke world (sendDummy pass world) :=
  spoke_command pass world _ _ (by decide)

theorem spoke_sendStart (world : World) : Spoke world (sendStart pass world dest) :=
  spoke_command pass world _ _ (by decide)

theorem spoke_sendBootReq (world : World) : Spoke world (sendBootReq pass world dest) :=
  spoke_command pass world _ _ (by decide)

theorem spoke_sendSessionEnd (world : World) : Spoke world (sendSessionEnd pass world) :=
  spoke_command pass world _ _ (by decide)

/-- The counter of the packets is not part of the log. -/
theorem spoke_counted (world : World) (frame : List UInt8) :
    Spoke world (cmdSend pass (countPacket world) frame).1 :=
  .cmdSend pass (countPacket world) frame

theorem spoke_sendFileInfo (world : World) : Spoke world (sendFileInfo pass world dest) := by
  have short : (cmdOpDlFileinfo :: fileInfo world.host).length ≤ payloadMax := by
    rw [List.length_cons, fileInfo_length]
    decide
  obtain ⟨frame, laid⟩ := cmdStart_fits world flagsNormal dest short
  rw [sendFileInfo, laid]
  exact spoke_counted pass world frame

theorem spoke_sendApp (world : World) (fits : Fits world.host.material) :
    Spoke world (sendApp pass world dest) := by
  have short : (cmdOpApp :: world.host.appOut).length ≤ payloadMax := by
    have message := fits.message
    simp only [Host.material, appMaxSize] at message
    simp only [List.length_cons, payloadMax, cmdFrameSize, cmdDataSize]
    omega
  have sent := spoke_command pass world flagsNormal dest short
  unfold sendApp
  dsimp only
  split
  · exact sent
  · exact sent

theorem spoke_sendBlock (world : World) (block : Nat) (fits : Fits world.host.material) :
    Spoke world (sendBlock pass world block dest fileId).1 := by
  unfold sendBlock
  split
  · exact spoke_sendDummy pass world
  · rename_i data size found
    have short : (blockPayload world.host block fileId
        (readBytes world.host.rom.rom data size)).length ≤ payloadMax := by
      have blocks := fits.blocks
      have size := romGetBlock_size found
      simp only [Host.material, blockOverhead] at blocks
      simp only [blockPayload, u16Bytes, List.length_cons, List.length_append, readBytes_length,
        List.length_nil]
      omega
    obtain ⟨frame, laid⟩ := cmdStart_fits world flagsNormal dest short
    simp only [laid]
    exact spoke_counted pass world frame

/-- A loop that did not send hands the turn to the dummy. -/
theorem spoke_sendWanted (wanted : List Nat) (sent : Nat) (world : World)
    (fits : Fits world.host.material) : (sendWanted pass dest fileId wanted sent world).2 = sent ∨
      Spoke world (sendWanted pass dest fileId wanted sent world).1 := by
  cases wanted with
  | nil => exact .inl rfl
  | cons block rest =>
      have one := spoke_sendBlock pass dest fileId world block fits
      simp only [sendWanted]
      split
      · exact .inl rfl
      · exact .inr (one.and_then (speaks_sendWanted pass dest fileId rest _ _).log)

theorem spoke_sendStream (next : Nat) (wanted : List Nat) (count sent : Nat) (world : World)
    (fits : Fits world.host.material) :
    (sendStream pass dest fileId next wanted count sent world).2 = sent ∨
      Spoke world (sendStream pass dest fileId next wanted count sent world).1 := by
  induction count generalizing world with
  | zero => exact .inl rfl
  | succ count ih =>
      have one := spoke_sendBlock pass dest fileId world world.host.block fits
      simp only [sendStream]
      split
      · exact .inl rfl
      · split
        · exact .inl rfl
        · split
          · exact ih world.advance fits
          · split
            · exact .inl rfl
            · exact .inr (one.and_then (speaks_sendStream pass dest fileId next wanted count _ _).log)

theorem spoke_sendNextBlock (world : World) (fits : Fits world.host.material) :
    Spoke world (sendNextBlock pass world dest fileId) := by
  unfold sendNextBlock
  dsimp only
  generalize List.foldl _ _ _ = asked
  generalize turned : ({ world with host := turnStream world.host asked.1 } : World) = turn
  have log : turn.log = world.log := by rw [← turned]
  have begun : Appends (fun _ => True) world turn := .of_log log
  have fits : Fits turn.host.material := by
    rw [← turned]
    exact fits
  have wanted := speaks_sendWanted pass dest fileId asked.2 0 turn
  have kept : Fits (sendWanted pass dest fileId asked.2 0 turn).1.host.material :=
    wanted.material ▸ fits
  split
  · -- neither loop sent anything, so the dummy is sent
    rename_i silent
    exact .after (begun.trans (((wanted.trans (speaks_sendStream pass dest fileId asked.1 asked.2 _ _ _)
      ).log).mono fun _ _ => trivial)) (spoke_sendDummy pass _)
  · rename_i some
    rcases spoke_sendWanted pass dest fileId asked.2 0 turn fits with zero | spoke
    · rcases spoke_sendStream pass dest fileId asked.1 asked.2 ((sendWanted pass dest fileId asked.2 0
        turn).1.host.perUpdate - (sendWanted pass dest fileId asked.2 0 turn).2)
        (sendWanted pass dest fileId asked.2 0 turn).2 _ kept with zero' | spoke
      · exact absurd (zero'.trans zero) some
      · exact .after (begun.trans (wanted.log.mono fun _ _ => trivial)) spoke
    · exact .after begun (spoke.and_then (speaks_sendStream pass dest fileId asked.1 asked.2 _ _ _).log)

end Senders

/-! The stations: a client whose turn counts as one was handed a frame. -/

section Stations
variable (pass : Pass) (aid : Nat)

theorem stationCmdStart_fits (world : World) {port size : Nat} (known : port ≤ portStationFile)
    (even : size % 2 = 0) (short : size + 6 ≤ cmdFrameSize) :
    ∃ started, stationCmdStart world aid port size = some started := by
  have accepted : ¬ (port > portStationFile ∨ size % 2 = 1) := by omega
  have fits : ¬ 2 + size + 2 + 2 > cmdFrameSize := by omega
  rw [stationCmdStart, if_neg accepted, if_neg fits]
  exact ⟨_, rfl⟩

/-- A frame laid out in a world that has only counted. -/
theorem spoke_started {world started : World} {port size : Nat}
    (begun : stationCmdStart world aid port size = some started) (frame : List UInt8) :
    Spoke world (cmdSend pass started frame).1 := by
  have log : started.log = world.log := (stationCmdStart_frame begun).2.2
  exact .after (.of_log log : Appends (fun _ => True) world started) (.cmdSend pass started frame)

theorem spoke_stationSendLength (world : World) : Spoke world (stationSendLength pass world aid) := by
  obtain ⟨started, begun⟩ := stationCmdStart_fits aid world
    (show portStationName ≤ portStationFile by decide) (show 4 % 2 = 0 by decide) (by decide)
  have length : (u32Bytes (world.host.clients aid).station.size).length = 4 := rfl
  simp only [stationSendLength, length, begun]
  exact spoke_started pass aid begun _

theorem spoke_stationSendEnd (world : World) (sent : (stationSendEnd pass world aid).2 = true) :
    Spoke world (stationSendEnd pass world aid).1 := by
  unfold stationSendEnd at sent ⊢
  dsimp only at sent ⊢
  split
  · rename_i refused
    rw [refused] at sent
    cases sent
  · rename_i started begun
    have spoke := spoke_started pass aid begun
      (stationFrame started aid (world.host.clients aid).station.port stationEndPayload)
    split
    · exact spoke
    · exact spoke.and_then (.of_log rfl : Appends (fun _ => True) _ _)

theorem spoke_stationSendData (world : World) (offset : Nat)
    (sent : (stationSendData pass world aid offset).2 = true) :
    Spoke world (stationSendData pass world aid offset).1 := by
  unfold stationSendData at sent ⊢
  dsimp only at sent ⊢
  split
  · rename_i refused
    rw [refused] at sent
    cases sent
  · rename_i started begun
    simp only [begun] at sent
    split
    · rename_i failed
      rw [failed] at sent
      cases sent
    · rename_i content found
      have spoke := spoke_started pass aid begun
        (stationFrame started aid (world.host.clients aid).station.port
          (stationChunkPayload (world.host.clients aid).station.index
            (chunkSize (world.host.clients aid).station offset) content))
      split
      · exact spoke
      · exact spoke.and_then (Appends.note (World.setClient _ aid _) trivial :
          Appends (fun _ => True) _ _)

theorem spoke_stationSendChunk (world : World) (sent : (stationSendChunk pass world aid).2 = true) :
    Spoke world (stationSendChunk pass world aid).1 := by
  unfold stationSendChunk at sent ⊢
  dsimp only at sent ⊢
  split
  · rename_i beyond
    rw [if_pos beyond] at sent
    exact spoke_stationSendEnd pass aid world sent
  · rename_i more
    rw [if_neg more] at sent
    exact spoke_stationSendData pass aid world _ sent

theorem spoke_serveState (world : World) (served : (serveState pass world aid).2 = true) :
    Spoke world (serveState pass world aid).1 := by
  unfold serveState at served ⊢
  dsimp only at served ⊢
  revert served
  split
  · split
    · exact fun _ => spoke_stationSendLength pass aid world
    · split <;> exact nofun
  · split
    · exact nofun
    · rename_i sending
      rw [stationSendChunks_one pass aid world (by simpa using sending)]
      exact spoke_stationSendChunk pass aid world
  · exact nofun
  · exact nofun

theorem spoke_stationServe (world : World) (served : (stationServe pass world aid).2 = true) :
    Spoke world (stationServe pass world aid).1 := by
  have counted : Speaks (ServeMessage aid) world (countTurn (takeAsked pass world aid) aid) :=
    (speaks_takeAsked pass world).trans (.changeStation _ aid _)
  rw [stationServe_eq] at served ⊢
  exact .after counted.log (spoke_serveState pass aid _ served)

end Stations

/-! The pass. -/

theorem spoke_sendBulk (pass : Pass) (gathering : Gathering) (slots : List Nat) (world : World)
    (valid : ∀ aid, StationInv (world.host.clients aid).station) (fits : Fits world.host.material) :
    Spoke world (sendBulk pass gathering.bmp gathering.sendFileId slots world) := by
  induction slots generalizing world with
  | nil => exact spoke_sendDummy pass world
  | cons slot rest ih =>
      have turn : Appends (fun _ => True) world (world.takeTurn slot) := .of_log rfl
      simp only [sendBulk]
      split
      · split
        · exact ih world valid fits
        · exact .after turn (spoke_sendNextBlock pass _ _ (world.takeTurn slot) fits)
      · split
        · split
          · exact ih world valid fits
          · exact .after turn (spoke_sendApp pass _ (world.takeTurn slot) fits)
        · split
          · have said := speaks_stationServe pass world (valid slot)
            split
            · rename_i served
              exact (spoke_stationServe pass slot world served).and_then
                (.of_log rfl : Appends (fun _ => True) _ _)
            · exact .after said.log (ih _
                ((serves_stationServe pass world slot (valid slot)).all_valid valid)
                (said.material ▸ fits))
          · exact ih world valid fits

theorem spoke_sendGroups (pass : Pass) (gathering : Gathering)
    (valid : ∀ aid, StationInv (gathering.world.host.clients aid).station)
    (fits : Fits gathering.world.host.material) :
    Spoke gathering.world (sendGroups pass gathering) := by
  unfold sendGroups
  dsimp only
  split
  · have kicked : Speaks (fun _ _ => True) gathering.world
        (aids.foldl (kickMember (gathering.bmp .sessionEnd)) gathering.world) :=
      speaks_kickMembers (gathering.bmp .sessionEnd) aids gathering.world
    exact .after kicked.log (spoke_sendSessionEnd pass _)
  · split
    · exact spoke_sendBootReq pass _ gathering.world
    · split
      · exact spoke_sendStart pass _ gathering.world
      · split
        · exact spoke_sendFileInfo pass _ gathering.world
        · exact spoke_sendBulk pass gathering _ gathering.world valid fits

/-! What the frames are made from stays as it is, but for the message. -/

theorem visits_material (indices : List Nat) (gathering : Gathering) :
    (indices.foldl visit gathering).world.host.material = gathering.world.host.material := by
  refine loop_frame (fun gathering : Gathering => gathering.world.host.material) visit ?_ indices
    gathering
  intro gathering aid
  unfold visit
  dsimp only
  split <;> rfl

theorem noticeAll_material (world : World) :
    (noticeAll world).world.host.material = world.host.material := by
  refine loop_frame (fun scan : Scan => scan.world.host.material) _ ?_ aids { world }
  intro scan aid
  unfold notice
  dsimp only
  split
  · rfl
  · split <;> rfl

theorem gathered_material (world : World) :
    (gatherClients (roomApplied world)).world.host.material = world.host.material := by
  have room : (roomApplied world).host.material = world.host.material := noticeAll_material world
  rw [gatherClients, visits_material]
  exact room

theorem servePass_spoke {pass : Pass} {world : World}
    (valid : ∀ aid, StationInv (world.host.clients aid).station) (fits : Fits world.host.material)
    (some : associatedMask world.mp ≠ 0) : Spoke world (servePass pass world) := by
  rw [servePass_here pass some]
  have material := gathered_material world
  have silent := gathered_noFrame world
  have valid := (gathered world).valid valid
  generalize gatherClients (roomApplied world) = gathering at material silent valid ⊢
  exact .after silent (spoke_sendGroups pass gathering valid (material ▸ fits))

theorem servePass_material {pass : Pass} {world : World}
    (valid : ∀ aid, StationInv (world.host.clients aid).station) :
    (servePass pass world).host.material = world.host.material := by
  by_cases empty : associatedMask world.mp = 0
  · have told : (tellPlayers (noticeAll world).world).host.material = world.host.material :=
      noticeAll_material world
    rw [servePass_empty pass empty, ← told]
    generalize tellPlayers (noticeAll world).world = next
    cases (noticeAll world).left with
    | false => rfl
    | true =>
        have reset : (aids.foldl resetOneClient next).host.material = next.host.material :=
          loop_frame (fun world : World => world.host.material) resetOneClient (fun _ _ => rfl) aids next
        exact reset
  · rw [servePass_here pass empty, ← gathered_material world]
    exact (speaks_sendGroups pass _ ((gathered world).valid valid)).material

/-! Runs. -/

/-- A pass that finds an associated console hands out a frame. -/
def Polls (world : World) : Event → Prop
  | .update ready beaconOk pass => beaconRunning ready beaconOk world.host = true →
      (∃ aid, Associated world aid) →
        ∃ bytes queued, Hands world (.update ready beaconOk pass) bytes queued
  | _ => True

structure PollInv (world : World) : Prop where
  host : HostInv world
  fits : Fits world.host.material

theorem pickFrameSize_blockSize (maxPlayers : Nat) (smallFrame : Bool) :
    BlockSize (pickFrameSize maxPlayers smallFrame).2 := by
  unfold pickFrameSize
  dsimp only
  generalize (if maxPlayers < 2 ∨ maxPlayers > 16 then 2 else maxPlayers) = players
  split
  · exact .inr rfl
  · exact .inl rfl

theorem PollInv.start (hosting : Hosting) : PollInv (start hosting) := by
  refine ⟨.start hosting, ?_, Nat.zero_le _⟩
  have small : hosting.rom.blockSize + blockOverhead ≤ payloadMax := by
    rw [(romParse_parsed hosting.parsed).cut]
    rcases pickFrameSize_blockSize hosting.maxPlayers hosting.smallFrame with size | size <;>
      rw [size] <;> decide
  exact small

theorem packet_material (world : World) (type : PacketType) (macaddr : Mac) (portByte : UInt8)
    (reply : List UInt8) :
    (handlePacketFromClient type macaddr portByte reply world).host.material =
      world.host.material := by
  obtain ⟨_, _, host⟩ := packet_host world type macaddr portByte reply
  rw [host]
  rfl

theorem bootClient_material (world : World) (target : Int) :
    (bootClient world target).1.host.material = world.host.material := by
  obtain ⟨_, host⟩ := bootClient_host world target
  rw [host]
  rfl

/-- The message of the application is the only material that changes. -/
theorem material_step {world : World} (valid : HostInv world) (event : Event) :
    (step world event).host.material = world.host.material ∨
      ∃ data, (step world event).host.material = (world.host.rom, data) ∧
        data.length ≤ appMaxSize := by
  cases event with
  | update ready beaconOk pass =>
      left
      by_cases running : beaconRunning ready beaconOk world.host = true
      · have begun : ∀ aid, StationInv (world.begun.host.clients aid).station := valid.stations
        have served := @servePass_material pass _ begun
        rw [step, update_running running]
        exact served
      · obtain ⟨_, _, begun⟩ := startBeacon_frame ready beaconOk world
        rw [step, update, if_neg running, begun]
        rfl
  | packet type macaddr portByte reply =>
      exact .inl (packet_material world type macaddr portByte reply)
  | bootClient target => exact .inl (bootClient_material world target)
  | bootAll =>
      exact .inl (loop_frame (fun world : World => world.host.material) bootNext
        (fun world aid => bootClient_material world aid) aids world)
  | appSend data =>
      simp only [step, appSend]
      split
      · exact .inl rfl
      · split
        · exact .inl rfl
        · exact .inr ⟨data, rfl, by omega⟩
  | lockRoom locked =>
      left
      rw [step, lockRoom_host]
      rfl
  | mpHost _ | setBootMode _ | setGather _ | setPace _ _ | setAppHandler _ => exact .inl rfl

theorem PollInv.step {world : World} (valid : PollInv world) (event : Event) :
    PollInv (step world event) := by
  refine ⟨valid.host.step event, ?_⟩
  rcases material_step valid.host event with same | ⟨data, changed, short⟩
  · exact same ▸ valid.fits
  · exact changed ▸ ⟨valid.fits.blocks, short⟩

theorem polls_step {world : World} (valid : PollInv world) (event : Event) : Polls world event := by
  cases event with
  | update ready beaconOk pass =>
      intro running here
      obtain ⟨aid, here⟩ := here
      have some : associatedMask world.mp ≠ 0 := mask_ne_zero ((associated_iff world aid).mpr here)
      have spoke := @servePass_spoke pass world.begun valid.host.stations valid.fits some
      obtain ⟨bytes, queued, handed⟩ := spoke
      refine ⟨bytes, queued, ?_⟩
      rw [Hands, DlPlay.step, update_running running]
      exact handed
  | _ => trivial

/-- A running host polls its clients in every pass. -/
theorem polling_never_stops (hosting : Hosting) (events : List Event) :
    EachStep step Polls (start hosting) events := by
  have kept : ∀ world event, PollInv world → PollInv (step world event) :=
    fun _ event valid => valid.step event
  exact each_step_of_invariant kept (fun _ event valid => polls_step valid event) _ _ (.start hosting)

end Dswifi.DlPlay
