import Dswifi.DlPlay.Polling
import Dswifi.DlPlay.StationStream

/-! What the turn of one console in a pass does to its transfer, read off the log and
the record. -/

namespace Dswifi.DlPlay

open Runs MpHost

abbrev World.transfer (world : World) (aid : Nat) : Option Transfer := transferOf aid world.log

abbrev World.cursor (world : World) (aid : Nat) : Cursor := (world.host.clients aid).station.cursor

theorem transfer_note (world : World) (aid : Nat) (item : Note) :
    (world.note item).transfer aid = follow aid (world.transfer aid) item :=
  transferOf_append aid world.log [item]

/-! The frames of a station. -/

section Frames
variable {world : World} {aid port : Nat} {payload : List UInt8}

theorem framePayload_stationFrame (even : payload.length % 2 = 0) (short : payload.length < 512) :
    framePayload (stationFrame world aid port payload) = payload := by
  have size : announced (stationFrame world aid port payload) = payload.length := by
    simp only [announced, stationFrame, byteAt, List.cons_append, List.getD_cons_zero,
      UInt8.toNat_ofNat']
    omega
  rw [framePayload, size]
  simp [stationFrame]

theorem stationFrame_here (here : world.here aid = true) (payload : List UInt8) :
    (footer (stationFrame world aid port payload)).getLsbD aid = true := by
  rw [World.here, associatedMask, BitVec.getLsbD_and, Bool.and_eq_true] at here
  have small : aid < 16 := BitVec.lt_of_getLsbD here.1
  rw [stationFrame, footer_append, BitVec.getLsbD_and, BitVec.getLsbD_and, here.1, here.2, bit,
    BitVec.getLsbD_twoPow]
  simp [small]

theorem follow_content (content : port = portStationMenu ∨ port = portStationFile)
    (here : world.here aid = true) (even : payload.length % 2 = 0) (short : payload.length < 512)
    (transfer : Option Transfer) :
    follow aid transfer (.frame (stationFrame world aid port payload) true) =
      transfer.map (.queue payload) := by
  have header : byteAt (stationFrame world aid port payload) 1 = stationHeader port := rfl
  have ours : IsContent aid (stationFrame world aid port payload) := by
    refine ⟨?_, stationFrame_here here payload⟩
    rw [header]
    exact content.imp (congrArg stationHeader) (congrArg stationHeader)
  rw [follow, if_pos ours, framePayload_stationFrame even short]

theorem length_payload (size : Nat) :
    (u32Bytes size).length % 2 = 0 ∧ (u32Bytes size).length < 512 := by
  have length : (u32Bytes size).length = 4 := rfl
  omega

/-- A frame that announces a length. -/
theorem follow_length (here : world.here aid = true) (size : Nat) (transfer : Option Transfer) :
    follow aid transfer (.frame (stationFrame world aid portStationName (u32Bytes size)) true) =
      transfer.map fun current => current.hear (u32Bytes size = u32Bytes current.size) := by
  have other : ¬ IsContent aid (stationFrame world aid portStationName (u32Bytes size)) := fun content =>
    content.1.elim (show stationHeader portStationName ≠ stationHeader portStationMenu by decide)
      (show stationHeader portStationName ≠ stationHeader portStationFile by decide)
  have announces : IsLength aid (stationFrame world aid portStationName (u32Bytes size)) :=
    ⟨rfl, stationFrame_here here _⟩
  obtain ⟨even, short⟩ := length_payload size
  rw [follow, if_neg other, if_pos announces, framePayload_stationFrame even short]

end Frames

/-! Serving a console. -/

section Serving
variable (pass : Pass) {world : World} {aid : Nat}

theorem here_of_mp {first second : World} (same : second.mp = first.mp) (here : first.here aid = true) :
    second.here aid = true := by
  rw [World.here, same]
  exact here

theorem changeStation_transfer (world : World) (change : StationClient → StationClient) :
    (world.changeStation aid change).transfer aid = world.transfer aid := rfl

theorem changeStation_cursor (world : World) (change : StationClient → StationClient) :
    (world.changeStation aid change).cursor aid = (change (world.host.clients aid).station).cursor := by
  rw [World.cursor, changeStation_client]

/-- Marking the end of the file moves nothing else. -/
theorem changeStation_ended (world : World) :
    (world.changeStation aid fun station => { station with ended := true }).cursor aid =
      { world.cursor aid with ended := true } := changeStation_cursor world _

theorem changeStation_state (world : World) (state : StationState) :
    (world.changeStation aid fun station => { station with wait := 0, state := state }).cursor aid =
      { world.cursor aid with state := state, wait := 0 } := changeStation_cursor world _

/-- The counter of the port is no part of the cursor. -/
theorem stationCmdStart_cursor {started : World} {port size : Nat}
    (begun : stationCmdStart world aid port size = some started) :
    started.cursor aid = world.cursor aid := by
  simp only [stationCmdStart, Option.ite_none_left_eq_some, Option.some.injEq] at begun
  obtain ⟨_, _, rfl⟩ := begun
  simp [World.cursor, StationClient.cursor]

theorem StationPort.content {port chunk : Nat} (station : StationPort port chunk) :
    port = portStationMenu ∨ port = portStationFile :=
  station.imp And.left And.left

/-- What the loop over the chunks can do, told by the cursor it starts from. -/
inductive ChunkTurn (pass : Pass) (transfer : Option Transfer) (cursor : Cursor) :
    Option Transfer → Cursor → Prop where
  | refused (position : Nat) (full : pass.txAccepts position = false) :
      ChunkTurn pass transfer cursor transfer cursor
  | chunk (inside : cursor.offset < cursor.size) (position : Nat) (content : Nat → UInt8)
      (read : pass.stationRead position cursor.handle cursor.offset
        (Pieces.size cursor.size cursor.chunk cursor.index) = some content) :
      ChunkTurn pass transfer cursor
        (transfer.map (.queue (stationChunkPayload cursor.index
          (Pieces.size cursor.size cursor.chunk cursor.index) content)))
        { cursor with index := (cursor.index + 1) % 65536 }
  | failed (inside : cursor.offset < cursor.size) (position : Nat)
      (unread : pass.stationRead position cursor.handle cursor.offset
        (Pieces.size cursor.size cursor.chunk cursor.index) = none) :
      ChunkTurn pass transfer cursor transfer { cursor with ended := true }
  | ending (beyond : cursor.size ≤ cursor.offset) :
      ChunkTurn pass transfer cursor (transfer.map (.queue stationEndPayload))
        { cursor with ended := true }

/-- A content frame is handed over by a world that has only counted. One that the ring
takes reaches the console, one that it refuses leaves the turn where it was. -/
theorem hand_content {started : World} {port size chunk : Nat} {payload : List UInt8}
    (station : StationPort port chunk) (here : world.here aid = true)
    (begun : stationCmdStart world aid port size = some started)
    (even : payload.length % 2 = 0) (short : payload.length < 512) :
    (cmdSend pass started (stationFrame started aid port payload)).1.cursor aid = world.cursor aid ∧
      ((cmdSend pass started (stationFrame started aid port payload)).2 = true →
        (cmdSend pass started (stationFrame started aid port payload)).1.transfer aid =
          (world.transfer aid).map (.queue payload)) ∧
      ((cmdSend pass started (stationFrame started aid port payload)).2 = false →
        ChunkTurn pass (world.transfer aid) (world.cursor aid)
          ((cmdSend pass started (stationFrame started aid port payload)).1.transfer aid)
          ((cmdSend pass started (stationFrame started aid port payload)).1.cursor aid)) := by
  obtain ⟨mp, _, log⟩ := stationCmdStart_frame begun
  have same : started.transfer aid = world.transfer aid := congrArg (transferOf aid) log
  have still : started.cursor aid = world.cursor aid := stationCmdStart_cursor begun
  refine ⟨still, fun queued => ?_, fun refused => ?_⟩
  · have accepted : pass.txAccepts started.log.length = true := queued
    rw [cmdSend, accepted, transfer_note,
      follow_content station.content (here_of_mp mp here) even short, same]
  · have full : pass.txAccepts started.log.length = false := refused
    rw [cmdSend, full, transfer_note]
    change ChunkTurn pass _ _ (started.transfer aid) (started.cursor aid)
    rw [same, still]
    exact .refused started.log.length full

theorem stationSendEnd_turn (here : world.here aid = true)
    (station : StationPort (world.host.clients aid).station.port
      (world.host.clients aid).station.chunk)
    (beyond : (world.cursor aid).size ≤ (world.cursor aid).offset) :
    ChunkTurn pass (world.transfer aid) (world.cursor aid)
      ((stationSendEnd pass world aid).1.transfer aid) ((stationSendEnd pass world aid).1.cursor aid) := by
  obtain ⟨started, begun⟩ := stationCmdStart_fits aid world station.range.2
    (show stationIndexSize % 2 = 0 by decide) (by decide)
  have handed := hand_content pass station here begun
    (show stationEndPayload.length % 2 = 0 by decide) (by decide)
  simp only [stationSendEnd, begun]
  generalize cmdSend pass started (stationFrame started aid
    (world.host.clients aid).station.port stationEndPayload) = out at handed ⊢
  obtain ⟨still, sent, refused⟩ := handed
  cases queued : out.2 with
  | false =>
      -- the mark is only set once the ring has the end of the file
      simp only [Bool.not_false, if_true]
      exact refused queued
  | true =>
      simp only [Bool.not_true, Bool.false_eq_true, if_false]
      rw [changeStation_ended, changeStation_transfer, still, sent queued]
      exact .ending beyond

theorem chunkSize_eq (station : StationClient) :
    chunkSize station (station.index * station.chunk) =
      Pieces.size station.size station.chunk station.index := by
  simp only [chunkSize, Pieces.size]
  split <;> omega

/-- A chunk fits into a frame. -/
theorem chunk_short {port chunk size : Nat} (station : StationPort port chunk) (small : size ≤ chunk) :
    stationIndexSize + (size + 1) / 2 * 2 + 6 ≤ 512 := by
  rcases station with ⟨_, rfl⟩ | ⟨_, rfl⟩
  · rw [stationChunkPort14] at small
    rw [stationIndexSize]
    omega
  · rw [stationChunkPort15] at small
    rw [stationIndexSize]
    omega

theorem stationSendData_turn (here : world.here aid = true)
    (station : StationPort (world.host.clients aid).station.port
      (world.host.clients aid).station.chunk)
    (inside : (world.cursor aid).offset < (world.cursor aid).size) :
    ChunkTurn pass (world.transfer aid) (world.cursor aid)
      ((stationSendData pass world aid (world.cursor aid).offset).1.transfer aid)
      ((stationSendData pass world aid (world.cursor aid).offset).1.cursor aid) := by
  have size : chunkSize (world.host.clients aid).station (world.cursor aid).offset =
      Pieces.size (world.cursor aid).size (world.cursor aid).chunk (world.cursor aid).index :=
    chunkSize_eq _
  have short := chunk_short station (Pieces.size_le (world.cursor aid).size
    (world.cursor aid).chunk (world.cursor aid).index)
  have even : (stationIndexSize + (Pieces.size (world.cursor aid).size (world.cursor aid).chunk
      (world.cursor aid).index + 1) / 2 * 2) % 2 = 0 := by
    rw [stationIndexSize]
    omega
  obtain ⟨started, begun⟩ := stationCmdStart_fits aid world station.range.2 even
    (short.trans (by decide))
  have still := stationCmdStart_cursor begun
  have log := (stationCmdStart_frame begun).2.2
  simp only [stationSendData, size, begun]
  cases read : pass.stationRead started.log.length (world.host.clients aid).station.handle
      (world.cursor aid).offset (Pieces.size (world.cursor aid).size (world.cursor aid).chunk
        (world.cursor aid).index) with
  | none =>
      -- the file cannot be read any more, and nothing is sent
      have transfer : started.transfer aid = world.transfer aid := congrArg (transferOf aid) log
      rw [changeStation_ended, changeStation_transfer, still, transfer]
      exact .failed inside _ read
  | some content =>
      have length := stationChunkPayload_length (world.host.clients aid).station.index
        (Pieces.size (world.cursor aid).size (world.cursor aid).chunk (world.cursor aid).index) content
      have even : (stationChunkPayload (world.host.clients aid).station.index
          (Pieces.size (world.cursor aid).size (world.cursor aid).chunk (world.cursor aid).index)
            content).length % 2 = 0 := by
        rw [length, stationIndexSize]
        omega
      have handed := hand_content pass station here begun even (by rw [length]; omega)
      dsimp only
      generalize cmdSend pass started _ = out at handed ⊢
      obtain ⟨still, sent, refused⟩ := handed
      cases queued : out.2 with
      | false =>
          simp only [Bool.not_false, if_true]
          exact refused queued
      | true =>
          -- the index goes on only with the frame, so a refused chunk is read again
          simp only [Bool.not_true, Bool.false_eq_true, if_false]
          have moved : ((out.1.setClient aid (chunkSent (out.1.host.clients aid))).note
              (.stationChunk aid (world.host.clients aid).station.index
                (Pieces.size (world.cursor aid).size (world.cursor aid).chunk
                  (world.cursor aid).index))).cursor aid =
              { world.cursor aid with index := ((world.cursor aid).index + 1) % 65536 } := by
            rw [← still]
            simp [World.cursor, StationClient.cursor, chunkSent]
          rw [moved, transfer_note]
          change ChunkTurn pass _ _ (out.1.transfer aid) _
          rw [sent queued]
          exact .chunk inside _ content read

theorem stationSendChunk_turn (here : world.here aid = true)
    (station : StationPort (world.host.clients aid).station.port
      (world.host.clients aid).station.chunk) :
    ChunkTurn pass (world.transfer aid) (world.cursor aid)
      ((stationSendChunk pass world aid).1.transfer aid)
      ((stationSendChunk pass world aid).1.cursor aid) := by
  simp only [stationSendChunk]
  split
  · exact stationSendEnd_turn pass here station ‹_›
  · exact stationSendData_turn pass here station (Nat.lt_of_not_le ‹_›)

/-- A request is accepted, or the transfer goes on as it was. -/
theorem stationAcceptRequest_turn :
    ((stationAcceptRequest pass world aid).transfer aid = world.transfer aid ∧
      (stationAcceptRequest pass world aid).cursor aid = world.cursor aid) ∨
    ∃ port size handle, 0 < size ∧ (stationAcceptRequest pass world aid).transfer aid =
        some (acceptTransfer (world.transfer aid) port size handle) ∧
      (stationAcceptRequest pass world aid).cursor aid =
        Cursor.first (acceptTransfer (world.transfer aid) port size handle) := by
  have taken : (world.changeStation aid fun station => { station with pending := false }).cursor aid =
      world.cursor aid := by simp [World.cursor, StationClient.cursor]
  simp only [stationAcceptRequest]
  split
  · exact .inl ⟨rfl, taken⟩
  · split
    · exact .inl ⟨rfl, taken⟩
    · rename_i size handle _ nonempty
      refine .inr ⟨stationStreamPort (world.host.clients aid).station.pendingStream, size.toNat, handle,
        ?_, ?_, ?_⟩
      · exact Nat.pos_of_ne_zero fun zero => nonempty (UInt32.toNat_inj.mp zero)
      · rw [transfer_note, follow, if_pos rfl]
        simp only [changeStation_client, startTransfer]
        rfl
      · simp only [World.cursor, note_clients, changeStation_client, StationClient.cursor, startTransfer,
          Cursor.first, acceptTransfer, Transfer.chunk]
        rfl

/-- The length is announced, or the ring is full. -/
theorem stationSendLength_turn (here : world.here aid = true) :
    (stationSendLength pass world aid).cursor aid = world.cursor aid ∧
      ∃ heard, (Takes (IsLength aid) pass world (stationSendLength pass world aid) → heard = true) ∧
        (stationSendLength pass world aid).transfer aid = (world.transfer aid).map fun current =>
          current.hear (heard && u32Bytes (world.cursor aid).size = u32Bytes current.size) := by
  obtain ⟨started, begun⟩ := stationCmdStart_fits aid world
    (show portStationName ≤ portStationFile by decide) (show 4 % 2 = 0 by decide) (by decide)
  have length : (u32Bytes (world.host.clients aid).station.size).length = 4 := rfl
  obtain ⟨mp, _, log⟩ := stationCmdStart_frame begun
  have same : started.transfer aid = world.transfer aid := congrArg (transferOf aid) log
  simp only [stationSendLength, length, begun]
  have cursor := stationCmdStart_cursor begun
  have ours : IsLength aid (stationFrame started aid portStationName
      (u32Bytes (world.host.clients aid).station.size)) := ⟨rfl, stationFrame_here (here_of_mp mp here) _⟩
  have begins : Appends (fun _ => True) world started := .of_log log
  refine ⟨cursor, pass.txAccepts started.log.length, fun taken => (taken.from_start begins).cmdSend ours, ?_⟩
  rw [cmdSend, transfer_note, same]
  cases pass.txAccepts started.log.length with
  | true => exact follow_length (here_of_mp mp here) _ _
  | false =>
      have silent : ∀ current : Transfer, current.hear false = current := fun current => by
        simp [Transfer.hear]
      simp [follow, silent]

theorem serveState_first (state : (world.cursor aid).state = .sendDelay)
    (first : (world.cursor aid).wait = 1) :
    serveState pass world aid = (stationSendLength pass world aid, true) := by
  have state : (world.host.clients aid).station.state = .sendDelay := state
  have first : (world.host.clients aid).station.wait = 1 := first
  simp only [serveState, state, first, if_true]

/-- The state decides what a turn is for. -/
theorem serveState_turn {taken : Prop} {asked : Bool} {transfer : Option Transfer} {cursor : Cursor}
    (start : world.transfer aid = transfer) (counted : world.cursor aid = cursor.tick)
    (valid : StationInv (world.host.clients aid).station) (here : world.here aid = true) :
    ServeTurn pass taken asked transfer cursor ((serveState pass world aid).1.transfer aid)
      ((serveState pass world aid).1.cursor aid) := by
  have state : (world.host.clients aid).station.state = cursor.state := congrArg Cursor.state counted
  have wait : (world.host.clients aid).station.wait = cursor.wait + 1 := congrArg Cursor.wait counted
  have ended : (world.host.clients aid).station.ended = cursor.ended := congrArg Cursor.ended counted
  unfold serveState
  dsimp only
  split
  · -- the turns before the content: the first announces the length
    rename_i delay
    have delay := state.symm.trans delay
    split
    · rename_i first
      obtain ⟨still, heard, _, sent⟩ := stationSendLength_turn pass here
      rw [sent, still, start, counted]
      exact .announces delay (by rw [stationSendDelay]; omega) _
    · split
      · rw [changeStation_state, changeStation_transfer, start, counted]
        exact .begins delay
      · rw [start, counted]
        exact .waits (by simp [delay]) fun _ => by omega
  · -- the content, one chunk in a turn, until the end is marked
    rename_i data
    have data := state.symm.trans data
    split
    · rename_i marked
      rw [changeStation_state, changeStation_transfer, start, counted]
      exact .finished data (ended.symm.trans marked)
    · rename_i going
      have going : (world.host.clients aid).station.ended = false := by simpa using going
      rw [stationSendChunks_one pass aid world going]
      have turn := stationSendChunk_turn pass here (valid.port (by simp [state, data]))
      have going := ended.symm.trans going
      rw [start, counted] at turn
      generalize (stationSendChunk pass world aid).1.transfer aid = next at turn ⊢
      generalize (stationSendChunk pass world aid).1.cursor aid = after at turn ⊢
      cases turn with
      | refused position full => exact .refused data going position full
      | chunk inside position content read => exact .chunk data going inside position content read
      | failed inside position unread => exact .failed data going inside position unread
      | ending beyond => exact .ending data going beyond
  · rename_i idle
    rw [start, counted]
    have idle := state.symm.trans idle
    exact .waits (by simp [idle]) (by simp [idle])
  · rename_i done
    rw [start, counted]
    have done := state.symm.trans done
    exact .waits (by simp [done]) (by simp [done])

theorem stationServe_turn {taken : Prop}
    (announces : taken → Takes (IsLength aid) pass world (stationServe pass world aid).1)
    (valid : StationInv (world.host.clients aid).station) (here : world.here aid = true) :
    ServeTurn pass taken (world.host.clients aid).station.pending (world.transfer aid)
      (world.cursor aid) ((stationServe pass world aid).1.transfer aid)
      ((stationServe pass world aid).1.cursor aid) := by
  have serves := (serves_takeAsked pass world aid valid).trans (serves_countTurn _ aid)
  have here := here_of_mp serves.mp here
  have valid := serves.valid valid
  have tick : (countTurn (takeAsked pass world aid) aid).cursor aid =
      ((takeAsked pass world aid).cursor aid).tick := changeStation_cursor _ _
  have noted : (world.note (.stationServe aid)).transfer aid = world.transfer aid :=
    transfer_note world aid _
  rw [stationServe_eq] at announces ⊢
  by_cases asked : (world.host.clients aid).station.pending = true
  · have accepts : takeAsked pass world aid =
        stationAcceptRequest pass (world.note (.stationServe aid)) aid := if_pos asked
    rcases @stationAcceptRequest_turn pass (world.note (.stationServe aid)) aid with
      ⟨transfer, cursor⟩ | ⟨port, size, handle, nonempty, transfer, cursor⟩
    · rw [← accepts] at transfer cursor
      exact serveState_turn pass (transfer.trans noted) (tick.trans (congrArg Cursor.tick cursor)) valid
        here
    · -- a request that is accepted has its first turn at once
      rw [← accepts, noted] at transfer cursor
      have counted := tick.trans (congrArg Cursor.tick cursor)
      rw [serveState_first pass (by rw [counted]; rfl) (by rw [counted]; rfl)] at announces ⊢
      obtain ⟨still, heard, announced, sent⟩ := stationSendLength_turn pass here
      have transfer : (countTurn (takeAsked pass world aid) aid).transfer aid =
          some (acceptTransfer (world.transfer aid) port size handle) := transfer
      have told : (heard && decide (u32Bytes (Cursor.first
          (acceptTransfer (world.transfer aid) port size handle)).tick.size = u32Bytes size)) = heard := by
        simp [Cursor.first, Cursor.tick, acceptTransfer]
      rw [still, sent, transfer, counted]
      have turn : ServeTurn pass taken (world.host.clients aid).station.pending (world.transfer aid)
          (world.cursor aid) _ _ := .accepted asked port size handle nonempty heard
            fun taken => announced ((announces taken).from_start serves.log)
      rw [← told] at turn
      exact turn
  · have passes : takeAsked pass world aid = world.note (.stationServe aid) := if_neg asked
    rw [passes] at tick ⊢
    rw [passes] at valid here
    exact serveState_turn pass noted tick valid here

end Serving

end Dswifi.DlPlay
