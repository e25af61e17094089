import Dswifi.DlPlay.StationProgram
import Dswifi.DlPlay.StationTransfers

/-! A file with one chunk too many: the last index is that of the end marker. The
console is alone in the room, so every pass is its own. -/

namespace Dswifi.DlPlay

open Runs MpHost

/-! A console alone in the room. -/

/-- The only console here is a station client that the host hears of. -/
structure Lone (world : World) (aid : Nat) : Prop where
  valid : HostInv world
  active : world.host.active = true
  member : aid ∈ aids
  alone : ∀ other, world.here other = true ↔ other = aid
  stage : (world.host.clients aid).stage = .station
  heard : (world.host.clients aid).idleCount < silentFrames
  moving : (world.host.clients aid).waitCount < stationIdleFrames

namespace Lone
variable {world : World} {aid : Nat}

theorem here (lone : Lone world aid) : world.here aid = true := (lone.alone aid).mpr rfl

theorem turn (lone : Lone world aid) :
    clientTurn world aid = (countPass (world.host.clients aid), .join .station) := by
  have heard := lone.heard
  have moving := lone.moving
  have quiet : ¬ (countPass (world.host.clients aid)).idleCount > silentFrames := by
    simp only [countPass]
    omega
  have going : ¬ ((countPass (world.host.clients aid)).waitCount > stationIdleFrames) := by
    simp only [countPass]
    omega
  have staying : arrive true (world.host.clients aid) = world.host.clients aid := by
    simp [arrive, lone.stage]
  have stage : (countPass (world.host.clients aid)).stage = .station := lone.stage
  rw [clientTurn, lone.here, staying, turnOf, clientPass, if_neg (by simp [lone.stage])]
  dsimp only
  rw [if_neg quiet, if_neg (by simp [stage, going]), stagePass, stage]

theorem group {gathering : Gathering} (lone : Lone world aid) (groups : GroupsOf world gathering)
    (group : Group) (other : Nat) : (gathering.bmp group).getLsbD other = true ↔
      other = aid ∧ group = .station := by
  rw [groups.bmp]
  by_cases same : other = aid
  · subst same
    rw [lone.turn]
    constructor
    · rintro ⟨_, joined⟩
      simp only [Outcome.join.injEq] at joined
      exact ⟨rfl, joined.symm⟩
    · rintro ⟨_, rfl⟩
      exact ⟨lone.member, rfl⟩
  · have away : world.here other = false := by
      cases here : world.here other with
      | false => rfl
      | true => exact absurd ((lone.alone other).mp here) same
    rw [clientTurn, away, turnOf_away]
    exact ⟨nofun, fun both => absurd both.1 same⟩

theorem nobody {gathering : Gathering} (lone : Lone world aid) (groups : GroupsOf world gathering)
    {group : Group} (other : group ≠ .station) : gathering.bmp group = 0 := by
  refine BitVec.eq_of_getLsbD_eq fun i _ => ?_
  cases set : (gathering.bmp group).getLsbD i with
  | false => simp
  | true => exact absurd ((lone.group groups group i).mp set).2 other

end Lone

/-- The rotation skips whoever has nothing to send. -/
theorem sendBulk_alone (pass : Pass) (bmp : Bitmaps) (sendFileId : UInt8) {aid : Nat}
    (member : aid ∈ aids) (blocks : bmp .send = 0) (app : bmp .app = 0)
    (alone : ∀ other, (bmp .station).getLsbD other = true ↔ other = aid) (world : World)
    (served : (stationServe pass world aid).2 = true) (slots : List Nat) (waits : aid ∈ slots) :
    sendBulk pass bmp sendFileId slots world = (stationServe pass world aid).1.takeTurn aid := by
  have range := (mem_aids aid).mp member
  induction slots with
  | nil => cases waits
  | cons slot rest ih =>
      by_cases same : slot = aid
      · subst same
        have notBlocks : ¬ slot = bulkBlocks := by
          rw [bulkBlocks]
          omega
        have notApp : ¬ slot = bulkApp := by
          rw [bulkApp]
          omega
        simp only [sendBulk, if_neg notBlocks, if_neg notApp, (alone slot).mpr rfl, served, if_true]
      · have unset : (bmp .station).getLsbD slot = false := by
          cases set : (bmp .station).getLsbD slot with
          | false => rfl
          | true => exact absurd ((alone slot).mp set) same
        have later := ih ((List.mem_cons.mp waits).resolve_left (Ne.symm same))
        simp only [sendBulk, blocks, app, unset, if_true, true_or, Bool.false_eq_true, if_false, later,
          ite_self]

/-- A pass for a console alone is a turn of it. -/
theorem Lone.pass {world : World} {aid : Nat} (lone : Lone world aid) (pass : Pass)
    (served : (stationServe pass (gatherClients (roomApplied world.begun)).world aid).2 = true) :
    step world (passEvent pass) =
      (stationServe pass (gatherClients (roomApplied world.begun)).world aid).1.takeTurn aid := by
  have groups := groups_begun world
  have some : associatedMask world.begun.mp ≠ 0 := mask_ne_zero lone.here
  have running : beaconRunning true true world.host = true := beaconRunning_ready lone.active
  have slots : aid ∈ bulkOrder (gatherClients (roomApplied world.begun)).world.host.bulkTurn := by
    have range := (mem_aids aid).mp lone.member
    simp only [bulkOrder, List.mem_map, List.mem_range, bulkSlots, maxMultiplayerClients] at range ⊢
    generalize (gatherClients (roomApplied world.begun)).world.host.bulkTurn = turn
    exact ⟨(aid + 17 * (turn + 1) - (turn + 1)) % 17, Nat.mod_lt _ (by decide), by omega⟩
  rw [passEvent, step, update_running running]
  change servePass pass world.begun = _
  rw [servePass_here pass some, sendGroups]
  have nobody : ∀ group : Group, group ≠ .station →
      ¬ (gatherClients (roomApplied world.begun)).bmp group ≠ 0 :=
    fun _ other => not_not_intro (lone.nobody groups other)
  rw [if_neg (nobody .sessionEnd (by decide)), if_neg (nobody .boot (by decide)),
    if_neg (nobody .start (by decide)), if_neg (nobody .fileInfo (by decide))]
  exact sendBulk_alone pass _ _ lone.member (lone.nobody groups (by decide))
    (lone.nobody groups (by decide))
    (fun other => (lone.group groups .station other).trans (and_iff_left rfl)) _ served _ slots

/-- The world in which a pass serves the console. -/
structure LoneTurn (world : World) (aid : Nat) (turn : World) : Prop where
  client : turn.host.clients aid = countPass (world.host.clients aid)
  valid : StationInv (turn.host.clients aid).station
  transfer : turn.transfer aid = world.transfer aid
  mp : SameTable world.mp turn.mp
  active : turn.host.active = true
  pass : ∀ pass, (stationServe pass turn aid).2 = true →
    step world (passEvent pass) = (stationServe pass turn aid).1.takeTurn aid

theorem Lone.turns {world : World} {aid : Nat} (lone : Lone world aid) :
    ∃ turn, LoneTurn world aid turn := by
  have served := lone.pass
  have loops := gathered world.begun
  have renews := gathered_renews world.begun aid
  generalize gatherClients (roomApplied world.begun) = gathering at served loops renews
  cases renews with
  | keeps station log =>
      refine ⟨gathering.world, ?_, loops.valid lone.valid.stations aid, transfer_silent log, loops.mp,
        (congrArg Settings.active loops.settings).trans lone.active, served⟩
      rw [loops.client aid lone.member]
      exact congrArg Prod.fst lone.turn
  | resets away => exact nomatch lone.here.symm.trans away

/-- A chunk that is read and taken starts the clock again. -/
theorem stationSendData_taken (pass : Pass) {world : World} {aid : Nat} (offset : Nat)
    (station : StationPort (world.host.clients aid).station.port
      (world.host.clients aid).station.chunk)
    (small : chunkSize (world.host.clients aid).station offset ≤
      (world.host.clients aid).station.chunk)
    (taken : ∀ position, pass.txAccepts position = true)
    (reads : ∀ position handle offset size, pass.stationRead position handle offset size ≠ none) :
    (stationSendData pass world aid offset).2 = true ∧
      ((stationSendData pass world aid offset).1.host.clients aid).waitCount = 0 ∧
      ((stationSendData pass world aid offset).1.host.clients aid).station.pending =
        (world.host.clients aid).station.pending := by
  have even : (stationIndexSize + (chunkSize (world.host.clients aid).station offset + 1) / 2 * 2) % 2 =
      0 := by
    rw [stationIndexSize]
    omega
  obtain ⟨started, begun⟩ := stationCmdStart_fits aid world station.range.2 even
    ((chunk_short station small).trans (by decide))
  have pending : (started.host.clients aid).station.pending =
      (world.host.clients aid).station.pending := by
    simp only [stationCmdStart, Option.ite_none_left_eq_some, Option.some.injEq] at begun
    obtain ⟨_, _, rfl⟩ := begun
    simp
  simp only [stationSendData, begun]
  cases read : pass.stationRead started.log.length (world.host.clients aid).station.handle offset
      (chunkSize (world.host.clients aid).station offset) with
  | none => exact absurd read (reads _ _ _ _)
  | some content =>
      simp only [cmdSend, taken, Bool.not_true, Bool.false_eq_true, if_false]
      exact ⟨trivial, by simp [chunkSent], by simp [chunkSent, pending]⟩

theorem stationServe_taken (pass : Pass) {world : World} {aid : Nat}
    (asked : (world.host.clients aid).station.pending = false)
    (data : (world.cursor aid).state = .data) (going : (world.cursor aid).ended = false)
    (inside : (world.cursor aid).offset < (world.cursor aid).size)
    (station : StationPort (world.host.clients aid).station.port
      (world.host.clients aid).station.chunk)
    (taken : ∀ position, pass.txAccepts position = true)
    (reads : ∀ position handle offset size, pass.stationRead position handle offset size ≠ none) :
    (stationServe pass world aid).2 = true ∧
      ((stationServe pass world aid).1.host.clients aid).waitCount = 0 ∧
      ((stationServe pass world aid).1.host.clients aid).station.pending = false := by
  have noted : takeAsked pass world aid = world.note (.stationServe aid) :=
    if_neg (by simpa using asked)
  have data : (world.host.clients aid).station.state = .data := data
  have going : (world.host.clients aid).station.ended = false := going
  have more : ¬ (world.host.clients aid).station.index * (world.host.clients aid).station.chunk ≥
      (world.host.clients aid).station.size := Nat.not_le_of_lt inside
  have small : chunkSize (world.host.clients aid).station ((world.host.clients aid).station.index *
      (world.host.clients aid).station.chunk) ≤ (world.host.clients aid).station.chunk := by
    rw [chunkSize_eq]
    exact Pieces.size_le _ _ _
  -- no request is taken up, so the turn goes on with the content
  rw [stationServe_eq, noted]
  have client : ((countTurn (world.note (.stationServe aid)) aid).host.clients aid).station =
      { (world.host.clients aid).station with wait := (world.host.clients aid).station.wait + 1 } := by
    simp [countTurn]
  generalize countTurn (world.note (.stationServe aid)) aid = turn at client ⊢
  have sending : (turn.host.clients aid).station.ended = false := by rw [client]; exact going
  simp only [serveState, sending, Bool.false_eq_true, if_false]
  rw [show (turn.host.clients aid).station.state = .data by rw [client]; exact data]
  simp only [stationSendChunks_one pass aid turn sending, stationSendChunk]
  rw [if_neg (by rw [client]; exact more)]
  have sent := stationSendData_taken pass ((turn.host.clients aid).station.index *
    (turn.host.clients aid).station.chunk) (by rw [client]; exact station) (by rw [client]; exact small)
    taken reads
  rw [show (turn.host.clients aid).station.pending = false by rw [client]; exact asked] at sent
  exact sent

/-! The file. -/

def overrunSize : Nat := 65535 * 30 + 1

def blankFile (_ : Nat) : UInt8 := 0

/-- A menu of 65536 chunks. -/
def overrunPass : Pass := contentPass 1966051 blankFile

/-- A word from the console, and its next chunk. -/
def overrunRound : List Event := [saysEvent (1, 2, 3) 0 [], passEvent overrunPass]

def overrunStart : List Event :=
  asksMenu (1, 2, 3) overrunPass ++ List.replicate 3 (passEvent overrunPass)

def overrunEvents : List Event :=
  overrunStart ++ (List.replicate 65536 overrunRound).flatten

/-- The console has been sent `n` chunks, and is sent one more each round. -/
structure Overrunning (n : Nat) (world : World) : Prop where
  inv : TransferInv (fun _ _ => blankFile) world
  active : world.host.active = true
  mask : associatedMask world.mp = 2#16
  sender : multiplayerClientGetAIDFromMac world.mp (1, 2, 3) = 1
  stage : (world.host.clients 1).stage = .station
  heard : (world.host.clients 1).idleCount ≤ 3
  moving : (world.host.clients 1).waitCount ≤ 3
  asked : (world.host.clients 1).station.pending = false
  data : (world.cursor 1).state = .data
  going : (world.cursor 1).ended = false
  transfer : ∃ current, world.transfer 1 = some current ∧ current.port = portStationMenu ∧
    current.size = overrunSize ∧ current.queued.length = n

theorem overrunStart_reads :
    EachStep step (ReadsWell fun _ _ => blankFile) (start smallHosting) overrunStart :=
  reads_of_passes (contentPass_reads 1966051 blankFile) overrunStart
    (fun _ _ _ member => asksMenu_passes member) _

namespace Overrunning
variable {n : Nat} {world : World}

theorem start : Overrunning 0 (run step (start smallHosting) overrunStart) where
  inv := .run _ _ _ overrunStart_reads
  active := by decide +kernel
  mask := by decide +kernel
  sender := by decide +kernel
  stage := by decide +kernel
  heard := by decide +kernel
  moving := by decide +kernel
  asked := by decide +kernel
  data := by decide +kernel
  going := by decide +kernel
  transfer := ⟨{ number := 0, port := 14, size := overrunSize, handle := 7, announced := true },
    by decide +kernel, rfl, rfl, rfl⟩

/-- The word says nothing, but it is heard. -/
theorem hears (overrun : Overrunning n world) :
    Overrunning n (step world (saysEvent (1, 2, 3) 0 [])) ∧
      ((step world (saysEvent (1, 2, 3) 0 [])).host.clients 1).idleCount = 0 := by
  obtain ⟨mp, settings, log⟩ := packet_frame world .reply (1, 2, 3) 0 [0]
  have client : (step world (saysEvent (1, 2, 3) 0 [])).host.clients 1 =
      { world.host.clients 1 with idleCount := 0 } := by
    rw [saysEvent, step, packet_clients,
      if_pos ⟨rfl, overrun.active, by decide, overrun.sender⟩]
    rfl
  have cursor : (step world (saysEvent (1, 2, 3) 0 [])).cursor 1 = world.cursor 1 := by
    rw [World.cursor, client]
  have transfer : (step world (saysEvent (1, 2, 3) 0 [])).transfer 1 = world.transfer 1 :=
    transfer_silent (log.mono fun item message => by
      obtain ⟨_, _, rfl⟩ := message
      exact id)
  refine ⟨?_, by rw [client]⟩
  exact
    { inv := overrun.inv.step _ trivial
      active := (congrArg Settings.active settings).trans overrun.active
      mask := (congrArg associatedMask mp).trans overrun.mask
      sender := (congrArg (multiplayerClientGetAIDFromMac · (1, 2, 3)) mp).trans overrun.sender
      stage := by rw [client]; exact overrun.stage
      heard := by rw [client]; exact Nat.zero_le _
      moving := by rw [client]; exact overrun.moving
      asked := by rw [client]; exact overrun.asked
      data := by rw [cursor]; exact overrun.data
      going := by rw [cursor]; exact overrun.going
      transfer := by rw [transfer]; exact overrun.transfer }

/-- There is a chunk left to send. -/
theorem inside (overrun : Overrunning n world) (few : n ≤ 65535) :
    (world.cursor 1).offset < (world.cursor 1).size := by
  obtain ⟨current, found, port, size, length⟩ := overrun.transfer
  obtain ⟨other, m, same, _, delivered, points⟩ :=
    (overrun.inv.streaming 1 (by decide)).busy (by rw [overrun.data]; nofun)
  obtain rfl := Option.some.inj (found.symm.trans same)
  have sent := delivered.length
  rw [overrun.going] at sent
  have chunk : current.chunk = 30 := by rw [Transfer.chunk, if_pos port]; rfl
  rw [Cursor.offset, points.index, points.chunk, points.size, chunk, size, overrunSize]
  simp only [Bool.false_eq_true, if_false] at sent
  have small := Nat.mul_le_mul_right 30 few
  omega

theorem lone (overrun : Overrunning n world) : Lone world 1 where
  valid := overrun.inv.host
  active := overrun.active
  member := by decide
  alone other := by
    rw [World.here, overrun.mask]
    constructor
    · intro set
      have small := BitVec.lt_of_getLsbD set
      interval_cases other <;> first | rfl | exact absurd set (by decide)
    · rintro rfl
      decide
  stage := overrun.stage
  heard := by
    have heard := overrun.heard
    rw [silentFrames]
    omega
  moving := by
    have moving := overrun.moving
    rw [stationIdleFrames]
    omega

/-- The one turn that is left to a console in the middle of its file. -/
theorem next_chunk {taken : Prop} {transfer next : Option Transfer} {cursor after : Cursor}
    (turn : ServeTurn overrunPass taken false transfer cursor next after) (data : cursor.state = .data)
    (going : cursor.ended = false) (inside : cursor.offset < cursor.size) :
    ∃ payload, next = transfer.map (.queue payload) ∧ after.state = .data ∧ after.ended = false := by
  cases turn with
  | accepted asking => cases asking
  | announces state => cases data.symm.trans state
  | waits resting => exact absurd data resting
  | begins state => cases data.symm.trans state
  | refused state open_ position full => cases full
  | chunk state unended below position content read => exact ⟨_, rfl, data, going⟩
  | failed state unended below position unread => cases unread
  | ending state unended overrun => exact absurd overrun (Nat.not_le_of_lt inside)
  | finished state overrun => cases going.symm.trans overrun

theorem sends (overrun : Overrunning n world) (few : n ≤ 65535)
    (heard : (world.host.clients 1).idleCount = 0) :
    Overrunning (n + 1) (step world (passEvent overrunPass)) := by
  have inside := overrun.inside few
  obtain ⟨turn, moves⟩ := overrun.lone.turns
  have cursor : turn.cursor 1 = world.cursor 1 := by rw [World.cursor, moves.client]; rfl
  have mask : associatedMask turn.mp = 2#16 := moves.mp.associated.trans overrun.mask
  have pending : (turn.host.clients 1).station.pending = false := by
    rw [moves.client]
    exact overrun.asked
  have data : (turn.cursor 1).state = .data := by rw [cursor]; exact overrun.data
  have going : (turn.cursor 1).ended = false := by rw [cursor]; exact overrun.going
  rw [← cursor] at inside
  have station := moves.valid.port fun idle => by cases data.symm.trans idle
  obtain ⟨served, moving, asked⟩ := stationServe_taken overrunPass pending data going inside station
    (fun _ => rfl) fun _ _ _ _ => Option.some_ne_none _
  have serves := serves_stationServe overrunPass turn 1 moves.valid
  have turned := stationServe_turn overrunPass id moves.valid (by rw [World.here, mask]; decide)
  rw [pending, moves.transfer] at turned
  -- of all turns only that of a chunk is left
  obtain ⟨payload, queued, data, going⟩ := next_chunk turned data going inside
  have inv := overrun.inv.step (passEvent overrunPass) fun _ _ _ _ current _ =>
    contentPass_reads _ _ current
  rw [moves.pass overrunPass served] at inv ⊢
  generalize (stationServe overrunPass turn 1).1 = next at moving asked serves queued data going inv ⊢
  obtain ⟨current, found, port, size, length⟩ := overrun.transfer
  obtain ⟨record, wait, same, _⟩ := serves.own
  have idle : (next.host.clients 1).idleCount = 1 := by
    rw [same, moves.client, countPass, heard]
  exact
    { inv := inv
      active := (congrArg Settings.active serves.settings).trans moves.active
      mask := (congrArg associatedMask serves.mp).trans mask
      sender := (congrArg (multiplayerClientGetAIDFromMac · (1, 2, 3)) serves.mp).trans
        ((moves.mp.sender (1, 2, 3)).trans overrun.sender)
      stage := serves.own.stage.trans (by rw [moves.client]; exact overrun.stage)
      heard := Nat.le_trans (Nat.le_of_eq idle) (by decide)
      moving := Nat.le_trans (Nat.le_of_eq moving) (by decide)
      asked := asked
      data := data
      going := going
      transfer := ⟨current.queue payload, queued.trans (by rw [found]; rfl), port, size, by
        simp [Transfer.queue, length]⟩ }

theorem rounds (count : Nat) (few : n + count ≤ 65536) (overrun : Overrunning n world) :
    Overrunning (n + count) (run step world (List.replicate count overrunRound).flatten) := by
  induction count generalizing n world with
  | zero => exact overrun
  | succ count ih =>
      obtain ⟨hearing, heard⟩ := overrun.hears
      have next := hearing.sends (by omega) heard
      rw [List.replicate_succ, List.flatten_cons, run_append, show n + (count + 1) = n + 1 + count by omega]
      exact ih (by omega) next

end Overrunning

/-- All these events read well: there is one file, and it is blank. -/
theorem overrunEvents_reads :
    EachStep step (ReadsWell fun _ _ => blankFile) (start smallHosting) overrunEvents := by
  refine reads_of_passes (contentPass_reads 1966051 blankFile) overrunEvents
    (fun ready beaconOk other member => ?_) _
  rcases List.mem_append.mp member with early | late
  · exact asksMenu_passes early
  · obtain ⟨round, repeated, inside⟩ := List.mem_flatten.mp late
    obtain ⟨_, rfl⟩ := List.mem_replicate.mp repeated
    simp only [overrunRound, saysEvent, passEvent, List.mem_cons, Event.update.injEq, reduceCtorEq,
      List.not_mem_nil, false_or, or_false] at inside
    exact inside.2.2

/-- The last chunk of the file carries the index of the end marker. -/
theorem overrun_marked {files : Files} {world : World} {current : Transfer}
    (inv : TransferInv files world) {aid : Nat} (member : aid ∈ aids)
    (found : world.transfer aid = some current) (long : current.queued.length = 65536)
    (going : (world.cursor aid).ended = false) (busy : (world.cursor aid).state ≠ .idle) :
    current.piece (files aid current.number) 65535 ∈ current.queued := by
  obtain ⟨other, n, same, _, delivered, _⟩ := (inv.streaming aid member).busy busy
  obtain rfl := Option.some.inj (found.symm.trans same)
  have length := delivered.length
  rw [going] at delivered length
  simp only [Bool.false_eq_true, if_false, Nat.add_zero] at length
  rw [delivered.queued]
  exact List.mem_append_left _ (List.mem_map.mpr ⟨65535, List.mem_range.mpr (by omega), rfl⟩)

theorem overrun_last (count : Nat) : (List.replicate (count + 1) overrunRound).flatten =
    (List.replicate count overrunRound).flatten ++ overrunRound := by
  rw [List.replicate_succ', List.flatten_append, List.flatten_singleton]

theorem overrunEvents_split : overrunEvents =
    (overrunStart ++ (List.replicate 65535 overrunRound).flatten) ++ overrunRound := by
  rw [overrunEvents, overrun_last 65535, List.append_assoc]

/-- What the last round hands over is taken for the end marker. -/
theorem overrun_unmarked {world : World} (overrun : Overrunning 65535 world)
    (sent : EachStep step (ContentSent (fun _ => True) fun _ _ => blankFile) world overrunRound) :
    False := by
  obtain ⟨hearing, heard⟩ := overrun.hears
  have last := hearing.sends (by decide) heard
  obtain ⟨current, found, port, size, length⟩ := last.transfer
  have streamed := (sent.2.1 1 (by decide)).1 current found trivial
  have member := overrun_marked last.inv (by decide) found length last.going
    fun idle => nomatch last.data.symm.trans idle
  have chunk : current.chunk = 30 := by rw [Transfer.chunk, if_pos port]; rfl
  have marker : stationEndPayload <+: current.piece blankFile 65535 := by
    rw [Transfer.piece, stationChunkPayload, List.append_assoc]
    exact List.prefix_append _ _
  have same := congrArg List.length (streamed.marked _ member marker)
  rw [Transfer.piece, stationChunkPayload_length, size, chunk] at same
  exact absurd same (by decide)

theorem overrun_reached : Overrunning 65535 (run step (start smallHosting)
    (overrunStart ++ (List.replicate 65535 overrunRound).flatten)) := by
  have overrun := Overrunning.start.rounds 65535 (by decide)
  rw [← run_append] at overrun
  exact overrun

theorem content_overruns : ¬ ∀ (hosting : Hosting) (files : Files) (events : List Event),
    EachStep step (ReadsWell files) (start hosting) events →
      EachStep step (ContentSent (fun _ => True) files) (start hosting) events := by
  intro sends
  have sent := sends smallHosting (fun _ _ => blankFile) overrunEvents overrunEvents_reads
  rw [overrunEvents_split, each_step_append] at sent
  exact overrun_unmarked overrun_reached sent.2

end Dswifi.DlPlay
