import Dswifi.Rotation
import Dswifi.DlPlay.BlockPass

/-! The turns of a pass: which part of the host they go by, what moves it, and how the
rotation of Wifi_DlPlaySendForState hands a turn to a slot. -/

namespace Dswifi.DlPlay

open Runs Rotation MpHost

/-- What the turns go by. -/
structure Rounds where
  rom : Rom
  perUpdate : Nat
  rotate : Nat
  bulkTurn : Nat
  appOutPending : Bool

def Host.rounds (host : Host) : Rounds :=
  { rom := host.rom, perUpdate := host.perUpdate, rotate := host.rotate, bulkTurn := host.bulkTurn
    appOutPending := host.appOutPending }

/-! The sending functions. -/

section Sending
variable (pass : Pass) (world : World) (dest : Mask) (fileId : UInt8)

theorem cmdStartSend_host (header : UInt8) (payload : List UInt8) :
    (cmdStartSend pass world header payload dest).1.host = world.host := by
  unfold cmdStartSend
  split <;> rfl

theorem sendDummy_host : (sendDummy pass world).host = world.host := cmdStartSend_host pass world _ _ _

theorem sendFileInfo_rounds : (sendFileInfo pass world dest).host.rounds = world.host.rounds := by
  unfold sendFileInfo
  split <;> rfl

theorem sendBlock_rounds (block : Nat) :
    (sendBlock pass world block dest fileId).1.host.rounds = world.host.rounds := by
  unfold sendBlock
  split
  · exact congrArg Host.rounds (sendDummy_host pass world)
  · dsimp only
    split <;> rfl

theorem sendWanted_rounds (wanted : List Nat) (sent : Nat) :
    (sendWanted pass dest fileId wanted sent world).1.host.rounds = world.host.rounds :=
  @sendWanted_relates pass dest fileId (fun world next => next.host.rounds = world.host.rounds)
    (fun _ => rfl) (fun before after => after.trans before)
    (fun world block => sendBlock_rounds pass world dest fileId block) wanted sent world

theorem sendStream_rounds (next : Nat) (wanted : List Nat) (count sent : Nat) :
    (sendStream pass dest fileId next wanted count sent world).1.host.rounds = world.host.rounds :=
  @sendStream_relates pass dest fileId (fun world next => next.host.rounds = world.host.rounds)
    (fun _ => rfl) (fun before after => after.trans before)
    (fun world block => sendBlock_rounds pass world dest fileId block) (fun _ => rfl) next wanted count
    sent world

/-- A call moves the counter of its rotation, and nothing else. -/
theorem sendNextBlock_rounds : (sendNextBlock pass world dest fileId).host.rounds =
    { world.host.rounds with rotate := (world.host.rotate + 1) % 256 } := by
  unfold sendNextBlock
  dsimp only
  generalize List.foldl _ _ _ = asked
  have turned : (turnStream world.host asked.1).rounds =
      { world.host.rounds with rotate := (world.host.rotate + 1) % 256 } := rfl
  split
  · rw [sendDummy_host, sendStream_rounds, sendWanted_rounds]
    exact turned
  · rw [sendStream_rounds, sendWanted_rounds]
    exact turned

/-- The message of the application goes out, or waits for the next pass. -/
theorem sendApp_rounds : ∃ appOutPending,
    (sendApp pass world dest).host.rounds = { world.host.rounds with appOutPending } := by
  have sent := cmdStartSend_host pass world dest flagsNormal (cmdOpApp :: world.host.appOut)
  unfold sendApp
  dsimp only
  split
  · refine ⟨false, ?_⟩
    simp only [Host.rounds, sent]
  · exact ⟨world.host.appOutPending, congrArg Host.rounds sent⟩

end Sending

/-! Serving a station client. -/

section Stations
variable (pass : Pass) (world : World) (aid : Nat)

theorem stationCmdStart_rounds {started : World} {port size : Nat}
    (begun : stationCmdStart world aid port size = some started) :
    started.host.rounds = world.host.rounds := by
  simp only [stationCmdStart, Option.ite_none_left_eq_some, Option.some.injEq] at begun
  obtain ⟨_, _, rfl⟩ := begun
  rfl

theorem takeAsked_rounds : (takeAsked pass world aid).host.rounds = world.host.rounds := by
  unfold takeAsked stationAcceptRequest
  dsimp only
  split
  · split
    · rfl
    · split <;> rfl
  · rfl

theorem stationSendChunk_rounds :
    (stationSendChunk pass world aid).1.host.rounds = world.host.rounds := by
  unfold stationSendChunk stationSendEnd stationSendData
  dsimp only
  split
  · split
    · rfl
    · rename_i started begun
      have counted := stationCmdStart_rounds world aid begun
      simp only [apply_ite Prod.fst]
      split <;> exact counted
  · split
    · rfl
    · rename_i started begun
      have counted := stationCmdStart_rounds world aid begun
      split
      · exact counted
      · simp only [apply_ite Prod.fst]
        split <;> exact counted

theorem stationSendChunks_rounds (count : Nat) :
    (stationSendChunks pass aid count world).1.host.rounds = world.host.rounds := by
  induction count generalizing world with
  | zero => rfl
  | succ count ih =>
      have one := stationSendChunk_rounds pass world aid
      rw [stationSendChunks]
      dsimp only
      split
      · rfl
      · split
        · exact one
        · exact (ih _).trans one

theorem stationServe_rounds : (stationServe pass world aid).1.host.rounds = world.host.rounds := by
  have counted : (countTurn (takeAsked pass world aid) aid).host.rounds = world.host.rounds :=
    takeAsked_rounds pass world aid
  rw [stationServe_eq, ← counted]
  generalize countTurn (takeAsked pass world aid) aid = asked
  unfold serveState stationSendLength
  dsimp only
  split
  · split
    · split
      · rfl
      · rename_i started begun
        have counted := stationCmdStart_rounds asked aid begun
        exact counted
    · split <;> rfl
  · split
    · rfl
    · exact stationSendChunks_rounds pass asked aid _
  · rfl
  · rfl

end Stations

/-! The rotation. -/

section Slots
variable (pass : Pass) (bmp : Bitmaps) (sendFileId : UInt8)

/-- One slot of the rotation is asked. -/
def askSlot (world : World) (slot : Nat) : World × Bool :=
  if slot = bulkBlocks then
    if bmp .send = 0 then (world, false)
    else (sendNextBlock pass (world.takeTurn slot) (bmp .send) sendFileId, true)
  else if slot = bulkApp then
    if bmp .app = 0 ∨ !world.host.appOutPending then (world, false)
    else (sendApp pass (world.takeTurn slot) (bmp .app), true)
  else if (bmp .station).getLsbD slot then
    let (world, served) := stationServe pass world slot
    if served then (world.takeTurn slot, true) else (world, false)
  else (world, false)

theorem sendBulk_cons (slot : Nat) (rest : List Nat) (world : World) :
    sendBulk pass bmp sendFileId (slot :: rest) world =
      if (askSlot pass bmp sendFileId world slot).2 then (askSlot pass bmp sendFileId world slot).1
      else sendBulk pass bmp sendFileId rest (askSlot pass bmp sendFileId world slot).1 := by
  by_cases stream : slot = bulkBlocks
  · simp only [sendBulk, askSlot, if_pos stream]
    by_cases nobody : bmp .send = 0
    · simp only [if_pos nobody, Bool.false_eq_true, if_false]
    · simp only [if_neg nobody, if_true]
  · by_cases app : slot = bulkApp
    · simp only [sendBulk, askSlot, if_neg stream, if_pos app]
      by_cases silent : bmp .app = 0 ∨ !world.host.appOutPending
      · simp only [if_pos silent, Bool.false_eq_true, if_false]
      · simp only [if_neg silent, if_true]
    · simp only [sendBulk, askSlot, if_neg stream, if_neg app]
      by_cases member : (bmp .station).getLsbD slot = true
      · simp only [if_pos member]
        cases (stationServe pass world slot).2 with
        | true => simp only [if_true]
        | false => simp only [Bool.false_eq_true, if_false]
      · simp only [if_neg member, Bool.false_eq_true, if_false]

/-- The rotation is a round over the slots; a pass in which all of them decline says nothing. -/
theorem sendBulk_taken (slots : List Nat) (world : World) :
    sendBulk pass bmp sendFileId slots world =
      match taken (askSlot pass bmp sendFileId) slots world with
      | some (slot, asked) => (askSlot pass bmp sendFileId asked slot).1
      | none => sendDummy pass (declined (askSlot pass bmp sendFileId) slots world) := by
  induction slots generalizing world with
  | nil => rfl
  | cons slot rest ih =>
      rw [sendBulk_cons, taken]
      by_cases takes : (askSlot pass bmp sendFileId world slot).2 = true
      · rw [if_pos takes, if_pos takes]
      · rw [if_neg takes, if_neg takes, ih]
        rfl

/-- What asking a slot can come to. A slot that declines leaves the turns alone, and behind
one that takes the turn the next round begins. -/
inductive SlotAsked (world : World) (slot : Nat) : World × Bool → Prop where
  | declines {next : World} (rounds : next.host.rounds = world.host.rounds)
      (serves : next = world ∨ next = (stationServe pass world slot).1) : SlotAsked world slot (next, false)
  | stream (here : slot = bulkBlocks) :
      SlotAsked world slot (sendNextBlock pass (world.takeTurn slot) (bmp .send) sendFileId, true)
  | other {next : World} {appOutPending : Bool} (elsewhere : slot ≠ bulkBlocks)
      (rounds : next.host.rounds = { world.host.rounds with bulkTurn := slot, appOutPending }) :
      SlotAsked world slot (next, true)

theorem rounds_fields {host : Host} {rounds : Rounds} (same : host.rounds = rounds) :
    host.rom = rounds.rom ∧ host.perUpdate = rounds.perUpdate ∧ host.rotate = rounds.rotate ∧
      host.bulkTurn = rounds.bulkTurn := by
  rw [← same]
  exact ⟨rfl, rfl, rfl, rfl⟩

theorem slotAsked (world : World) (slot : Nat) :
    SlotAsked pass bmp sendFileId world slot (askSlot pass bmp sendFileId world slot) := by
  unfold askSlot
  split
  · rename_i stream
    split
    · exact .declines rfl (.inl rfl)
    · exact .stream stream
  · rename_i elsewhere
    split
    · split
      · exact .declines rfl (.inl rfl)
      · obtain ⟨_, rounds⟩ := sendApp_rounds pass (world.takeTurn slot) (bmp .app)
        exact .other elsewhere rounds
    · split
      · have served := stationServe_rounds pass world slot
        dsimp only
        split
        · have turned := congrArg (fun rounds : Rounds => { rounds with bulkTurn := slot }) served
          exact .other elsewhere turned
        · exact .declines served (.inr rfl)
      · exact .declines rfl (.inl rfl)

variable {pass bmp sendFileId} {world : World}

theorem askSlot_declines {slot : Nat} (declines : (askSlot pass bmp sendFileId world slot).2 = false) :
    (askSlot pass bmp sendFileId world slot).1.host.rounds = world.host.rounds ∧
      ((askSlot pass bmp sendFileId world slot).1 = world ∨
        (askSlot pass bmp sendFileId world slot).1 = (stationServe pass world slot).1) := by
  have asked := slotAsked pass bmp sendFileId world slot
  generalize askSlot pass bmp sendFileId world slot = answer at asked declines ⊢
  cases asked with
  | declines rounds serves => exact ⟨rounds, serves⟩
  | stream here => cases declines
  | other elsewhere rounds => cases declines

/-- The turns are as they were before the round when a slot is asked that takes the turn. -/
theorem taken_rounds {slots : List Nat} {slot : Nat} {asked : World}
    (turn : taken (askSlot pass bmp sendFileId) slots world = some (slot, asked)) :
    asked.host.rounds = world.host.rounds ∧ (askSlot pass bmp sendFileId asked slot).2 = true :=
  @taken_invariant _ (askSlot pass bmp sendFileId) (fun next => next.host.rounds = world.host.rounds) _ _
    (fun _ _ same declines => (askSlot_declines declines).1.trans same) _ _ turn rfl

theorem all_declined_rounds {slots : List Nat}
    (nobody : taken (askSlot pass bmp sendFileId) slots world = none) :
    (declined (askSlot pass bmp sendFileId) slots world).host.rounds = world.host.rounds :=
  @declined_invariant _ (askSlot pass bmp sendFileId) (fun next => next.host.rounds = world.host.rounds) _ _
    (fun _ _ same declines => (askSlot_declines declines).1.trans same) nobody rfl

end Slots

/-! The passes that come to the rotation. -/

instance (gathering : Gathering) : Decidable (Rotates gathering) :=
  decidable_of_iff (gathering.bmp .sessionEnd = 0 ∧ gathering.bmp .boot = 0 ∧ gathering.bmp .start = 0 ∧
      gathering.bmp .fileInfo = 0)
    ⟨fun ⟨sessionEnd, boot, start, fileInfo⟩ => ⟨sessionEnd, boot, start, fileInfo⟩,
      fun rotates => ⟨rotates.sessionEnd, rotates.boot, rotates.start, rotates.fileInfo⟩⟩

/-- A pass of Wifi_DlPlaySendForState, when the timers have gathered the groups. -/
structure StatePass where
  pass : Pass
  gathering : Gathering

/-- The pass of Wifi_DlPlaySendForState that an event is. -/
def statePass (world : World) : Event → Option StatePass
  | .update ready beaconOk pass =>
      if beaconRunning ready beaconOk world.host = true ∧ associatedMask world.mp ≠ 0 then
        some { pass, gathering := gatherClients (roomApplied world.begun) }
      else none
  | _ => none

namespace StatePass

/-- The slots in the order in which the pass asks them. -/
def slots (state : StatePass) : List Nat := bulkOrder state.gathering.world.host.bulkTurn

def ask (state : StatePass) : World → Nat → World × Bool :=
  askSlot state.pass state.gathering.bmp state.gathering.sendFileId

/-- Who has the turn, if the pass comes to the rotation. -/
def turn (state : StatePass) : Option (Nat × World) :=
  if Rotates state.gathering then taken state.ask state.slots state.gathering.world else none

/-- The end of a pass that comes to the rotation. -/
theorem sendGroups_turn {state : StatePass} (rotates : Rotates state.gathering) :
    sendGroups state.pass state.gathering =
      match state.turn with
      | some (slot, asked) => (state.ask asked slot).1
      | none => sendDummy state.pass (declined state.ask state.slots state.gathering.world) := by
  rw [turn, if_pos rotates]
  unfold sendGroups
  dsimp only
  rw [if_neg (not_not.mpr rotates.sessionEnd), if_neg (not_not.mpr rotates.boot),
    if_neg (not_not.mpr rotates.start), if_neg (not_not.mpr rotates.fileInfo), sendBulk_taken]
  rfl

end StatePass

/-- A call of Wifi_DlPlaySendNextBlock. -/
structure StreamCall where
  pass : Pass
  before : World
  dest : Mask
  fileId : UInt8

namespace StreamCall

def after (call : StreamCall) : World := sendNextBlock call.pass call.before call.dest call.fileId

/-- What the call hands to the ring. -/
def notes (call : StreamCall) : List Note := call.after.log.drop call.before.log.length

end StreamCall

/-- The call of a pass that gives its turn to the stream. -/
def StatePass.streamCall (state : StatePass) : Option StreamCall :=
  match state.turn with
  | some (slot, asked) =>
      if slot = bulkBlocks then
        some { pass := state.pass, before := asked.takeTurn slot, dest := state.gathering.bmp .send
               fileId := state.gathering.sendFileId }
      else none
  | none => none

/-- Who has the turn of the rotation in an event. -/
def turnIn (world : World) (event : Event) : Option (Nat × World) :=
  (statePass world event).bind StatePass.turn

def streamCall (world : World) (event : Event) : Option StreamCall :=
  (statePass world event).bind StatePass.streamCall

/-- Everybody has left, and the host forgets what they shared. -/
def Forgets (world : World) : Event → Prop
  | .update ready beaconOk _ => beaconRunning ready beaconOk world.host = true ∧
      associatedMask world.mp = 0 ∧ (noticeAll world.begun).left = true
  | _ => False

/-- What an event does to the turns. -/
structure RoundsStep (world : World) (event : Event) : Prop where
  rom : (step world event).host.rom = world.host.rom
  perUpdate : 1 ≤ world.host.perUpdate → 1 ≤ (step world event).host.perUpdate
  rotate : (step world event).host.rotate =
    if (streamCall world event).isSome then (world.host.rotate + 1) % 256 else world.host.rotate
  bulkTurn : ¬Forgets world event → (step world event).host.bulkTurn =
    ((turnIn world event).map Prod.fst).getD world.host.bulkTurn

/-! What an event that is no turn leaves alone. -/

theorem RoundsStep.of_same {world : World} {event : Event} (call : streamCall world event = none)
    (turn : turnIn world event = none) (rom : (step world event).host.rom = world.host.rom)
    (perUpdate : 1 ≤ world.host.perUpdate → 1 ≤ (step world event).host.perUpdate)
    (rotate : (step world event).host.rotate = world.host.rotate)
    (bulkTurn : (step world event).host.bulkTurn = world.host.bulkTurn ∨ Forgets world event) :
    RoundsStep world event := by
  refine ⟨rom, perUpdate, ?_, fun stays => ?_⟩
  · rw [call]
    exact rotate
  · rw [turn]
    exact bulkTurn.resolve_right stays

theorem RoundsStep.of_rounds {world : World} {event : Event} (call : streamCall world event = none)
    (turn : turnIn world event = none) (same : (step world event).host.rounds = world.host.rounds) :
    RoundsStep world event := by
  obtain ⟨rom, perUpdate, rotate, bulkTurn⟩ := rounds_fields same
  exact .of_same call turn rom (fun one => one.trans_eq perUpdate.symm) rotate (.inl bulkTurn)

theorem noticeAll_rounds (world : World) : (noticeAll world).world.host.rounds = world.host.rounds := by
  refine loop_frame (fun scan : Scan => scan.world.host.rounds) _ (fun scan aid => ?_) aids { world }
  unfold notice
  dsimp only
  split
  · rfl
  · split <;> rfl

theorem gathered_rounds (world : World) :
    (gatherClients (roomApplied world)).world.host.rounds = world.host.rounds := by
  have room : (roomApplied world).host.rounds = world.host.rounds := noticeAll_rounds world
  rw [gatherClients, ← room]
  refine loop_frame (fun gathering : Gathering => gathering.world.host.rounds) visit
    (fun gathering aid => ?_) aids { world := roomApplied world }
  unfold visit
  dsimp only
  split <;> rfl

/-- The messages that come before the rotation. -/
theorem sendGroups_rounds {pass : Pass} {gathering : Gathering} (other : ¬Rotates gathering) :
    (sendGroups pass gathering).host.rounds = gathering.world.host.rounds := by
  unfold sendGroups
  dsimp only
  split
  · rw [sendSessionEnd, cmdStartSend_host]
    refine loop_frame (fun world : World => world.host.rounds) _ (fun world aid => ?_) aids gathering.world
    unfold kickMember
    split <;> rfl
  · split
    · rw [sendBootReq, cmdStartSend_host]
    · split
      · rw [sendStart, cmdStartSend_host]
      · split
        · exact sendFileInfo_rounds pass _ _
        · rename_i sessionEnd boot start fileInfo
          exact absurd ⟨of_not_not sessionEnd, of_not_not boot, of_not_not start, of_not_not fileInfo⟩ other

/-! One event. -/

section Event
variable {world : World} {event : Event} {state : StatePass}

theorem statePass_step (found : statePass world event = some state) :
    step world event = sendGroups state.pass state.gathering ∧
      state.gathering = gatherClients (roomApplied world.begun) := by
  cases event with
  | update ready beaconOk pass =>
      simp only [statePass, Option.ite_none_right_eq_some, Option.some.injEq] at found
      obtain ⟨⟨running, here⟩, rfl⟩ := found
      dsimp only
      refine ⟨?_, rfl⟩
      rw [step, update_running running, ← World.begun]
      exact servePass_here pass here
  | _ => cases found

theorem statePass_rounds (found : statePass world event = some state) :
    state.gathering.world.host.rounds = world.host.rounds := by
  rw [(statePass_step found).2]
  exact gathered_rounds world.begun

/-- What the turn of a pass does to the turns. -/
theorem turn_rounds {slot : Nat} {asked : World} (rotates : Rotates state.gathering)
    (turn : state.turn = some (slot, asked)) :
    (state.ask asked slot).1.host.rom = state.gathering.world.host.rom ∧
      (state.ask asked slot).1.host.perUpdate = state.gathering.world.host.perUpdate ∧
      (state.ask asked slot).1.host.rotate = (if slot = bulkBlocks then
        (state.gathering.world.host.rotate + 1) % 256 else state.gathering.world.host.rotate) ∧
      (state.ask asked slot).1.host.bulkTurn = slot := by
  rw [StatePass.turn, if_pos rotates] at turn
  obtain ⟨same, takes⟩ := taken_rounds turn
  have before := rounds_fields same
  have answer := slotAsked state.pass state.gathering.bmp state.gathering.sendFileId asked slot
  rw [StatePass.ask]
  generalize askSlot state.pass state.gathering.bmp state.gathering.sendFileId asked slot = answered at answer takes
  cases answer with
  | declines rounds serves => cases takes
  | stream here =>
      obtain ⟨rom, perUpdate, rotate, bulkTurn⟩ := rounds_fields
        (sendNextBlock_rounds state.pass (asked.takeTurn slot) (state.gathering.bmp .send) state.gathering.sendFileId)
      have counter : (asked.takeTurn slot).host.rotate = state.gathering.world.host.rotate := before.2.2.1
      rw [counter] at rotate
      refine ⟨rom.trans before.1, perUpdate.trans before.2.1, ?_, bulkTurn⟩
      rw [if_pos here]
      exact rotate
  | other elsewhere rounds =>
      obtain ⟨rom, perUpdate, rotate, bulkTurn⟩ := rounds_fields rounds
      refine ⟨rom.trans before.1, perUpdate.trans before.2.1, ?_, bulkTurn⟩
      rw [if_neg elsewhere]
      exact rotate.trans before.2.2.1

/-- A pass for the clients that are here. -/
theorem rounds_statePass (found : statePass world event = some state) : RoundsStep world event := by
  obtain ⟨ends, _⟩ := statePass_step found
  obtain ⟨rom, perUpdate, rotate, bulkTurn⟩ := rounds_fields (statePass_rounds found)
  have call : streamCall world event = state.streamCall := by rw [streamCall, found, Option.bind_some]
  have has : turnIn world event = state.turn := by rw [turnIn, found, Option.bind_some]
  rw [StatePass.streamCall] at call
  by_cases rotates : Rotates state.gathering
  · rw [StatePass.sendGroups_turn rotates] at ends
    -- nothing moves unless a slot takes the turn
    cases turn : state.turn with
    | none =>
        rw [turn] at ends has call
        have declines : (declined state.ask state.slots state.gathering.world).host.rounds = world.host.rounds := by
          rw [StatePass.turn, if_pos rotates] at turn
          exact (all_declined_rounds turn).trans (statePass_rounds found)
        refine .of_rounds call has ?_
        rw [ends, sendDummy_host, declines]
    | some given =>
        obtain ⟨slot, asked⟩ := given
        rw [turn] at ends has call
        obtain ⟨rom', perUpdate', rotate', bulkTurn'⟩ := turn_rounds rotates turn
        dsimp only at ends call
        refine ⟨?_, fun one => ?_, ?_, fun _ => ?_⟩
        · rw [ends, rom', rom]
          rfl
        · rw [ends, perUpdate', perUpdate]
          exact one
        · rw [ends, rotate', rotate, call]
          split <;> rfl
        · rw [ends, bulkTurn', has]
          rfl
  · have nobody : state.turn = none := if_neg rotates
    rw [nobody] at has call
    refine .of_rounds call has ?_
    rw [ends, sendGroups_rounds rotates, statePass_rounds found]

theorem noTurn (other : statePass world event = none) :
    streamCall world event = none ∧ turnIn world event = none := by
  rw [streamCall, turnIn, other]
  exact ⟨rfl, rfl⟩

/-- A pass that finds nobody. -/
theorem rounds_empty {ready beaconOk : Bool} {pass : Pass}
    (running : beaconRunning ready beaconOk world.host = true) (empty : associatedMask world.mp = 0) :
    RoundsStep world (.update ready beaconOk pass) := by
  have other : statePass world (.update ready beaconOk pass) = none := if_neg fun both => both.2 empty
  obtain ⟨call, turn⟩ := noTurn other
  have told : (tellPlayers (noticeAll world.begun).world).host.rounds = world.host.rounds :=
    noticeAll_rounds world.begun
  have ends : step world (.update ready beaconOk pass) =
      serveEmpty (noticeAll world.begun).left (tellPlayers (noticeAll world.begun).world) := by
    have nobody : associatedMask world.begun.mp = 0 := empty
    rw [step, update_running running, ← World.begun]
    exact servePass_empty pass nobody
  generalize tellPlayers (noticeAll world.begun).world = next at told ends
  cases left : (noticeAll world.begun).left with
  | false =>
      rw [left] at ends
      refine .of_rounds call turn ?_
      rw [ends, ← told]
      rfl
  | true =>
      rw [left] at ends
      -- everybody has left: the records are cleared, and the rotation starts again
      have reset : (aids.foldl resetOneClient next).host.rounds = world.host.rounds :=
        (loop_frame (fun world : World => world.host.rounds) resetOneClient (fun _ _ => rfl) aids next).trans told
      obtain ⟨rom, perUpdate, rotate, _⟩ := rounds_fields reset
      refine .of_same call turn ?_ (fun one => ?_) ?_ (.inr ⟨running, empty, left⟩)
      · rw [ends]
        exact rom
      · rw [ends]
        exact one.trans_eq perUpdate.symm
      · rw [ends]
        exact rotate

theorem packet_rounds (type : PacketType) (macaddr : Mac) (portByte : UInt8) (reply : List UInt8) :
    (handlePacketFromClient type macaddr portByte reply world).host.rounds = world.host.rounds := by
  obtain ⟨_, _, host⟩ := packet_host world type macaddr portByte reply
  rw [host]
  rfl

theorem bootClient_rounds (world : World) (target : Int) :
    (bootClient world target).1.host.rounds = world.host.rounds := by
  obtain ⟨_, host⟩ := bootClient_host world target
  rw [host]
  rfl

theorem rounds_step (world : World) (event : Event) : RoundsStep world event := by
  cases event with
  | update ready beaconOk pass =>
      by_cases running : beaconRunning ready beaconOk world.host = true
      · by_cases empty : associatedMask world.mp = 0
        · exact rounds_empty running empty
        · exact rounds_statePass (if_pos ⟨running, empty⟩)
      · have other : statePass world (.update ready beaconOk pass) = none :=
          if_neg fun both => running both.1
        obtain ⟨call, turn⟩ := noTurn other
        refine .of_rounds call turn ?_
        obtain ⟨_, _, begun⟩ := startBeacon_frame ready beaconOk world
        rw [step, update, if_neg running, begun]
        rfl
  | packet type macaddr portByte reply => exact .of_rounds rfl rfl (packet_rounds type macaddr portByte reply)
  | bootClient target => exact .of_rounds rfl rfl (bootClient_rounds world target)
  | bootAll =>
      exact .of_rounds rfl rfl (loop_frame (fun world : World => world.host.rounds) bootNext
        (fun world aid => bootClient_rounds world aid) aids world)
  | appSend data =>
      have kept : (step world (.appSend data)).host.rom = world.host.rom ∧
          (step world (.appSend data)).host.perUpdate = world.host.perUpdate ∧
          (step world (.appSend data)).host.rotate = world.host.rotate ∧
          (step world (.appSend data)).host.bulkTurn = world.host.bulkTurn := by
        obtain ⟨_, _, sent⟩ := appSend_frame world data
        rw [step, sent]
        exact ⟨rfl, rfl, rfl, rfl⟩
      obtain ⟨rom, perUpdate, rotate, bulkTurn⟩ := kept
      exact .of_same rfl rfl rom (fun one => one.trans_eq perUpdate.symm) rotate (.inl bulkTurn)
  | lockRoom locked =>
      refine .of_rounds rfl rfl ?_
      rw [step, lockRoom_host]
      rfl
  | setPace perUpdate ahead =>
      exact .of_same rfl rfl rfl (fun _ => (setPace_perUpdate world perUpdate ahead).1) rfl (.inl rfl)
  | mpHost _ | setBootMode _ | setGather _ | setAppHandler _ => exact .of_rounds rfl rfl rfl

/-- The call is the end of the pass, and nobody has moved its counter or the pace. -/
theorem streamCall_step {call : StreamCall} (found : call ∈ streamCall world event) :
    step world event = call.after ∧ call.before.host.rom = world.host.rom ∧
      call.before.host.perUpdate = world.host.perUpdate ∧ call.before.host.rotate = world.host.rotate := by
  obtain ⟨state, pass, found⟩ := Option.bind_eq_some_iff.mp found
  obtain ⟨ends, _⟩ := statePass_step pass
  rw [StatePass.streamCall] at found
  split at found
  · rename_i slot asked turn
    split at found
    · rename_i stream
      cases found
      have rotates : Rotates state.gathering := by
        by_contra other
        rw [StatePass.turn, if_neg other] at turn
        cases turn
      rw [StatePass.sendGroups_turn rotates, turn] at ends
      rw [StatePass.turn, if_pos rotates] at turn
      obtain ⟨same, takes⟩ := taken_rounds turn
      obtain ⟨rom, perUpdate, rotate, _⟩ := rounds_fields (same.trans (statePass_rounds pass))
      refine ⟨?_, rom, perUpdate, rotate⟩
      have answer := slotAsked state.pass state.gathering.bmp state.gathering.sendFileId asked slot
      dsimp only [StatePass.ask] at ends takes
      generalize askSlot state.pass state.gathering.bmp state.gathering.sendFileId asked slot = answered
        at ends answer takes
      cases answer with
      | declines rounds serves => cases takes
      | stream here =>
          dsimp only at ends
          rw [ends, StreamCall.after]
      | other elsewhere rounds => exact absurd stream elsewhere
    · cases found
  · cases found

end Event

end Dswifi.DlPlay
