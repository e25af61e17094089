import Dswifi.DlPlay.Frames

/-! Who acts on a frame: the clients that the list at its end names. -/

namespace Dswifi.DlPlay

open Runs MpHost

/-! The bytes of a message. -/

def commandOpcode : Command → UInt8
  | .start => cmdOpSendstart
  | .dummy | .sessionEnd => 0
  | .fileInfo => cmdOpDlFileinfo
  | .block _ _ => cmdOpData
  | .bootReq => cmdOpBootreq
  | .app => cmdOpApp

theorem commandPayload_opcode {host : Host} {command : Command} {payload : List UInt8}
    (written : commandPayload host command = some payload) (normal : command ≠ .sessionEnd) :
    ∃ rest, payload = commandOpcode command :: rest := by
  cases command with
  | sessionEnd => exact absurd rfl normal
  | block block fileId =>
      simp only [commandPayload, Option.map_eq_some_iff] at written
      obtain ⟨_, _, rfl⟩ := written
      exact ⟨_, rfl⟩
  | _ =>
      obtain rfl := Option.some.inj written
      exact ⟨_, rfl⟩

/-- The header, the opcode and the list of clients of a frame of the multiboot port. -/
theorem command_bytes {world : World} {command : Command} {dest : Mask} {frame : List UInt8}
    (laid : messageFrame world (.command command dest) = some frame)
    (normal : command ≠ .sessionEnd) :
    byteAt frame 1 = flagsNormal ∧ byteAt frame 2 = commandOpcode command ∧
      footer frame = dest &&& associatedMask world.mp := by
  simp only [messageFrame, Option.bind_eq_some_iff] at laid
  obtain ⟨payload, written, laid⟩ := laid
  obtain ⟨rest, rfl⟩ := commandPayload_opcode written normal
  have header : commandHeader command = flagsNormal := by
    cases command with
    | sessionEnd => exact absurd rfl normal
    | _ => rfl
  have bytes := frameOf_cmdStart laid true
  rw [header] at bytes laid
  refine ⟨bytes.1, bytes.2, ?_⟩
  have listed : flagsNormal &&& flagsHasFooter ≠ 0 := by decide
  simp only [cmdStart, if_pos listed, Option.ite_none_left_eq_some, Option.some.injEq] at laid
  obtain ⟨_, rfl⟩ := laid
  rw [footer_append, associatedMask, BitVec.and_assoc]

theorem sessionEnd_bytes {world : World} {dest : Mask} {frame : List UInt8}
    (laid : messageFrame world (.command .sessionEnd dest) = some frame) : byteAt frame 1 = 0 := by
  have same : messageFrame world (.command .sessionEnd dest) = some [0, 0] := by
    simp [messageFrame, commandPayload, commandHeader, cmdStart, flagsHasFooter, cmdFrameSize]
  obtain rfl := Option.some.inj (same.symm.trans laid)
  rfl

theorem station_bytes {world : World} {aid : Nat} {message : StationMessage} {frame : List UInt8}
    (laid : messageFrame world (.station aid message) = some frame) :
    byteAt frame 1 = stationHeader (stationPort (world.host.clients aid).station message) ∧
      stationPort (world.host.clients aid).station message ≤ portStationFile ∧
      footer frame = bit 16 aid &&& associatedMask world.mp := by
  simp only [messageFrame, Option.map_eq_some_iff] at laid
  obtain ⟨started, begun, rfl⟩ := laid
  have layout := (stationFrame_started (stationPayload (world.host.clients aid).station message)
    begun).2
  have port : stationPort (world.host.clients aid).station message ≤ portStationFile := by
    simp only [stationCmdStart, Option.ite_none_left_eq_some, not_or] at begun
    exact Nat.le_of_not_lt begun.1.1
  rw [layout]
  refine ⟨rfl, port, ?_⟩
  rw [← List.append_assoc, clientList, footer_append]

/-- A station frame is none of the multiboot port. -/
theorem stationHeader_normal {port : Nat} (low : portStationName ≤ port)
    (high : port ≤ portStationFile) : stationHeader port ≠ flagsNormal := by
  have ports : port = 13 ∨ port = 14 ∨ port = 15 := by
    simp only [portStationName, portStationFile] at low high
    omega
  rcases ports with rfl | rfl | rfl <;> decide

/-! The groups. -/

/-- The stage that a group of the multiboot port is for. -/
def groupStage : Group → Option Stage
  | .start => some .connected
  | .fileInfo => some .reqAccepted
  | .send => some .sendProceed
  | .boot => some .bootRequest
  | .app => some .app
  | .sessionEnd | .station => none

/-- Where a client goes that is in this stage after the switch. -/
def stageOutcome : Stage → Outcome
  | .connected => .join .start
  | .reqAccepted => .join .fileInfo
  | .sendProceed => .join .send
  | .bootRequest => .join .boot
  | .app => .join .app
  | .station => .join .station
  | .sessionEnd => .join .sessionEnd
  | .none | .waitToSend | .sendComplete => .nothing

theorem stageOutcome_joins {group : Group} {stage : Stage} (served : groupStage group = some stage)
    (other : Stage) : stageOutcome other = .join group ↔ other = stage := by
  cases group with
  | sessionEnd | station => cases served
  | _ =>
      obtain rfl := Option.some.inj served
      cases other <;> simp [stageOutcome]

/-- The stage after the switch decides the group, but for a client whose session
ended a while ago. -/
theorem stagePass_outcome (gather : Bool) (client : Client) :
    (stagePass gather client).2 = stageOutcome (stagePass gather client).1.stage ∨
      (stagePass gather client).1.stage = .sessionEnd ∧ (stagePass gather client).2 = .nothing := by
  cases stage : client.stage with
  | bootRequest =>
      simp only [stagePass, stage]
      split
      · exact .inl rfl
      · exact .inl (by simp [countBoot, stage, stageOutcome])
  | sessionEnd =>
      simp only [stagePass, stage]
      split
      · exact .inl (by simp [stage, stageOutcome])
      · exact .inr ⟨stage, rfl⟩
  | connected | reqAccepted | waitToSend =>
      simp only [stagePass, stage]
      split
      · exact .inl rfl
      · exact .inl (by simp [stage, stageOutcome])
  | none | sendProceed | sendComplete | station | app =>
      exact .inl (by simp [stagePass, stage, stageOutcome])

/-- Of the clients that a pass does not give up on, those in the stage of a group
after their turn have joined it, and no others. -/
theorem clientPass_joins (bootMode : BootMode) (gather : Bool) (client : Client) {group : Group}
    {stage : Stage} (served : groupStage group = some stage) :
    (clientPass bootMode gather client).2 = .join group ↔
      (clientPass bootMode gather client).1.stage = stage ∧
        ∀ reason, (clientPass bootMode gather client).2 ≠ .giveUp reason := by
  have joins := stageOutcome_joins served
  unfold clientPass
  split
  · rename_i idle
    have ne := (joins .none).not.mp nofun
    exact iff_of_false nofun fun stays => ne (idle.symm.trans stays.1)
  · dsimp only
    split
    · -- a client that is given up on keeps its stage and joins nothing
      exact iff_of_false nofun fun stays => stays.2 _ rfl
    · split
      · exact iff_of_false nofun fun stays => stays.2 _ rfl
      · rcases stagePass_outcome gather (countPass client) with told | ⟨ended, silent⟩
        · rw [told, joins]
          refine ⟨fun same => ⟨same, fun reason gaveUp => ?_⟩, And.left⟩
          revert gaveUp
          generalize (stagePass gather (countPass client)).1.stage = after
          cases after <;> exact nofun
        · rw [silent]
          refine iff_of_false nofun fun stays => ?_
          rw [← ended.symm.trans stays.1] at served
          cases group <;> cases served

/-! The list of clients. -/

/-- The stage whose clients act on a frame of the multiboot port with this opcode. -/
def actingStage (opcode : UInt8) : Option Stage :=
  if opcode = cmdOpSendstart then some .connected
  else if opcode = cmdOpDlFileinfo then some .reqAccepted
  else if opcode = cmdOpData then some .sendProceed
  else if opcode = cmdOpBootreq then some .bootRequest
  else if opcode = cmdOpApp then some .app
  else none

def HasClientList (bytes : List UInt8) : Prop := byteAt bytes 1 &&& flagsHasFooter ≠ 0

/-- An associated console; bit 0 stands for the host. -/
def Associated (world : World) (aid : Nat) : Prop :=
  aid ≠ 0 ∧ (multiplayerGetClientMask world.mp).getLsbD aid = true

/-- The frame of a pass that starts from `world` names the clients it is for. -/
structure Addressed (world : World) (bytes : List UInt8) : Prop where
  associated : HasClientList bytes → ∀ aid, (footer bytes).getLsbD aid = true → Associated world aid
  exact : ∀ stage, byteAt bytes 1 = flagsNormal → actingStage (byteAt bytes 2) = some stage →
    ∀ aid, (footer bytes).getLsbD aid = true ↔ Associated world aid ∧
      (clientTurn world aid).1.stage = stage ∧ ∀ reason, (clientTurn world aid).2 ≠ .giveUp reason

theorem associated_iff (world : World) (aid : Nat) :
    (associatedMask world.mp).getLsbD aid = true ↔ Associated world aid := by
  have bits : (associatedMask world.mp).getLsbD aid = true ↔
      (multiplayerGetClientMask world.mp).getLsbD aid = true ∧ aid < 16 ∧ aid ≠ 0 := by
    rw [associatedMask, BitVec.getLsbD_and, Bool.and_eq_true, BitVec.getLsbD_not, Bool.and_eq_true]
    simp [BitVec.getLsbD_one]
  rw [bits]
  refine ⟨fun set => ⟨set.2.2, set.1⟩, fun set => ⟨set.2, ?_, set.1⟩⟩
  exact BitVec.lt_of_getLsbD set.2

theorem associated_aids {world : World} {aid : Nat} (here : Associated world aid) : aid ∈ aids := by
  have below := BitVec.lt_of_getLsbD here.2
  have above := here.1
  rw [mem_aids, maxMultiplayerClients]
  omega

def commandGroup : Command → Option Group
  | .start => some .start
  | .fileInfo => some .fileInfo
  | .block _ _ => some .send
  | .bootReq => some .boot
  | .app => some .app
  | .dummy | .sessionEnd => none

theorem actingStage_command (command : Command) :
    actingStage (commandOpcode command) = (commandGroup command).bind groupStage := by
  cases command <;> rfl

theorem groupMessage_dest {gathering : Gathering} {built : World} {command : Command} {dest : Mask}
    {group : Group} (voiced : GroupMessage gathering built (.command command dest))
    (acting : commandGroup command = some group) : dest = gathering.bmp group := by
  cases command with
  | dummy | sessionEnd => cases acting
  | block block fileId =>
      obtain rfl := Option.some.inj acting
      exact voiced.1
  | _ =>
      obtain rfl := Option.some.inj acting
      exact voiced

theorem clientTurn_joins (world : World) (aid : Nat) {group : Group} {stage : Stage}
    (served : groupStage group = some stage) :
    (clientTurn world aid).2 = .join group ↔ (clientTurn world aid).1.stage = stage ∧
      ∀ reason, (clientTurn world aid).2 ≠ .giveUp reason :=
  clientPass_joins world.host.bootMode world.host.gather _ served

theorem command_addressed {world built : World} {gathering : Gathering} {command : Command}
    {dest : Mask} {bytes : List UInt8} (groups : GroupsOf world gathering)
    (mask : associatedMask built.mp = associatedMask world.mp)
    (voiced : GroupMessage gathering built (.command command dest))
    (laid : messageFrame built (.command command dest) = some bytes) : Addressed world bytes := by
  by_cases ends : command = .sessionEnd
  · subst command
    have header := sessionEnd_bytes laid
    refine ⟨fun listed => absurd ?_ listed, fun stage normal => ?_⟩
    · rw [header]
      decide
    · exact absurd (header.symm.trans normal) (by decide)
  · obtain ⟨header, opcode, list⟩ := command_bytes laid ends
    rw [mask] at list
    have bits : ∀ aid, (footer bytes).getLsbD aid = true ↔
        dest.getLsbD aid = true ∧ Associated world aid := by
      intro aid
      rw [list, BitVec.getLsbD_and, Bool.and_eq_true, associated_iff]
    refine ⟨fun _ aid set => ((bits aid).mp set).2, fun stage _ acting aid => ?_⟩
    rw [opcode, actingStage_command, Option.bind_eq_some_iff] at acting
    obtain ⟨group, acting, served⟩ := acting
    rw [bits, groupMessage_dest voiced acting, groups.bmp, clientTurn_joins world aid served]
    exact ⟨fun joined => ⟨joined.2, joined.1.2⟩, fun acts => ⟨⟨associated_aids acts.1, acts.2⟩, acts.1⟩⟩

theorem station_addressed {world built : World} {gathering : Gathering} {served : Nat}
    {message : StationMessage} {bytes : List UInt8}
    (mask : associatedMask built.mp = associatedMask world.mp)
    (voiced : GroupMessage gathering built (.station served message))
    (laid : messageFrame built (.station served message) = some bytes) : Addressed world bytes := by
  obtain ⟨header, high, list⟩ := station_bytes laid
  rw [mask] at list
  refine ⟨fun _ aid set => ?_, fun stage normal => ?_⟩
  · rw [list, BitVec.getLsbD_and, Bool.and_eq_true, associated_iff] at set
    exact set.2
  · exact absurd (header.symm.trans normal) (stationHeader_normal voiced.2 high)

/-- Every frame of every pass names only associated consoles; and one that clients
in a stage act on names exactly those in it. -/
theorem frames_addressed (hosting : Hosting) (events : List Event) :
    EachStep step (fun world event => ∀ bytes queued, Hands world event bytes queued →
      Addressed world bytes) (start hosting) events := by
  have kept : ∀ world event, HostInv world → HostInv (step world event) :=
    fun _ event valid => valid.step event
  refine each_step_of_invariant kept ?_ _ _ (.start hosting)
  intro world event valid bytes queued handed
  obtain ⟨_, _, _, rfl, _, _, gathering, groups, built, message, mask, voiced, laid⟩ :=
    step_frame valid handed
  cases message with
  | command command dest => exact command_addressed groups mask voiced laid
  | station aid message => exact station_addressed mask voiced laid

end Dswifi.DlPlay
