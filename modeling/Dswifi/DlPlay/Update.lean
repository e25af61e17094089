import Dswifi.DlPlay.Station

/-! One pass of the host (Wifi_DlPlayUpdate), the calls of the application, and
the runs they make together with the replies of the clients and the ARM7's
changes to the table of clients. A call or a pass is one step: replies are
handled between passes. -/

namespace Dswifi.DlPlay

open ByteMemory MpHost KickRequests

/-! The messages. -/

def shortPayload (opcode : UInt8) : List UInt8 := opcode :: List.replicate (cmdSizeShort - 1) 0

def sendStart (pass : Pass) (world : World) (dest : Mask) : World :=
  (cmdStartSend pass world flagsNormal (shortPayload cmdOpSendstart) dest).1

def sendDummy (pass : Pass) (world : World) : World :=
  (cmdStartSend pass world flagsNormal (shortPayload 0) 0xFFFF).1

def headerField (rom : Rom) (offset : Nat) : List UInt8 := readBytes rom.rom offset 4

def gap : List UInt8 := List.replicate 4 0

def rsaBytes (rom : Rom) : List UInt8 :=
  match rom.rsa with
  | some offset => readBytes rom.rom offset ndsRsaSize
  | none => List.replicate ndsRsaSize 0

def userParamBytes (userParam : Option (List UInt8)) : List UInt8 :=
  (List.range userParamSize).map (byteAt (userParam.getD []))

/-- Where to load the program, from 01h on. -/
def fileInfo (host : Host) : List UInt8 :=
  headerField host.rom ndsHdrArm9Entry ++ headerField host.rom ndsHdrArm7Entry ++
    gap ++ u32Bytes headerDest ++ u32Bytes headerDest ++ u32Bytes ndsHdrSize ++
    gap ++ headerField host.rom ndsHdrArm9RamAddress ++ headerField host.rom ndsHdrArm9RamAddress ++
    headerField host.rom ndsHdrArm9Size ++
    gap ++ u32Bytes arm7StagingDest ++ headerField host.rom ndsHdrArm7RamAddress ++
    headerField host.rom ndsHdrArm7Size ++
    u32Bytes 1 ++ rsaBytes host.rom ++ userParamBytes host.userParam ++
    [UInt8.ofNat host.packnum] ++ gap

def countPacket (world : World) : World :=
  { world with host := { world.host with packnum := (world.host.packnum + 1) % 256 } }

def sendFileInfo (pass : Pass) (world : World) (dest : Mask) : World :=
  match cmdStart world flagsNormal (cmdOpDlFileinfo :: fileInfo world.host) dest with
  | none => world
  | some frame => (cmdSend pass (countPacket world) frame).1

def blockPayload (host : Host) (block : Nat) (fileId : UInt8) (data : List UInt8) : List UInt8 :=
  cmdOpData :: fileId :: 0 :: (u16Bytes block ++ data ++ [UInt8.ofNat host.packnum])

def sendBlock (pass : Pass) (world : World) (block : Nat) (dest : Mask) (fileId : UInt8) :
    World × Bool :=
  match romGetBlock world.host.rom block with
  | none => (sendDummy pass world, false)
  | some (data, size) =>
    let content := readBytes world.host.rom.rom data size
    match cmdStart world flagsNormal (blockPayload world.host block fileId content) dest with
    | none => (world, false)
    | some frame => cmdSend pass (countPacket world) frame

def sendBootReq (pass : Pass) (world : World) (dest : Mask) : World :=
  (cmdStartSend pass world flagsNormal (shortPayload cmdOpBootreq) dest).1

def sendApp (pass : Pass) (world : World) (dest : Mask) : World :=
  let (world, queued) := cmdStartSend pass world flagsNormal (cmdOpApp :: world.host.appOut) dest
  if queued then { world with host := { world.host with appOutPending := false } } else world

def sendSessionEnd (pass : Pass) (world : World) : World := (cmdStartSend pass world 0 [] 0).1

/-! The block stream. -/

/-- What the clients taking the program ask for: the highest block, and the
distinct blocks there is room for. -/
def askedFor (host : Host) (asked : Nat × List Nat) (aid : Nat) : Nat × List Nat :=
  let (next, wanted) := asked
  let client := host.clients aid
  if client.stage ≠ .sendProceed then asked else
    let next := if client.nextBlock > next then client.nextBlock else next
    if client.nextBlock ≥ host.rom.totalBlocks then (next, wanted)
    else if client.nextBlock ∉ wanted ∧ wanted.length < host.perUpdate then
      (next, wanted ++ [client.nextBlock])
    else (next, wanted)

def sendWanted (pass : Pass) (dest : Mask) (fileId : UInt8) :
    List Nat → Nat → World → World × Nat
  | [], sent, world => (world, sent)
  | block :: rest, sent, world =>
    let (world, queued) := sendBlock pass world block dest fileId
    if !queued then (world, sent) else sendWanted pass dest fileId rest (sent + 1) world

def World.advance (world : World) : World :=
  { world with host := { world.host with block := world.host.block + 1 } }

/-- The loop that fills what the requests left of the pass. -/
def sendStream (pass : Pass) (dest : Mask) (fileId : UInt8) (next : Nat) (wanted : List Nat) :
    Nat → Nat → World → World × Nat
  | 0, sent, world => (world, sent)
  | count + 1, sent, world =>
    if world.host.block > next + world.host.ahead then (world, sent)
    else if world.host.block ≥ world.host.rom.totalBlocks then (world, sent)
    else if world.host.block ∈ wanted then
      sendStream pass dest fileId next wanted count sent world.advance
    else
      let (world, queued) := sendBlock pass world world.host.block dest fileId
      if !queued then (world, sent)
      else sendStream pass dest fileId next wanted count (sent + 1) world.advance

/-- The cursor of the stream and the requests as the sender leaves them before
it sends. -/
def turnStream (host : Host) (next : Nat) : Host :=
  { host with
    rotate := (host.rotate + 1) % 256
    blockRequested := false
    nextBlock := next
    block :=
      if host.blockRequested ∧ (host.block < next ∨ host.block > next + host.ahead) then next
      else host.block }

def sendNextBlock (pass : Pass) (world : World) (dest : Mask) (fileId : UInt8) : World :=
  let rotate := (world.host.rotate + 1) % 256
  let (next, wanted) :=
    ((List.range maxMultiplayerClients).map fun i => 1 + (rotate + i) % maxMultiplayerClients).foldl
      (askedFor world.host) (0, [])
  let world := { world with host := turnStream world.host next }
  let (world, sent) := sendWanted pass dest fileId wanted 0 world
  let (world, sent) :=
    sendStream pass dest fileId next wanted (world.host.perUpdate - sent) sent world
  if sent = 0 then sendDummy pass world else world

/-! Every client's own timer, and the group it joins. -/

inductive Group where
  | boot
  | start
  | fileInfo
  | send
  | sessionEnd
  | station
  | app
  deriving DecidableEq, Repr

inductive Outcome where
  | nothing
  | giveUp (reason : GaveUpReason)
  | join (group : Group)
  deriving DecidableEq, Repr

def countBoot (client : Client) : Client :=
  { client with
    bootAccepted := if client.bootAccepted > 0 then client.bootAccepted + 1 else client.bootAccepted }

/-- The switch over the stages in Wifi_DlPlaySendForState. -/
def stagePass (gather : Bool) (client : Client) : Client × Outcome :=
  match client.stage with
  | .bootRequest =>
    if client.bootAccepted > 0 ∧ client.bootAccepted > bootExtraFrames ∨
        client.waitCount > bootFrames then
      (setClientStage client .sessionEnd, .join .sessionEnd)
    else (countBoot client, .join .boot)
  | .sessionEnd =>
    if client.waitCount ≤ sessionEndFrames then (client, .join .sessionEnd) else (client, .nothing)
  | .connected =>
    if client.waitCount > requestFrames then (setClientStage client .reqAccepted, .join .fileInfo)
    else (client, .join .start)
  | .reqAccepted =>
    if client.waitCount > fileInfoFrames then (setClientStage client .waitToSend, .nothing)
    else (client, .join .fileInfo)
  | .waitToSend =>
    if !gather ∧ client.waitCount > startSendFrames then
      (setClientStage client .sendProceed, .join .send)
    else (client, .nothing)
  | .sendProceed => (client, .join .send)
  | .station => (client, .join .station)
  | .app => (client, .join .app)
  | .none | .sendComplete => (client, .nothing)

def countPass (client : Client) : Client :=
  { client with waitCount := client.waitCount + 1, idleCount := client.idleCount + 1 }

/-- One client's turn in the loop of Wifi_DlPlaySendForState. -/
def clientPass (bootMode : BootMode) (gather : Bool) (client : Client) : Client × Outcome :=
  if client.stage = .none then (client, .nothing) else
    let client := countPass client
    if client.idleCount > silentFrames then (client, .giveUp .silent) else
      let holdingForBoot := bootMode = .manual ∧ client.stage = .sendComplete
      if ¬ holdingForBoot ∧ client.stage = .sendComplete ∧ client.waitCount > completeFrames ∨
          client.stage = .station ∧ client.waitCount > stationIdleFrames ∨
          client.stage = .app ∧ client.waitCount > appIdleFrames then
        (client, .giveUp .stalled)
      else stagePass gather client

/-- The bitmaps of Wifi_DlPlaySendForState, one for each group. -/
abbrev Bitmaps := Group → Mask

structure Gathering where
  world : World
  bmp : Bitmaps := fun _ => 0
  sendFileId : UInt8 := 0

def visit (gathering : Gathering) (aid : Nat) : Gathering :=
  let host := gathering.world.host
  let (client, outcome) := clientPass host.bootMode host.gather (host.clients aid)
  let world := gathering.world.setClient aid client
  match outcome with
  | .nothing => { gathering with world }
  | .giveUp reason => { gathering with world := giveUpOnClient world aid reason }
  | .join group =>
    { world
      bmp := Function.update gathering.bmp group (gathering.bmp group ||| bit 16 aid)
      sendFileId := if group = .send then client.request.fileId else gathering.sendFileId }

def gatherClients (world : World) : Gathering := aids.foldl visit { world }

/-! The frame of the pass. -/

def kickMember (bmp : Mask) (world : World) (aid : Nat) : World :=
  if bmp.getLsbD aid then { world with mp := multiplayerKickClientByAID world.mp aid } else world

def bulkSlots : Nat := maxMultiplayerClients + 2
def bulkBlocks : Nat := 0
def bulkApp : Nat := maxMultiplayerClients + 1

def World.takeTurn (world : World) (slot : Nat) : World :=
  { world with host := { world.host with bulkTurn := slot } }

/-- The rotation over the block stream, the station clients and the message of
the application. -/
def sendBulk (pass : Pass) (bmp : Bitmaps) (sendFileId : UInt8) : List Nat → World → World
  | [], world => sendDummy pass world
  | slot :: rest, world =>
    if slot = bulkBlocks then
      if bmp .send = 0 then sendBulk pass bmp sendFileId rest world
      else sendNextBlock pass (world.takeTurn slot) (bmp .send) sendFileId
    else if slot = bulkApp then
      if bmp .app = 0 ∨ !world.host.appOutPending then sendBulk pass bmp sendFileId rest world
      else sendApp pass (world.takeTurn slot) (bmp .app)
    else if (bmp .station).getLsbD slot then
      let (world, served) := stationServe pass world slot
      if served then world.takeTurn slot else sendBulk pass bmp sendFileId rest world
    else sendBulk pass bmp sendFileId rest world

def bulkOrder (turn : Nat) : List Nat :=
  (List.range bulkSlots).map fun i => (turn + 1 + i) % bulkSlots

/-- One message goes out, in this order of priority. -/
def sendGroups (pass : Pass) (gathering : Gathering) : World :=
  let { world, bmp, sendFileId } := gathering
  if bmp .sessionEnd ≠ 0 then
    sendSessionEnd pass (aids.foldl (kickMember (bmp .sessionEnd)) world)
  else if bmp .boot ≠ 0 then sendBootReq pass world (bmp .boot)
  else if bmp .start ≠ 0 then sendStart pass world (bmp .start)
  else if bmp .fileInfo ≠ 0 then sendFileInfo pass world (bmp .fileInfo)
  else sendBulk pass bmp sendFileId (bulkOrder world.host.bulkTurn) world

def sendForState (pass : Pass) (world : World) : World := sendGroups pass (gatherClients world)

/-! The pass. -/

/-- The first passes wait for the ARM7 and start the beacon. Only one whose beacon
is started goes on. -/
def beaconRunning (ready beaconOk : Bool) (host : Host) : Bool :=
  host.active && (host.beaconStarted || ready && beaconOk)

def startBeacon (ready beaconOk : Bool) (world : World) : World :=
  if !world.host.active ∨ world.host.beaconStarted then world else
    if !ready then world else
      if !beaconOk then { world with host := { world.host with active := false } }
      else { world with host := { world.host with beaconStarted := true } }

def associatedMask (mp : Shared) : Mask := multiplayerGetClientMask mp &&& ~~~ 1#16

structure Scan where
  world : World
  left : Bool := false

/-- Arrivals and departures since the last pass. -/
def notice (associated : Mask) (scan : Scan) (aid : Nat) : Scan :=
  let client := scan.world.host.clients aid
  let here := associated.getLsbD aid
  if here ∧ client.stage = .none then
    { scan with world := scan.world.setClient aid (setClientStage client .connected) }
  else if !here ∧ client.stage ≠ .none then
    { world := resetOneClient scan.world aid, left := true }
  else scan

def addPlayer (host : Host) (mask : Mask) (aid : Nat) : Mask :=
  if (host.clients aid).request.valid then mask ||| bit 16 aid else mask

def players (host : Host) : Mask := aids.foldl (addPlayer host) 0

def members (host : Host) : List (Nat × Member) :=
  aids.filterMap fun aid =>
    let request := (host.clients aid).request
    if request.valid then
      some (aid, { favoriteColor := request.favoriteColor, nameLen := request.nameLen
                   name := request.name })
    else none

def resetClient (world : World) : World :=
  let world := aids.foldl resetOneClient world
  { world with
    host := { world.host with block := 0, nextBlock := 0, blockRequested := false, bulkTurn := 0 } }

def applyRoomState (world : World) : World :=
  let opened := !world.host.roomLocked && !world.host.roomFull
  let attr := if opened then beaconTypeSending else beaconTypeSending &&& ~~~ attrAcceptingEntries
  let world := world.note (.beaconPatchType attr)
  { world with mp := multiplayerAllowNewClients world.mp opened }

def World.setRoomFull (world : World) (roomFull : Bool) : World :=
  { world with host := { world.host with roomFull } }

def noticeAll (world : World) : Scan :=
  aids.foldl (notice (associatedMask world.mp)) { world }

def tellPlayers (world : World) : World :=
  world.note (.beaconSetPlayers (players world.host) (members world.host))

/-- A pass of a host whose beacon is started. -/
def servePass (pass : Pass) (world : World) : World :=
  let associated := associatedMask world.mp
  let { world, left } := noticeAll world
  let world := tellPlayers world
  if associated = 0 then
    let world := if left then (resetClient world).note (.beaconPatchType beaconTypeIdle) else world
    applyRoomState (world.setRoomFull false)
  else
    let roomFull := decide (multiplayerGetNumClients world.mp ≥ world.host.maxClients)
    sendForState pass (applyRoomState (world.setRoomFull roomFull))

def update (ready beaconOk : Bool) (pass : Pass) (world : World) : World :=
  if beaconRunning ready beaconOk world.host then servePass pass (startBeacon ready beaconOk world)
  else startBeacon ready beaconOk world

/-! The calls of the application. -/

def setBootMode (world : World) (bootMode : BootMode) : World :=
  { world with host := { world.host with bootMode } }

def setGather (world : World) (gather : Bool) : World :=
  { world with host := { world.host with gather } }

def setPace (world : World) (perUpdate ahead : Int) : World :=
  let perUpdate := min (max perUpdate 1) blocksPerUpdateMax
  let ahead := min (max ahead (perUpdate + 2)) sendThresholdMax
  { world with host := { world.host with perUpdate := perUpdate.toNat, ahead := ahead.toNat } }

def bootClient (world : World) (aid : Int) : World × Bool :=
  let world := world.note (.bootClient aid)
  if !aidValid aid then (world, false) else
    let client := world.host.clients aid.toNat
    if client.stage ≠ .sendComplete then (world, false) else
      (world.setClient aid.toNat (setClientStage { client with bootRequested := true } .bootRequest),
        true)

def bootNext (world : World) (aid : Nat) : World := (bootClient world aid).1

def bootAll (world : World) : World := aids.foldl bootNext world

def lockRoom (world : World) (locked : Bool) : World :=
  let world := { world with host := { world.host with roomLocked := locked } }
  if world.host.active then applyRoomState world else world

def appSend (world : World) (data : List UInt8) : World :=
  if data.length = 0 ∨ data.length > appMaxSize then world else
    if world.host.appOutPending then world else
      { world with host := { world.host with appOut := data, appOutPending := true } }

def setAppHandler (world : World) (appHandler : Bool) : World :=
  { world with host := { world.host with appHandler } }

inductive Event where
  | update (ready beaconOk : Bool) (pass : Pass)
  | mpHost (operation : Operation)
  | packet (type : PacketType) (macaddr : Mac) (portByte : UInt8) (reply : List UInt8)
  | setBootMode (mode : BootMode)
  | setGather (gather : Bool)
  | setPace (perUpdate ahead : Int)
  | bootClient (aid : Int)
  | bootAll
  | lockRoom (locked : Bool)
  | appSend (data : List UInt8)
  | setAppHandler (set : Bool)

/-- Replies are taken between passes, as they are where lwIP runs the handler. Without
lwIP it runs in the FIFO interrupt, which can come in the middle of a pass; such runs
are not among these. -/
def step (world : World) : Event → World
  | .update ready beaconOk pass => update ready beaconOk pass world
  | .mpHost operation => { world with mp := MpHost.step world.mp operation }
  | .packet type macaddr portByte reply => handlePacketFromClient type macaddr portByte reply world
  | .setBootMode mode => setBootMode world mode
  | .setGather gather => setGather world gather
  | .setPace perUpdate ahead => setPace world perUpdate ahead
  | .bootClient aid => (bootClient world aid).1
  | .bootAll => bootAll world
  | .lockRoom locked => lockRoom world locked
  | .appSend data => appSend world data
  | .setAppHandler set => setAppHandler world set

/-! Starting. -/

/-- Wifi_DlPlayPickFrameSize: the number of clients and the size of a block. An
application that gives no information has no number of players either. -/
def pickFrameSize (maxPlayers : Nat) (smallFrame : Bool) : Nat × Nat :=
  let maxPlayers := if maxPlayers < 2 ∨ maxPlayers > 16 then 2 else maxPlayers
  let maxClients := maxPlayers - 1
  if smallFrame ∨ maxClients > largeRoomClients then (maxClients, cmdDataSizeSmall - blockOverhead)
  else (maxClients, cmdDataSize - blockOverhead)

/-- The arguments of a Wifi_DlPlayStart that succeeds. -/
structure Hosting where
  maxPlayers : Nat
  smallFrame : Bool
  userParam : Option (List UInt8)
  image : Memory
  imageSize : Nat
  rom : Rom
  parsed : romParse (pickFrameSize maxPlayers smallFrame).2 image imageSize = some rom

/-- The host after Wifi_DlPlayStart, once the ARM7 has entered access point mode. -/
def start (hosting : Hosting) : World :=
  let maxClients := (pickFrameSize hosting.maxPlayers hosting.smallFrame).1
  { mp := accessPointStart maxClients true
    diag := { gaveUp := fun _ => 0, gaveUpLastAid := 0 }
    host := { active := true, rom := hosting.rom, userParam := hosting.userParam, maxClients }
    log := [] }

end Dswifi.DlPlay
