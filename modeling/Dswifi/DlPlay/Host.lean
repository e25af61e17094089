import Dswifi.KickRequests
import Dswifi.DlPlay.Rom

/-! The state of a Download Play host (arm9/ntr/dlplay/protocol.c) and the frames
it hands to the multiplayer layer. The counters of Wifi_DlPlayDiag and the
summary in dlplay_state are left out: nothing the host does reads them. What
leaves the host, and the calls a statement about its runs speaks of, go to
`log`. -/

namespace Dswifi.DlPlay

open ByteMemory MpHost KickRequests

/-- The bits of an ARM9 int that stand for an association id. -/
abbrev Mask := BitVec 16

def requestFrames : Nat := 90
def fileInfoFrames : Nat := 90
def startSendFrames : Nat := 60
def bootExtraFrames : Nat := 3
def bootFrames : Nat := 60
def sessionEndFrames : Nat := 20
def silentFrames : Nat := 600
def completeFrames : Nat := 180
def stationIdleFrames : Nat := 600
def appIdleFrames : Nat := 600

def hostNameLen : Nat := 10
def userParamSize : Nat := 0x20
def appMaxSize : Nat := 64
def cmdDataSize : Nat := 0x01FE
def cmdDataSizeSmall : Nat := 0x0100
def blockOverhead : Nat := 6
def cmdFrameSize : Nat := cmdDataSize + 4
def largeRoomClients : Nat := 11
def blocksPerUpdate : Nat := 4
def sendThreshold : Nat := blocksPerUpdate + 2
def blocksPerUpdateMax : Nat := 8
def sendThresholdMax : Nat := 256

def flagsHasFooter : UInt8 := 0x10
def flagsNormal : UInt8 := 0x11
def cmdSizeShort : Nat := 6

def portBoot : UInt8 := 1
def portStationName : Nat := 13
def portStationMenu : Nat := 14
def portStationFile : Nat := 15

def cmdOpSendstart : UInt8 := 0x01
def cmdOpDlFileinfo : UInt8 := 0x03
def cmdOpData : UInt8 := 0x04
def cmdOpBootreq : UInt8 := 0x05
def cmdOpApp : UInt8 := 0x40

def headerDest : Nat := 0x027FFE00
def arm7StagingDest : Nat := 0x022C0000

def stationNameSize : Nat := 8
def stationRequestSize : Nat := stationNameSize + 2
def stationIndexEnd : Nat := 0xFFFF
def stationStreamMin : Nat := 1
def stationStreamMax : Nat := 2
def stationSendDelay : Nat := 2
def stationPerUpdate : Nat := 1
def stationChunkPort14 : Nat := 0x1E
def stationChunkPort15 : Nat := 0x7E

def reqPieceSize : Nat := 6
def reqPieceCount : Nat := 5
def reqAllPieces : BitVec 8 := 0x1F

def beaconTypeSending : UInt8 := 0x0B
def beaconTypeIdle : UInt8 := 0x0B
def attrAcceptingEntries : UInt8 := 1

/-- Wifi_DlPlayPState -/
inductive Stage where
  | none
  | connected
  | reqAccepted
  | waitToSend
  | sendProceed
  | sendComplete
  | bootRequest
  | sessionEnd
  | station
  | app
  deriving DecidableEq, Repr

inductive BootMode where
  | automatic
  | manual
  deriving DecidableEq, Repr

/-- Wifi_DlPlaySState -/
inductive StationState where
  | idle
  | sendDelay
  | data
  | done
  deriving DecidableEq, Repr

/-- Wifi_DlPlayStationClient. `index` and the entries of `seq` are u16. -/
structure StationClient where
  state : StationState := .idle
  pending : Bool := false
  pendingName : List UInt8 := []
  pendingStream : Nat := 0
  handle : UInt32 := 0
  size : Nat := 0
  port : Nat := 0
  stream : Nat := 0
  chunk : Nat := 0
  index : Nat := 0
  ended : Bool := false
  wait : Nat := 0
  seq : Nat → Nat := fun _ => 0

/-- Wifi_DlPlayClientRequest. A name is ten u16. -/
structure ClientRequest where
  valid : Bool := false
  isStation : Bool := false
  gameId : Nat := 0
  favoriteColor : UInt8 := 0
  playerNo : UInt8 := 0
  nameLen : Nat := 0
  name : List Nat := []
  version : Nat := 0
  fileId : UInt8 := 0
  blocksReceived : Nat := 0
  deriving DecidableEq, Repr

/-- Wifi_DlPlayClient, the record of one association id. The values left by
memset are the defaults. -/
structure Client where
  stage : Stage := .none
  waitCount : Nat := 0
  idleCount : Nat := 0
  reqBuffer : Memory := fun _ => 0
  reqMask : BitVec 8 := 0
  request : ClientRequest := {}
  nameAscii : List UInt8 := []
  nextBlock : Nat := 0
  bootAccepted : Nat := 0
  bootRequested : Bool := false
  station : StationClient := {}

/-- What Wifi_DlPlayBeaconSetPlayers is told about a player. -/
structure Member where
  favoriteColor : UInt8
  nameLen : Nat
  name : List Nat
  deriving DecidableEq, Repr

inductive Note where
  /-- A frame handed to Wifi_MultiplayerHostCmdTxFrame, and whether it took it. -/
  | frame (bytes : List UInt8) (queued : Bool)
  | giveUpOnClient (aid : Nat) (reason : GaveUpReason)
  | resetOneClient (aid : Nat)
  | bootClient (aid : Int)
  | beaconSetPlayers (players : Mask) (members : List (Nat × Member))
  | beaconPatchType (beaconType : UInt8)
  | stationAccepted (aid port size : Nat) (handle : UInt32)
  | stationServe (aid : Nat)
  | stationChunk (aid index length : Nat)
  | appMessage (aid : Nat) (message : List UInt8)
  deriving DecidableEq, Repr

/-- The statics of protocol.c. `packnum` and `rotate` are u8. -/
structure Host where
  active : Bool
  beaconStarted : Bool := false
  clients : Nat → Client := fun _ => {}
  block : Nat := 0
  nextBlock : Nat := 0
  blockRequested : Bool := false
  rom : Rom
  userParam : Option (List UInt8)
  maxClients : Nat
  roomLocked : Bool := false
  roomFull : Bool := false
  bootMode : BootMode := .automatic
  gather : Bool := false
  perUpdate : Nat := blocksPerUpdate
  ahead : Nat := sendThreshold
  appHandler : Bool := false
  appOut : List UInt8 := []
  appOutPending : Bool := false
  bulkTurn : Nat := 0
  packnum : Nat := 0
  rotate : Nat := 0

structure World where
  mp : Shared
  diag : Diag
  host : Host
  log : List Note

/-- What a pass is answered by code that is not modelled: whether the transmit
ring takes a frame, and the two calls of the application that serve a station
client. Each answer may depend on everything that came before (the length of
the log). An application that has set no content source finds no file. -/
structure Pass where
  txAccepts : Nat → Bool
  stationOpen : Nat → List UInt8 → Option (UInt32 × UInt32)
  stationRead : Nat → UInt32 → Nat → Nat → Option (Nat → UInt8)

namespace World

def note (world : World) (item : Note) : World := { world with log := world.log ++ [item] }

def setClient (world : World) (aid : Nat) (client : Client) : World :=
  { world with host := { world.host with clients := Function.update world.host.clients aid client } }

end World

/-- Wifi_DlPlaySetClientStage -/
def setClientStage (client : Client) (stage : Stage) : Client :=
  { client with stage, waitCount := 0 }

def aidValid (aid : Int) : Bool := 1 ≤ aid ∧ aid ≤ maxMultiplayerClients

def u16Bytes (value : Nat) : List UInt8 := [UInt8.ofNat value, UInt8.ofNat (value / 256)]

def u32Bytes (value : Nat) : List UInt8 :=
  [UInt8.ofNat value, UInt8.ofNat (value / 256), UInt8.ofNat (value / 65536),
    UInt8.ofNat (value / 16777216)]

/-- Wifi_DlPlayCmdStart with the payload that is then written; `none` is the
null pointer for a message that does not fit. -/
def cmdStart (world : World) (header : UInt8) (payload : List UInt8) (dest : Mask) :
    Option (List UInt8) :=
  let hasFooter := header &&& flagsHasFooter ≠ 0
  let needed := 2 + payload.length + if hasFooter then 2 else 0
  if needed > cmdFrameSize then none else
    let clients := dest &&& multiplayerGetClientMask world.mp &&& ~~~ 1#16
    some ([UInt8.ofNat (payload.length / 2), header] ++ payload ++
      if hasFooter then u16Bytes clients.toNat else [])

/-- Wifi_DlPlayCmdSend -/
def cmdSend (pass : Pass) (world : World) (frame : List UInt8) : World × Bool :=
  let queued := pass.txAccepts world.log.length
  (world.note (.frame frame queued), queued)

/-- Most messages are one Wifi_DlPlayCmdStart and one Wifi_DlPlayCmdSend. -/
def cmdStartSend (pass : Pass) (world : World) (header : UInt8) (payload : List UInt8)
    (dest : Mask) : World × Bool :=
  match cmdStart world header payload dest with
  | none => (world, false)
  | some frame => cmdSend pass world frame

def resetOneClient (world : World) (aid : Nat) : World :=
  (world.setClient aid {}).note (.resetOneClient aid)

def giveUpOnClient (world : World) (aid : Nat) (reason : GaveUpReason) : World :=
  let (diag, mp) := KickRequests.giveUpOnClient world.diag world.mp aid reason
  { world with diag, mp }.note (.giveUpOnClient aid reason)

end Dswifi.DlPlay
