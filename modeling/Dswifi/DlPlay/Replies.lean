import Dswifi.DlPlay.Host

/-! What the host does with the frames its clients send
(Wifi_DlPlayFromClientHandler). A reply is the bytes after the two that follow
the IEEE header; the second of those two names the port. -/

namespace Dswifi.DlPlay

open ByteMemory MpHost

/-- Wifi_MPPacketType -/
inductive PacketType where
  | reply
  | data
  deriving DecidableEq, Repr

inductive ReplyOp where
  | dummy
  | fileReq
  | acceptFileInfo
  | continueReq
  | stopReq
  | bootReqAccepted
  | app
  deriving DecidableEq, Repr

def replyOp (opcode : UInt8) : Option ReplyOp :=
  if opcode = 0 then some .dummy
  else if opcode = 7 then some .fileReq
  else if opcode = 8 then some .acceptFileInfo
  else if opcode = 9 then some .continueReq
  else if opcode = 10 then some .stopReq
  else if opcode = 11 then some .bootReqAccepted
  else if opcode = 0x40 then some .app
  else none

/-- The frames Wifi_DlPlayFromClientHandler has room for. -/
def replyMaxSize : Nat := 16

def byteAt (reply : List UInt8) (offset : Nat) : UInt8 := reply.getD offset 0

def u16At (reply : List UInt8) (offset : Nat) : Nat :=
  (byteAt reply offset).toNat + 256 * (byteAt reply (offset + 1)).toNat

theorem u16At_middle (front back : List UInt8) (value : Nat) :
    u16At (front ++ u16Bytes value ++ back) front.length = value % 65536 := by
  have low : byteAt (front ++ u16Bytes value ++ back) front.length = UInt8.ofNat value := by
    simp [byteAt, u16Bytes]
  have high : byteAt (front ++ u16Bytes value ++ back) (front.length + 1) = UInt8.ofNat (value / 256) := by
    simp [byteAt, u16Bytes]
  rw [u16At, low, high, UInt8.toNat_ofNat', UInt8.toNat_ofNat']
  omega

def readU16 (mem : Memory) (pos : Nat) : Nat := (mem pos).toNat + 256 * (mem (pos + 1)).toNat

def stationStreamPort (stream : Nat) : Nat := portStationName + stream

def handleStationReply (client : Client) (port : Nat) (reply : List UInt8) : Client :=
  if client.stage ≠ .station then client else
    if port ≠ portStationName then client else
      if reply.length < stationRequestSize then client else
        let stream := u16At reply stationNameSize
        if stream < stationStreamMin ∨ stream > stationStreamMax then client else
          -- asking again for what is already going out
          if client.station.state ≠ .idle ∧ client.station.state ≠ .done ∧
              client.station.port = stationStreamPort stream then client else
            { client with
              waitCount := 0
              station := { client.station with
                pending := true
                pendingName := reply.take stationNameSize
                pendingStream := stream } }

/-- Wifi_DlPlayClientIsStation -/
def clientIsStation (client : Client) : Bool := client.request.valid && client.request.isStation

def nameAscii (name : List Nat) : List UInt8 :=
  name.map fun c => if c < 0x80 then UInt8.ofNat c else 0x3F

def decodeRequest (client : Client) : Client :=
  let req := client.reqBuffer
  let nameLen := min (req 5).toNat hostNameLen
  let name := (List.range hostNameLen).map fun i => readU16 req (6 + 2 * i)
  { client with
    request := { client.request with
      valid := true
      gameId := readU32 req 0
      favoriteColor := req 4 &&& 0xF
      playerNo := req 4 >>> 4
      nameLen
      name
      version := readU16 req 26
      fileId := req 28 }
    nameAscii := nameAscii (name.take nameLen) }

/-- The ten spaces a station client gives as its name. -/
def isStationName (request : ClientRequest) : Bool :=
  request.nameLen = hostNameLen ∧ request.name.all fun c => c = 0x20

def storePiece (buffer : Memory) (piece : Nat) (reply : List UInt8) : Memory := fun i =>
  if piece * reqPieceSize ≤ i ∧ i < piece * reqPieceSize + reqPieceSize then
    byteAt reply (2 + (i - piece * reqPieceSize))
  else buffer i

/-- The record once a piece of the request is in it. -/
def takePiece (client : Client) (piece : Nat) (reply : List UInt8) : Client :=
  { client with
    reqBuffer := storePiece client.reqBuffer piece reply
    reqMask := client.reqMask ||| bit 8 piece }

/-- What follows the last missing piece, and every piece after it. -/
def completeRequest (client : Client) : Client :=
  let client := if !client.request.valid then decodeRequest client else client
  let client :=
    { client with request := { client.request with isStation := isStationName client.request } }
  if client.stage = .connected then setClientStage client .reqAccepted else client

def handleFileRequest (client : Client) (reply : List UInt8) : Client :=
  if reply.length < 2 + reqPieceSize then client else
    let piece := (byteAt reply 1).toNat
    if piece ≥ reqPieceCount then client else
      let client := takePiece client piece reply
      if client.reqMask ≠ reqAllPieces then client else completeRequest client

def acceptFileInfo (gather : Bool) (client : Client) : Client :=
  if clientIsStation client then
    if client.stage = .reqAccepted then setClientStage client .station else client
  else if client.stage = .reqAccepted then setClientStage client .waitToSend
  else if !gather ∧ client.stage = .waitToSend then setClientStage client .sendProceed
  else client

/-- A client names the lowest block it is missing and how many it holds. -/
def takeProgress (client : Client) (reply : List UInt8) : Client :=
  if reply.length ≥ 5 then
    let received := u16At reply 3
    { client with
      waitCount := if received > client.request.blocksReceived then 0 else client.waitCount
      request := { client.request with blocksReceived := received }
      nextBlock := u16At reply 1 }
  else client

def continueReq (gather : Bool) (client : Client) (reply : List UInt8) : Client :=
  let client := takeProgress client reply
  if !gather ∧ client.stage = .waitToSend then setClientStage client .sendProceed else client

def stopReq (bootMode : BootMode) (client : Client) : Client :=
  if client.stage = .sendProceed then setClientStage client .sendComplete
  else if client.stage = .sendComplete then
    if bootMode = .automatic ∨ client.bootRequested then setClientStage client .bootRequest
    else client
  else client

def appReply (client : Client) : Client :=
  let client := if client.stage ≠ .app then setClientStage client .app else client
  { client with waitCount := 0 }

def bootReqAccepted (client : Client) : Client :=
  if client.bootAccepted = 0 then { client with bootAccepted := 1 } else client

def multibootReply (bootMode : BootMode) (gather : Bool) (client : Client)
    (reply : List UInt8) : Client :=
  match replyOp (byteAt reply 0) with
  | none | some .dummy => client
  | some .fileReq => handleFileRequest client reply
  | some .acceptFileInfo => acceptFileInfo gather client
  | some .continueReq => continueReq gather client reply
  | some .stopReq => stopReq bootMode client
  | some .app => appReply client
  | some .bootReqAccepted => bootReqAccepted client

/-- The port a reply is for: none of the station's when it is the multiboot one,
or the 0 of a client of this library. -/
def replyPort (portByte : UInt8) : Option Nat :=
  let port := portByte &&& 0xF
  if port ≠ portBoot ∧ port ≠ 0 then some port.toNat else none

/-- What a reply does to the record of the client it came from. -/
def replyClient (bootMode : BootMode) (gather : Bool) (portByte : UInt8) (reply : List UInt8)
    (client : Client) : Client :=
  let client := { client with idleCount := 0 }
  if reply.length > replyMaxSize ∨ reply.length = 0 then client else
    match replyPort portByte with
    | some port => handleStationReply client port reply
    | none => multibootReply bootMode gather client reply

/-- What a reply tells the rest of the host. -/
def replyHost (aid : Nat) (portByte : UInt8) (reply : List UInt8) (world : World) : World :=
  if reply.length > replyMaxSize ∨ reply.length = 0 ∨ replyPort portByte ≠ none then world else
    match replyOp (byteAt reply 0) with
    | some .continueReq =>
      if reply.length ≥ 5 then { world with host := { world.host with blockRequested := true } }
      else world
    | some .app =>
      if world.host.appHandler then world.note (.appMessage aid (reply.drop 1)) else world
    | _ => world

def fromClientHandler (type : PacketType) (aid : Nat) (portByte : UInt8) (reply : List UInt8)
    (world : World) : World :=
  if type ≠ .reply then world else
    if !world.host.active then world else
      if !aidValid aid then world else
        replyHost aid portByte reply
          (world.setClient aid
            (replyClient world.host.bootMode world.host.gather portByte reply (world.host.clients aid)))

/-- Wifi_MultiplayerHandlePacketFromClient, for a frame that passes the checks of
its header. -/
def handlePacketFromClient (type : PacketType) (macaddr : Mac) (portByte : UInt8)
    (reply : List UInt8) (world : World) : World :=
  let aid := multiplayerClientGetAIDFromMac world.mp macaddr
  if aid = 0 then world else fromClientHandler type aid portByte reply world

end Dswifi.DlPlay
