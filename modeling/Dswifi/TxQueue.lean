import Dswifi.MpHost
import Dswifi.Ring

/-! The TX ring seen from its senders (arm9/ntr/rx_tx_queue.c, arm9/ntr/beacon.c,
arm9/lwip/rx_tx.c) and from the ARM7 that copies one packet at a time to a
buffer of the MAC (arm7/ntr/tx_queue.c). A sender and a flush are each one step:
both run in a critical section, and what happens between their accesses to the
ring is the subject of `RingRefinement`. -/

namespace Dswifi.TxQueue

open ByteMemory RingBuffer

abbrev Mac := MpHost.Mac

/-! What the senders write. A byte that a sender skips keeps the value it has in
the ring: the FCS, and the IV and ICV of a protected frame. -/

abbrev Content := List (Option UInt8)

/-- The data of a caller, an object in memory. -/
structure Payload where
  bytes : List UInt8
  bounded : bytes.length < 2147483648

structure Frame where
  kind : Kind
  header : Content
  payload : Payload
  trailer : Nat
  sent : kind ≠ .received
  some_header : 0 < header.length
  few : header.length + trailer ≤ 64

def Frame.content (frame : Frame) : Content :=
  frame.header ++ frame.payload.bytes.map some ++ List.replicate frame.trailer none

/-- The frame_size of the senders. -/
def Frame.size (frame : Frame) : Nat := frame.content.length

def u16 (value : Nat) : List UInt8 := [UInt8.ofNat value, UInt8.ofNat (value / 256)]

def macBytes (macaddr : Mac) : List UInt8 :=
  u16 macaddr.1.toNat ++ u16 macaddr.2.1.toNat ++ u16 macaddr.2.2.toNat

/-- Wifi_TxHeader: only the rate and the length are set. -/
def txHeader (rate length : Nat) : List UInt8 :=
  u16 0 ++ u16 0 ++ u16 0 ++ u16 0 ++ u16 rate ++ u16 length

/-- IEEE_DataFrameHeader -/
def ieeeHeader (frameControl : Nat) (addr1 addr2 addr3 : Mac) : List UInt8 :=
  u16 frameControl ++ u16 0 ++ macBytes addr1 ++ macBytes addr2 ++ macBytes addr3 ++ u16 0

def written (bytes : List UInt8) : Content := bytes.map some

def skipped (length : Nat) : Content := List.replicate length none

def wifiCmdMac : Mac := (0x0903, 0x00BF, 0x0000)
def wifiReplyMac : Mac := (0x0903, 0x00BF, 0x1000)
def wifiBroadcastAddr : Mac := (0xFFFF, 0xFFFF, 0xFFFF)

/-- WIFI_TRANSFER_RATE_2MBPS -/
def transferRate2Mbps : Nat := 0x14

def typeBeacon : Nat := 0x80
def typeData : Nat := 0x08
def typeDataCfAck : Nat := 0x18
def typeDataCfPoll : Nat := 0x28
def fcToDs : Nat := 0x100
def fcFromDs : Nat := 0x200
def fcProtectedFrame : Nat := 0x4000

/-- What the senders read of the shared structure. -/
structure Station where
  macAddr : Mac
  bssid : Mac
  curClientAID : UInt8
  wep : Bool
  multiplayerClientGetMacFromAID : Int → Option Mac

/-- The length field counts from the end of the TX header, FCS included. -/
def rawTxFrame (rate : UInt16) (data : Payload) : Frame where
  kind := .data
  header := written (txHeader rate.toNat (data.bytes.length + 4))
  payload := data
  trailer := 4
  sent := by decide
  some_header := by simp [written, txHeader, u16]
  few := by simp [written, txHeader, u16]

def multiplayerHostCmdTxFrame (station : Station) (data : Payload) : Frame where
  kind := .cmd
  header := written (txHeader transferRate2Mbps (28 + data.bytes.length + 4) ++
    ieeeHeader (typeDataCfPoll ||| fcFromDs) wifiCmdMac station.macAddr station.macAddr ++
    u16 0 ++ u16 0)
  payload := data
  trailer := 4
  sent := by decide
  some_header := by simp [written, txHeader, u16]
  few := by simp [written, txHeader, ieeeHeader, macBytes, u16]

def multiplayerClientReplyTxFrame (station : Station) (data : Payload) : Frame where
  kind := .reply
  header := written (txHeader transferRate2Mbps (26 + data.bytes.length + 4) ++
    ieeeHeader (typeDataCfAck ||| fcToDs) station.bssid station.macAddr wifiReplyMac ++
    [station.curClientAID, 0])
  payload := data
  trailer := 4
  sent := by decide
  some_header := by simp [written, txHeader, u16]
  few := by simp [written, txHeader, ieeeHeader, macBytes, u16]

def hostToClientFrame (station : Station) (clientMacaddr : Mac) (data : Payload) : Frame where
  kind := .data
  header := written (txHeader transferRate2Mbps (24 + data.bytes.length + 4) ++
    ieeeHeader (typeData ||| fcFromDs) clientMacaddr station.macAddr station.macAddr)
  payload := data
  trailer := 4
  sent := by decide
  some_header := by simp [written, txHeader, u16]
  few := by simp [written, txHeader, ieeeHeader, macBytes, u16]

/-- Nothing is sent to an association id that is nobody's. -/
def multiplayerHostToClientDataTxFrame (station : Station) (aid : Int) (data : Payload) :
    Option Frame :=
  (station.multiplayerClientGetMacFromAID aid).map fun clientMacaddr =>
    hostToClientFrame station clientMacaddr data

def multiplayerClientToHostDataTxFrame (station : Station) (data : Payload) : Frame where
  kind := .data
  header := written (txHeader transferRate2Mbps (26 + data.bytes.length + 4) ++
    ieeeHeader (typeData ||| fcToDs) station.bssid station.macAddr station.bssid ++
    [station.curClientAID, 0])
  payload := data
  trailer := 4
  sent := by decide
  some_header := by simp [written, txHeader, u16]
  few := by simp [written, txHeader, ieeeHeader, macBytes, u16]

/-- An Ethernet frame becomes a data frame with an LLC and SNAP header. Room for
the IV and the ICV is left when the access point uses WEP. -/
def transmitFunctionLink (station : Station) (destMac : Mac) (etherType : UInt16)
    (data : Payload) : Frame where
  kind := .data
  header := written
      (txHeader 0 (24 + (if station.wep then 4 else 0) + 8 + data.bytes.length +
        (if station.wep then 4 else 0) + 4) ++
      ieeeHeader ((fcToDs ||| typeData) ||| (if station.wep then fcProtectedFrame else 0))
        station.bssid station.macAddr destMac) ++
    skipped (if station.wep then 4 else 0) ++
    written ([0xAA, 0xAA, 0x03, 0, 0, 0] ++ u16 etherType.toNat)
  payload := data
  trailer := if station.wep then 8 else 4
  sent := by decide
  some_header := by simp [written, txHeader, u16]
  few := by
    cases station.wep <;> simp [written, skipped, txHeader, ieeeHeader, macBytes, u16]

/-- The frame of Wifi_BeaconStartInternal around `body`, which starts with the
timestamp. One bigger than the buffer of the beacon is not sent. -/
def beaconFrame (station : Station) (body : Payload) : Option Frame :=
  if 36 + body.bytes.length + 4 > 0x200 then none
  else some
    { kind := .beacon
      header := written (txHeader transferRate2Mbps (24 + body.bytes.length + 4) ++
        ieeeHeader typeBeacon wifiBroadcastAddr station.macAddr station.macAddr)
      payload := body
      trailer := 4
      sent := by decide
      some_header := by simp [written, txHeader, u16]
      few := by simp [written, txHeader, ieeeHeader, macBytes, u16] }

/-- A call of one of the senders. -/
inductive Call where
  | rawTxFrame (rate : UInt16) (data : Payload)
  | multiplayerHostCmdTxFrame (data : Payload)
  | multiplayerClientReplyTxFrame (data : Payload)
  | multiplayerHostToClientDataTxFrame (aid : Int) (data : Payload)
  | multiplayerClientToHostDataTxFrame (data : Payload)
  | transmitFunctionLink (destMac : Mac) (etherType : UInt16) (data : Payload)
  | beaconStart (body : Payload)

def Call.frame (station : Station) : Call → Option Frame
  | .rawTxFrame rate data => some (TxQueue.rawTxFrame rate data)
  | .multiplayerHostCmdTxFrame data => some (TxQueue.multiplayerHostCmdTxFrame station data)
  | .multiplayerClientReplyTxFrame data => some (TxQueue.multiplayerClientReplyTxFrame station data)
  | .multiplayerHostToClientDataTxFrame aid data =>
      TxQueue.multiplayerHostToClientDataTxFrame station aid data
  | .multiplayerClientToHostDataTxFrame data =>
      some (TxQueue.multiplayerClientToHostDataTxFrame station data)
  | .transmitFunctionLink destMac etherType data =>
      some (TxQueue.transmitFunctionLink station destMac etherType data)
  | .beaconStart body => beaconFrame station body

/-! Placing a frame in the ring. -/

def writeContent (mem : Memory) (pos : Nat) (content : Content) : Memory :=
  fun i => if pos ≤ i ∧ i < pos + content.length then ((content[i - pos]?).getD none).getD (mem i)
    else mem i

/-- The common code of the senders; `none` is the -1 of a full ring. -/
def place (ring : Buffer) (frame : Frame) : Buffer × Option Nat :=
  match bufferAllocBuffer .tx ring (u32 (4 + roundUp32 frame.size + 4)) with
  | (ring, none) => (ring, none)
  | (ring, some start) =>
    let next := roundUp32 (u32 (start + 4 + frame.size))
    let filled := writeContent ring.mem (start + 4) frame.content
    let terminated := writeU32 filled next 0
    ({ ring with mem := writeU32 terminated start (frame.size ||| frame.kind.flags), write := next },
      some start)

/-! Copying to the MAC. -/

structure MacBuffer where
  base : Nat
  stop : Nat
  deriving DecidableEq, Repr

def macTxbuf : MacBuffer := ⟨0x0000, 0x0700⟩
def macCmdbuf : MacBuffer := ⟨0x0700, 0x0A00⟩
def macBeacon : MacBuffer := ⟨0x0A00, 0x0C00⟩
def macClientRx1 : MacBuffer := ⟨0x0A00, 0x0B00⟩
def macClientRx2 : MacBuffer := ⟨0x0B00, 0x0C00⟩

/-- A packet copied to the MAC: how it is sent, where it went and its bytes. -/
structure Copy where
  kind : Kind
  macbase : Nat
  bytes : List UInt8
  deriving DecidableEq, Repr

structure Tx where
  ring : Buffer
  copied : List Copy

/-- Wifi_TxArm9QueueCopyFirstData. The result is what it copied; the 0 of the
source is `none`. A packet that does not fit only loses its size word. -/
def copyFirstData (ring : Buffer) (destination : MacBuffer) : Buffer × Option (List UInt8) :=
  let size := readU32 ring.mem ring.read &&& 0x0FFFFFFF
  let readIdx := ring.read + 4
  if size ≤ destination.stop - destination.base then
    ({ ring with read := readIdx + roundUp32 size }, some (readBytes ring.mem readIdx size))
  else ({ ring with read := readIdx }, none)

/-- The reply buffer that W_TXBUF_REPLY2 does not use. -/
def replyBuffer (wTxbufReply2 : Nat) : MacBuffer :=
  if (wTxbufReply2 &&& 0x7FFF) <<< 1 = macClientRx1.base then macClientRx2 else macClientRx1

/-- Where Wifi_TxArm9QueueFlush copies a packet of each kind. -/
def destination (wTxbufReply2 : Nat) : Kind → MacBuffer
  | .reply => replyBuffer wTxbufReply2
  | .beacon => macBeacon
  | .cmd => macCmdbuf
  | _ => macTxbuf

def flush (tx : Tx) (wTxbufReply2 : Nat) : Tx :=
  let status := readU32 tx.ring.mem tx.ring.read
  if status = 0 then tx else
    let ring := if status = sizeWrap then { tx.ring with read := 0 } else tx.ring
    let status := readU32 ring.mem ring.read
    if status = 0 then { tx with ring } else
      let kind := wordKind .tx status
      let destination := destination wTxbufReply2 kind
      match copyFirstData ring destination with
      | (ring, none) => { tx with ring }
      | (ring, some bytes) =>
        { ring, copied := tx.copied ++ [{ kind, macbase := destination.base, bytes }] }

end Dswifi.TxQueue
