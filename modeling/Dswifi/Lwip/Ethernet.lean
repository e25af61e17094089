import Dswifi.BeaconFrame
import Dswifi.RingLayout

/-! The frames of lwIP on the air (arm9/lwip/rx_tx.c). An Ethernet frame goes out
as an 802.11 data frame for the access point, which relays it; the console that
gets it writes an Ethernet header over the end of the headers it came with. -/

namespace Dswifi.Lwip

open ByteMemory RingBuffer
open BeaconFrame (le16 macBytes hdrTxSize)
open MpHost (Mac)

/-- sizeof(EthernetFrameHeader), sizeof(IEEE_DataFrameHeader) and sizeof(LLC_SNAP_Header) -/
def ethernetHeader : Nat := 14
def dataHeader : Nat := 24
def snapHeader : Nat := 8

def typeData : UInt16 := 0x0008
def fcToDs : UInt16 := 0x0100
def fcFromDs : UInt16 := 0x0200
def fcProtectedFrame : UInt16 := 0x4000
def fcTypeSubtypeMask : UInt16 := 0x00FC

/-- What a console knows of itself and of its access point. -/
structure Link where
  macAddr : Mac
  bssid : Mac
  wep : Bool

/-- A frame of lwIP. No object of a 32-bit machine has 2^31 bytes. -/
structure EthernetFrame where
  bytes : List UInt8
  header : ethernetHeader ≤ bytes.length
  bounded : bytes.length < 2147483648

namespace EthernetFrame

def destMac (frame : EthernetFrame) : List UInt8 := frame.bytes.take 6
def srcMac (frame : EthernetFrame) : List UInt8 := (frame.bytes.drop 6).take 6
def etherType (frame : EthernetFrame) : List UInt8 := (frame.bytes.drop 12).take 2
def payload (frame : EthernetFrame) : List UInt8 := frame.bytes.drop ethernetHeader

end EthernetFrame

/-- The TX ring between two packets. -/
structure TxRing extends Buffer where
  read_lt : read < bufferSize .tx
  write_lt : write < bufferSize .tx

/-- Wifi_TxHeader: the ARM7 fills in the rate. -/
def txHeader (txLength : Nat) : List UInt8 := List.replicate 10 0 ++ le16 (UInt16.ofNat txLength)

/-- IEEE_DataFrameHeader -/
def dataFrameHeader (link : Link) (frame : EthernetFrame) : List UInt8 :=
  le16 (if link.wep then fcToDs ||| typeData ||| fcProtectedFrame else fcToDs ||| typeData) ++ le16 0 ++
    macBytes link.bssid ++ macBytes link.macAddr ++ frame.destMac ++ le16 0

/-- The LLC header and the organization of the SNAP header. -/
def snapTag : List UInt8 := [0xAA, 0xAA, 0x03, 0, 0, 0]

def wepIv (link : Link) : Nat := if link.wep then 4 else 0

def frameSize (link : Link) (frame : EthernetFrame) : Nat :=
  hdrTxSize + dataHeader + wepIv link + snapHeader + (frame.bytes.length - ethernetHeader) + wepIv link + 4

/-- Wifi_NTR_TransmitFunctionLink. The ring after it and where the size word of
the packet is, unless it has no room. -/
def ntrTransmitFunctionLink (link : Link) (frame : EthernetFrame) (ring : Buffer) : Buffer × Option Nat :=
  let size := frameSize link frame
  match bufferAllocBuffer .tx ring (4 + roundUp32 size + 4) with
  | (ring, none) => (ring, none)
  | (ring, some allocIdx) =>
    let writeIdx := allocIdx + 4
    let mem := writeBytes ring.mem writeIdx (txHeader (size - hdrTxSize))
    let writeIdx := writeIdx + hdrTxSize
    let mem := writeBytes mem writeIdx (dataFrameHeader link frame)
    let writeIdx := writeIdx + dataHeader
    -- the IV is left for the ARM7 to fill in
    let writeIdx := if link.wep then writeIdx + 4 else writeIdx
    let mem := writeBytes mem writeIdx (snapTag ++ frame.etherType)
    let writeIdx := writeIdx + snapHeader
    let mem := writeBytes mem writeIdx frame.payload
    let writeIdx := writeIdx + (frame.bytes.length - ethernetHeader)
    let writeIdx := if link.wep then writeIdx + 8 else writeIdx + 4
    let writeIdx := roundUp32 writeIdx
    let mem := writeU32 mem writeIdx 0
    let mem := writeU32 mem allocIdx (size ||| Kind.data.flags)
    ({ ring with mem, write := writeIdx }, some allocIdx)

/-- The 802.11 frame of a packet in the ring, with the room for the FCS. -/
def queuedFrame (ring : Buffer) (allocIdx : Nat) : List UInt8 :=
  readBytes ring.mem (allocIdx + 4 + hdrTxSize) (wordSize .tx (readU32 ring.mem allocIdx) - hdrTxSize)

/-- The fields of a header that the access point chooses. -/
structure Air where
  frameControl : UInt16
  duration : UInt16
  seqCtl : UInt16
  data : frameControl &&& (fcToDs ||| fcTypeSubtypeMask) = typeData
  fromDs : frameControl &&& fcFromDs ≠ 0

/-- The access point relays a frame: the addresses change places, the IV, the
ICV and the FCS go. -/
def relay (wep : Bool) (air : Air) (frame : List UInt8) : List UInt8 :=
  let iv := if wep then 4 else 0
  le16 air.frameControl ++ le16 air.duration ++ (frame.drop 16).take 6 ++ (frame.drop 4).take 6 ++
    (frame.drop 10).take 6 ++ le16 air.seqCtl ++
    (frame.drop (dataHeader + iv)).take (frame.length - dataHeader - iv - iv - 4)

/-- Wifi_NTR_SendPacketToLwip. What lwIP gets, from the memory the header was
written into. -/
def ntrSendPacketToLwip (macAddr : Mac) (packet size : Nat) (mem : Memory) : Option (List UInt8) :=
  let frameControl := (mem packet).toUInt16 ||| (mem (packet + 1)).toUInt16 <<< 8
  let addr1 := readBytes mem (packet + 4) 6
  if frameControl &&& (fcToDs ||| fcTypeSubtypeMask) ≠ typeData then none
  else if ¬(addr1 = macBytes macAddr ∨ mem (packet + 4) &&& 1 ≠ 0) then none
  else if readBytes mem (packet + dataHeader) 6 ≠ snapTag then none
  else
    let srcMac :=
      if frameControl &&& fcFromDs ≠ 0 then readBytes mem (packet + 16) 6 else readBytes mem (packet + 10) 6
    let ethHeader := addr1 ++ srcMac ++ readBytes mem (packet + dataHeader + 6) 2
    let lwipBuffer := packet + dataHeader + snapHeader - ethernetHeader
    let dataSize := u32 (size + 4294967296 - dataHeader - snapHeader)
    let mem := writeBytes mem lwipBuffer ethHeader
    some (readBytes mem lwipBuffer (ethernetHeader + dataSize))

/-! The packet in the ring. -/

/-- What is allocated lies in the buffer. -/
theorem alloc_room (ring : TxRing) {total idx : Nat} {after : Buffer} (small : total < 2147483648 + 128)
    (found : bufferAllocBuffer .tx ring.toBuffer total = (after, some idx)) :
    idx + total ≤ bufferSize .tx := by
  have read := ring.read_lt
  have write := ring.write_lt
  unfold bufferAllocBuffer at found
  split at found
  · split at found
    · split at found
      · cases found
      · cases found
        omega
    · cases found
      simp only [bufferSize, u32] at *
      omega
  · split at found
    · cases found
    · cases found
      simp only [bufferSize, u32] at *
      omega

theorem word_data {size : Nat} (positive : 0 < size) (small : size < 268435456) :
    (size ||| Kind.data.flags) < 4294967296 ∧ wordSize .tx (size ||| Kind.data.flags) = size := by
  let packet : Packet .tx :=
    { kind := .data
      data := List.replicate size 0
      sided := by decide
      nonempty := by simpa using positive
      bounded := by rw [List.length_replicate]; omega }
  have length : packet.data.length = size := List.length_replicate
  have below := sizeWord_lt packet (by omega)
  have same := wordSize_sizeWord packet (by omega)
  rw [sizeWord, length] at below same
  exact ⟨below, same⟩

section Sent
variable {link : Link} {frame : EthernetFrame} {ring : TxRing} {after : Buffer} {idx : Nat}

theorem dataFrameHeader_length (link : Link) (frame : EthernetFrame) :
    (dataFrameHeader link frame).length = dataHeader := by
  have long := frame.header
  simp only [dataFrameHeader, List.length_append, BeaconFrame.le16_length, BeaconFrame.macBytes_length,
    EthernetFrame.destMac, List.length_take, ethernetHeader, dataHeader] at long ⊢
  omega

theorem snap_length (frame : EthernetFrame) : (snapTag ++ frame.etherType).length = snapHeader := by
  have long := frame.header
  simp only [snapTag, List.length_append, List.length_cons, List.length_nil, EthernetFrame.etherType,
    List.length_take, List.length_drop, ethernetHeader, snapHeader] at long ⊢
  omega

theorem payload_length (frame : EthernetFrame) :
    frame.payload.length = frame.bytes.length - ethernetHeader := List.length_drop

/-- The headers and the data of the packet are where its size word says. -/
theorem transmit_packet
    (sent : ntrTransmitFunctionLink link frame ring.toBuffer = (after, some idx)) :
    wordSize .tx (readU32 after.mem idx) = frameSize link frame ∧
      InPlace after.mem (idx + 4 + hdrTxSize) (dataFrameHeader link frame) ∧
      InPlace after.mem (idx + 4 + hdrTxSize + dataHeader + wepIv link) (snapTag ++ frame.etherType) ∧
      InPlace after.mem (idx + 4 + hdrTxSize + dataHeader + wepIv link + snapHeader) frame.payload := by
  have long := frame.header
  have bounded := frame.bounded
  have header := dataFrameHeader_length link frame
  have snap := snap_length frame
  have payload := payload_length frame
  have size : frameSize link frame = hdrTxSize + dataHeader + wepIv link + snapHeader +
    (frame.bytes.length - ethernetHeader) + wepIv link + 4 := rfl
  have iv : wepIv link = 0 ∨ wepIv link = 4 := by
    unfold wepIv
    split <;> simp
  have afterIv (pos : Nat) : (if link.wep then pos + 4 else pos) = pos + wepIv link := by
    unfold wepIv
    split <;> rfl
  simp only [ntrTransmitFunctionLink, afterIv] at sent
  split at sent
  · cases sent
  · rename_i allocated start alloc
    obtain ⟨rfl, same⟩ := Prod.mk.inj sent
    obtain rfl := Option.some.inj same
    generalize frameSize link frame = total at *
    simp only [hdrTxSize, dataHeader, snapHeader, ethernetHeader] at *
    -- all of the packet is in front of the end of the buffer, so nothing wraps
    have room := alloc_room ring (by unfold roundUp32 u32; omega) alloc
    simp only [bufferSize] at room
    have up : ∀ value < 4294967000, value ≤ roundUp32 value ∧ roundUp32 value ≤ value + 3 := by
      intro value small
      unfold roundUp32 u32
      omega
    obtain ⟨above, _⟩ := up total (by omega)
    obtain ⟨ends, _⟩ := up (start + 4 + 12 + 24 + wepIv link + 8 + (frame.bytes.length - 14) + 4 + wepIv link)
      (by omega)
    obtain ⟨word, masked⟩ := word_data (show 0 < total by omega) (by omega)
    -- the parts are written from the front to the back, and each write leaves the others alone
    refine ⟨?_, ?_, ?_, ?_⟩
    · rw [readU32_writeU32 _ _ _ word, masked]
    · exact .writeU32 (.writeU32 (.writeBytes (.writeBytes (writeBytes_inPlace _ _ _) (by omega)) (by omega))
        (by omega)) (by omega)
    · exact .writeU32 (.writeU32 (.writeBytes (writeBytes_inPlace _ _ _) (by omega)) (by omega)) (by omega)
    · exact .writeU32 (.writeU32 (writeBytes_inPlace _ _ _) (by omega)) (by omega)

/-- The frame the access point gets: between the headers, and behind the data,
is what the console has left for the hardware. -/
theorem queuedFrame_split
    (sent : ntrTransmitFunctionLink link frame ring.toBuffer = (after, some idx)) :
    ∃ iv tail : List UInt8, iv.length = wepIv link ∧ tail.length = wepIv link + 4 ∧
      queuedFrame after idx =
        dataFrameHeader link frame ++ iv ++ (snapTag ++ frame.etherType) ++ frame.payload ++ tail := by
  obtain ⟨word, header, snap, payload⟩ := transmit_packet sent
  have size : frameSize link frame - hdrTxSize = dataHeader + wepIv link + snapHeader +
      (frame.bytes.length - ethernetHeader) + (wepIv link + 4) := by
    unfold frameSize
    omega
  refine ⟨readBytes after.mem (idx + 4 + hdrTxSize + dataHeader) (wepIv link),
    readBytes after.mem (idx + 4 + hdrTxSize + (dataHeader + wepIv link + snapHeader +
      (frame.bytes.length - ethernetHeader))) (wepIv link + 4), readBytes_length .., readBytes_length .., ?_⟩
  unfold InPlace at header snap payload
  rw [dataFrameHeader_length] at header
  rw [snap_length] at snap
  rw [payload_length] at payload
  rw [queuedFrame, word, size, readBytes_append, readBytes_append, readBytes_append, readBytes_append, header]
  simp only [← Nat.add_assoc] at snap payload ⊢
  rw [snap, payload]

/-- A part of a list that is known by its length. -/
theorem slice {front part rest : List UInt8} {start length : Nat} (before : front.length = start)
    (size : part.length = length) : ((front ++ part ++ rest).drop start).take length = part := by
  subst before size
  simp

theorem destMac_length (frame : EthernetFrame) : frame.destMac.length = 6 := by
  have long := frame.header
  simp only [EthernetFrame.destMac, List.length_take, ethernetHeader] at long ⊢
  omega

/-- What the access point makes of it. -/
theorem relay_eq (air : Air)
    (sent : ntrTransmitFunctionLink link frame ring.toBuffer = (after, some idx)) :
    relay link.wep air (queuedFrame after idx) =
      le16 air.frameControl ++ le16 air.duration ++ frame.destMac ++ macBytes link.bssid ++
        macBytes link.macAddr ++ le16 air.seqCtl ++ (snapTag ++ frame.etherType ++ frame.payload) := by
  obtain ⟨iv, tail, ivLength, tailLength, split⟩ := queuedFrame_split sent
  have header := dataFrameHeader_length link frame
  have dest := destMac_length frame
  have length : (queuedFrame after idx).length - dataHeader - wepIv link - wepIv link - 4 =
      (snapTag ++ frame.etherType ++ frame.payload).length := by
    simp only [split, List.length_append, header, ivLength, tailLength]
    omega
  -- the three addresses and the body of the frame that was sent
  have bssid : ((queuedFrame after idx).drop 4).take 6 = macBytes link.bssid := by
    rw [split, dataFrameHeader]
    simp only [List.append_assoc]
    rw [← List.append_assoc, ← List.append_assoc]
    exact slice rfl rfl
  have source : ((queuedFrame after idx).drop 10).take 6 = macBytes link.macAddr := by
    rw [split, dataFrameHeader]
    simp only [List.append_assoc]
    rw [← List.append_assoc, ← List.append_assoc, ← List.append_assoc]
    exact slice rfl rfl
  have destination : ((queuedFrame after idx).drop 16).take 6 = frame.destMac := by
    rw [split, dataFrameHeader]
    simp only [List.append_assoc]
    rw [← List.append_assoc, ← List.append_assoc, ← List.append_assoc, ← List.append_assoc]
    exact slice rfl dest
  have body : ((queuedFrame after idx).drop (dataHeader + wepIv link)).take
      (snapTag ++ frame.etherType ++ frame.payload).length = snapTag ++ frame.etherType ++ frame.payload := by
    rw [split, List.append_assoc (dataFrameHeader link frame ++ iv)]
    exact slice (by rw [List.length_append, header, ivLength]) rfl
  simp only [relay, bssid, source, destination]
  rw [show (if link.wep then 4 else 0) = wepIv link from rfl, length, body]

theorem relay_length (air : Air)
    (sent : ntrTransmitFunctionLink link frame ring.toBuffer = (after, some idx)) :
    (relay link.wep air (queuedFrame after idx)).length =
      dataHeader + snapHeader + (frame.bytes.length - ethernetHeader) := by
  have header := destMac_length frame
  have snap := snap_length frame
  have payload := payload_length frame
  simp only [relay_eq air sent, List.length_append, BeaconFrame.le16_length, BeaconFrame.macBytes_length,
    header, payload, dataHeader, snapHeader] at snap ⊢
  omega

end Sent

section Received
variable {mem : Memory} {packet : Nat} {frame : EthernetFrame}

/-- The Ethernet header that is written in front of the data makes a frame with it. -/
theorem lwipBuffer_frame (own : List UInt8) (length : own.length = 6) (same : own = frame.srcMac)
    (data : InPlace mem (packet + dataHeader + snapHeader) frame.payload) :
    readBytes (writeBytes mem (packet + dataHeader + snapHeader - ethernetHeader)
        (frame.destMac ++ own ++ frame.etherType)) (packet + dataHeader + snapHeader - ethernetHeader)
      (ethernetHeader + (frame.bytes.length - ethernetHeader)) = frame.bytes := by
  have header : (frame.destMac ++ own ++ frame.etherType).length = ethernetHeader := by
    have long := frame.header
    simp only [List.length_append, destMac_length, length, EthernetFrame.etherType, List.length_take,
      List.length_drop, ethernetHeader] at long ⊢
    omega
  have front := writeBytes_inPlace mem (packet + dataHeader + snapHeader - ethernetHeader)
    (frame.destMac ++ own ++ frame.etherType)
  have behind : InPlace (writeBytes mem (packet + dataHeader + snapHeader - ethernetHeader)
      (frame.destMac ++ own ++ frame.etherType)) (packet + dataHeader + snapHeader) frame.payload := by
    refine data.writeBytes (.inr ?_)
    rw [header]
    simp only [dataHeader, snapHeader, ethernetHeader]
    omega
  unfold InPlace at front behind
  rw [header] at front
  rw [payload_length] at behind
  rw [readBytes_append, front, show packet + dataHeader + snapHeader - ethernetHeader + ethernetHeader =
    packet + dataHeader + snapHeader by simp only [dataHeader, snapHeader, ethernetHeader]; omega, behind, same]
  -- the frame is its two addresses, its type and its data
  have first : frame.bytes = frame.destMac ++ frame.bytes.drop 6 := (List.take_append_drop 6 _).symm
  have second : frame.bytes.drop 6 = frame.srcMac ++ frame.bytes.drop 12 := by
    rw [EthernetFrame.srcMac, show 12 = 6 + 6 from rfl, ← List.drop_drop]
    exact (List.take_append_drop 6 _).symm
  have third : frame.bytes.drop 12 = frame.etherType ++ frame.payload := by
    rw [EthernetFrame.etherType, EthernetFrame.payload, show ethernetHeader = 12 + 2 from rfl, ← List.drop_drop]
    exact (List.take_append_drop 2 _).symm
  rw [List.append_assoc, List.append_assoc, ← third, ← second, ← first]

theorem etherType_length (frame : EthernetFrame) : frame.etherType.length = 2 := by
  have long := frame.header
  simp only [EthernetFrame.etherType, List.length_take, List.length_drop, ethernetHeader] at long ⊢
  omega

/-- A data frame from the access point, for the console or for many, is handed
to lwIP with its addresses, its type and its data. -/
theorem ntrSendPacketToLwip_data {macAddr sender bssid : Mac} {air : Air}
    (own : macBytes sender = frame.srcMac)
    (addressed : frame.destMac = macBytes macAddr ∨ frame.bytes.getD 0 0 &&& 1 ≠ 0)
    (there : InPlace mem packet (le16 air.frameControl ++ le16 air.duration ++ frame.destMac ++
      macBytes bssid ++ macBytes sender ++ le16 air.seqCtl ++
      (snapTag ++ frame.etherType ++ frame.payload))) :
    ntrSendPacketToLwip macAddr packet
      (dataHeader + snapHeader + (frame.bytes.length - ethernetHeader)) mem = some frame.bytes := by
  have bounded := frame.bounded
  have dest := destMac_length frame
  have type := etherType_length frame
  simp only [inPlace_append, List.length_append, BeaconFrame.le16_length, BeaconFrame.macBytes_length,
    dest, type] at there
  obtain ⟨⟨⟨⟨⟨⟨control, _⟩, addr1⟩, _⟩, addr3⟩, _⟩, ⟨tag, ether⟩, data⟩ := there
  have low : mem packet = air.frameControl.toUInt8 := control.byte (show 0 < 2 by decide)
  have high : mem (packet + 1) = (air.frameControl >>> 8).toUInt8 := control.byte (show 1 < 2 by decide)
  have first : mem (packet + 4) = frame.bytes.getD 0 0 := by
    have inside : 0 < frame.destMac.length := by omega
    have long := frame.header
    have some : 0 < frame.bytes.length := by simp only [ethernetHeader] at long; omega
    rw [show packet + 4 = packet + (2 + 2) + 0 from rfl, addr1.byte inside]
    simp [EthernetFrame.destMac, List.getElem?_eq_getElem some]
  have destination : readBytes mem (packet + 4) 6 = frame.destMac := by
    rwa [InPlace, dest] at addr1
  have source : readBytes mem (packet + 16) 6 = macBytes sender := by
    rwa [InPlace, BeaconFrame.macBytes_length] at addr3
  have snap : readBytes mem (packet + dataHeader) 6 = snapTag := tag
  have kind : readBytes mem (packet + dataHeader + 6) 2 = frame.etherType := by
    rwa [InPlace, type] at ether
  have size : u32 (dataHeader + snapHeader + (frame.bytes.length - ethernetHeader) + 4294967296 -
      dataHeader - snapHeader) = frame.bytes.length - ethernetHeader := by
    simp only [u32, dataHeader, snapHeader, ethernetHeader]
    omega
  have ours : ¬¬(frame.destMac = macBytes macAddr ∨ mem (packet + 4) &&& 1 ≠ 0) := by
    rw [not_not, first]
    exact addressed
  simp only [ntrSendPacketToLwip, low, high, BeaconFrame.le16_joined, destination, source, snap, kind, size]
  rw [if_neg (not_not.mpr air.data), if_neg (first ▸ ours), if_neg (not_not.mpr rfl), if_pos air.fromDs]
  exact congrArg some (lwipBuffer_frame (macBytes sender) rfl own data)

end Received

/-- A frame of the console's own, with or without WEP, that the access point
relays to a console it is for, or to many, gives lwIP there the same frame. -/
theorem ethernet_round_trip {sender : Link} {frame : EthernetFrame} {ring : TxRing} {after : Buffer}
    {idx : Nat} (own : macBytes sender.macAddr = frame.srcMac)
    (sent : ntrTransmitFunctionLink sender frame ring.toBuffer = (after, some idx)) (air : Air)
    {mem : Memory} {packet : Nat}
    (arrived : InPlace mem packet (relay sender.wep air (queuedFrame after idx))) {macAddr : Mac}
    (addressed : frame.destMac = macBytes macAddr ∨ frame.bytes.getD 0 0 &&& 1 ≠ 0) :
    ntrSendPacketToLwip macAddr packet (relay sender.wep air (queuedFrame after idx)).length mem =
      some frame.bytes := by
  have length := relay_length air sent
  rw [relay_eq air sent] at arrived
  rw [length]
  exact ntrSendPacketToLwip_data own addressed arrived

/-- A frame of type IP for all consoles, with five bytes of data. -/
def broadcastFrame : EthernetFrame where
  bytes := [0xFF, 0xFF, 0xFF, 0xFF, 0xFF, 0xFF, 1, 0, 2, 0, 3, 0, 0x08, 0x00, 0x45, 0, 0, 20, 7]
  header := by decide
  bounded := by decide

def emptyRing : TxRing where
  mem := fun _ => 0
  read := 0
  write := 0
  read_lt := by decide
  write_lt := by decide

theorem ethernet_round_trip_broadcast : ∃ after idx mem,
    ntrTransmitFunctionLink ⟨(1, 2, 3), (4, 5, 6), true⟩ broadcastFrame emptyRing.toBuffer = (after, some idx) ∧
      ntrSendPacketToLwip (7, 8, 9) 0 (relay true ⟨0x4208, 0, 0, by decide, by decide⟩
        (queuedFrame after idx)).length mem = some broadcastFrame.bytes := by
  have sent : (ntrTransmitFunctionLink ⟨(1, 2, 3), (4, 5, 6), true⟩ broadcastFrame
      emptyRing.toBuffer).2 = some 0 := by decide +kernel
  generalize result : ntrTransmitFunctionLink ⟨(1, 2, 3), (4, 5, 6), true⟩ broadcastFrame
    emptyRing.toBuffer = pair at sent
  obtain ⟨after, idx⟩ := pair
  obtain rfl : idx = some 0 := sent
  exact ⟨after, 0, writeBytes (fun _ => 0) 0 (relay true _ (queuedFrame after 0)), rfl,
    ethernet_round_trip (by decide) result _ (writeBytes_inPlace _ _ _) (.inr (by decide))⟩

end Dswifi.Lwip
