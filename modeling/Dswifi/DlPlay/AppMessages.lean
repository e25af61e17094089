import Mathlib.Data.Fintype.Basic
import Dswifi.TxQueue
import Dswifi.DlPlay.Polling

/-! The messages of an application and of the program it delivered: from the host
in a command frame, and back in a reply (arm9/ntr/multiplayer.c). A packet is what
a console takes from the air: the hardware has removed the TX header and the FCS. -/

namespace Dswifi.DlPlay

open Runs TxQueue
open MpHost hiding Mac

/-! The air. -/

/-- What the ARM7 and the hardware fill in: bits of the frame control beside those that
tell the kind of a frame, and fields of the header. -/
structure Medium where
  flags : UInt8
  fields : Nat → UInt8

def mediumByte (medium : Medium) (filled : Nat → Bool) (sent : UInt8) (pos : Nat) : UInt8 :=
  if pos = 1 then sent ||| (medium.flags &&& 0xFC)
  else if filled pos then medium.fields pos
  else sent

def txHeaderSize : Nat := 12
def fcsSize : Nat := 4
def ieeeHeaderSize : Nat := 24
def hostHeaderSize : Nat := ieeeHeaderSize + 4
def clientHeaderSize : Nat := ieeeHeaderSize + 2

/-- The duration, and from the sequence number up to `limit`: on a command, the two
halfwords about the clients come after it. -/
def filledField (limit pos : Nat) : Bool := pos = 2 ∨ pos = 3 ∨ 22 ≤ pos ∧ pos < limit

def sentByte (content : Content) (pos : Nat) : UInt8 :=
  (content.getD (txHeaderSize + pos) none).getD 0

def receivedPacket (medium : Medium) (limit : Nat) (frame : Frame) : List UInt8 :=
  (List.range (frame.size - (txHeaderSize + fcsSize))).map fun pos =>
    mediumByte medium (filledField limit) (sentByte frame.content pos) pos

/-! Handing a packet over. -/

inductive HostPacketType where
  | cmd
  | data
  deriving DecidableEq, Repr

/-- FC_TO_DS, FC_FROM_DS and FC_TYPE_SUBTYPE_MASK -/
def frameControlMask : Nat := 0x3FC

def macAt (packet : List UInt8) (pos : Nat) : Mac :=
  (UInt16.ofNat (u16At packet pos), UInt16.ofNat (u16At packet (pos + 2)),
    UInt16.ofNat (u16At packet (pos + 4)))

/-- Wifi_MultiplayerHandlePacketFromHost: what the handler of a client is given, if
anything. -/
def handlePacketFromHost (ownMac bssid : Mac) (packet : List UInt8) :
    Option (HostPacketType × List UInt8) :=
  if packet.length < hostHeaderSize then none else
    let control := u16At packet 0 &&& frameControlMask
    if control = typeDataCfPoll ||| fcFromDs then
      if macAt packet 4 ≠ wifiCmdMac then none
      else if macAt packet 16 ≠ bssid then none
      else some (.cmd, packet.drop hostHeaderSize)
    else if control = typeData ||| fcFromDs then
      if macAt packet 4 ≠ ownMac then none
      else if macAt packet 16 ≠ bssid then none
      else some (.data, packet.drop ieeeHeaderSize)
    else none

/-- Wifi_MultiplayerHandlePacketFromClient from the first check of the header on. The
byte in front of the body is the one that the handler reads as the port. -/
def receiveFromClient (ownMac : Mac) (packet : List UInt8) (world : World) : World :=
  if packet.length < clientHeaderSize then world else
    let control := u16At packet 0 &&& frameControlMask
    if control = typeDataCfAck ||| fcToDs then
      if macAt packet 16 ≠ wifiReplyMac then world
      else handlePacketFromClient .reply (macAt packet 10) (byteAt packet 25)
        (packet.drop clientHeaderSize) world
    else if control = typeData ||| fcToDs then
      if macAt packet 16 ≠ ownMac then world
      else handlePacketFromClient .data (macAt packet 10) (byteAt packet 25)
        (packet.drop clientHeaderSize) world
    else world

/-! The calls of the delivered program. -/

/-- DSWIFI_DLPLAY_REPLY_MAX_SIZE -/
def appReplyMaxSize : Nat := 7

/-- The data that Wifi_DlPlayAppReply hands to Wifi_MultiplayerClientReplyTxFrame. -/
def appReplyData (data : List UInt8) : Option (List UInt8) :=
  if data.length = 0 ∨ data.length > appReplyMaxSize then none else some (0x40 :: data)

/-- Wifi_DlPlayAppReadMessage: what is stored in a buffer of this size. -/
def appReadMessage (message : List UInt8) (size : Nat) : Option (List UInt8) :=
  if message.length < 3 then none else
    if byteAt message 2 ≠ cmdOpApp then none else
      let available := message.length - 3
      let available := if available > size then size else available
      some ((message.drop 3).take available)

/-! What arrives. -/

section Air
variable {medium : Medium} {frame : Frame} {headerSize limit : Nat}

theorem mediumByte_data {sent : UInt8} {pos : Nat} (behind : limit ≤ pos) (some : 24 ≤ limit) :
    mediumByte medium (filledField limit) sent pos = sent := by
  have kept : filledField limit pos = false := by
    simp only [filledField, decide_eq_false_iff_not]
    omega
  rw [mediumByte, if_neg (by omega), kept, if_neg (by decide)]

theorem sentByte_data (header : frame.header.length = txHeaderSize + headerSize) {i : Nat}
    (inside : i < frame.payload.bytes.length) :
    sentByte frame.content (headerSize + i) = frame.payload.bytes[i] := by
  rw [sentByte, Frame.content, List.append_assoc, List.getD_append_right _ _ _ _ (by omega),
    List.getD_append _ _ _ _ (by simp; omega)]
  have offset : txHeaderSize + (headerSize + i) - frame.header.length = i := by omega
  rw [offset, List.getD_eq_getElem _ _ (by simpa using inside)]
  simp

/-- A packet is its header, as far as it was not filled in on the way, and the data. -/
theorem receivedPacket_eq (header : frame.header.length = txHeaderSize + headerSize)
    (trailer : frame.trailer = fcsSize) (some : 24 ≤ limit) (inside : limit ≤ headerSize) :
    receivedPacket medium limit frame =
      (List.range headerSize).map (fun pos =>
        mediumByte medium (filledField limit) (sentByte frame.header pos) pos) ++
          frame.payload.bytes := by
  have size : frame.size - (txHeaderSize + fcsSize) = headerSize + frame.payload.bytes.length := by
    simp only [Frame.size, Frame.content, List.length_append, List.length_map, List.length_replicate,
      header, trailer]
    omega
  rw [receivedPacket, size, List.range_add, List.map_append]
  congr 1
  · refine List.map_congr_left fun pos member => ?_
    have before := List.mem_range.mp member
    rw [sentByte, sentByte, Frame.content, List.append_assoc, List.getD_append _ _ _ _ (by omega)]
  · rw [List.map_map]
    refine List.ext_getElem (by simp) fun i _ within => ?_
    rw [List.getElem_map, List.getElem_range, Function.comp_apply, mediumByte_data (by omega) some,
      sentByte_data header within]

theorem receivedPacket_length (header : frame.header.length = txHeaderSize + headerSize)
    (trailer : frame.trailer = fcsSize) (some : 24 ≤ limit) (inside : limit ≤ headerSize) :
    (receivedPacket medium limit frame).length = headerSize + frame.payload.bytes.length := by
  rw [receivedPacket_eq header trailer some inside]
  simp

theorem receivedPacket_drop (header : frame.header.length = txHeaderSize + headerSize)
    (trailer : frame.trailer = fcsSize) (some : 24 ≤ limit) (inside : limit ≤ headerSize) :
    (receivedPacket medium limit frame).drop headerSize = frame.payload.bytes := by
  rw [receivedPacket_eq header trailer some inside, List.drop_append_of_le_length (by simp)]
  simp

theorem receivedPacket_byte (header : frame.header.length = txHeaderSize + headerSize)
    (trailer : frame.trailer = fcsSize) (some : 24 ≤ limit) (inside : limit ≤ headerSize)
    {pos : Nat} (before : pos < headerSize) :
    byteAt (receivedPacket medium limit frame) pos =
      mediumByte medium (filledField limit) (sentByte frame.header pos) pos := by
  rw [byteAt, receivedPacket_eq header trailer some inside, List.getD_append _ _ _ _ (by simpa),
    List.getD_eq_getElem _ _ (by simpa)]
  simp

end Air

/-! The header that a receiver looks at. -/

theorem u16_ofNat (value : UInt16) : UInt16.ofNat ((UInt8.ofNat value.toNat).toNat +
    256 * (UInt8.ofNat (value.toNat / 256)).toNat) = value := by
  have bound := value.toNat_lt
  apply UInt16.toNat.inj
  simp only [UInt8.toNat_ofNat', UInt16.toNat_ofNat']
  omega

theorem macAt_eq {packet : List UInt8} {pos : Nat} {macaddr : Mac}
    (bytes : ∀ i, i < 6 → byteAt packet (pos + i) = (macBytes macaddr).getD i 0) :
    macAt packet pos = macaddr := by
  have one := bytes 0 (by decide)
  have two := bytes 1 (by decide)
  have three := bytes 2 (by decide)
  have four := bytes 3 (by decide)
  have five := bytes 4 (by decide)
  have six := bytes 5 (by decide)
  simp only [macBytes, u16, List.cons_append, List.nil_append, List.getD_cons_zero,
    List.getD_cons_succ, Nat.add_zero] at one two three four five six
  simp only [macAt, u16At, one, two, three, four, five, six, Nat.add_assoc, Nat.reduceAdd, u16_ofNat]

theorem sentByte_written {front : List UInt8} (middle back : List UInt8) {pos i : Nat}
    (length : front.length = txHeaderSize + pos) (inside : i < middle.length) :
    sentByte (written (front ++ (middle ++ back))) (pos + i) = middle.getD i 0 := by
  have place : txHeaderSize + (pos + i) = front.length + i := by omega
  simp only [sentByte, written, place, List.getD_eq_getElem?_getD, List.getElem?_map]
  rw [List.getElem?_append_right (Nat.le_add_right _ _), Nat.add_sub_cancel_left,
    List.getElem?_append_left inside, List.getElem?_eq_getElem inside]
  rfl

section Header
variable (medium : Medium) {frame : Frame} (limit : Nat) {headerSize : Nat}
  (rate length control : Nat) (addr1 addr2 addr3 : Mac) (rest : List UInt8)

theorem sentByte_ieee (i : Nat) (inside : i < 6) :
    sentByte (written (txHeader rate length ++ ieeeHeader control addr1 addr2 addr3 ++ rest))
        (4 + i) = (macBytes addr1).getD i 0 ∧
      sentByte (written (txHeader rate length ++ ieeeHeader control addr1 addr2 addr3 ++ rest))
        (10 + i) = (macBytes addr2).getD i 0 ∧
      sentByte (written (txHeader rate length ++ ieeeHeader control addr1 addr2 addr3 ++ rest))
        (16 + i) = (macBytes addr3).getD i 0 := by
  have first := @sentByte_written (txHeader rate length ++ u16 control ++ u16 0) (macBytes addr1)
    (macBytes addr2 ++ macBytes addr3 ++ u16 0 ++ rest) 4 i rfl inside
  have second := @sentByte_written (txHeader rate length ++ u16 control ++ u16 0 ++ macBytes addr1)
    (macBytes addr2) (macBytes addr3 ++ u16 0 ++ rest) 10 i rfl inside
  have third := @sentByte_written
    (txHeader rate length ++ u16 control ++ u16 0 ++ macBytes addr1 ++ macBytes addr2)
    (macBytes addr3) (u16 0 ++ rest) 16 i rfl inside
  simp only [ieeeHeader, List.append_assoc] at first second third ⊢
  exact ⟨first, second, third⟩

/-- The addresses arrive as they were sent, and the frame control as far as it tells
the kind of the frame. -/
theorem received_header (header : frame.header = written (txHeader rate length ++
      ieeeHeader control addr1 addr2 addr3 ++ rest))
    (size : frame.header.length = txHeaderSize + headerSize) (trailer : frame.trailer = fcsSize)
    (some : 24 ≤ limit) (inside : limit ≤ headerSize) :
    macAt (receivedPacket medium limit frame) 4 = addr1 ∧
      macAt (receivedPacket medium limit frame) 10 = addr2 ∧
      macAt (receivedPacket medium limit frame) 16 = addr3 ∧
      u16At (receivedPacket medium limit frame) 0 = (UInt8.ofNat control).toNat +
        256 * (UInt8.ofNat (control / 256) ||| (medium.flags &&& 0xFC)).toNat := by
  have byte : ∀ pos, pos < headerSize → byteAt (receivedPacket medium limit frame) pos =
      mediumByte medium (filledField limit) (sentByte frame.header pos) pos :=
    fun pos before => receivedPacket_byte size trailer some inside before
  -- the addresses are behind the field that the hardware fills in
  have plain : ∀ pos, 4 ≤ pos → pos < 22 → byteAt (receivedPacket medium limit frame) pos =
      sentByte frame.header pos := by
    intro pos low high
    have kept : filledField limit pos = false := by
      simp only [filledField, decide_eq_false_iff_not]
      omega
    rw [byte pos (by omega), mediumByte, if_neg (by omega), kept, if_neg (by decide)]
  have bytes := sentByte_ieee rate length control addr1 addr2 addr3 rest
  rw [← header] at bytes
  refine ⟨macAt_eq fun i few => ?_, macAt_eq fun i few => ?_, macAt_eq fun i few => ?_, ?_⟩
  · rw [plain _ (by omega) (by omega)]
    exact (bytes i few).1
  · rw [plain _ (by omega) (by omega)]
    exact (bytes i few).2.1
  · rw [plain _ (by omega) (by omega)]
    exact (bytes i few).2.2
  · rw [u16At, byte 0 (by omega), byte 1 (by omega), header]
    rfl

end Header

/-- The other bits of the frame control do not change the kind of a frame. -/
theorem frameControl_kept (flags : UInt8) :
    ((UInt8.ofNat (typeDataCfPoll ||| fcFromDs)).toNat +
        256 * (UInt8.ofNat ((typeDataCfPoll ||| fcFromDs) / 256) ||| (flags &&& 0xFC)).toNat) &&&
          frameControlMask = typeDataCfPoll ||| fcFromDs ∧
    ((UInt8.ofNat (typeDataCfAck ||| fcToDs)).toNat +
        256 * (UInt8.ofNat ((typeDataCfAck ||| fcToDs) / 256) ||| (flags &&& 0xFC)).toNat) &&&
          frameControlMask = typeDataCfAck ||| fcToDs := by
  have each : ∀ i : Fin 256, ((UInt8.ofNat (typeDataCfPoll ||| fcFromDs)).toNat +
        256 * (UInt8.ofNat ((typeDataCfPoll ||| fcFromDs) / 256) |||
          (UInt8.ofNat i.val &&& 0xFC)).toNat) &&&
          frameControlMask = typeDataCfPoll ||| fcFromDs ∧
    ((UInt8.ofNat (typeDataCfAck ||| fcToDs)).toNat +
        256 * (UInt8.ofNat ((typeDataCfAck ||| fcToDs) / 256) |||
          (UInt8.ofNat i.val &&& 0xFC)).toNat) &&&
          frameControlMask = typeDataCfAck ||| fcToDs := by decide +kernel
  have this := each ⟨flags.toNat, flags.toNat_lt⟩
  rwa [UInt8.ofNat_toNat] at this

section Arrival
variable (medium : Medium) (station : Station) (data : Payload)

theorem command_arrives (ownMac : Mac) :
    handlePacketFromHost ownMac station.macAddr
      (receivedPacket medium hostHeaderSize (multiplayerHostCmdTxFrame station data)) =
        some (.cmd, data.bytes) := by
  have size : (multiplayerHostCmdTxFrame station data).header.length =
      txHeaderSize + hostHeaderSize := rfl
  obtain ⟨addr1, _, addr3, control⟩ := received_header medium hostHeaderSize transferRate2Mbps
    (28 + data.bytes.length + 4) (typeDataCfPoll ||| fcFromDs) wifiCmdMac station.macAddr
    station.macAddr (u16 0 ++ u16 0) rfl size rfl (by decide) (Nat.le_refl _)
  have kind := (frameControl_kept medium.flags).1
  rw [← control] at kind
  have length : ¬ (receivedPacket medium hostHeaderSize
      (multiplayerHostCmdTxFrame station data)).length < hostHeaderSize := by
    rw [receivedPacket_length size rfl (by decide) (Nat.le_refl _)]
    omega
  simp only [handlePacketFromHost, if_neg length, kind, if_true, addr1, addr3, ne_eq,
    not_true_eq_false, if_false, receivedPacket_drop size rfl (by decide) (Nat.le_refl _)]
  rfl

/-- The byte that the handler reads as the port is the pad byte of a client. -/
theorem reply_arrives (ownMac : Mac) (world : World) :
    receiveFromClient ownMac
      (receivedPacket medium ieeeHeaderSize (multiplayerClientReplyTxFrame station data)) world =
        handlePacketFromClient .reply station.macAddr 0 data.bytes world := by
  have size : (multiplayerClientReplyTxFrame station data).header.length =
      txHeaderSize + clientHeaderSize := rfl
  obtain ⟨_, addr2, addr3, control⟩ := received_header medium ieeeHeaderSize transferRate2Mbps
    (26 + data.bytes.length + 4) (typeDataCfAck ||| fcToDs) station.bssid station.macAddr wifiReplyMac
    [station.curClientAID, 0] rfl size rfl (by decide) (by decide)
  have kind := (frameControl_kept medium.flags).2
  rw [← control] at kind
  have length : ¬ (receivedPacket medium ieeeHeaderSize
      (multiplayerClientReplyTxFrame station data)).length < clientHeaderSize := by
    rw [receivedPacket_length size rfl (by decide) (by decide)]
    omega
  have pad : byteAt (receivedPacket medium ieeeHeaderSize
      (multiplayerClientReplyTxFrame station data)) 25 = 0 := by
    rw [receivedPacket_byte size rfl (by decide) (by decide) (by decide)]
    rfl
  have body : (receivedPacket medium ieeeHeaderSize
      (multiplayerClientReplyTxFrame station data)).drop clientHeaderSize = data.bytes :=
    receivedPacket_drop size rfl (by decide) (by decide)
  simp only [receiveFromClient, if_neg length, kind, if_true, addr2, addr3, ne_eq,
    not_true_eq_false, if_false, pad, body]

end Arrival

/-! The message. -/

/-- What is read of a message: as much of the list of clients behind it as the buffer
has room for. -/
theorem appReadMessage_eq (first header : UInt8) (message list : List UInt8) (size : Nat) :
    appReadMessage ([first, header, cmdOpApp] ++ message ++ list) size =
      some ((message ++ list).take size) := by
  have long : ¬ ([first, header, cmdOpApp] ++ message ++ list).length < 3 := by simp
  have opcode : byteAt ([first, header, cmdOpApp] ++ message ++ list) 2 = cmdOpApp := rfl
  rw [appReadMessage, if_neg long, if_neg (fun other => other opcode)]
  have rest : ([first, header, cmdOpApp] ++ message ++ list).drop 3 = message ++ list := rfl
  have count : ([first, header, cmdOpApp] ++ message ++ list).length - 3 =
      (message ++ list).length := by
    simp only [List.length_append, List.length_cons, List.length_nil]
    omega
  dsimp only
  rw [rest, count]
  split
  · rfl
  · rw [List.take_length, List.take_of_length_le (by omega)]

theorem take_message {message list : List UInt8} {size : Nat} (listed : 0 < list.length)
    (large : message.length ≤ size) :
    (message ++ list).take size = message ↔ size = message.length := by
  constructor
  · intro exact
    have length := congrArg List.length exact
    rw [List.length_take, List.length_append] at length
    omega
  · rintro rfl
    exact List.take_left

theorem sendApp_bytes {pass : Pass} {world : World} {dest : Mask} {bytes : List UInt8} {queued : Bool}
    (sent : .frame bytes queued ∈ (sendApp pass world dest).log.drop world.log.length) :
    ∃ first list, list.length = 2 ∧
      bytes = [first, flagsNormal, cmdOpApp] ++ world.host.appOut ++ list := by
  have spoken : Speaks (fun built message => built = world ∧ message = .command .app dest) world
      (sendApp pass world dest) := speaks_sendApp pass dest world ⟨rfl, rfl⟩
  obtain ⟨built, message, _, ⟨rfl, rfl⟩, laid⟩ := spoken.log.drop _ sent
  simp only [messageFrame, commandPayload, Option.bind_some] at laid
  have listed : flagsNormal &&& flagsHasFooter ≠ 0 := by decide
  have header : commandHeader .app = flagsNormal := rfl
  simp only [cmdStart, header, if_pos listed, Option.ite_none_left_eq_some, Option.some.injEq] at laid
  obtain ⟨_, rfl⟩ := laid
  exact ⟨_, _, rfl, rfl⟩

/-- The handler of the application is given a reply as the program gave it. -/
theorem appReply_heard {world : World} {macaddr : Mac} {aid : Nat} {data reply : List UInt8}
    (accepted : appReplyData data = some reply) (hears : Hears world .reply macaddr aid)
    (handler : world.host.appHandler = true) :
    (handlePacketFromClient .reply macaddr 0 reply world).log =
      world.log ++ [.appMessage aid data] := by
  obtain ⟨_, active, member, sender⟩ := hears
  have valid := (aidValid_iff aid).mpr member
  have range := (mem_aids aid).mp member
  have few : data.length ≤ 7 ∧ reply = 0x40 :: data := by
    unfold appReplyData at accepted
    split at accepted
    · cases accepted
    · rename_i fits
      simp only [appReplyMaxSize] at fits
      exact ⟨by omega, (Option.some.inj accepted).symm⟩
  obtain ⟨few, rfl⟩ := few
  have short : ¬ ((0x40 :: data).length > replyMaxSize ∨ (0x40 :: data).length = 0 ∨
      replyPort 0 ≠ none) := by
    have port : replyPort 0 = none := by decide
    simp only [port, List.length_cons, replyMaxSize, ne_eq, not_true_eq_false, or_false]
    omega
  have opcode : replyOp (byteAt (0x40 :: data) 0) = some .app := rfl
  have some : ¬ aid = 0 := by omega
  simp only [handlePacketFromClient, sender, if_neg some, fromClientHandler, active, valid, replyHost,
    if_neg short, opcode]
  simp [World.setClient, World.note, handler]

/-- What a console reads of a message that Wifi_DlPlaySendApp handed out. -/
def MessageRead (medium : Medium) (station : Station) (ownMac : Mac) (data : Payload) (size : Nat)
    (read : Option (List UInt8)) : Prop :=
  ∃ message, handlePacketFromHost ownMac station.macAddr
      (receivedPacket medium hostHeaderSize (multiplayerHostCmdTxFrame station data)) =
        some (.cmd, message) ∧ appReadMessage message size = read

/-- A buffer of exactly the size of the message is needed to read the message as it
was sent. A reply reaches the host as it was sent. -/
theorem app_messages_exact_iff (world : World) (medium : Medium) (station : Station)
    (ownMac : Mac) (data : Payload) :
    (∀ pass dest queued size,
      .frame data.bytes queued ∈ (sendApp pass world dest).log.drop world.log.length →
      world.host.appOut.length ≤ size →
        (MessageRead medium station ownMac data size (some world.host.appOut) ↔
          size = world.host.appOut.length)) ∧
    (∀ reply aid, appReplyData reply = some data.bytes → Hears world .reply station.macAddr aid →
      world.host.appHandler = true →
        (receiveFromClient ownMac (receivedPacket medium ieeeHeaderSize
          (multiplayerClientReplyTxFrame station data)) world).log =
            world.log ++ [.appMessage aid reply]) := by
  constructor
  · intro pass dest queued size sent large
    obtain ⟨first, list, two, bytes⟩ := sendApp_bytes sent
    have read : MessageRead medium station ownMac data size (some world.host.appOut) ↔
        appReadMessage data.bytes size = some world.host.appOut := by
      rw [MessageRead, command_arrives]
      constructor
      · rintro ⟨message, same, read⟩
        obtain rfl := (Prod.mk.inj (Option.some.inj same)).2
        exact read
      · exact fun read => ⟨data.bytes, rfl, read⟩
    rw [read, bytes, appReadMessage_eq, Option.some.injEq]
    exact take_message (by omega) large
  · intro reply aid accepted hears handler
    rw [reply_arrives]
    exact appReply_heard accepted hears handler

def plainStation : Station where
  macAddr := (1, 2, 3)
  bssid := (1, 2, 3)
  curClientAID := 1
  wep := false
  multiplayerClientGetMacFromAID _ := none

def quietMedium : Medium := { flags := 0, fields := fun _ => 0 }

def appFrame : Payload := ⟨[2, flagsNormal, cmdOpApp, 1, 2, 3, 0, 0], by decide⟩

theorem appFrame_sent : .frame appFrame.bytes true ∈
    (sendApp plainPass (appWorld [1, 2, 3]) 0).log.drop (appWorld [1, 2, 3]).log.length := by
  decide

theorem app_messages_exact_three :
    MessageRead quietMedium plainStation (4, 5, 6) appFrame 3 (some [1, 2, 3]) :=
  ((app_messages_exact_iff (appWorld [1, 2, 3]) quietMedium plainStation (4, 5, 6) appFrame).1
    plainPass 0 true 3 appFrame_sent (by decide)).mpr (by decide)

/-- Into a buffer of 64 bytes, the list of clients is read as part of the message. -/
theorem app_message_longer : ¬ ∀ (world : World) (medium : Medium) (station : Station) (ownMac : Mac)
    (data : Payload) (pass : Pass) (dest : Mask) (queued : Bool) (size : Nat),
    .frame data.bytes queued ∈ (sendApp pass world dest).log.drop world.log.length →
    world.host.appOut.length ≤ size →
      MessageRead medium station ownMac data size (some world.host.appOut) := by
  intro exact
  obtain ⟨message, given, read⟩ := exact (appWorld [1, 2, 3]) quietMedium plainStation (4, 5, 6)
    appFrame plainPass 0 true 64 appFrame_sent (by decide)
  rw [command_arrives, Option.some.injEq, Prod.mk.injEq] at given
  obtain ⟨_, rfl⟩ := given
  exact absurd read (by decide)

end Dswifi.DlPlay
