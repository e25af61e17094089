import Dswifi.Lwip.Ethernet
import Dswifi.BeaconReads

/-! Which bytes of a received packet are looked at, and which are handed to lwIP
(arm9/lwip/rx_tx.c and arm9/wifi_arm9.c). Places are counted from the start of the
packet. Its size is not compared with that of the headers. -/

namespace Dswifi.Lwip

open BeaconFrame (TextInside half within_half macBytes)
open ByteMemory Reading RingBuffer
open MpHost (Mac)

/-- sizeof(mbox_hdr_rx_data_packet) -/
def mboxHeader : Nat := 24

/-- What dswifi_send_data_to_lwip is given, and the Ethernet header that is written to
the start of it. -/
structure Handed where
  lwipBuffer : Nat
  ethHeader : List UInt8
  lwipBufferSize : Nat
  deriving DecidableEq, Repr

/-- Wifi_NTR_SendPacketToLwip -/
def ntrHandOver (macAddr : Mac) (size : Nat) : Reading (Option Handed) := do
  let frameControl ← half 0
  if frameControl &&& (fcToDs ||| fcTypeSubtypeMask) ≠ typeData then pure none
  else
    let addr1 ← bytes 4 6
    let first ← byte 4
    if ¬(addr1 = macBytes macAddr ∨ first &&& 1 ≠ 0) then pure none
    else
      if ← startsWith snapTag dataHeader then
        let etherType ← bytes (dataHeader + 6) 2
        let destMac ← bytes 4 6
        let srcMac ← bytes (if frameControl &&& fcFromDs ≠ 0 then 16 else 10) 6
        let dataSize := u32 (size + 4294967296 - dataHeader - snapHeader)
        pure (some {
          lwipBuffer := dataHeader + snapHeader - ethernetHeader
          ethHeader := destMac ++ srcMac ++ etherType
          lwipBufferSize := u32 (ethernetHeader + dataSize) })
      else pure none

/-- Wifi_TWL_SendPacketToLwip -/
def twlHandOver (size : Nat) : Reading (Option Handed) := do
  let destMac ← bytes 2 6
  let srcMac ← bytes 8 6
  let etherType ← bytes 22 2
  pure (some {
    lwipBuffer := mboxHeader - ethernetHeader
    ethHeader := destMac ++ srcMac ++ etherType
    lwipBufferSize := u32 (u32 (size + 4294967296 - mboxHeader) + ethernetHeader) })

/-- Wifi_SendPacketToLwip -/
def handOver (dsiMode : Bool) (macAddr : Mac) (size : Nat) : Reading (Option Handed) :=
  if dsiMode then twlHandOver size else ntrHandOver macAddr size

/-- The headers in front of the data, whose size is subtracted from that of the packet. -/
def headers (dsiMode : Bool) : Nat := if dsiMode then mboxHeader else dataHeader + snapHeader

/-- The packet that the loops of Wifi_NTR_Update and Wifi_TWL_Update find at the read
index: where it is and its size. -/
def packetAt (ring : Memory) (readIdx : Nat) : Option (Nat × Nat) :=
  let size := readU32 ring readIdx
  if size = 0 then none
  else if size = sizeWrap then
    let size := readU32 ring 0
    if size = 0 then none else some (4, size)
  else some (readIdx + 4, size)

/-- Everything that is done with the packet is done inside of it. -/
structure PacketInside (dsiMode : Bool) (macAddr : Mac) (size : Nat) (packet : Memory) : Prop where
  reads : Within size (handOver dsiMode macAddr size) packet
  lengths : ∀ handed, (handOver dsiMode macAddr size).value packet = some handed → headers dsiMode ≤ size
  header : ∀ handed, (handOver dsiMode macAddr size).value packet = some handed →
    handed.lwipBuffer + handed.ethHeader.length ≤ size
  buffer : ∀ handed, (handOver dsiMode macAddr size).value packet = some handed →
    handed.lwipBuffer + handed.lwipBufferSize ≤ size

/-- A data frame that does not go to the access point. -/
def IsData (packet : Memory) : Prop :=
  (half 0).value packet &&& (fcToDs ||| fcTypeSubtypeMask) = typeData

/-- It is for this console or for many. -/
def IsForUs (macAddr : Mac) (packet : Memory) : Prop :=
  readBytes packet 4 6 = macBytes macAddr ∨ packet 4 &&& 1 ≠ 0

/-- The packet has the headers that are looked at. -/
def HeadersInside (dsiMode : Bool) (macAddr : Mac) (size : Nat) (packet : Memory) : Prop :=
  if dsiMode then mboxHeader ≤ size
  else 2 ≤ size ∧ (IsData packet → 10 ≤ size ∧ (IsForUs macAddr packet →
    TextInside size packet dataHeader snapTag ∧
      (InPlace packet dataHeader snapTag → dataHeader + snapHeader ≤ size)))

variable {macAddr : Mac} {size : Nat} {packet : Memory}

theorem packetAt_size {ring : Memory} {readIdx pos : Nat} (found : packetAt ring readIdx = some (pos, size)) :
    0 < size ∧ size < 4294967296 := by
  have at' (place : Nat) (same : readU32 ring place = size) (some : readU32 ring place ≠ 0) :
      0 < size ∧ size < 4294967296 :=
    ⟨by rw [← same]; exact Nat.pos_of_ne_zero some, by rw [← same]; exact readU32_lt _ _⟩
  unfold packetAt at found
  dsimp only at found
  split at found
  · cases found
  · rename_i first
    split at found
    · split at found
      · cases found
      · rename_i second
        cases found
        exact at' 0 rfl second
    · cases found
      exact at' readIdx rfl first

/-- What the DS path hands on, if the packet is data for this console. -/
theorem ntrHandOver_some {handed : Handed} (given : (ntrHandOver macAddr size).value packet = some handed) :
    IsData packet ∧ IsForUs macAddr packet ∧ InPlace packet dataHeader snapTag ∧
      handed.lwipBuffer = 18 ∧ handed.ethHeader.length = 14 ∧
      handed.lwipBufferSize = u32 (14 + u32 (size + 4294967296 - dataHeader - snapHeader)) := by
  rw [ntrHandOver, value_bind] at given
  split at given
  · cases given
  · rename_i data
    rw [value_bind, value_bind] at given
    split at given
    · cases given
    · rename_i ours
      rw [value_bind, value_startsWith] at given
      split at given
      · rename_i tag
        simp only [value_bind, value_bytes, value_pure, Option.some.injEq] at given
        subst given
        exact ⟨not_not.mp data, not_not.mp ours, of_decide_eq_true tag, rfl, by simp, rfl⟩
      · cases given

theorem within_ntrHandOver : Within size (ntrHandOver macAddr size) packet ↔
    HeadersInside false macAddr size packet := by
  have tagSize : snapTag.length = 6 := rfl
  have header : dataHeader = 24 := rfl
  have snap : snapHeader = 8 := rfl
  rw [ntrHandOver, HeadersInside, if_neg (by decide), within_bind, within_half]
  refine and_congr (by omega) ?_
  -- each test of the function lets it read further
  by_cases data : IsData packet
  · have goes : ¬(half 0).value packet &&& (fcToDs ||| fcTypeSubtypeMask) ≠ typeData := not_not.mpr data
    rw [if_neg goes, within_bind, within_bytes, within_bind, within_byte]
    simp only [data, true_imp_iff]
    by_cases ours : IsForUs macAddr packet
    · have stays : ¬¬((bytes 4 6).value packet = macBytes macAddr ∨ (byte 4).value packet &&& 1 ≠ 0) :=
        not_not.mpr ours
      rw [if_neg stays, within_bind, within_startsWith, value_startsWith]
      simp only [ours, true_imp_iff]
      by_cases tag : readBytes packet dataHeader snapTag.length = snapTag
      · rw [if_pos (decide_eq_true tag)]
        simp only [within_bind, within_bytes, within_pure, and_true]
        have source : (if (half 0).value packet &&& fcFromDs ≠ 0 then 16 else 10) + 6 ≤ 22 := by
          split <;> decide
        constructor
        · rintro ⟨_, _, text, type, _, _⟩
          exact ⟨by omega, text, fun _ => by omega⟩
        · rintro ⟨_, text, long⟩
          have all := long tag
          exact ⟨by omega, by omega, text, by omega, by omega, by omega⟩
      · rw [if_neg (fun same => tag (of_decide_eq_true same))]
        simp only [within_pure, and_true]
        constructor
        · rintro ⟨_, _, text⟩
          exact ⟨by omega, text, fun same => absurd same tag⟩
        · rintro ⟨_, text, _⟩
          exact ⟨by omega, by omega, text⟩
    · have leaves : ¬((bytes 4 6).value packet = macBytes macAddr ∨ (byte 4).value packet &&& 1 ≠ 0) := ours
      rw [if_pos leaves]
      simp only [within_pure, and_true, ours, false_imp_iff]
      omega
  · have stops : (half 0).value packet &&& (fcToDs ||| fcTypeSubtypeMask) ≠ typeData := data
    rw [if_pos stops]
    simp [data]

theorem within_handOver (dsiMode : Bool) : Within size (handOver dsiMode macAddr size) packet ↔
    HeadersInside dsiMode macAddr size packet := by
  cases dsiMode with
  | false =>
      rw [handOver, if_neg (by decide)]
      exact within_ntrHandOver
  | true =>
      have mbox : mboxHeader = 24 := rfl
      rw [handOver, if_pos rfl, HeadersInside, if_pos rfl, twlHandOver]
      simp only [within_bind, within_bytes, within_pure, and_true]
      omega

/-- A packet that is handed on has its headers, if these are looked at inside of it. -/
theorem handOver_some {dsiMode : Bool} {handed : Handed} (inside : HeadersInside dsiMode macAddr size packet)
    (bounded : size < 4294967296) (given : (handOver dsiMode macAddr size).value packet = some handed) :
    headers dsiMode ≤ size ∧ handed.lwipBuffer + handed.ethHeader.length = headers dsiMode ∧
      handed.lwipBuffer + handed.lwipBufferSize = size := by
  have header : dataHeader = 24 := rfl
  have snap : snapHeader = 8 := rfl
  have mbox : mboxHeader = 24 := rfl
  have ethernet : ethernetHeader = 14 := rfl
  cases dsiMode with
  | false =>
      rw [handOver, if_neg (by decide)] at given
      obtain ⟨data, ours, tag, buffer, length, size'⟩ := ntrHandOver_some given
      rw [HeadersInside, if_neg (by decide)] at inside
      have long := ((inside.2 data).2 ours).2 tag
      rw [headers, if_neg (by decide), buffer, length, size', u32, u32]
      omega
  | true =>
      rw [HeadersInside, if_pos rfl] at inside
      rw [handOver, if_pos rfl, twlHandOver] at given
      simp only [value_bind, value_bytes, value_pure, Option.some.injEq] at given
      subst given
      rw [headers, if_pos rfl]
      simp only [List.length_append, readBytes_length, u32]
      omega

theorem readBytes_shift (mem : Memory) (start pos length : Nat) :
    readBytes (fun i => mem (start + i)) pos length = readBytes mem (start + pos) length := by
  rw [readBytes, readBytes, ← List.map_add_range', List.map_map]
  rfl

/-- What lwIP gets of a packet with all headers is what it is handed. -/
theorem ntrSendPacketToLwip_handed (mem : Memory) (start : Nat) (long : dataHeader + snapHeader ≤ size)
    (bounded : size < 4294967296) :
    ntrSendPacketToLwip macAddr start size mem =
      ((ntrHandOver macAddr size).value fun i => mem (start + i)).map fun handed =>
        readBytes (writeBytes mem (start + handed.lwipBuffer) handed.ethHeader) (start + handed.lwipBuffer)
          handed.lwipBufferSize := by
  have header : dataHeader = 24 := rfl
  have snap : snapHeader = 8 := rfl
  have ethernet : ethernetHeader = 14 := rfl
  have same : u32 (ethernetHeader + u32 (size + 4294967296 - dataHeader - snapHeader)) =
      ethernetHeader + u32 (size + 4294967296 - dataHeader - snapHeader) := by
    simp only [u32]
    omega
  have place : start + (dataHeader + snapHeader - ethernetHeader) =
      start + dataHeader + snapHeader - ethernetHeader := by omega
  have control : (half 0).value (fun i => mem (start + i)) =
      (mem start).toUInt16 ||| (mem (start + 1)).toUInt16 <<< 8 := rfl
  -- both make the same tests, in the frame itself and in a packet of its own
  rw [ntrSendPacketToLwip, ntrHandOver, value_bind, control]
  dsimp only
  split
  · rfl
  · rw [value_bind, value_bind, value_bytes, value_byte, readBytes_shift]
    split
    · rfl
    · rw [value_bind, value_startsWith, readBytes_shift]
      by_cases tag : readBytes mem (start + dataHeader) snapTag.length = snapTag
      · have known : ¬readBytes mem (start + dataHeader) 6 ≠ snapTag := not_not.mpr tag
        rw [if_neg known, if_pos (decide_eq_true tag)]
        simp only [value_bind, value_bytes, value_pure, readBytes_shift, Option.map_some, same, place]
        split
        · rfl
        · rfl
      · have other : readBytes mem (start + dataHeader) 6 ≠ snapTag := tag
        rw [if_pos other, if_neg (fun same => tag (of_decide_eq_true same))]
        rfl

theorem packetInside_of_headers {dsiMode : Bool} (inside : HeadersInside dsiMode macAddr size packet)
    (bounded : size < 4294967296) : PacketInside dsiMode macAddr size packet where
  reads := (within_handOver dsiMode).mpr inside
  lengths _ given := (handOver_some inside bounded given).1
  header _ given := by
    obtain ⟨long, header, _⟩ := handOver_some inside bounded given
    omega
  buffer _ given := Nat.le_of_eq (handOver_some inside bounded given).2.2

/-- A frame that a console has sent and the access point relays is handed on inside of its
bounds, though its size is not looked at, and what lwIP is handed is the frame. -/
theorem relayed_handed {sender : Link} {frame : EthernetFrame} {ring : TxRing} {after : Buffer} {idx : Nat}
    (own : macBytes sender.macAddr = frame.srcMac)
    (sent : ntrTransmitFunctionLink sender frame ring.toBuffer = (after, some idx)) (air : Air) {mem : Memory}
    {start : Nat} (arrived : InPlace mem start (relay sender.wep air (queuedFrame after idx)))
    (addressed : frame.destMac = macBytes macAddr ∨ frame.bytes.getD 0 0 &&& 1 ≠ 0)
    (whole : size = (relay sender.wep air (queuedFrame after idx)).length) :
    PacketInside false macAddr size (fun i => mem (start + i)) ∧
      ∃ handed, (ntrHandOver macAddr size).value (fun i => mem (start + i)) = some handed ∧
        readBytes (writeBytes mem (start + handed.lwipBuffer) handed.ethHeader) (start + handed.lwipBuffer)
          handed.lwipBufferSize = frame.bytes := by
  have length := whole.trans (relay_length air sent)
  have long : dataHeader + snapHeader ≤ size := length ▸ Nat.le_add_right _ _
  have bounded : size < 4294967296 := by
    have short := frame.bounded
    simp only [dataHeader, snapHeader] at length
    omega
  have tag : dataHeader + snapTag.length ≤ size := Nat.le_trans (by decide) long
  constructor
  · apply packetInside_of_headers _ bounded
    rw [HeadersInside, if_neg Bool.false_ne_true]
    simp only [dataHeader, snapHeader] at long
    exact ⟨by omega, fun _ => ⟨by omega, fun _ => ⟨fun k inside _ => by omega, fun _ => long⟩⟩⟩
  · rw [relay_eq air sent] at arrived
    have given := ntrSendPacketToLwip_data own addressed arrived
    rw [← length, ntrSendPacketToLwip_handed mem start long bounded] at given
    exact Option.map_eq_some_iff.mp given

/-- A packet of the ring is looked at and handed to lwIP inside of its bounds exactly when
it has the headers that are looked at. -/
theorem received_inside_iff {ring : Memory} {readIdx pos size : Nat}
    (found : packetAt ring readIdx = some (pos, size)) (dsiMode : Bool) (macAddr : Mac) :
    PacketInside dsiMode macAddr size (fun i => ring (pos + i)) ↔
      HeadersInside dsiMode macAddr size (fun i => ring (pos + i)) := by
  constructor
  · intro inside
    exact (within_handOver dsiMode).mp inside.reads
  · intro inside
    exact packetInside_of_headers inside (packetAt_size found).2

/-- A data frame of 24 bytes for the console 1: there is nothing behind its header. -/
def emptyData (i : Nat) : UInt8 := if i = 0 then 24 else if i = 4 then 8 else if i = 5 then 2 else 0

theorem empty_data_read_behind : ¬∀ (ring : Memory) (readIdx pos size : Nat) (dsiMode : Bool) (macAddr : Mac),
    packetAt ring readIdx = some (pos, size) →
      PacketInside dsiMode macAddr size (fun i => ring (pos + i)) := by
  intro all
  have inside := (all emptyData 0 4 24 false (0, 0, 0) (by decide)).reads 24 (by decide +kernel)
  exact absurd inside (by decide)

/-- A data frame of 36 bytes for the console (1, 2, 3), with an IP packet of four bytes. -/
def ipData : Memory :=
  writeBytes (fun _ => 0) 0 ([36, 0, 0, 0, 8, 2, 0, 0, 1, 0, 2, 0, 3, 0, 4, 0, 5, 0, 6, 0, 7, 0, 8, 0, 9, 0, 0, 0] ++
    snapTag ++ [8, 0, 0x45, 0, 0, 4])

/-- A packet of the DSi that is nothing but its header, and one of the DS that goes to lwIP. -/
theorem received_inside_mbox :
    PacketInside true (0, 0, 0) 24 (fun i => emptyData (4 + i)) ∧
      PacketInside false (1, 2, 3) 36 (fun i => ipData (4 + i)) ∧
      (handOver false (1, 2, 3) 36).value (fun i => ipData (4 + i)) =
        some ⟨18, [1, 0, 2, 0, 3, 0, 7, 0, 8, 0, 9, 0, 8, 0], 18⟩ := by
  refine ⟨(@received_inside_iff emptyData 0 4 24 (by decide) true (0, 0, 0)).mpr ?_,
    (@received_inside_iff ipData 0 4 36 (by decide) false (1, 2, 3)).mpr ?_, by decide +kernel⟩
  · rw [HeadersInside, if_pos rfl]
    decide
  · rw [HeadersInside, if_neg Bool.false_ne_true]
    refine ⟨by decide, fun _ => ⟨by decide, fun _ => ⟨fun i inside _ => ?_, fun _ => by decide⟩⟩⟩
    have few : i < 6 := inside
    simp only [dataHeader]
    omega

end Dswifi.Lwip
