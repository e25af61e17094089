import Dswifi.Reading
import Dswifi.TypedElements

/-! Packets from the mailbox of the DSi card (arm7/twl/card.twl.c). The chip tells the
length of a packet before it is read, and the packet has in it how many of its bytes
acknowledge something: a list of records behind the data. -/

namespace Dswifi.Twl

open ByteMemory Reading TypedElements

def mboxTmpbufSize : Nat := 0x600

def mboxpktHtc : UInt8 := 0
def mboxpktWmi : UInt8 := 1

/-- round_up(len + 6, 0x80) -/
def mboxFullLen (len : UInt16) : Nat := (len.toNat + 6 + 0x7F) / 0x80 * 0x80

/-- Longer packets are not read. -/
def mboxMaxLen : UInt16 := 0x2000

/-- What a handler is told: where the data is in mbox_buffer and how long it is. -/
structure MboxData where
  start : Nat
  length : UInt32
  deriving DecidableEq, Repr

/-- What is read of a packet before its handler is called. `ackData` is where the bytes that
acknowledge something are in mbox_buffer. -/
structure MboxPacket where
  handed : Option MboxData
  ackLen : UInt8
  pktCmd : UInt16
  ackData : Nat
  deriving DecidableEq, Repr

/-- htc_handle_pkt and wmi_handle_pkt get the data behind a command. -/
def takesCommand (pktType : UInt8) : Bool := pktType = mboxpktHtc ∨ pktType = mboxpktWmi

def takesData (pktType : UInt8) : Bool := pktType = 2 ∨ pktType = 3 ∨ pktType = 4 ∨ pktType = 5

def handOverMbox (pktType : UInt8) (lenPkt : UInt16) : Option MboxData :=
  if takesCommand pktType then some { start := 8, length := lenPkt.toUInt32 - 2 }
  else if takesData pktType then some { start := 6, length := lenPkt.toUInt32 }
  else none

/-- A packet of another type is logged. -/
def logUnknown (pktType : UInt8) : Reading (List UInt8) :=
  if takesCommand pktType ∨ takesData pktType then pure [] else bytes 0 16

def getLe32 (text : List UInt8) : UInt32 :=
  (text.getD 0 0).toUInt32 + ((text.getD 1 0).toUInt32 <<< 8) + ((text.getD 2 0).toUInt32 <<< 16) +
    ((text.getD 3 0).toUInt32 <<< 24)

/-- One record, whose contents start at `pos`. -/
def ackRecord (type len : UInt8) (pos : Nat) (found : Option UInt32) : Reading (Option UInt32) :=
  if type = 2 ∧ len = 6 ∧ found = none then do
    let first ← byte pos
    if first = 0xAA then do
      let last ← byte (pos + 5)
      if last = 0x55 then do
        let text ← bytes (pos + 1) 4
        pure (some (getLe32 text))
      else pure found
    else pure found
  else pure found

/-- The loop through the records. -/
def ackRecords (stop : Nat) : Nat → Nat → Option UInt32 → Reading (Option (Option UInt32))
  | 0, _, _ => pure none
  | fuel + 1, pos, found =>
      if pos < stop then do
        let type ← byte pos
        let len ← byte (pos + 1)
        let found ← ackRecord type len (pos + 2) found
        ackRecords stop fuel (pos + 2 + len.toNat) found
      else pure (some found)

def mboxLen (header : UInt32) : UInt16 := (header >>> 16).toUInt16

/-- How many bytes are stored in mbox_buffer. -/
def mboxStored (header : UInt32) : Nat :=
  if mboxLen header > mboxMaxLen then 0 else mboxFullLen (mboxLen header)

def storePacket (header : UInt32) (contents buffer : Memory) : Memory :=
  fun i => if i < mboxStored header then contents i else buffer i

/-- From the bytes in mbox_buffer once the packet has been read to it. -/
def readPacket (header : UInt32) : Reading MboxPacket := do
  let pktType := header.toUInt8
  let said ← byte 4
  let ackLen := if (header >>> 8).toUInt8 = 0 then 0 else said
  let lenPkt := mboxLen header - ackLen.toUInt16
  let low ← byte 6
  let high ← byte 7
  let _ ← logUnknown pktType
  pure {
    handed := handOverMbox pktType lenPkt
    ackLen
    pktCmd := low.toUInt16 ||| high.toUInt16 <<< 8
    ackData := 6 + lenPkt.toNat }

/-- The loop through the records of a packet, which its handler has been called for. -/
def MboxPacket.records (packet : MboxPacket) : Reading (Option (Option UInt32)) :=
  ackRecords (packet.ackData + packet.ackLen.toNat) (packet.ackLen.toNat + 1) packet.ackData none

/-- What the card has for a call of wifi_card_mbox0_readpkt: nothing that comes in time, or
the value of F1_RX_LOOKAHEAD0 and the contents of the mailbox, and then what it has for the
calls that the handler of the packet makes. -/
inductive Mailbox where
  | empty
  | packet (lookahead0 : UInt32) (contents : Memory) (later : Fin 5 → Mailbox)

/-- The statics: mbox_buffer, and mbox_lookahead when mbox_has_lookahead is set. -/
structure Mbox where
  buffer : Memory
  lookahead : Option UInt32

/-- A packet that is read: mbox_buffer with the packet in it, and as the handler of the packet
leaves it. -/
structure MboxCall where
  header : UInt32
  read : Memory
  left : Memory

def htcMsgReady : UInt16 := 1

/-- htc_handle_pkt answers HTC_MSG_READY with five requests, and reads a packet after each. -/
def readsMore (pktType : UInt8) (packet : MboxPacket) : Bool :=
  pktType = mboxpktHtc ∧ packet.pktCmd = htcMsgReady

/-- wifi_card_mbox0_readpkt, and the packets that it reads. -/
def wifiCardMbox0Readpkt : Mailbox → Mbox → Mbox × List MboxCall
  | .empty, mbox => (mbox, [])
  | .packet lookahead0 contents later, mbox =>
    let header := mbox.lookahead.getD lookahead0
    let read := storePacket header contents mbox.buffer
    let entered : Mbox := { buffer := read, lookahead := none }
    -- a packet that is too long is thrown away a few bytes at a time
    if mboxLen header > mboxMaxLen then (entered, [{ header, read, left := read }])
    else
      let packet := (readPacket header).value read
      let (mbox, calls) :=
        if readsMore header.toUInt8 packet then
          (List.finRange 5).foldl (fun (mbox, calls) i =>
            let (mbox, more) := wifiCardMbox0Readpkt (later i) mbox
            (mbox, calls ++ more)) (entered, [])
        else (entered, [])
      -- the records are looked at in the buffer that the handler leaves
      let lookahead := (packet.records.value mbox.buffer).getD none
      ({ mbox with lookahead }, calls ++ [{ header, read, left := mbox.buffer }])

/-! Which records are looked at inside of the acknowledged bytes. -/

/-- A record that is taken for the lookahead. -/
def isLookahead (record : Element) : Bool :=
  record.1 = 2 ∧ record.2.length = 6 ∧ record.2[0]? = some 0xAA ∧ record.2[5]? = some 0x55

/-- The last record may be cut off behind its length, but not where a lookahead would be read. -/
def CutWell (found : Bool) : List UInt8 → Prop
  | [] => True
  | [_] => False
  | type :: len :: contents =>
      type = 2 → len = 6 → found = false → ∃ first, contents.head? = some first ∧ first ≠ 0xAA

/-- The records of some bytes. -/
def RecordsInside (text : List UInt8) : Prop := CutWell ((elements text).any isLookahead) (leftover text)

variable {mem : Memory} {text : List UInt8} {records : List Element}

/-- The loop ends: every record takes two bytes at least. -/
theorem ackRecords_ends {stop fuel pos : Nat} (enough : stop ≤ pos + fuel) (found : Option UInt32) :
    ((ackRecords stop (fuel + 1) pos found).value mem).isSome = true := by
  induction fuel generalizing pos found with
  | zero =>
      rw [ackRecords, if_neg (by omega)]
      rfl
  | succ fuel ih =>
      rw [ackRecords]
      split
      · rw [value_bind, value_bind, value_bind]
        exact ih (by omega) _
      · rfl

theorem ackRecord_whole {type len : UInt8} {pos limit : Nat} {contents : List UInt8} (there : InPlace mem pos contents)
    (exact : contents.length = len.toNat) (inside : pos + contents.length ≤ limit) (found : Option UInt32) :
    Within limit (ackRecord type len pos found) mem ∧
      ((ackRecord type len pos found).value mem).isSome = (found.isSome || isLookahead (type, contents)) := by
  rw [ackRecord]
  -- only the first record of its kind is looked into
  by_cases looked : type = 2 ∧ len = 6 ∧ found = none
  · obtain ⟨rfl, rfl, rfl⟩ := looked
    have size : contents.length = 6 := exact
    have head : contents[0]? = some (mem pos) := by
      rw [List.getElem?_eq_getElem (by omega), ← there.byte (by omega), Nat.add_zero]
    have last : contents[5]? = some (mem (pos + 5)) := by
      rw [List.getElem?_eq_getElem (by omega), ← there.byte (by omega)]
    rw [if_pos ⟨rfl, rfl, rfl⟩, isLookahead, within_bind, within_byte, value_bind, value_byte]
    dsimp only
    rw [head, last, size]
    by_cases first : mem pos = 0xAA
    · rw [if_pos first, within_bind, within_byte, value_bind, value_byte]
      by_cases behind : mem (pos + 5) = 0x55
      · rw [if_pos behind, within_bind, within_bytes]
        refine ⟨⟨by omega, by omega, .inr (by omega), within_pure _⟩, ?_⟩
        simp [first, behind]
      · rw [if_neg behind]
        exact ⟨⟨by omega, by omega, within_pure _⟩, by simp [behind]⟩
    · rw [if_neg first]
      exact ⟨⟨by omega, within_pure _⟩, by simp [first]⟩
  · rw [if_neg looked]
    refine ⟨within_pure _, ?_⟩
    cases found with
    | some value => rfl
    | none =>
        have other : isLookahead (type, contents) = false := by
          refine decide_eq_false fun all => looked ⟨all.1, ?_, rfl⟩
          exact UInt8.toNat_inj.mp (exact.symm.trans all.2.1)
        rw [value_pure, other]
        rfl

theorem ackRecord_cut {type len : UInt8} {pos : Nat} {contents : List UInt8} (there : InPlace mem pos contents)
    (cut : contents.length < len.toNat) (found : Option UInt32) :
    Within (pos + contents.length) (ackRecord type len pos found) mem ↔
      CutWell found.isSome (type :: len :: contents) := by
  rw [ackRecord, CutWell]
  by_cases looked : type = 2 ∧ len = 6 ∧ found = none
  · obtain ⟨rfl, rfl, rfl⟩ := looked
    have size : contents.length < 6 := cut
    rw [if_pos ⟨rfl, rfl, rfl⟩, within_bind, within_byte, value_byte]
    cases contents with
    | nil => simp
    | cons first rest =>
        have head : mem pos = first := there.byte (Nat.succ_pos _)
        rw [head]
        -- the last byte of a lookahead is read only behind its first
        by_cases starts : first = 0xAA
        · rw [if_pos starts, within_bind, within_byte]
          rw [List.length_cons] at size ⊢
          refine iff_of_false (fun inside => by omega) fun well => ?_
          obtain ⟨_, same, other⟩ := well rfl rfl rfl
          exact other (Option.some.inj same ▸ starts)
        · rw [if_neg starts]
          exact iff_of_true ⟨Nat.lt_add_of_pos_right (Nat.succ_pos _), within_pure _⟩ fun _ _ _ => ⟨first, rfl, starts⟩
  · rw [if_neg looked]
    refine iff_of_true (within_pure _) fun isType isLen isNone => absurd ⟨isType, isLen, ?_⟩ looked
    exact Option.not_isSome_iff_eq_none.mp (ne_true_of_eq_false isNone)

/-- The records are looked at inside of the bytes. -/
theorem within_ackRecords (splits : Splits text records) {fuel pos : Nat} (there : InPlace mem pos text)
    (enough : text.length ≤ fuel) (found : Option UInt32) :
    Within (pos + text.length) (ackRecords (pos + text.length) (fuel + 1) pos found) mem ↔
      CutWell (found.isSome || records.any isLookahead) (leftover text) := by
  induction splits generalizing fuel pos found with
  | @short text small =>
      rw [(Splits.short small).leftover_none, ackRecords]
      match text, small with
      | [], _ => exact iff_of_true (by rw [if_neg (by simp)]; exact within_pure _) trivial
      | [_], _ =>
          rw [if_pos (by simp), within_bind, within_bind, within_byte, within_byte]
          exact iff_of_false (fun inside => absurd inside.2.1 (Nat.lt_irrefl _)) id
  | @cut type len rest past =>
      obtain ⟨isType, isLen, behind⟩ := header_inPlace there
      have size : (type :: len :: rest).length = 2 + rest.length := by
        rw [List.length_cons, List.length_cons]
        omega
      have cut := @ackRecord_cut mem type len _ _ behind past found
      rw [(Splits.cut past).leftover_none, List.any_nil, Bool.or_false, ackRecords, size, if_pos (by omega)]
      rw [within_bind, within_byte, value_byte, within_bind, within_byte, value_byte, isType, isLen, within_bind,
        ← Nat.add_assoc, ← cut]
      -- the loop does not go on behind a record that is cut off
      have ends : Within (pos + 2 + rest.length) (ackRecords (pos + 2 + rest.length) fuel (pos + 2 + len.toNat)
          ((ackRecord type len (pos + 2) found).value mem)) mem := by
        cases fuel with
        | zero => exact within_pure _
        | succ fuel =>
            rw [ackRecords, if_neg (by omega)]
            exact within_pure _
      exact ⟨fun inside => inside.2.2.1, fun inside => ⟨by omega, by omega, inside, ends⟩⟩
  | @element type len contents rest records exact more ih =>
      obtain ⟨isType, isLen, here, behind⟩ := element_inPlace there
      have size : (type :: len :: (contents ++ rest)).length = 2 + contents.length + rest.length := by
        rw [List.length_cons, List.length_cons, List.length_append]
        omega
      rw [size] at enough ⊢
      obtain ⟨reads, found'⟩ := @ackRecord_whole mem type len _ (pos + 2 + contents.length + rest.length) _ here exact
        (by omega) found
      cases fuel with
      | zero => omega
      | succ fuel =>
          rw [leftover_element rest exact, List.any_cons, ← Bool.or_assoc, ← found', ← @ih fuel _ behind (by omega) _]
          rw [ackRecords, if_pos (by omega), within_bind, within_byte, value_byte, within_bind, within_byte,
            value_byte, isType, isLen, within_bind, ← Nat.add_assoc, ← Nat.add_assoc, ← exact]
          exact ⟨fun inside => inside.2.2.2, fun inside => ⟨by omega, by omega, reads, inside⟩⟩

/-! The packet as a whole. -/

/-- The command of the packet, if it has one, is in front of the data. -/
def commandSize (header : UInt32) : Nat := if takesCommand header.toUInt8 then 2 else 0

namespace MboxCall

/-- What was made of the packet before its handler was called. -/
def packet (call : MboxCall) : MboxPacket := (readPacket call.header).value call.read

def ackLen (call : MboxCall) : Nat :=
  if (call.header >>> 8).toUInt8 = 0 then 0 else (call.read 4).toNat

def len (call : MboxCall) : Nat := (mboxLen call.header).toNat

/-- The bytes that acknowledge something, as they are when they are looked at. -/
def acknowledged (call : MboxCall) : List UInt8 := readBytes call.left (6 + call.len - call.ackLen) call.ackLen

/-- The packet is thrown away. -/
def TooLong (call : MboxCall) : Prop := mboxLen call.header > mboxMaxLen

/-- Nothing is stored or read outside of mbox_buffer, the handler is told of bytes in it, as
many as the packet has for it, and the loop through the records ends, inside of the
acknowledged bytes. -/
structure Inside (call : MboxCall) : Prop where
  stores : mboxStored call.header ≤ mboxTmpbufSize
  reads : ¬call.TooLong → Within mboxTmpbufSize (readPacket call.header) call.read ∧
    Within mboxTmpbufSize call.packet.records call.left
  handed : ¬call.TooLong → ∀ data, call.packet.handed = some data →
    commandSize call.header + data.length.toNat + call.packet.ackLen.toNat = call.len ∧
      data.start + data.length.toNat ≤ mboxTmpbufSize
  ends : ¬call.TooLong → (call.packet.records.value call.left).isSome = true
  records : ¬call.TooLong →
    Within (call.packet.ackData + call.packet.ackLen.toNat) call.packet.records call.left

/-- The packet fits the buffer, what it acknowledges fits the packet, and the records of that
are whole when the handler of the packet is done. -/
structure Fits (call : MboxCall) : Prop where
  size : call.len + 6 ≤ mboxTmpbufSize
  ack : commandSize call.header + call.ackLen ≤ call.len
  records : RecordsInside call.acknowledged

variable {call : MboxCall}

theorem mboxStored_le (short : ¬call.TooLong) :
    mboxStored call.header ≤ mboxTmpbufSize ↔ call.len + 6 ≤ mboxTmpbufSize := by
  have shown : mboxStored call.header = mboxFullLen (mboxLen call.header) := if_neg short
  rw [shown, mboxFullLen, mboxTmpbufSize, len]
  omega

theorem packet_ackLen (call : MboxCall) : call.packet.ackLen.toNat = call.ackLen := by
  simp only [packet, readPacket, value_bind, value_pure, value_byte, ackLen]
  split <;> rfl

theorem packet_lenPkt (call : MboxCall) :
    call.packet.ackData = 6 + (mboxLen call.header - call.packet.ackLen.toUInt16).toNat := rfl

theorem within_readPacket (call : MboxCall) : Within mboxTmpbufSize (readPacket call.header) call.read := by
  have logged : Within mboxTmpbufSize (logUnknown call.header.toUInt8) call.read := by
    rw [logUnknown]
    split
    · exact within_pure _
    · exact (within_bytes _ _).mpr (.inr (by decide))
  simp only [readPacket, within_bind, within_byte, within_pure, and_true]
  exact ⟨by decide, by decide, by decide, logged⟩

/-- What is left of a packet for its handler. -/
theorem lenPkt_toNat (fits : call.ackLen ≤ call.len) :
    (mboxLen call.header - call.packet.ackLen.toUInt16).toNat = call.len - call.ackLen := by
  rw [← packet_ackLen] at fits ⊢
  rw [UInt16.toNat_sub_of_le _ _ (UInt16.le_iff_toNat_le.mpr (by rwa [UInt8.toNat_toUInt16])),
    UInt8.toNat_toUInt16]
  rfl

theorem ackData_eq (fits : call.ackLen ≤ call.len) : call.packet.ackData = 6 + call.len - call.ackLen := by
  rw [packet_lenPkt, lenPkt_toNat fits]
  omega

/-- The records are looked at inside of the acknowledged bytes if these are in the packet. -/
theorem within_records (fits : call.ackLen ≤ call.len) :
    Within (call.packet.ackData + call.packet.ackLen.toNat) call.packet.records call.left ↔
      RecordsInside call.acknowledged := by
  have size := readBytes_length call.left call.packet.ackData call.packet.ackLen.toNat
  have there : InPlace call.left call.packet.ackData
      (readBytes call.left call.packet.ackData call.packet.ackLen.toNat) := by rw [InPlace, size]
  have inside := within_ackRecords (elements_splits _) there (le_of_eq size) none
  rw [size] at inside
  rw [acknowledged, ← ackData_eq fits, ← packet_ackLen]
  exact inside

/-- A packet that acknowledges more than it has is looked at far behind the buffer. -/
theorem reads_behind (past : call.len < call.ackLen) : ¬Within mboxTmpbufSize call.packet.records call.left := by
  intro inside
  have byte := call.packet.ackLen.toNat_lt
  rw [← packet_ackLen] at past
  -- what is left of the packet is a u16 and wraps around
  have far : mboxTmpbufSize ≤ call.packet.ackData := by
    rw [packet_lenPkt, UInt16.toNat_sub, UInt8.toNat_toUInt16, mboxTmpbufSize]
    rw [len] at past
    omega
  rw [MboxPacket.records, ackRecords, if_pos (by omega), within_bind, within_byte] at inside
  omega

/-- What a handler is told. -/
theorem handOverMbox_some {pktType : UInt8} {lenPkt : UInt16} {data : MboxData}
    (handed : handOverMbox pktType lenPkt = some data) :
    takesCommand pktType = true ∧ data = { start := 8, length := lenPkt.toUInt32 - 2 } ∨
      takesCommand pktType = false ∧ data = { start := 6, length := lenPkt.toUInt32 } := by
  rw [handOverMbox] at handed
  split at handed
  · rename_i command
    exact .inl ⟨command, (Option.some.inj handed).symm⟩
  · rename_i other
    split at handed
    · exact .inr ⟨eq_false_of_ne_true other, (Option.some.inj handed).symm⟩
    · cases handed

/-- The handler of a packet that fits is told of all of it but what is acknowledged. -/
theorem handed_inside (size : call.len + 6 ≤ mboxTmpbufSize)
    (ack : commandSize call.header + call.ackLen ≤ call.len) {data : MboxData}
    (handed : call.packet.handed = some data) :
    commandSize call.header + data.length.toNat + call.packet.ackLen.toNat = call.len ∧
      data.start + data.length.toNat ≤ mboxTmpbufSize := by
  have left := lenPkt_toNat (show call.ackLen ≤ call.len by omega)
  rw [← UInt16.toNat_toUInt32] at left
  rw [packet_ackLen]
  rw [mboxTmpbufSize] at size ⊢
  obtain ⟨command, rfl⟩ | ⟨command, rfl⟩ := handOverMbox_some handed
  · rw [commandSize, if_pos command] at ack ⊢
    have two : (2 : UInt32) ≤ (mboxLen call.header - call.packet.ackLen.toUInt16).toUInt32 := by
      rw [UInt32.le_iff_toNat_le, left]
      exact Nat.le_sub_of_add_le ack
    have least : (2 : UInt32).toNat = 2 := rfl
    have length : ((mboxLen call.header - call.packet.ackLen.toUInt16).toUInt32 - 2).toNat =
        call.len - call.ackLen - 2 := by
      rw [UInt32.toNat_sub_of_le _ _ two, left, least]
    change 2 + ((mboxLen call.header - call.packet.ackLen.toUInt16).toUInt32 - 2).toNat + _ = _ ∧
      8 + ((mboxLen call.header - call.packet.ackLen.toUInt16).toUInt32 - 2).toNat ≤ _
    rw [length]
    omega
  · rw [commandSize, command, if_neg Bool.false_ne_true]
    change 0 + (mboxLen call.header - call.packet.ackLen.toUInt16).toUInt32.toNat + _ = _ ∧
      6 + (mboxLen call.header - call.packet.ackLen.toUInt16).toUInt32.toNat ≤ _
    rw [left]
    omega

theorem inside_of_tooLong (long : call.TooLong) : call.Inside := by
  refine ⟨?_, absurd long, absurd long, absurd long, absurd long⟩
  rw [show mboxStored call.header = 0 from if_pos long]
  exact Nat.zero_le _

/-- A packet is read in bounds exactly if it fits or is thrown away. -/
theorem inside_iff (call : MboxCall) : call.Inside ↔ call.TooLong ∨ call.Fits := by
  by_cases long : call.TooLong
  · exact iff_of_true (inside_of_tooLong long) (.inl long)
  · rw [or_iff_right long]
    constructor
    · intro inside
      have fits : call.ackLen ≤ call.len := Nat.le_of_not_lt fun past => reads_behind past (inside.reads long).2
      refine ⟨(mboxStored_le long).mp inside.stores, ?_, (within_records fits).mp (inside.records long)⟩
      cases command : takesCommand call.header.toUInt8 with
      | false =>
          rw [commandSize, command]
          exact (Nat.zero_add _).trans_le fits
      | true =>
          have handed : call.packet.handed =
              some { start := 8, length := (mboxLen call.header - call.packet.ackLen.toUInt16).toUInt32 - 2 } :=
            if_pos command
          have told := (inside.handed long _ handed).1
          rw [packet_ackLen] at told
          omega
    · rintro ⟨size, ack, records⟩
      have fits : call.ackLen ≤ call.len := by omega
      have inside := (within_records fits).mpr records
      refine ⟨(mboxStored_le long).mpr size, fun _ => ⟨within_readPacket call, inside.mono ?_⟩,
        fun _ data => handed_inside size ack, fun _ => ackRecords_ends le_rfl none, fun _ => inside⟩
      rw [ackData_eq fits, packet_ackLen]
      omega

end MboxCall

/-- Unless its handler reads more of them, a packet is the only one, and nobody touches it. -/
theorem readpkt_plain {mbox : Mbox} {lookahead0 : UInt32} {contents : Memory} {later : Fin 5 → Mailbox}
    (plain : readsMore (mbox.lookahead.getD lookahead0).toUInt8
      ((readPacket (mbox.lookahead.getD lookahead0)).value
        (storePacket (mbox.lookahead.getD lookahead0) contents mbox.buffer)) = false) :
    (wifiCardMbox0Readpkt (.packet lookahead0 contents later) mbox).2 =
      [{ header := mbox.lookahead.getD lookahead0
         read := storePacket (mbox.lookahead.getD lookahead0) contents mbox.buffer
         left := storePacket (mbox.lookahead.getD lookahead0) contents mbox.buffer }] := by
  simp only [wifiCardMbox0Readpkt, plain]
  split
  · rfl
  · rfl

/-- A call reads its packets in bounds exactly if each of them fits or is thrown away. -/
theorem mbox_inside_iff (mailbox : Mailbox) (mbox : Mbox) :
    (∀ call ∈ (wifiCardMbox0Readpkt mailbox mbox).2, call.Inside) ↔
      ∀ call ∈ (wifiCardMbox0Readpkt mailbox mbox).2, call.TooLong ∨ call.Fits :=
  forall₂_congr fun call _ => call.inside_iff

/-- A packet of 0x2000 bytes is the longest that is read, and it is stored far behind the buffer. -/
theorem longest_packet_outside :
    ¬∀ (mailbox : Mailbox) (mbox : Mbox), ∀ call ∈ (wifiCardMbox0Readpkt mailbox mbox).2, call.Inside := by
  intro all
  have inside := all (.packet 0x20000000 (fun _ => 0) fun _ => .empty) { buffer := fun _ => 0, lookahead := none }
  rw [readpkt_plain (by decide)] at inside
  exact absurd (inside _ List.mem_cons_self).stores (by decide)

end Dswifi.Twl
