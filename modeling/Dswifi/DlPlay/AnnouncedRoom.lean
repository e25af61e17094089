import Dswifi.Pieces
import Dswifi.Runs
import Dswifi.DlPlay.BeaconInfo
import Dswifi.DlPlay.Replies

/-! What a console collects from the beacons of a host. It puts the record together
from the fragments that carry pieces of it, and reads who is in the room from the
others, slot by slot. -/

namespace Dswifi.DlPlay

open ByteMemory MpHost Runs

/-! Reading a table. -/

/-- What a console learns about another one. -/
structure PlayerRecord where
  aid : Nat
  favoriteColor : Nat
  nameLen : Nat
  name : List Nat
  deriving DecidableEq, Repr

/-- A slot that names the id 0 is empty. -/
def readMember (fragment : Memory) (slot : Nat) : Option PlayerRecord :=
  let aid := (fragment (slot + memberOfsColor)).toNat / 16
  let nameLen := (fragment (slot + memberOfsNameLen)).toNat
  if aid = 0 then none else
    some {
      aid
      favoriteColor := (fragment (slot + memberOfsColor)).toNat % 16
      nameLen
      name := (List.range (min nameLen hostNameLen)).map fun i =>
        readU16 fragment (slot + memberOfsName + 2 * i) }

def memberSlot (slot : Nat) : Nat := fragMembers + slot * memberSize

def readMembers (fragment : Memory) : List PlayerRecord :=
  (List.range membersPerFragment).filterMap fun slot => readMember fragment (memberSlot slot)

namespace Table

/-- The pieces of the record, in the order of their fragments. -/
def record (table : Table) : List UInt8 :=
  (List.range fixedFragmentCount).flatMap fun i =>
    readBytes (table.fragment i) fragPayload (table.fragment i fragPayloadLen).toNat

def roomCount (table : Table) : Nat := table.count - fixedFragmentCount

def room (table : Table) (v : Nat) : Memory := table.fragment (fixedFragmentCount + v)

def members (table : Table) : List PlayerRecord :=
  (List.range table.roomCount).flatMap fun v => readMembers (table.room v)

end Table

/-- The clients of a mask. -/
def present (mask : Mask) : List Nat := aids.filter fun aid => mask.getLsbD aid

def playerRecord (aid : Nat) (member : RoomMember) : PlayerRecord :=
  let nameLen := min member.nameLen.toNat hostNameLen
  { aid
    favoriteColor := member.favoriteColor.toNat % 16
    nameLen
    name := ((List.ofFn member.name).take nameLen).map UInt16.toNat }

/-- A table tells a console what the host has to tell. -/
structure Announces (table : Table) (beacon : BeaconInfo) : Prop where
  numbers : ∀ i, i < table.count → (table.fragment i fragIndex).toNat = i ∧
    (table.fragment i fragTotal).toNat = fixedFragmentCount ∧
    table.fragment i fragSeqFixed = beacon.seqFixed
  record : table.record = readBytes beacon.gameInfo 0 gameInfoSize
  members : table.members = (present beacon.playerMask).map fun aid =>
    playerRecord aid (beacon.members aid)
  room : ∀ v, v < table.roomCount →
    (table.room v fragPlayerCount).toNat = playerCount beacon.playerMask ∧
    readU16 (table.room v) fragPlayerFlags = beacon.playerMask.toNat ∧
    table.room v fragConnected = beacon.playerSequence ∧
    readBytes (table.room v) fragUserVolat userVolatSize = readBytes beacon.userVolat 0 userVolatSize

/-! Fragments byte by byte. -/

theorem fragmentChecksum_agree (fragment : Memory) {low high : Nat}
    (apart : high ≤ fragChecksum ∨ fragIndex2 ≤ low) :
    Agree (fragmentChecksum fragment) fragment low high := by
  intro i above below
  simp only [fragChecksum, fragIndex2] at apart
  have first : i ≠ 8 := by omega
  have second : i ≠ 9 := by omega
  simp [fragmentChecksum, writeU8, fragChecksum, first, second]

theorem copyBytes_agree (mem : Memory) (dest : Nat) (src : Nat → UInt8) (size : Nat) {low high : Nat}
    (apart : high ≤ dest ∨ dest + size ≤ low) : Agree (copyBytes mem dest src size) mem low high := by
  intro i above below
  have outside : ¬ (dest ≤ i ∧ i < dest + size) := by omega
  simp [copyBytes, outside]

theorem copyBytes_read (mem : Memory) (dest : Nat) (src : Nat → UInt8) (size : Nat) :
    readBytes (copyBytes mem dest src size) dest size = (List.range size).map src := by
  rw [readBytes, List.range'_eq_map_range, List.map_map]
  refine List.map_congr_left fun i member => ?_
  have below := List.mem_range.mp member
  simp [copyBytes, below]

theorem writeString_agree (mem : Memory) (dest : Nat) (src : List UInt16) (maxLen : Nat)
    {low high : Nat} (apart : high ≤ dest ∨ dest + 2 * maxLen ≤ low) :
    Agree (writeString mem dest src maxLen) mem low high := by
  intro i above below
  have outside : ¬ (dest ≤ i ∧ i < dest + 2 * maxLen) := by omega
  simp [writeString, outside]

theorem char_bytes (c : UInt16) : (lowByte c).toNat + 256 * (highByte c).toNat = c.toNat := by
  have bound := c.toNat_lt
  simp only [lowByte, highByte, UInt8.toNat_ofNat']
  omega

theorem writeString_read (mem : Memory) (dest : Nat) (src : List UInt16) {maxLen i : Nat}
    (inside : i < maxLen) :
    readU16 (writeString mem dest src maxLen) (dest + 2 * i) = (src.getD i 0).toNat := by
  have low : dest ≤ dest + 2 * i ∧ dest + 2 * i < dest + 2 * maxLen := by omega
  have high : dest ≤ dest + 2 * i + 1 ∧ dest + 2 * i + 1 < dest + 2 * maxLen := by omega
  have even : (dest + 2 * i - dest) / 2 = i ∧ (dest + 2 * i - dest) % 2 = 0 := by omega
  have odd : (dest + 2 * i + 1 - dest) / 2 = i ∧ (dest + 2 * i + 1 - dest) % 2 ≠ 0 := by omega
  rw [readU16, writeString, writeString, if_pos low, if_pos high]
  dsimp only
  rw [even.1, odd.1, if_pos even.2, if_neg odd.2]
  exact char_bytes _

/-! The record. -/

theorem payloadLen_size {i : Nat} (inside : i < fixedFragmentCount) :
    payloadLen i = Pieces.size gameInfoSize fragPayloadMax i := by
  have sizes : ∀ i < fixedFragmentCount, payloadLen i = Pieces.size gameInfoSize fragPayloadMax i := by
    decide
  exact sizes i inside

theorem payloadLen_le (i : Nat) : payloadLen i ≤ fragPayloadMax := by
  unfold payloadLen
  split
  · exact Nat.zero_le _
  · split
    · omega
    · exact Nat.le_refl _

section Record
variable (gameInfo : Memory) (seqFixed : UInt8) {i : Nat}

theorem recordFragment_header (inside : i < fixedFragmentCount) :
    (recordFragment gameInfo seqFixed i fragIndex).toNat = i ∧
      (recordFragment gameInfo seqFixed i fragTotal).toNat = fixedFragmentCount ∧
      recordFragment gameInfo seqFixed i fragSeqFixed = seqFixed ∧
      (recordFragment gameInfo seqFixed i fragPayloadLen).toNat = payloadLen i := by
  have len := payloadLen_le i
  simp only [fragPayloadMax] at len
  simp only [fixedFragmentCount] at inside
  have kept : ∀ pos, pos < fragPayload → pos ≠ 8 → pos ≠ 9 → recordFragment gameInfo seqFixed i pos =
      writeU8 (writeU8 (writeU8 (writeU8 (writeU8 (fun _ => 0) fragIndex (UInt8.ofNat i))
        fragSeqFixed seqFixed) fragTotal (UInt8.ofNat fixedFragmentCount)) fragIndex2 (UInt8.ofNat i))
        fragPayloadLen (UInt8.ofNat (payloadLen i)) pos := by
    intro pos before notHigh notLow
    simp only [fragPayload] at before
    have outside : ¬ (14 ≤ pos ∧ pos < 14 + payloadLen i) := by omega
    simp [recordFragment, fragmentChecksum, copyBytes, writeU8, fragChecksum, fragPayload, notHigh,
      notLow, outside]
  refine ⟨?_, ?_, ?_, ?_⟩
  · rw [kept fragIndex (by decide) (by decide) (by decide)]
    simp [writeU8, fragIndex, fragSeqFixed, fragTotal, fragIndex2, fragPayloadLen]
    omega
  · rw [kept fragTotal (by decide) (by decide) (by decide)]
    rfl
  · rw [kept fragSeqFixed (by decide) (by decide) (by decide)]
    rfl
  · rw [kept fragPayloadLen (by decide) (by decide) (by decide)]
    simp [writeU8]
    omega

theorem recordFragment_payload :
    readBytes (recordFragment gameInfo seqFixed i) fragPayload (payloadLen i) =
      Pieces.stretch gameInfo (i * fragPayloadMax) (payloadLen i) := by
  rw [recordFragment, (fragmentChecksum_agree _ (.inr (by decide))).readBytes fragPayload (payloadLen i)
    (Nat.le_refl fragPayload) (Nat.le_refl _), copyBytes_read, Pieces.stretch, List.range'_eq_map_range,
    List.map_map]
  rfl

end Record

/-- The nine fragments carry every byte of the record once. -/
theorem record_whole {table : Table} {gameInfo : Memory} {seqFixed : UInt8}
    (fragments : ∀ i, i < fixedFragmentCount → table.fragment i = recordFragment gameInfo seqFixed i) :
    table.record = readBytes gameInfo 0 gameInfoSize := by
  have pieces : table.record = (List.range (Pieces.count gameInfoSize fragPayloadMax)).flatMap fun i =>
      Pieces.stretch gameInfo (0 + i * fragPayloadMax) (Pieces.size gameInfoSize fragPayloadMax i) := by
    refine List.flatMap_congr fun i member => ?_
    have inside : i < fixedFragmentCount := List.mem_range.mp member
    rw [fragments i inside, (recordFragment_header gameInfo seqFixed inside).2.2.2,
      recordFragment_payload, payloadLen_size inside, Nat.zero_add]
  rw [pieces, Pieces.pieces_stretch gameInfo 0 (by decide)]
  rfl

/-! The players. -/

theorem readMember_agree {first second : Memory} {slot : Nat}
    (same : Agree first second slot (slot + memberSize)) : readMember first slot = readMember second slot := by
  have color : first (slot + memberOfsColor) = second (slot + memberOfsColor) :=
    same _ (Nat.le_add_right _ _) (by simp only [memberOfsColor, memberSize]; omega)
  have length : first (slot + memberOfsNameLen) = second (slot + memberOfsNameLen) :=
    same _ (Nat.le_add_right _ _) (by simp only [memberOfsNameLen, memberSize]; omega)
  have name : ∀ i, i < hostNameLen → readU16 first (slot + memberOfsName + 2 * i) =
      readU16 second (slot + memberOfsName + 2 * i) := by
    intro i inside
    simp only [hostNameLen] at inside
    have low := same (slot + memberOfsName + 2 * i) (by omega) (by simp only [memberOfsName, memberSize]; omega)
    have high := same (slot + memberOfsName + 2 * i + 1) (by omega)
      (by simp only [memberOfsName, memberSize]; omega)
    rw [readU16, readU16, low, high]
  rw [readMember, readMember, color, length]
  split
  · rfl
  · congr 2
    refine List.map_congr_left fun i member => name i ?_
    exact Nat.lt_of_lt_of_le (List.mem_range.mp member) (Nat.min_le_right _ _)

theorem writeMember_agree (fragment : Memory) (slot aid : Nat) (member : RoomMember) {low high : Nat}
    (apart : high ≤ slot ∨ slot + memberSize ≤ low) :
    Agree (writeMember fragment slot aid member) fragment low high := by
  simp only [memberSize] at apart
  have name : high ≤ slot + memberOfsName ∨ slot + memberOfsName + 2 * hostNameLen ≤ low := by
    simp only [memberOfsName, hostNameLen]
    omega
  have length : high ≤ slot + memberOfsNameLen ∨ slot + memberOfsNameLen < low := by
    simp only [memberOfsNameLen]
    omega
  have color : high ≤ slot + memberOfsColor ∨ slot + memberOfsColor < low := by
    simp only [memberOfsColor]
    omega
  intro i above below
  rw [writeMember, writeString_agree _ _ _ _ name i above below,
    ← agree_writeU8 _ _ _ low high length i above below, ← agree_writeU8 _ _ _ low high color i above below]

/-- The color and the id of a player share a byte. -/
theorem colorByte (color : UInt8) {aid : Nat} (small : aid < 16) :
    ((color &&& 0x0F) ||| UInt8.ofNat (aid * 16)).toNat = color.toNat % 16 + aid * 16 := by
  have bytes : ∀ low < 16, ∀ aid < 16,
      (UInt8.ofNat low ||| UInt8.ofNat (aid * 16)).toNat = low + aid * 16 := by decide
  have nibble : color &&& 0x0F = UInt8.ofNat (color.toNat % 16) := by
    apply UInt8.toNat_inj.mp
    rw [UInt8.toNat_and, UInt8.toNat_ofNat']
    have mask : color.toNat &&& 15 = color.toNat % 16 := Nat.and_two_pow_sub_one_eq_mod _ 4
    have bound := color.toNat_lt
    exact mask.trans (by omega)
  rw [nibble, bytes _ (Nat.mod_lt _ (by decide)) aid small]

theorem readMember_writeMember (fragment : Memory) (slot : Nat) {aid : Nat} (member : RoomMember)
    (valid : aid ∈ aids) :
    readMember (writeMember fragment slot aid member) slot = some (playerRecord aid member) := by
  have range : ∀ aid ∈ aids, 1 ≤ aid ∧ aid < 16 := by decide
  obtain ⟨positive, small⟩ := range aid valid
  have nameLen : min member.nameLen.toNat hostNameLen ≤ hostNameLen := Nat.min_le_right _ _
  have bytes : writeMember fragment slot aid member (slot + memberOfsColor) =
        ((member.favoriteColor &&& 0x0F) ||| UInt8.ofNat (aid * 16)) ∧
      writeMember fragment slot aid member (slot + memberOfsNameLen) =
        UInt8.ofNat (min member.nameLen.toNat hostNameLen) := by
    have kept := fun mem => @writeString_agree mem (slot + memberOfsName)
      ((List.ofFn member.name).take (min member.nameLen.toNat hostNameLen)) hostNameLen
      slot (slot + memberOfsName) (.inl (Nat.le_refl _))
    refine ⟨(kept _ _ (Nat.le_add_right _ _) (by simp only [memberOfsColor, memberOfsName]; omega)).trans ?_,
      (kept _ _ (Nat.le_add_right _ _) (by simp only [memberOfsNameLen, memberOfsName]; omega)).trans ?_⟩
    · simp [writeU8, memberOfsColor, memberOfsNameLen]
    · simp [writeU8]
  have name : (List.range (min member.nameLen.toNat hostNameLen)).map (fun i =>
        readU16 (writeMember fragment slot aid member) (slot + memberOfsName + 2 * i)) =
      ((List.ofFn member.name).take (min member.nameLen.toNat hostNameLen)).map UInt16.toNat := by
    refine List.ext_getElem (by simp) fun i inside _ => ?_
    have below : i < min member.nameLen.toNat hostNameLen := by simpa using inside
    rw [List.getElem_map, List.getElem_range, writeMember,
      writeString_read _ _ _ (Nat.lt_of_lt_of_le below nameLen), List.getElem_map,
      List.getD_eq_getElem?_getD, List.getElem?_eq_getElem (by simpa using below), Option.getD_some]
  have length : (UInt8.ofNat (min member.nameLen.toNat hostNameLen)).toNat =
      min member.nameLen.toNat hostNameLen := by
    simp only [hostNameLen] at nameLen ⊢
    rw [UInt8.toNat_ofNat']
    omega
  rw [readMember, bytes.1, bytes.2, colorByte member.favoriteColor small, length,
    Nat.min_eq_left nameLen, name]
  -- the color is the lower half of its byte, the id the upper one
  have number : (member.favoriteColor.toNat % 16 + aid * 16) / 16 = aid := by omega
  have color : (member.favoriteColor.toNat % 16 + aid * 16) % 16 = member.favoriteColor.toNat % 16 := by
    omega
  rw [number, color, if_neg (by omega)]
  rfl

/-! The loop over the players of a fragment. -/

theorem volatileHeader_blank (beacon : BeaconInfo) (v : Nat) {pos : Nat} (after : fragMembers ≤ pos) :
    volatileHeader beacon v pos = 0 := by
  simp only [fragMembers] at after
  have apart : ∀ field, field < 16 → pos ≠ field := fun field below => by omega
  simp [volatileHeader, writeU8, fragIndex, fragSeqFixed, fragTotal, fragSequenceEnd, fragConnected,
    fragPlayerCount, fragPlayerFlags, fragPlayerChanged, apart]

/-- The fragment `v` after the players of `done`, of which the one at the place `k`
belongs into the slot `k - 4 * v`. -/
structure SlotsWritten (beacon : BeaconInfo) (v : Nat) (done : List Nat) (writing : Memory × Nat) :
    Prop where
  index : writing.2 = done.length
  header : Agree writing.1 (volatileHeader beacon v) 0 fragMembers
  slots : ∀ slot, slot < membersPerFragment → readMember writing.1 (memberSlot slot) =
    (done[v * membersPerFragment + slot]?).map fun aid => playerRecord aid (beacon.members aid)

theorem SlotsWritten.start (beacon : BeaconInfo) (v : Nat) :
    SlotsWritten beacon v [] (volatileHeader beacon v, 0) := by
  refine ⟨rfl, .refl _ _ _, fun slot _ => ?_⟩
  have empty : volatileHeader beacon v (memberSlot slot + memberOfsColor) = 0 :=
    volatileHeader_blank beacon v (by simp only [memberSlot]; omega)
  simp only [readMember, empty]
  rfl

/-- A player of another fragment is only counted. -/
theorem SlotsWritten.beside {beacon : BeaconInfo} {v : Nat} {done : List Nat} {fragment : Memory}
    (written : SlotsWritten beacon v done (fragment, done.length)) (aid : Nat)
    (outside : done.length < v * membersPerFragment ∨
      done.length ≥ v * membersPerFragment + membersPerFragment) :
    SlotsWritten beacon v (done ++ [aid]) (fragment, done.length + 1) := by
  refine ⟨by simp, written.header, fun slot inside => ?_⟩
  rw [written.slots slot inside]
  congr 1
  rcases outside with before | after
  · rw [List.getElem?_eq_none (by omega), List.getElem?_eq_none (by simp; omega)]
  · rw [List.getElem?_append_left (by omega)]

theorem SlotsWritten.own {beacon : BeaconInfo} {v : Nat} {done : List Nat} {fragment : Memory}
    (written : SlotsWritten beacon v done (fragment, done.length)) {aid : Nat} (valid : aid ∈ aids)
    {place : Nat} (own : done.length = v * membersPerFragment + place) :
    SlotsWritten beacon v (done ++ [aid])
      (writeMember fragment (memberSlot place) aid (beacon.members aid), done.length + 1) := by
  refine ⟨by simp, fun i above below => ?_, fun other range => ?_⟩
  · have before : fragMembers ≤ memberSlot place := Nat.le_add_right _ _
    exact (writeMember_agree fragment _ aid _ (.inl before) i above below).trans
      (written.header i above below)
  · by_cases same : other = place
    · subst other
      rw [← own, List.getElem?_concat_length]
      exact readMember_writeMember fragment (memberSlot place) _ valid
    · have apart : memberSlot other + memberSize ≤ memberSlot place ∨
          memberSlot place + memberSize ≤ memberSlot other := by
        simp only [memberSlot, memberSize]
        omega
      rw [readMember_agree (writeMember_agree fragment _ aid _ apart), written.slots other range]
      congr 1
      rcases Nat.lt_or_gt_of_ne same with before | after
      · rw [List.getElem?_append_left (by omega)]
      · rw [List.getElem?_eq_none (by omega), List.getElem?_eq_none (by simp; omega)]

theorem SlotsWritten.step {beacon : BeaconInfo} {v : Nat} {done : List Nat} {writing : Memory × Nat}
    (written : SlotsWritten beacon v done writing) {aid : Nat} (valid : aid ∈ aids) :
    SlotsWritten beacon v (done ++ if beacon.playerMask.getLsbD aid then [aid] else [])
      (writeSlot beacon v writing aid) := by
  obtain ⟨fragment, index⟩ := writing
  obtain rfl : index = done.length := written.index
  by_cases here : beacon.playerMask.getLsbD aid = true
  · simp only [writeSlot, here, if_true, Bool.not_true, Bool.false_eq_true, if_false]
    split
    · exact written.beside aid ‹_›
    · rename_i inside
      obtain ⟨place, own⟩ : ∃ place, done.length = v * membersPerFragment + place :=
        Nat.exists_eq_add_of_le (by omega)
      have slot : done.length - v * membersPerFragment = place := by omega
      rw [slot]
      exact written.own valid own
  · simpa [writeSlot, here] using written

theorem SlotsWritten.loop {beacon : BeaconInfo} {v : Nat} {done : List Nat} {writing : Memory × Nat}
    (written : SlotsWritten beacon v done writing) (indices : List Nat)
    (valid : ∀ aid ∈ indices, aid ∈ aids) :
    SlotsWritten beacon v (done ++ indices.filter fun aid => beacon.playerMask.getLsbD aid)
      (indices.foldl (writeSlot beacon v) writing) := by
  induction indices generalizing done writing with
  | nil => simpa using written
  | cons aid rest ih =>
      have one := written.step (valid aid List.mem_cons_self)
      have more := ih one fun other member => valid other (List.mem_cons_of_mem _ member)
      rw [List.foldl_cons, List.filter_cons]
      rw [List.append_assoc] at more
      cases here : beacon.playerMask.getLsbD aid with
      | false => simpa [here] using more
      | true => simpa [here] using more

/-! A fragment of the room. -/

section Room
variable (beacon : BeaconInfo) (v : Nat)

/-- The fragment before the bytes of the user and the checksum. -/
theorem volatileFragment_slots :
    SlotsWritten beacon v (present beacon.playerMask)
      (aids.foldl (writeSlot beacon v) (volatileHeader beacon v, 0)) :=
  (SlotsWritten.start beacon v).loop aids fun _ member => member

/-- What the user and the checksum leave alone. -/
theorem volatileFragment_agree {low high : Nat} (user : high ≤ fragUserVolat)
    (apart : high ≤ fragChecksum ∨ fragIndex2 ≤ low) :
    Agree (volatileFragment beacon v)
      (aids.foldl (writeSlot beacon v) (volatileHeader beacon v, 0)).1 low high :=
  (fragmentChecksum_agree _ apart).trans (copyBytes_agree _ _ _ _ (.inl user))

theorem volatileFragment_header {pos : Nat} (before : pos < fragMembers)
    (apart : pos < fragChecksum ∨ fragIndex2 ≤ pos) :
    volatileFragment beacon v pos = volatileHeader beacon v pos := by
  have user : pos + 1 ≤ fragUserVolat := by
    simp only [fragMembers] at before
    simp only [fragUserVolat]
    omega
  exact (volatileFragment_agree beacon v user apart pos (Nat.le_refl _) (Nat.lt_succ_self _)).trans
    ((volatileFragment_slots beacon v).header pos (Nat.zero_le _) before)

theorem readMember_volatileFragment {slot : Nat} (inside : slot < membersPerFragment) :
    readMember (volatileFragment beacon v) (memberSlot slot) =
      ((present beacon.playerMask)[v * membersPerFragment + slot]?).map fun aid =>
        playerRecord aid (beacon.members aid) := by
  have user : memberSlot slot + memberSize ≤ fragUserVolat := by
    simp only [membersPerFragment] at inside
    simp only [memberSlot, memberSize, fragMembers, fragUserVolat]
    omega
  have apart : fragIndex2 ≤ memberSlot slot := by
    simp only [memberSlot, fragMembers, fragIndex2]
    omega
  rw [readMember_agree (volatileFragment_agree beacon v user (.inr apart))]
  exact (volatileFragment_slots beacon v).slots slot inside

theorem readMembers_volatileFragment :
    readMembers (volatileFragment beacon v) = (List.range membersPerFragment).filterMap fun slot =>
      ((present beacon.playerMask).map fun aid =>
        playerRecord aid (beacon.members aid))[v * membersPerFragment + slot]? := by
  refine List.filterMap_congr fun slot member => ?_
  rw [readMember_volatileFragment beacon v (List.mem_range.mp member), List.getElem?_map]

theorem volatileFragment_user :
    readBytes (volatileFragment beacon v) fragUserVolat userVolatSize =
      readBytes beacon.userVolat 0 userVolatSize := by
  rw [volatileFragment, (fragmentChecksum_agree _ (.inr (by decide))).readBytes fragUserVolat
    userVolatSize (Nat.le_refl _) (Nat.le_refl _), copyBytes_read, readBytes, ← List.range_eq_range']

theorem volatileFragment_numbers (few : fixedFragmentCount + v < 256) :
    (volatileFragment beacon v fragIndex).toNat = fixedFragmentCount + v ∧
      (volatileFragment beacon v fragTotal).toNat = fixedFragmentCount ∧
      volatileFragment beacon v fragSeqFixed = beacon.seqFixed := by
  rw [volatileFragment_header beacon v (by decide) (by decide),
    volatileFragment_header beacon v (by decide) (by decide),
    volatileFragment_header beacon v (by decide) (by decide)]
  refine ⟨?_, rfl, rfl⟩
  have index : volatileHeader beacon v fragIndex = UInt8.ofNat (fixedFragmentCount + v) := rfl
  rw [index, UInt8.toNat_ofNat']
  exact Nat.mod_eq_of_lt few

theorem playerCount_lt (mask : Mask) : playerCount mask < 256 :=
  Nat.lt_of_le_of_lt List.countP_le_length (by decide)

theorem volatileFragment_room :
    (volatileFragment beacon v fragPlayerCount).toNat = playerCount beacon.playerMask ∧
      readU16 (volatileFragment beacon v) fragPlayerFlags = beacon.playerMask.toNat ∧
      volatileFragment beacon v fragConnected = beacon.playerSequence := by
  rw [readU16, volatileFragment_header beacon v (by decide) (by decide),
    volatileFragment_header beacon v (by decide) (by decide),
    volatileFragment_header beacon v (by decide) (by decide),
    volatileFragment_header beacon v (by decide) (by decide)]
  have count : volatileHeader beacon v fragPlayerCount = UInt8.ofNat (playerCount beacon.playerMask) :=
    rfl
  have low : volatileHeader beacon v fragPlayerFlags = UInt8.ofNat beacon.playerMask.toNat := rfl
  have high : volatileHeader beacon v (fragPlayerFlags + 1) =
      UInt8.ofNat (beacon.playerMask.toNat / 256) := rfl
  have bits := beacon.playerMask.isLt
  rw [count, low, high, UInt8.toNat_ofNat', UInt8.toNat_ofNat', UInt8.toNat_ofNat']
  exact ⟨Nat.mod_eq_of_lt (playerCount_lt _), by omega, rfl⟩

end Room

/-! The table as it was written last. -/

def table (beacon : BeaconInfo) : Table :=
  { count := beacon.fragmentCount, fragment := beacon.fragments }

/-- The fragments of the record are there, and there is room for those of the players. -/
structure Prepared (beacon : BeaconInfo) (maxClients : Nat) : Prop where
  few : maxClients ≤ maxMultiplayerClients
  rooms : beacon.volatileCount = volatileFragmentCount maxClients
  count : beacon.fragmentCount = fixedFragmentCount + beacon.volatileCount
  record : ∀ i, i < fixedFragmentCount →
    beacon.fragments i = recordFragment beacon.gameInfo beacon.seqFixed i
  fits : (present beacon.playerMask).length ≤ maxClients

structure Written (beacon : BeaconInfo) (maxClients : Nat) : Prop extends
    Prepared beacon maxClients where
  room : ∀ v, v < beacon.volatileCount →
    beacon.fragments (fixedFragmentCount + v) = volatileFragment beacon v

theorem volatileFragmentCount_holds (clients : Nat) :
    clients ≤ volatileFragmentCount clients * membersPerFragment := by
  simp only [volatileFragmentCount, membersPerFragment]
  split <;> omega

theorem volatileFragmentCount_le {clients : Nat} (few : clients ≤ maxMultiplayerClients) :
    volatileFragmentCount clients ≤ membersPerFragment := by
  simp only [maxMultiplayerClients] at few
  simp only [volatileFragmentCount, membersPerFragment]
  split <;> omega

namespace Written
variable {beacon : BeaconInfo} {maxClients : Nat}

theorem roomCount (written : Written beacon maxClients) :
    (table beacon).roomCount = beacon.volatileCount := by
  rw [Table.roomCount, table, written.count, Nat.add_sub_cancel_left]

theorem room_eq (written : Written beacon maxClients) {v : Nat} (inside : v < beacon.volatileCount) :
    (table beacon).room v = volatileFragment beacon v := written.room v inside

theorem volatileCount_le (written : Written beacon maxClients) : beacon.volatileCount ≤ 4 := by
  rw [written.rooms]
  exact volatileFragmentCount_le written.few

theorem numbers (written : Written beacon maxClients) {i : Nat} (inside : i < (table beacon).count) :
    ((table beacon).fragment i fragIndex).toNat = i ∧
      ((table beacon).fragment i fragTotal).toNat = fixedFragmentCount ∧
      (table beacon).fragment i fragSeqFixed = beacon.seqFixed := by
  by_cases fixed : i < fixedFragmentCount
  · obtain ⟨index, total, sequence, _⟩ := recordFragment_header beacon.gameInfo beacon.seqFixed fixed
    rw [show (table beacon).fragment i = _ from written.record i fixed]
    exact ⟨index, total, sequence⟩
  · obtain ⟨v, rfl⟩ := Nat.exists_eq_add_of_le (Nat.le_of_not_lt fixed)
    have below : v < beacon.volatileCount :=
      Nat.lt_of_add_lt_add_left (Nat.lt_of_lt_of_eq inside written.count)
    have few := written.volatileCount_le
    rw [show (table beacon).fragment (fixedFragmentCount + v) = _ from written.room v below]
    exact volatileFragment_numbers beacon v (by simp only [fixedFragmentCount]; omega)

/-- The windows of four hold every player, because there are enough of them. -/
theorem members (written : Written beacon maxClients) :
    (table beacon).members = (present beacon.playerMask).map fun aid =>
      playerRecord aid (beacon.members aid) := by
  have room : (present beacon.playerMask).length ≤ beacon.volatileCount * membersPerFragment := by
    rw [written.rooms]
    exact written.fits.trans (volatileFragmentCount_holds maxClients)
  have windows : (table beacon).members = (List.range beacon.volatileCount).flatMap fun v =>
      (List.range membersPerFragment).filterMap fun slot =>
        ((present beacon.playerMask).map fun aid =>
          playerRecord aid (beacon.members aid))[v * membersPerFragment + slot]? := by
    rw [Table.members, written.roomCount]
    refine List.flatMap_congr fun v member => ?_
    rw [written.room_eq (List.mem_range.mp member), readMembers_volatileFragment]
  rw [windows, Pieces.windows_take, List.take_of_length_le (by simpa using room)]

theorem announces (written : Written beacon maxClients) : Announces (table beacon) beacon where
  numbers := fun _ inside => written.numbers inside
  record := record_whole written.record
  members := written.members
  room := by
    intro v inside
    rw [written.room_eq (written.roomCount ▸ inside)]
    obtain ⟨count, mask, sequence⟩ := volatileFragment_room beacon v
    exact ⟨count, mask, sequence, volatileFragment_user beacon v⟩

theorem publish_eq (written : Written beacon maxClients) :
    publish beacon = { beacon with published := beacon.published ++ [table beacon] } := by
  have few := written.volatileCount_le
  have accepted : ¬ (beacon.fragmentCount < 1 ∨ beacon.fragmentCount > beaconMaxFragments) := by
    rw [written.count]
    simp only [fixedFragmentCount, beaconMaxFragments]
    omega
  rw [publish, if_neg accepted]
  rfl

end Written

/-! A run of calls. -/

inductive Call where
  | setInfo (personal : PersonalData) (rom : Rom) (info : Info) (maxClients : Nat)
  /-- Wifi_DlPlayBeaconResetPlayers is followed by Wifi_DlPlayBeaconSetInfo. -/
  | restart (personal : PersonalData) (rom : Rom) (info : Info) (maxClients : Nat)
  | setPlayers (clients : Mask) (members : Nat → RoomMember)
  | setUserVolatData (data : Option Memory)

/-- What is announced, and whether a record has been announced at all. -/
structure Announcing where
  beacon : BeaconInfo := {}
  maxClients : Nat := 0
  announced : Bool := false

def call (announcing : Announcing) : Call → Announcing
  | .setInfo personal rom info maxClients =>
      { beacon := beaconSetInfo personal rom info maxClients announcing.beacon
        maxClients, announced := true }
  | .restart personal rom info maxClients =>
      { beacon := beaconSetInfo personal rom info maxClients (beaconResetPlayers announcing.beacon)
        maxClients, announced := true }
  | .setPlayers clients members =>
      { announcing with beacon := beaconSetPlayers clients members announcing.beacon }
  | .setUserVolatData data =>
      { announcing with beacon := beaconSetUserVolatData data announcing.beacon }

/-- A room holds at most as many clients as it was announced for. -/
def HoldsPlayers (announcing : Announcing) : Call → Prop
  | .setInfo _ _ _ maxClients => maxClients ≤ maxMultiplayerClients ∧
      (present announcing.beacon.playerMask).length ≤ maxClients
  | .restart _ _ _ maxClients => maxClients ≤ maxMultiplayerClients
  | .setPlayers clients _ => announcing.announced = true →
      (present clients).length ≤ announcing.maxClients
  | .setUserVolatData _ => True

instance (announcing : Announcing) (made : Call) : Decidable (HoldsPlayers announcing made) := by
  cases made <;> unfold HoldsPlayers <;> infer_instance

/-- A call brings news of the list of players. -/
def Changes (beacon : BeaconInfo) (now : Mask) (members : Nat → RoomMember) : Prop :=
  now ≠ beacon.playerMask ∨
    ∃ aid ∈ aids, now.getLsbD aid = true ∧ members aid ≠ beacon.members aid

/-- The announcement of a list of players can be told from the one before it. -/
def ToldApart (before after : BeaconInfo) : Prop :=
  ∃ told, after.published = before.published ++ [told] ∧
    ∀ last ∈ before.published.getLast?, ∀ v w, v < told.roomCount → w < last.roomCount →
      told.room v fragConnected ≠ last.room w fragConnected

structure PlayersSet (before after : BeaconInfo) (clients : Mask) (members : Nat → RoomMember) :
    Prop where
  mask : after.playerMask = clients ||| playerFlagHost
  known : ∀ aid ∈ aids, after.playerMask.getLsbD aid = true → after.members aid = members aid
  again : beaconSetPlayers clients members after = after
  silent : ¬ Changes before (clients ||| playerFlagHost) members → after = before

/-- What a call has to leave behind. -/
structure Faithful (announcing : Announcing) (made : Call) : Prop where
  current : (call announcing made).announced = true →
    ∃ last, (call announcing made).beacon.published.getLast? = some last ∧
      Announces last (call announcing made).beacon
  players : ∀ clients members, made = .setPlayers clients members →
    PlayersSet announcing.beacon (call announcing made).beacon clients members ∧
      (announcing.announced = true → Changes announcing.beacon (clients ||| playerFlagHost) members →
        ToldApart announcing.beacon (call announcing made).beacon)

/-- The table that was handed over last is the one of the state. -/
def Current (announcing : Announcing) : Prop :=
  announcing.announced = true → Written announcing.beacon announcing.maxClients ∧
    announcing.beacon.published.getLast? = some (table announcing.beacon)

/-! The players a call brings. -/

theorem memberChanged_iff {first second : RoomMember} :
    memberChanged first second = true ↔ second ≠ first := by
  obtain ⟨color, nameLen, name⟩ := first
  obtain ⟨color', nameLen', name'⟩ := second
  simp only [memberChanged, ne_eq, RoomMember.mk.injEq, decide_eq_true_eq, not_and]
  grind

theorem playersChanged_iff {beacon : BeaconInfo} {now : Mask} {members : Nat → RoomMember} :
    playersChanged beacon now members = true ↔ Changes beacon now members := by
  simp only [playersChanged, Changes, decide_eq_true_eq, List.any_eq_true, Bool.and_eq_true,
    memberChanged_iff]

theorem present_host (clients : Mask) : present (clients ||| playerFlagHost) = present clients := by
  have host : ∀ aid ∈ aids, playerFlagHost.getLsbD aid = false := by decide
  refine List.filter_congr fun aid member => ?_
  rw [BitVec.getLsbD_or, host aid member, Bool.or_false]

/-! Every call that writes the fragments hands them over. -/


/-- What a fragment of the room is written from. -/
structure SameRoom (first second : BeaconInfo) : Prop where
  mask : first.playerMask = second.playerMask
  members : first.members = second.members
  seqFixed : first.seqFixed = second.seqFixed
  sequence : first.playerSequence = second.playerSequence
  changed : first.playerChanged = second.playerChanged
  userVolat : first.userVolat = second.userVolat

theorem SameRoom.fragment {first second : BeaconInfo} (same : SameRoom first second) (v : Nat) :
    volatileFragment first v = volatileFragment second v := by
  have slot : writeSlot first v = writeSlot second v := by
    funext writing aid
    simp only [writeSlot, same.mask, same.members]
  have header : volatileHeader first v = volatileHeader second v := by
    simp only [volatileHeader, same.mask, same.seqFixed, same.sequence, same.changed]
  rw [volatileFragment, volatileFragment, slot, header, same.userVolat]

theorem Written.publish {beacon : BeaconInfo} {maxClients : Nat} (written : Written beacon maxClients) :
    Written (publish beacon) maxClients ∧
      (DlPlay.publish beacon).published = beacon.published ++ [table (DlPlay.publish beacon)] := by
  rw [written.publish_eq]
  refine ⟨⟨⟨written.few, written.rooms, written.count, written.record, written.fits⟩, fun v inside => ?_⟩,
    rfl⟩
  have same : SameRoom { beacon with published := beacon.published ++ [table beacon] } beacon :=
    ⟨rfl, rfl, rfl, rfl, rfl, rfl⟩
  exact (written.room v inside).trans (same.fragment v).symm

namespace Prepared
variable {beacon : BeaconInfo} {maxClients : Nat}

theorem write (prepared : Prepared beacon maxClients) :
    Written (writeVolatileFragments beacon) maxClients where
  few := prepared.few
  rooms := prepared.rooms
  count := prepared.count
  record := by
    intro i inside
    have before : ¬ (fixedFragmentCount ≤ i ∧ i < fixedFragmentCount + beacon.volatileCount) := by
      omega
    exact (if_neg before).trans (prepared.record i inside)
  fits := prepared.fits
  room := by
    intro v inside
    have within : fixedFragmentCount ≤ fixedFragmentCount + v ∧
        fixedFragmentCount + v < fixedFragmentCount + beacon.volatileCount :=
      ⟨Nat.le_add_right _ _, Nat.add_lt_add_left inside _⟩
    have same : SameRoom (writeVolatileFragments beacon) beacon := ⟨rfl, rfl, rfl, rfl, rfl, rfl⟩
    rw [same.fragment]
    refine (if_pos within).trans ?_
    rw [Nat.add_sub_cancel_left]

theorem announce (prepared : Prepared beacon maxClients) :
    Written (publish (writeVolatileFragments beacon)) maxClients ∧
      (publish (writeVolatileFragments beacon)).published =
        beacon.published ++ [table (publish (writeVolatileFragments beacon))] :=
  prepared.write.publish

end Prepared

theorem setInfo_prepared (personal : PersonalData) (rom : Rom) (info : Info) {maxClients : Nat}
    (beacon : BeaconInfo) (few : maxClients ≤ maxMultiplayerClients)
    (fits : (present beacon.playerMask).length ≤ maxClients) :
    Written (beaconSetInfo personal rom info maxClients beacon) maxClients ∧
      (beaconSetInfo personal rom info maxClients beacon).published =
        beacon.published ++ [table (beaconSetInfo personal rom info maxClients beacon)] :=
  Prepared.announce
    { few, fits, rooms := rfl, count := rfl, record := fun _ inside => if_pos inside }

section SetPlayers
variable {clients : Mask} {members : Nat → RoomMember} {beacon : BeaconInfo}

theorem setPlayers_silent (same : ¬ Changes beacon (clients ||| playerFlagHost) members) :
    beaconSetPlayers clients members beacon = beacon := by
  have unchanged := Bool.eq_false_iff.mpr (mt playersChanged_iff.mp same)
  simp [beaconSetPlayers, unchanged]

/-- The state after news of the players, before it is announced. -/
def withPlayers (clients : Mask) (members : Nat → RoomMember) (beacon : BeaconInfo) : BeaconInfo :=
  { beacon with
    playerChanged := (clients ||| playerFlagHost) ^^^ beacon.playerMask
    playerMask := clients ||| playerFlagHost
    playerSequence := beacon.playerSequence + 1
    members := fun aid => if aid ∈ aids then members aid else beacon.members aid }

theorem setPlayers_changed (news : Changes beacon (clients ||| playerFlagHost) members) :
    beaconSetPlayers clients members beacon =
      publish (writeVolatileFragments (withPlayers clients members beacon)) := by
  have changed := playersChanged_iff.mpr news
  simp [beaconSetPlayers, changed, withPlayers]

/-- Handing a table over leaves the players as they are. -/
theorem publish_players (beacon : BeaconInfo) :
    (publish (writeVolatileFragments beacon)).playerMask = beacon.playerMask ∧
      (publish (writeVolatileFragments beacon)).members = beacon.members ∧
      (publish (writeVolatileFragments beacon)).playerSequence = beacon.playerSequence := by
  unfold publish
  split <;> exact ⟨rfl, rfl, rfl⟩

theorem setPlayers_set (clients : Mask) (members : Nat → RoomMember) (beacon : BeaconInfo) :
    PlayersSet beacon (beaconSetPlayers clients members beacon) clients members := by
  by_cases news : Changes beacon (clients ||| playerFlagHost) members
  · rw [setPlayers_changed news]
    obtain ⟨mask, known, _⟩ := publish_players (withPlayers clients members beacon)
    have everyone : ∀ aid ∈ aids,
        (publish (writeVolatileFragments (withPlayers clients members beacon))).members aid =
          members aid := by
      intro aid member
      rw [known]
      exact if_pos member
    refine ⟨mask, fun aid member _ => everyone aid member, setPlayers_silent ?_, fun same => absurd news same⟩
    rintro (differs | ⟨aid, member, _, differs⟩)
    · exact differs mask.symm
    · exact differs (everyone aid member).symm
  · rw [setPlayers_silent news]
    have same := not_or.mp news
    refine ⟨(not_not.mp same.1).symm, fun aid member here => ?_, setPlayers_silent news, fun _ => rfl⟩
    by_contra differs
    refine same.2 ⟨aid, member, ?_, fun equal => differs equal.symm⟩
    rw [not_not.mp same.1]
    exact here

end SetPlayers

/-! The run. -/

theorem Current.start : Current {} := fun announced => absurd announced (by decide)

theorem current_of_announce {beacon : BeaconInfo} {published : List Table} {maxClients : Nat}
    (written : Written beacon maxClients) (handed : beacon.published = published ++ [table beacon])
    (announced : Bool) : Current { beacon, maxClients, announced } := by
  intro _
  refine ⟨written, ?_⟩
  rw [handed, List.getLast?_append]
  rfl

theorem Current.prepared_players {announcing : Announcing} (current : Current announcing)
    (announced : announcing.announced = true) {clients : Mask} (members : Nat → RoomMember)
    (few : (present clients).length ≤ announcing.maxClients) :
    Prepared (withPlayers clients members announcing.beacon) announcing.maxClients := by
  have written := (current announced).1
  refine ⟨written.few, written.rooms, written.count, written.record, ?_⟩
  rw [show (withPlayers clients members announcing.beacon).playerMask = clients ||| playerFlagHost from
    rfl, present_host]
  exact few

theorem Current.prepared_user {announcing : Announcing} (current : Current announcing)
    (announced : announcing.announced = true) (userVolat : Memory) :
    Prepared { announcing.beacon with userVolat } announcing.maxClients := by
  have written := (current announced).1
  exact ⟨written.few, written.rooms, written.count, written.record, written.fits⟩

theorem Current.step {announcing : Announcing} {made : Call} (current : Current announcing)
    (fits : HoldsPlayers announcing made) : Current (call announcing made) := by
  cases made with
  | setInfo personal rom info maxClients =>
      obtain ⟨written, handed⟩ := setInfo_prepared personal rom info announcing.beacon fits.1 fits.2
      exact current_of_announce written handed true
  | restart personal rom info maxClients =>
      have nobody : (present playerFlagHost).length ≤ maxClients := Nat.zero_le _
      obtain ⟨written, handed⟩ := setInfo_prepared personal rom info
        (beaconResetPlayers announcing.beacon) fits nobody
      exact current_of_announce written handed true
  | setPlayers clients members =>
      intro announced
      -- a call that changes nothing announces nothing, and what was announced is still true
      by_cases news : Changes announcing.beacon (clients ||| playerFlagHost) members
      · obtain ⟨written, handed⟩ := (current.prepared_players announced members (fits announced)).announce
        rw [← setPlayers_changed news] at written handed
        exact current_of_announce written handed announcing.announced announced
      · rw [call, setPlayers_silent news]
        exact current announced
  | setUserVolatData data =>
      intro announced
      rw [call, beaconSetUserVolatData]
      split
      · exact current announced
      · obtain ⟨written, handed⟩ := (current.prepared_user announced (data.getD fun _ => 0)).announce
        exact current_of_announce written handed announcing.announced announced

/-- All fragments of the room carry the number of the announcement. -/
theorem Written.sequence {beacon : BeaconInfo} {maxClients : Nat} (written : Written beacon maxClients)
    {v : Nat} (inside : v < (table beacon).roomCount) :
    (table beacon).room v fragConnected = beacon.playerSequence :=
  (written.announces.room v inside).2.2.1

theorem Current.told_apart {announcing : Announcing} {clients : Mask} {members : Nat → RoomMember}
    (current : Current announcing) (announced : announcing.announced = true)
    (few : (present clients).length ≤ announcing.maxClients)
    (news : Changes announcing.beacon (clients ||| playerFlagHost) members) :
    ToldApart announcing.beacon (beaconSetPlayers clients members announcing.beacon) := by
  obtain ⟨written, handed⟩ := (current.prepared_players announced members few).announce
  obtain ⟨before, last⟩ := current announced
  rw [setPlayers_changed news]
  refine ⟨_, handed, fun other member v w inside outside same => ?_⟩
  obtain rfl : table announcing.beacon = other := Option.some.inj (last.symm.trans member)
  rw [written.sequence inside, before.sequence outside,
    (publish_players (withPlayers clients members announcing.beacon)).2.2] at same
  have moved := congrArg UInt8.toNat same
  change (announcing.beacon.playerSequence + 1).toNat = announcing.beacon.playerSequence.toNat at moved
  rw [UInt8.toNat_add] at moved
  have bound := announcing.beacon.playerSequence.toNat_lt
  simp only [UInt8.toNat_one] at moved
  omega

theorem Current.faithful {announcing : Announcing} {made : Call} (current : Current announcing)
    (fits : HoldsPlayers announcing made) : Faithful announcing made where
  current := by
    intro announced
    obtain ⟨written, last⟩ := current.step fits announced
    exact ⟨_, last, written.announces⟩
  players := by
    rintro clients members rfl
    exact ⟨setPlayers_set clients members announcing.beacon,
      fun announced news => current.told_apart announced (fits announced) news⟩

/-- The table that was handed over last says what the state is, after every call. -/
theorem room_announced (calls : List Call) (fits : EachStep call HoldsPlayers {} calls) :
    EachStep call Faithful {} calls :=
  each_step_of_guard (fun _ _ current fits => Current.step current fits)
    (fun _ _ current fits => Current.faithful current fits) {} calls Current.start fits

def smallPersonal : PersonalData where
  name := [65, 66]
  theme := 3

def blankRom : Rom where
  rom := fun _ => 0
  romSize := ndsHdrSize
  segments := []
  totalBlocks := 0
  rsa := none
  blockSize := cmdDataSize

/-- Six players come, which takes two fragments, and the host starts anew for two. -/
def sixPlayers : List Call :=
  let members : Nat → RoomMember := fun aid => { favoriteColor := UInt8.ofNat aid, nameLen := 1 }
  [.setInfo smallPersonal blankRom {} 6, .setPlayers 0x7E members, .setPlayers 0x7E members,
    .setUserVolatData (some fun i => UInt8.ofNat i), .setInfo smallPersonal blankRom {} 15,
    .restart smallPersonal blankRom {} 2, .setPlayers 2 members]

theorem room_announced_six : EachStep call Faithful {} sixPlayers :=
  room_announced sixPlayers (by decide +kernel)

end Dswifi.DlPlay
