import Dswifi.BeaconParse

/-! What a client makes of the beacon that Wifi_BeaconStart builds on the host. -/

namespace Dswifi.BeaconFrame

open ByteMemory Reading
open Beacon (fieIdDsParamSet fieIdVendor fieVendorNintendoHeader)

variable {mem : Memory}

theorem word_bytes (word : BitVec 32) :
    ((word >>> 24).setWidth 8).setWidth 32 <<< 24 ||| ((word >>> 16).setWidth 8).setWidth 32 <<< 16 |||
      ((word >>> 8).setWidth 8).setWidth 32 <<< 8 ||| (word.setWidth 8).setWidth 32 = word := by
  ext i inside
  have which : i < 8 ∨ (8 ≤ i ∧ i < 16) ∨ (16 ≤ i ∧ i < 24) ∨ 24 ≤ i := by omega
  rcases which with low | ⟨above, below⟩ | ⟨above, below⟩ | high
  all_goals
    simp [BitVec.getElem_setWidth, BitVec.getLsbD_setWidth]
    grind

theorem be32_joined (value : UInt32) :
    be32 [(value >>> 24).toUInt8, (value >>> 16).toUInt8, (value >>> 8).toUInt8, value.toUInt8] = value := by
  apply UInt32.eq_of_toBitVec_eq
  exact word_bytes value.toBitVec

theorem le32_bswap32 (value : UInt32) : le32 (bswap32 value) =
    [(value >>> 24).toUInt8, (value >>> 16).toUInt8, (value >>> 8).toUInt8, value.toUInt8] := by
  have byte : ∀ first second : UInt32,
      (∀ i < 8, first.toBitVec.getLsbD i = second.toBitVec.getLsbD i) → first.toUInt8 = second.toUInt8 := by
    intro first second same
    apply UInt8.eq_of_toBitVec_eq
    ext i inside
    simpa [BitVec.getLsbD_eq_getElem] using same i inside
  simp only [le32, bswap32]
  refine congrArg₂ _ (byte _ _ ?_) (congrArg₂ _ (byte _ _ ?_) (congrArg₂ _ (byte _ _ ?_)
    (congrArg₂ _ (byte _ _ ?_) rfl)))
  all_goals
    intro i inside
    simp
    interval_cases i <;> simp

theorem joined_le16s (values : List UInt16) : joined (values.flatMap le16) = values := by
  induction values with
  | nil => rfl
  | cons value rest ih =>
      rw [List.flatMap_cons, le16, List.cons_append, List.cons_append, List.nil_append, joined, ih, le16_joined]

/-- A list of elements in the memory, read one after the other. -/
inductive Tells (mem : Memory) : Nat → List Fie → Found → Found → Prop where
  | nil {pos : Nat} {found : Found} : Tells mem pos [] found found
  | cons {pos : Nat} {fie : Fie} {rest : List Fie} {found next last : Found} (small : fie.2.length < 256)
      (there : InPlace mem pos (fieBytes fie))
      (told : (processElement fie.1 fie.2.length (pos + 2) found).value mem = next)
      (later : Tells mem (pos + (fieBytes fie).length) rest next last) : Tells mem pos (fie :: rest) found last

theorem processElements_end {datalen fuel curloc : Nat} {found : Found} (past : datalen ≤ curloc) :
    (processElements datalen fuel curloc found).value mem = found := by
  cases fuel with
  | zero => rfl
  | succ fuel =>
      rw [processElements, if_pos past]
      rfl

/-- The loop over the elements of a frame that ends with the last of them. -/
theorem processElements_tells {datalen fuel pos : Nat} {fies : List Fie} {found last : Found}
    (tells : Tells mem pos fies found last) (all : datalen = pos + (fies.flatMap fieBytes).length) :
    (processElements datalen (fuel + fies.length) pos found).value mem = last := by
  induction tells generalizing fuel with
  | nil => exact processElements_end (Nat.le_of_eq all)
  | @cons pos fie rest found next last small there told _ ih =>
      rw [List.flatMap_cons, List.length_append, ← Nat.add_assoc] at all
      have length := fieBytes_length fie
      have segtype : mem pos = fie.1 := there.byte (show 0 < (fieBytes fie).length from Nat.succ_pos _)
      have seglen : mem (pos + 1) = UInt8.ofNat fie.2.length := there.byte (by omega)
      have exact : (UInt8.ofNat fie.2.length).toNat = fie.2.length := by
        simp [Nat.mod_eq_of_lt small]
      rw [List.length_cons, ← Nat.add_assoc, processElements, if_neg (by omega)]
      simp only [value_bind, value_byte, segtype, seglen, exact, told]
      rw [show pos + 2 + fie.2.length = pos + (fieBytes fie).length by omega]
      exact ih all

/-- What the host says of itself. -/
def dswifiInfo (gameId : UInt32) (shared : Shared) : NintendoVendorInfo where
  playersMax := shared.curMaxClients + 1
  playersCurrent := 1
  allowsConnections := if shared.allowClients then 1 else 0
  gameId := gameId
  nameLen := shared.hostPlayerNameLen
  name := List.ofFn shared.hostPlayerName
  gameDataLen := gameDataLen shared
  gameData := (List.ofFn shared.hostGameData).take (gameDataLen shared) ++
    (List.replicate beaconGameDataMax 0).drop (gameDataLen shared)

section Vendor
variable {data : Nat} {gameId : UInt32} {shared : Shared}

/-- The fields of the vendor element that the client looks at. -/
theorem vendorHeader_fields {info : VendorInfo} (header : InPlace mem data (vendorHeader info)) :
    readBytes mem data 4 = nintendoTag ∧ readBytes mem (data + 12) 4 = le32 info.gameId ∧
      mem (data + 0x12) = UInt8.ofNat info.extraDataSize ∧ mem (data + 0x13) = info.beaconType := by
  simp only [vendorHeader, inPlace_append, List.length_append, le16_length, le32_length] at header
  obtain ⟨⟨⟨⟨⟨⟨⟨⟨tag, _⟩, _⟩, _⟩, gameId⟩, _⟩, sizes⟩, _⟩, _⟩ := header
  exact ⟨tag, gameId, sizes.byte (show 0 < 2 by decide), sizes.byte (show 1 < 2 by decide)⟩

theorem vendor_tags {info : VendorInfo} (header : InPlace mem data (vendorHeader info)) (len : Nat)
    (long : fieVendorNintendoHeader ≤ len) :
    (isVendorMicrosoft data len).value mem = false ∧ (isVendorNintendo data len).value mem = true := by
  have four := (vendorHeader_fields header).1
  constructor
  · rw [isVendorMicrosoft]
    split
    · rw [value_startsWith]
      refine decide_eq_false fun six => ?_
      have tags : readBytes mem data (4 + 2) = readBytes mem data 4 ++ readBytes mem (data + 4) 2 :=
        readBytes_append mem data 4 2
      have same := six.symm.trans (tags.trans (congrArg (· ++ _) four))
      simp [microsoftTag, nintendoTag] at same
    · rfl
  · rw [isVendorNintendo, if_pos long, value_startsWith]
    exact decide_eq_true four

theorem gameDataSize_eq (shared : Shared) :
    gameDataSize (UInt8.ofNat (dswifiExtraData + gameDataLen shared)).toNat
      (fieVendorNintendoHeader + (dswifiExtraData + gameDataLen shared)) = gameDataLen shared := by
  have bound := gameDataLen_le shared
  have size : (UInt8.ofNat (dswifiExtraData + gameDataLen shared)).toNat =
      dswifiExtraData + gameDataLen shared := by
    simp only [UInt8.toNat_ofNat', dswifiExtraData, beaconGameDataMax] at *
    omega
  rw [size, gameDataSize, if_neg (by omega), Nat.add_sub_cancel_left, Nat.min_eq_left bound]

theorem processExtraData_dswifi {found : Found}
    (header : InPlace mem data (vendorHeader (beaconInfo gameId shared)))
    (extra : InPlace mem (data + fieVendorNintendoHeader) (extraData shared)) :
    (processExtraData data (fieVendorNintendoHeader + (extraData shared).length) found).value mem =
      { found with
        info := { found.info with
          playersMax := shared.curMaxClients + 1
          playersCurrent := 1
          allowsConnections := if shared.allowClients then 1 else 0
          nameLen := shared.hostPlayerNameLen
          name := List.ofFn shared.hostPlayerName
          gameDataLen := gameDataLen shared
          gameData := (List.ofFn shared.hostGameData).take (gameDataLen shared) ++
            found.info.gameData.drop (gameDataLen shared) } } := by
  obtain ⟨first, gameData⟩ := inPlace_append.mp extra
  have four := inPlace_append.mp first
  have size : mem (data + 0x12) = UInt8.ofNat (dswifiExtraData + gameDataLen shared) :=
    (vendorHeader_fields header).2.2.1
  have playersMax : mem (data + 24) = shared.curMaxClients + 1 := four.1.byte (show 0 < 4 by decide)
  have playersCurrent : mem (data + 25) = 1 := four.1.byte (show 1 < 4 by decide)
  have allows : mem (data + 26) = if shared.allowClients then 1 else 0 :=
    four.1.byte (show 2 < 4 by decide)
  have nameLen : mem (data + 27) = shared.hostPlayerNameLen := four.1.byte (show 3 < 4 by decide)
  have name : readBytes mem (data + 28) (2 * beaconNameChars) =
      (List.ofFn shared.hostPlayerName).flatMap le16 := by
    have there := four.2
    rwa [InPlace, le16s_length, List.length_ofFn] at there
  have bytes : readBytes mem (data + fieVendorNintendoHeader + dswifiExtraData) (gameDataLen shared) =
      (List.ofFn shared.hostGameData).take (gameDataLen shared) := by
    rwa [InPlace, extraHeader_length, List.length_take, List.length_ofFn,
      Nat.min_eq_left (gameDataLen_le shared)] at gameData
  simp only [processExtraData, value_bind, value_byte, value_bytes, value_pure, extraData_length, size,
    gameDataSize_eq, playersMax, playersCurrent, allows, nameLen, name, joined_le16s, bytes]

/-- The size of the extra data fits the byte that says it, and is enough. -/
theorem extraDataSize_large (shared : Shared) :
    ¬((UInt8.ofNat (dswifiExtraData + gameDataLen shared)).toNat < dswifiExtraData ∨
      fieVendorNintendoHeader + (extraData shared).length < fieVendorNintendoHeader + dswifiExtraData) := by
  have bound := gameDataLen_le shared
  rw [extraData_length]
  simp only [UInt8.toNat_ofNat', dswifiExtraData, beaconGameDataMax] at bound ⊢
  omega

theorem processNintendo_dswifi {found : Found} (blank : found.info = {})
    (header : InPlace mem data (vendorHeader (beaconInfo gameId shared)))
    (extra : InPlace mem (data + fieVendorNintendoHeader) (extraData shared)) :
    (processNintendo data (fieVendorNintendoHeader + (extraData shared).length) found).value mem =
      { found with hasNintendoInfo := true, info := dswifiInfo gameId shared } := by
  obtain ⟨_, id, size, beaconType⟩ := vendorHeader_fields header
  have word : be32 (readBytes mem (data + 12) 4) = gameId := by
    rw [id, beaconInfo, le32_bswap32, be32_joined]
  have large := extraDataSize_large shared
  rw [← show (beaconInfo gameId shared).extraDataSize = dswifiExtraData + gameDataLen shared from rfl,
    ← size] at large
  have multicart : ¬(byte (data + 0x13)).value mem ≠ 1 := not_not.mpr beaconType
  have enough : ¬(((byte (data + 0x12)).value mem).toNat < dswifiExtraData ∨
      fieVendorNintendoHeader + (extraData shared).length < fieVendorNintendoHeader + dswifiExtraData) := large
  simp only [processNintendo, value_bind]
  rw [if_neg multicart]
  simp only [value_bind]
  rw [if_neg enough, processExtraData_dswifi header extra]
  simp only [value_bytes, word, blank]
  rfl

theorem processVendorTag_dswifi {found : Found} (blank : found.info = {})
    (there : InPlace mem data (vendorHeader (beaconInfo gameId shared) ++ extraData shared)) :
    (processVendorTag data (vendorHeader (beaconInfo gameId shared) ++ extraData shared).length found).value
      mem = { found with hasNintendoInfo := true, info := dswifiInfo gameId shared } := by
  obtain ⟨header, extra⟩ := inPlace_append.mp there
  rw [vendorHeader_length] at extra
  rw [List.length_append, vendorHeader_length]
  obtain ⟨microsoft, nintendo⟩ := vendor_tags header
    (fieVendorNintendoHeader + (extraData shared).length) (Nat.le_add_right _ _)
  simp only [processVendorTag, value_bind, microsoft, Bool.false_eq_true, if_false, nintendo, if_true]
  exact processNintendo_dswifi blank header extra

end Vendor

section Frame
variable {ssid : List UInt8} {gameId : UInt32} {shared : Shared}

theorem rates_compatible {pos : Nat}
    (there : InPlace mem pos [rateMandatory ||| rate2Mbps, rateMandatory ||| rate1Mbps]) (compatible : Bool) :
    (rateSet 2 pos compatible).value mem = true := by
  have first : mem pos = rateMandatory ||| rate2Mbps := there.byte (show 0 < 2 by decide)
  have second : mem (pos + 1) = rateMandatory ||| rate1Mbps := there.byte (show 1 < 2 by decide)
  have same : rateMandatory ||| rate2Mbps ≠ rateMandatory ||| rate1Mbps := by decide
  simp [rateSet, first, second, same]

theorem processElement_ssid (seglen curloc : Nat) (found : Found) :
    (processElement fieIdSsid seglen curloc found).value mem = { found with ptrSsid := curloc - 2 } := rfl

theorem processElement_rates (seglen curloc : Nat) (found : Found) :
    (processElement fieIdSupportedRates seglen curloc found).value mem =
      { found with compatible := (rateSet seglen curloc false).value mem } := by
  rw [processElement, if_neg (by decide), if_pos rfl]
  rfl

theorem processElement_channel (seglen curloc : Nat) (found : Found) :
    (processElement fieIdDsParamSet seglen curloc found).value mem = { found with channel := mem curloc } := by
  rw [processElement, if_neg (by decide), if_neg (by decide), if_pos rfl]
  rfl

theorem processElement_tim (seglen curloc : Nat) (found : Found) :
    (processElement fieIdTim seglen curloc found).value mem = found := by
  rw [processElement, if_neg (by decide), if_neg (by decide), if_neg (by decide), if_neg (by decide),
    if_neg (by decide)]
  rfl

theorem processElement_vendor (seglen curloc : Nat) (found : Found) :
    processElement fieIdVendor seglen curloc found = processVendorTag curloc seglen found := by
  rw [processElement, if_neg (by decide), if_neg (by decide), if_neg (by decide), if_neg (by decide),
    if_pos rfl]

theorem contents_inPlace {pos : Nat} {fie : Fie} (there : InPlace mem pos (fieBytes fie)) :
    InPlace mem (pos + 2) fie.2 :=
  there.drop (show 2 ≤ (fieBytes fie).length from Nat.le_add_left 2 fie.2.length)

/-- The elements of the beacon tell what the host says of itself. -/
theorem dswifiFies_tell {pos : Nat} {found : Found} (short : ssid.length ≤ 32) (blank : found.info = {})
    (there : InPlace mem pos ((dswifiFies ssid gameId shared).flatMap fieBytes)) :
    Tells mem pos (dswifiFies ssid gameId shared) found
      { found with
        compatible := true
        ptrSsid := pos
        channel := shared.reqChannel
        hasNintendoInfo := true
        info := dswifiInfo gameId shared } := by
  have bound := gameDataLen_le shared
  have size : (vendorHeader (beaconInfo gameId shared) ++ extraData shared).length < 256 := by
    simp only [List.length_append, vendorHeader_length, extraData_length, fieVendorNintendoHeader,
      dswifiExtraData, beaconGameDataMax] at bound ⊢
    omega
  have vendorTold (data : Nat) (found : Found) (blank : found.info = {}) :=
    @processVendorTag_dswifi mem data gameId shared found blank
  unfold dswifiFies at there ⊢
  generalize vendorHeader (beaconInfo gameId shared) ++ extraData shared = text at *
  simp only [List.flatMap_cons, List.flatMap_nil, List.append_nil, inPlace_append] at there
  obtain ⟨name, rates, channel, tim, vendor⟩ := there
  -- the elements in their order; only the vendor tag is longer than a few bytes
  refine .cons (Nat.lt_of_le_of_lt short (by decide)) name (processElement_ssid _ _ _) ?_
  refine .cons (show 2 < 256 by decide) rates (processElement_rates _ _ _) ?_
  refine .cons (show 1 < 256 by decide) channel (processElement_channel _ _ _) ?_
  refine .cons (show 5 < 256 by decide) tim (processElement_tim _ _ _) ?_
  refine .cons size vendor ?_ .nil
  rw [processElement_vendor]
  refine (vendorTold _ _ (by exact blank) (contents_inPlace vendor)).trans ?_
  rw [show mem _ = shared.reqChannel from (contents_inPlace channel).byte (show 0 < 1 by decide)]
  have compatible := rates_compatible (contents_inPlace rates) false
  simp only [Found.mk.injEq, and_true, true_and]
  exact ⟨compatible, Nat.add_sub_cancel pos 2⟩

/-- The frame in the copy on the stack, and what was there behind it. -/
def arrived (frame : List UInt8) (junk : Memory) : Memory := fun i => (frame[i]?).getD (junk i)

theorem arrived_inPlace (frame : List UInt8) (junk : Memory) : InPlace (arrived frame junk) 0 frame := by
  refine List.ext_getElem (by simp) fun i _ inside => ?_
  simp [readBytes, arrived, List.getElem?_eq_getElem inside]

theorem readFrame_dswifi (short : ssid.length ≤ 32) (junk : Memory) {received : Received}
    (whole : received.byteLength = (dswifiBeacon ssid gameId shared).length) :
    (readFrame received received.datalen).value (arrived (dswifiBeacon ssid gameId shared) junk) =
      { compatible := true
        secType := .opened
        ptrSsid := capsIndex + 2
        channel := shared.reqChannel
        hasNintendoInfo := true
        info := dswifiInfo gameId shared } := by
  have there := arrived_inPlace (dswifiBeacon ssid gameId shared) junk
  have length := dswifiBeacon_length ssid gameId shared
  have bound := gameDataLen_le shared
  generalize arrived (dswifiBeacon ssid gameId shared) junk = mem at there ⊢
  have datalen : received.datalen = (dswifiBeacon ssid gameId shared).length := by
    simp only [beaconGameDataMax] at bound
    rw [Received.datalen, whole, Nat.min_eq_left (by omega)]
  obtain ⟨head, elements⟩ := inPlace_append.mp there
  obtain ⟨_, fixed⟩ := inPlace_append.mp head
  have low : mem capsIndex = 0x21 := fixed.byte (show 10 < fixedFields.length by decide)
  have high : mem (capsIndex + 1) = 0 := fixed.byte (show 11 < fixedFields.length by decide)
  have ends : received.datalen = 0 + (mgtHeader shared ++ fixedFields).length +
      ((dswifiFies ssid gameId shared).flatMap fieBytes).length := by
    rw [datalen, Nat.zero_add, ← List.length_append]
    rfl
  -- the five elements use up five steps, and the rest of the fuel is never needed
  have fuel : received.datalen = received.datalen - 5 + (dswifiFies ssid gameId shared).length := by
    change received.datalen = received.datalen - 5 + 5
    omega
  have tells := fun found blank =>
    @processElements_tells mem _ (received.datalen - 5) _ _ found _ (dswifiFies_tell short blank elements) ends
  rw [readFrame]
  simp only [value_bind, half, value_byte, low, high, value_pure]
  rw [← fuel] at tells
  rw [show capsIndex + 2 = 0 + (mgtHeader shared ++ fixedFields).length from rfl, tells _ rfl]
  rfl

theorem readSsid_dswifi (short : ssid.length ≤ 32) (junk : Memory) :
    (readSsid (capsIndex + 2)).value (arrived (dswifiBeacon ssid gameId shared) junk) = some ssid := by
  have there := arrived_inPlace (dswifiBeacon ssid gameId shared) junk
  generalize arrived (dswifiBeacon ssid gameId shared) junk = mem at there ⊢
  have name := (inPlace_append.mp (inPlace_append.mp there).2).1
  have length : mem (capsIndex + 2 + 1) = UInt8.ofNat ssid.length :=
    name.byte (show 1 < (fieBytes (fieIdSsid, ssid)).length from Nat.le_add_left 2 ssid.length)
  have copied : min (UInt8.ofNat ssid.length).toNat 32 = ssid.length := by
    simp only [UInt8.toNat_ofNat']
    omega
  have text : readBytes mem (capsIndex + 2 + 2) ssid.length = ssid := contents_inPlace name
  rw [readSsid, if_neg (by decide)]
  simp only [value_bind, value_byte, value_bytes, value_pure, length, copied, text]

end Frame

/-- A client that lists hosts gets from the beacon, whatever was behind it in its
memory, what the host had when Wifi_BeaconStart built it, as an open access
point whose rates it supports. -/
theorem beacon_round_trip {personal : PersonalData} {ssid : Option (List UInt8)} {gameId : UInt32}
    {ring : RingBuffer.Buffer} {shared : Shared} {packet : List UInt8}
    (built : (beaconStart personal ssid gameId ring shared).1 = some packet) (junk : Memory)
    {received : Received} (whole : received.byteLength = packet.length - hdrTxSize)
    (lists : received.curApScanFlags &&& wscanListNdsHosts ≠ 0) :
    ∃ ap info, (processBeaconOrProbeResponse received).value (arrived (packet.drop hdrTxSize) junk) = some ap ∧
      ap.nintendo = some info ∧ ap.ssid = some (ssid.getD []) ∧ info.gameId = gameId ∧
      info.playersMax = shared.curMaxClients + 1 ∧
      info.allowsConnections = (if shared.allowClients then 1 else 0) ∧
      info.nameLen = shared.hostPlayerNameLen ∧ info.name = List.ofFn shared.hostPlayerName ∧
      info.gameDataLen = gameDataLen shared ∧
      info.gameData.take info.gameDataLen = (List.ofFn shared.hostGameData).take (gameDataLen shared) ∧
      ap.secType = .opened ∧ ap.groupCryptType = .none ∧ ap.pairCryptType = .none ∧ ap.compatible = true := by
  obtain ⟨short, rfl⟩ := beaconStart_some built
  rw [List.drop_left' (txHeader_length _)]
  rw [List.length_append, txHeader_length, Nat.add_sub_cancel_left] at whole
  have found := readFrame_dswifi short junk whole
  have name := @readSsid_dswifi (ssid.getD []) gameId shared short junk
  simp only [processBeaconOrProbeResponse, value_bind, found, keeps, if_true, decide_eq_true lists]
  refine ⟨_, _, rfl, rfl, name, rfl, rfl, rfl, rfl, rfl, rfl, ?_, rfl, rfl, rfl, rfl⟩
  exact List.take_left' (by rw [List.length_take, List.length_ofFn, Nat.min_eq_left (gameDataLen_le _)]; rfl)

/-- A host called B with two bytes of game data. -/
def hostB : Shared where
  curMaxClients := 3
  allowClients := true
  hostPlayerName := fun i => if i.val = 0 then 66 else 0
  hostPlayerNameLen := 1
  hostGameData := fun i => UInt8.ofNat i
  hostGameDataLen := 2

theorem beacon_round_trip_hostB : ∃ packet,
    (beaconStart ⟨0, fun _ => 0⟩ (some [78, 68, 83]) 0xCAFEF00D ⟨fun _ => 0, 0, 0⟩ hostB).1 = some packet ∧
    ∃ ap, (processBeaconOrProbeResponse ⟨packet.length - hdrTxSize, 60, 1, 7⟩).value
        (arrived (packet.drop hdrTxSize) fun _ => 0) = some ap ∧ ap.ssid = some [78, 68, 83] := by
  have queued : (beaconStart ⟨0, fun _ => 0⟩ (some [78, 68, 83]) 0xCAFEF00D ⟨fun _ => 0, 0, 0⟩
      hostB).1.isSome := by decide +kernel
  obtain ⟨packet, built⟩ := Option.isSome_iff_exists.mp queued
  obtain ⟨ap, _, heard, _, name, _⟩ := @beacon_round_trip _ _ _ _ _ _ built (fun _ => 0)
    ⟨packet.length - hdrTxSize, 60, 1, 7⟩ rfl
    (show (7 : UInt8) &&& wscanListNdsHosts ≠ 0 by decide)
  exact ⟨packet, built, ap, heard, name⟩

end Dswifi.BeaconFrame
