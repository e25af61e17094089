import Dswifi.AssociationResponse
import Dswifi.TypedElements

/-! The answer of a host to a probe request (arm7/ntr/beacon.c and
arm7/ntr/ieee_802_11/beacon.c). It is the beacon without its TIM, made in the
buffer the beacon has been copied to: each element is moved to the end of those
that are kept, over bytes that are no longer needed. -/

namespace Dswifi.BeaconFrame

open Association (copied copied_inPlace)
open Beacon (Arm7 elementsStart frameLen macBeaconStartOffset)
open ByteMemory
open MacRam (Ram macReadByte)
open TypedElements

def typeProbeResponse : UInt16 := 0x0050

/-- The buffer of Wifi_MPHost_ProcessProbeRequest. -/
def probeRequestSize : Nat := 128

/-- The loop of Wifi_MPHost_ProcessProbeRequest. -/
def findSsid (data : Memory) (datalen : Nat) : Nat → Nat → Option (List UInt8)
  | 0, _ => none
  | fuel + 1, i =>
      if i + 2 ≤ datalen then
        let type := data i
        let seglen := (data (i + 1)).toNat
        if i + 2 + seglen > datalen then none
        else if type = fieIdSsid then some (readBytes data (i + 2) seglen)
        else findSsid data datalen fuel (i + 2 + seglen)
      else none

/-- The loop of Wifi_SendProbeResponse. -/
def copyElements (len : Nat) : Nat → Memory → Nat → Nat → Memory × Nat
  | 0, buf, out, _ => (buf, out)
  | fuel + 1, buf, out, i =>
      if i + 2 ≤ len then
        let type := buf i
        let seglen := (buf (i + 1)).toNat
        if i + 2 + seglen > len then (buf, out)
        else if type ≠ fieIdTim then
          let buf := if out ≠ i then writeBytes buf out (readBytes buf i (2 + seglen)) else buf
          copyElements len fuel buf (out + (2 + seglen)) (i + 2 + seglen)
        else copyElements len fuel buf out (i + 2 + seglen)
      else (buf, out)

/-- Whether a request for this SSID is answered. -/
def asksFor (curApSsid ssid : List UInt8) : Bool :=
  ssid.length = 0 ∨ ssid.length = curApSsid.length ∧ ∀ i < ssid.length, ssid[i]? = curApSsid[i]?

/-- Wifi_SendProbeResponse: the frame given to Wifi_TxArm7QueueAdd, if there is one. `stale` is
what is left in probe_response. -/
def sendProbeResponse (stale : Memory) (curApSsid : List UInt8) (arm7 : Arm7) (destMac ssid : List UInt8) :
    Option (List UInt8) :=
  if arm7.txbufBeacon = false then none
  else
    let len := frameLen arm7.ram
    if len ≤ elementsStart ∨ len > macBeaconSize then none
    else
      let buf : Memory := fun i =>
        if i < (len + 1) / 2 * 2 then macReadByte arm7.ram (macBeaconStartOffset + i) else stale i
      if asksFor curApSsid ssid then
        let (buf, out) := copyElements len len buf elementsStart elementsStart
        let buf := writeBytes buf hdrTxSize (le16 typeProbeResponse ++ le16 0 ++ destMac)
        let buf := writeBytes buf (hdrTxSize + 22) (le16 0)
        let ieeeSize := out - hdrTxSize
        let txSize := hdrTxSize + ieeeSize
        let buf := writeBytes buf 0 (txHeader (ieeeSize + 4))
        some (readBytes buf 0 txSize)
      else none

/-- Wifi_MPHost_ProcessProbeRequest. The request is copied to a buffer on the stack; what
is behind its end there is never looked at. -/
def mpHostProcessProbeRequest (stale stack : Memory) (curApSsid : List UInt8) (arm7 : Arm7)
    (frame : List UInt8) : Option (List UInt8) :=
  let data := copied probeRequestSize frame stack
  let datalen := min frame.length probeRequestSize
  if datalen < hdrMgtMacSize then none
  else
    let ssid := findSsid data datalen datalen hdrMgtMacSize
    sendProbeResponse stale curApSsid arm7 (readBytes data hdrMgtSa 6) (ssid.getD [])

/-- The SSID that a request asks for: its first complete SSID element. -/
def requestedSsid (request : List UInt8) : Option (List UInt8) :=
  ((elements (request.drop hdrMgtMacSize)).find? fun element => element.1 = fieIdSsid).map (·.2)

/-- The bytes of the beacon in MAC RAM. -/
def beaconBytes (ram : Ram) (start length : Nat) : List UInt8 :=
  readBytes (fun i => macReadByte ram (macBeaconStartOffset + i)) start length

/-- The elements of the beacon that a probe response has. -/
def responseElements (ram : Ram) : List Element :=
  (elements (beaconBytes ram elementsStart (frameLen ram - elementsStart))).filter (·.1 ≠ fieIdTim)

/-- There is a beacon, and it fits the buffer. -/
structure Announced (arm7 : Arm7) : Prop where
  enabled : arm7.txbufBeacon = true
  elements : elementsStart < frameLen arm7.ram
  fits : frameLen arm7.ram ≤ macBeaconSize

/-- A beacon is not enabled unless there are elements in it. -/
theorem beaconSetup_enabled (stack : Memory) (channel : UInt8) (shared : Beacon.Shared) (arm7 : Arm7) :
    (Beacon.beaconSetup stack channel shared arm7).txbufBeacon = true ↔ elementsStart < frameLen arm7.ram := by
  rw [Beacon.beaconSetup]
  dsimp only
  split
  · rename_i short
    exact ⟨fun enabled => absurd enabled Bool.false_ne_true, fun longer => absurd longer (Nat.not_lt.mpr short)⟩
  · rename_i longer
    refine ⟨fun _ => Nat.lt_of_not_le longer, fun _ => ?_⟩
    rw [Beacon.setBeaconChannel]
    split <;> rfl

variable {mem : Memory} {text : List UInt8} {found : List Element}

theorem findSsid_eq {fuel len i : Nat} (splits : Splits text found) (there : InPlace mem i text)
    (ends : i + text.length = len) (enough : text.length ≤ fuel) :
    findSsid mem len fuel i = (found.find? fun element => element.1 = fieIdSsid).map (·.2) := by
  induction splits generalizing fuel i with
  | @short text small =>
      cases fuel with
      | zero => rfl
      | succ fuel => rw [findSsid, if_neg (by omega)]; rfl
  | @cut type length rest past =>
      cases fuel with
      | zero => cases enough
      | succ fuel =>
          obtain ⟨-, next, -⟩ := header_inPlace there
          rw [List.length_cons, List.length_cons] at ends
          rw [findSsid, if_pos (by omega), next]
          exact if_pos (by omega)
  | @element type length contents rest found exact more ih =>
      cases fuel with
      | zero => cases enough
      | succ fuel =>
          obtain ⟨first, next, here, behind⟩ := element_inPlace there
          simp only [List.length_cons, List.length_append] at ends enough
          rw [findSsid, if_pos (by omega), first, next, ← exact]
          dsimp only
          rw [if_neg (by omega), List.find?_cons]
          by_cases named : type = fieIdSsid
          · rw [if_pos named, here]
            simp only [named, decide_true, Option.map_some]
          · rw [if_neg named, ih behind (by omega) (by omega)]
            simp only [named, decide_false]

/-- An element that is kept is moved to `out`, unless it is there. -/
theorem moved_inPlace {out i : Nat} {own rest : List UInt8} (there : InPlace mem i (own ++ rest)) (below : out ≤ i) :
    let buf := if out ≠ i then writeBytes mem out (readBytes mem i own.length) else mem
    InPlace buf out own ∧ InPlace buf (i + own.length) rest ∧ Agree mem buf 0 out := by
  obtain ⟨here, behind⟩ := inPlace_append.mp there
  rw [here]
  by_cases same : out = i
  · rw [if_neg (not_not.mpr same), same]
    exact ⟨here, behind, .refl _ _ _⟩
  · rw [if_pos same]
    exact ⟨writeBytes_inPlace _ _ _, behind.writeBytes (.inr (by omega)), agree_writeBytes _ _ _ _ _ (.inl le_rfl)⟩

/-- What is kept is in place, and nothing in front of it has changed. -/
theorem copyElements_eq {fuel len out i : Nat} (splits : Splits text found) (there : InPlace mem i text)
    (ends : i + text.length = len) (enough : text.length ≤ fuel) (below : out ≤ i) :
    let kept := (found.filter (·.1 ≠ fieIdTim)).flatMap bytesOf
    ∃ after, copyElements len fuel mem out i = (after, out + kept.length) ∧ InPlace after out kept ∧
      Agree mem after 0 out := by
  induction splits generalizing fuel mem out i with
  | @short text small =>
      refine ⟨mem, ?_, rfl, .refl _ _ _⟩
      cases fuel with
      | zero => rfl
      | succ fuel => rw [copyElements, if_neg (by omega)]; rfl
  | @cut type length rest past =>
      refine ⟨mem, ?_, rfl, .refl _ _ _⟩
      cases fuel with
      | zero => cases enough
      | succ fuel =>
          obtain ⟨-, next, -⟩ := header_inPlace there
          rw [List.length_cons, List.length_cons] at ends
          rw [copyElements, if_pos (by omega), next]
          exact if_pos (by omega)
  | @element type length contents rest found exact more ih =>
      cases fuel with
      | zero => cases enough
      | succ fuel =>
          obtain ⟨first, next, -, behind⟩ := element_inPlace there
          have size : (bytesOf (type, contents)).length = 2 + contents.length := by
            change contents.length + 1 + 1 = _
            omega
          have whole : InPlace mem i (bytesOf (type, contents) ++ rest) := by
            rw [bytesOf, exact, UInt8.ofNat_toNat]
            exact there
          simp only [List.length_cons, List.length_append] at ends enough
          rw [copyElements, if_pos (by omega), first, next, ← exact]
          dsimp only
          rw [if_neg (by omega)]
          by_cases tim : type = fieIdTim
          · rw [if_neg (not_not.mpr tim), List.filter_cons_of_neg (by simp [tim])]
            exact ih behind (by omega) (by omega) (by omega)
          · rw [if_pos tim, List.filter_cons_of_pos (by simp [tim]), List.flatMap_cons]
            obtain ⟨mine, later, front⟩ := moved_inPlace whole below
            rw [size] at mine later front
            generalize (if out ≠ i then writeBytes mem out (readBytes mem i (2 + contents.length)) else mem) = buf
              at mine later front ⊢
            obtain ⟨after, run, kept, agree⟩ := @ih buf fuel (out + (2 + contents.length)) _ later
              (by omega) (by omega) (by omega)
            refine ⟨after, ?_, inPlace_append.mpr ⟨mine.agree (agree.mono (Nat.zero_le _) (le_of_eq (by rw [size]))), ?_⟩,
              front.trans (agree.mono le_rfl (Nat.le_add_right _ _))⟩
            · rw [Nat.add_assoc, run, List.length_append, size, Nat.add_assoc]
            · rwa [size]

theorem asksFor_iff (curApSsid ssid : List UInt8) :
    asksFor curApSsid ssid = true ↔ ssid = [] ∨ ssid = curApSsid := by
  rw [asksFor, decide_eq_true_iff, List.length_eq_zero_iff]
  refine or_congr_right ⟨?_, ?_⟩
  · rintro ⟨length, each⟩
    exact List.ext_getElem? fun i => (Nat.lt_or_ge i ssid.length).elim (each i) fun past => by
      rw [List.getElem?_eq_none past, List.getElem?_eq_none (length ▸ past)]
  · rintro rfl
    exact ⟨rfl, fun _ _ => rfl⟩

/-- IEEE_MgtFrameHeader of the answer and, as in the beacon, what is in front of the elements. -/
def probeResponseHeader (ram : Ram) (destMac : List UInt8) : List UInt8 :=
  le16 typeProbeResponse ++ le16 0 ++ destMac ++ beaconBytes ram 22 12 ++ le16 0 ++ beaconBytes ram 36 12

/-- The headers are written in front of what is kept, around what is of the beacon in them. -/
theorem headers_inPlace {tx head sender seqCtl fixed kept : List UInt8} (senders : InPlace mem 22 sender)
    (behind : InPlace mem 36 fixed) (there : InPlace mem 48 kept) (txSize : tx.length = 12)
    (headSize : head.length = 10) (senderSize : sender.length = 12) (seqSize : seqCtl.length = 2)
    (fixedSize : fixed.length = 12) :
    InPlace (writeBytes (writeBytes (writeBytes mem 12 head) 34 seqCtl) 0 tx) 0
      (tx ++ (head ++ sender ++ seqCtl ++ fixed) ++ kept) := by
  have written : InPlace (writeBytes mem 12 head) 12 head := writeBytes_inPlace _ _ _
  have seq : InPlace (writeBytes (writeBytes mem 12 head) 34 seqCtl) 34 seqCtl := writeBytes_inPlace _ _ _
  have stays {pos : Nat} {part : List UInt8} (old : InPlace mem pos part)
      (apart : 22 ≤ pos ∧ pos + part.length ≤ 34 ∨ 36 ≤ pos) :
      InPlace (writeBytes (writeBytes (writeBytes mem 12 head) 34 seqCtl) 0 tx) pos part :=
    ((old.writeBytes (.inr (by omega))).writeBytes (by omega)).writeBytes (.inr (by omega))
  simp only [inPlace_append, List.length_append, txSize, headSize, senderSize, seqSize, fixedSize]
  refine ⟨⟨writeBytes_inPlace _ _ _, ⟨⟨?_, ?_⟩, ?_⟩, ?_⟩, ?_⟩
  · exact (written.writeBytes (.inl (by omega))).writeBytes (.inr (by omega))
  · exact stays senders (by omega)
  · exact seq.writeBytes (.inr (by omega))
  · exact stays behind (by omega)
  · exact stays there (by omega)

theorem probeResponseHeader_length (ram : Ram) {destMac : List UInt8} (mac : destMac.length = 6) :
    (probeResponseHeader ram destMac).length = 36 := by
  simp only [probeResponseHeader, List.length_append, mac, beaconBytes, readBytes_length]
  rfl

/-- The copy of the beacon, which is made in whole halfwords. -/
theorem beaconCopy_inPlace {ram : Ram} (stale : Memory) {first count : Nat} (inside : first + count ≤ frameLen ram) :
    InPlace (fun i => if i < (frameLen ram + 1) / 2 * 2 then macReadByte ram (macBeaconStartOffset + i) else stale i)
      first (beaconBytes ram first count) := by
  rw [InPlace, beaconBytes, readBytes_length]
  refine List.map_congr_left fun i member => ?_
  have bounds := List.mem_range'_1.mp member
  exact if_pos (by omega)

theorem sendProbeResponse_eq {arm7 : Arm7} (announced : Announced arm7) {destMac : List UInt8}
    (mac : destMac.length = 6) {curApSsid ssid : List UInt8} (asked : asksFor curApSsid ssid = true)
    (stale : Memory) :
    let kept := (responseElements arm7.ram).flatMap bytesOf
    sendProbeResponse stale curApSsid arm7 destMac ssid =
      some (txHeader (36 + kept.length + 4) ++ probeResponseHeader arm7.ram destMac ++ kept) := by
  intro kept
  obtain ⟨enabled, longer, fits⟩ := announced
  have start : elementsStart = 48 := rfl
  rw [sendProbeResponse, if_neg (by rw [enabled]; decide)]
  dsimp only
  rw [if_neg (by omega), if_pos asked]
  have copy {first count : Nat} := @beaconCopy_inPlace arm7.ram stale first count
  generalize (fun i => if i < (frameLen arm7.ram + 1) / 2 * 2 then
    macReadByte arm7.ram (macBeaconStartOffset + i) else stale i) = buf at copy ⊢
  have text : InPlace buf elementsStart (beaconBytes arm7.ram elementsStart (frameLen arm7.ram - elementsStart)) :=
    copy (by omega)
  have count : (beaconBytes arm7.ram elementsStart (frameLen arm7.ram - elementsStart)).length =
      frameLen arm7.ram - elementsStart := readBytes_length _ _ _
  have moved : ∃ after, copyElements (frameLen arm7.ram) (frameLen arm7.ram) buf elementsStart elementsStart =
      (after, elementsStart + kept.length) ∧ InPlace after elementsStart kept ∧ Agree buf after 0 elementsStart :=
    copyElements_eq (elements_splits _) text (by omega) (by omega) le_rfl
  obtain ⟨after, run, there, agree⟩ := moved
  rw [run]
  have header (first length : Nat) (front : first + length ≤ elementsStart) :
      InPlace after first (beaconBytes arm7.ram first length) := by
    have same : InPlace buf first (beaconBytes arm7.ram first length) := copy (by omega)
    refine same.agree (agree.mono (Nat.zero_le _) ?_)
    rwa [beaconBytes, readBytes_length]
  have head : (le16 typeProbeResponse ++ le16 0 ++ destMac).length = 10 := by
    rw [List.length_append, mac]
    rfl
  have whole := headers_inPlace (header 22 12 (by decide)) (header 36 12 (by decide)) there
    (show (txHeader (36 + kept.length + 4)).length = 12 from rfl) head (readBytes_length _ _ _)
    (show (le16 0).length = 2 from rfl) (readBytes_length _ _ _)
  have ieee : elementsStart + kept.length - hdrTxSize = 36 + kept.length := by
    rw [start, hdrTxSize]
    omega
  have total : (txHeader (36 + kept.length + 4) ++ probeResponseHeader arm7.ram destMac ++ kept).length =
      hdrTxSize + (36 + kept.length) := by
    rw [List.length_append, List.length_append, probeResponseHeader_length _ mac]
    exact Nat.add_assoc 12 36 kept.length
  dsimp only
  rw [ieee, ← total]
  exact congrArg some whole

/-- Which requests are answered, whatever there is to answer with. -/
theorem sendProbeResponse_isSome {arm7 : Arm7} {destMac : List UInt8} (mac : destMac.length = 6)
    {curApSsid ssid : List UInt8} (stale : Memory) :
    (sendProbeResponse stale curApSsid arm7 destMac ssid).isSome ↔
      Announced arm7 ∧ (ssid = [] ∨ ssid = curApSsid) := by
  rw [← asksFor_iff]
  constructor
  · intro offered
    rw [sendProbeResponse] at offered
    split at offered
    · cases offered
    · rename_i enabled
      dsimp only at offered
      split at offered
      · cases offered
      · rename_i sizes
        split at offered
        · rename_i asked
          exact ⟨⟨by simpa using enabled, by omega, by omega⟩, asked⟩
        · cases offered
  · rintro ⟨announced, asked⟩
    rw [sendProbeResponse_eq announced mac asked]
    rfl

/-- The request names no SSID, or an empty one, or this one. -/
def Asks (curApSsid : List UInt8) (requested : Option (List UInt8)) : Prop :=
  ∀ ssid, requested = some ssid → ssid = [] ∨ ssid = curApSsid

theorem mpHostProcessProbeRequest_isSome {arm7 : Arm7} {curApSsid frame : List UInt8} (stale stack : Memory) :
    (mpHostProcessProbeRequest stale stack curApSsid arm7 frame).isSome ↔
      hdrMgtMacSize ≤ frame.length ∧ Announced arm7 ∧
        Asks curApSsid (requestedSsid (frame.take probeRequestSize)) := by
  have sizes : hdrMgtMacSize = 24 ∧ probeRequestSize = 128 := ⟨rfl, rfl⟩
  rw [mpHostProcessProbeRequest]
  by_cases short : frame.length < hdrMgtMacSize
  · dsimp only
    rw [if_pos (by omega)]
    exact ⟨fun none => absurd none Bool.false_ne_true, fun all => absurd all.1 (Nat.not_le.mpr short)⟩
  · dsimp only
    have found := findSsid_eq (elements_splits _) (copied_inPlace probeRequestSize frame stack hdrMgtMacSize)
      (show _ = min frame.length probeRequestSize by rw [List.length_drop, List.length_take]; omega)
      (show _ ≤ min frame.length probeRequestSize by rw [List.length_drop, List.length_take]; omega)
    rw [if_neg (by omega), sendProbeResponse_isSome (readBytes_length _ _ _), found]
    refine ⟨fun ⟨announced, asked⟩ => ⟨Nat.le_of_not_lt short, announced, ?_⟩, fun ⟨_, announced, asks⟩ => ⟨announced, ?_⟩⟩
    · intro ssid named
      rw [requestedSsid] at named
      rwa [named] at asked
    · cases named : requestedSsid (frame.take probeRequestSize) with
      | none =>
          rw [requestedSsid] at named
          rw [named]
          exact .inl rfl
      | some ssid =>
          have wanted := asks ssid named
          rw [requestedSsid] at named
          rwa [named]

/-- The one frame that a request may be answered with. -/
theorem mpHostProcessProbeRequest_eq {arm7 : Arm7} {curApSsid frame response : List UInt8} {stale stack : Memory}
    (offered : mpHostProcessProbeRequest stale stack curApSsid arm7 frame = some response) :
    let kept := (responseElements arm7.ram).flatMap bytesOf
    response = txHeader (36 + kept.length + 4) ++
      probeResponseHeader arm7.ram (readBytes (copied probeRequestSize frame stack) hdrMgtSa 6) ++ kept := by
  have answered := mpHostProcessProbeRequest_isSome stale stack |>.mp (Option.isSome_of_mem offered)
  obtain ⟨long, announced, -⟩ := answered
  have sizes : hdrMgtMacSize = 24 ∧ probeRequestSize = 128 := ⟨rfl, rfl⟩
  rw [mpHostProcessProbeRequest] at offered
  dsimp only at offered
  rw [if_neg (by omega)] at offered
  have mac := readBytes_length (copied probeRequestSize frame stack) hdrMgtSa 6
  have asked := (sendProbeResponse_isSome mac stale).mp (Option.isSome_of_mem offered)
  rw [sendProbeResponse_eq announced mac ((asksFor_iff _ _).mpr asked.2)] at offered
  exact (Option.some.inj offered).symm

theorem probe_responses {arm7 : Arm7} (curApSsid frame : List UInt8) (stale stack : Memory) :
    ((mpHostProcessProbeRequest stale stack curApSsid arm7 frame).isSome ↔
      hdrMgtMacSize ≤ frame.length ∧ Announced arm7 ∧
        Asks curApSsid (requestedSsid (frame.take probeRequestSize))) ∧
      ∀ response ∈ mpHostProcessProbeRequest stale stack curApSsid arm7 frame,
        response.drop elementsStart = (responseElements arm7.ram).flatMap bytesOf ∧
          elements (response.drop elementsStart) = responseElements arm7.ram ∧
          response.take hdrTxSize = txHeader (response.length - hdrTxSize + 4) ∧
          response.length ≤ macBeaconSize := by
  refine ⟨mpHostProcessProbeRequest_isSome stale stack, fun response offered => ?_⟩
  obtain ⟨-, announced, -⟩ := mpHostProcessProbeRequest_isSome stale stack |>.mp (Option.isSome_of_mem offered)
  have whole := mpHostProcessProbeRequest_eq offered
  have splits := elements_splits (beaconBytes arm7.ram elementsStart (frameLen arm7.ram - elementsStart))
  have bound := splits.filter_length (·.1 ≠ fieIdTim)
  rw [← responseElements, beaconBytes, readBytes_length] at bound
  have small : ∀ element ∈ responseElements arm7.ram, element.2.length < 256 := fun element member =>
    splits.contents_lt element (List.mem_of_mem_filter member)
  have again := (splits_flatMap small).elements_eq
  generalize (responseElements arm7.ram).flatMap bytesOf = kept at whole bound again
  generalize head : probeResponseHeader arm7.ram _ = header at whole
  have headSize : header.length = 36 := by
    rw [← head, probeResponseHeader_length _ (readBytes_length _ _ _)]
  have front : (txHeader (36 + kept.length + 4) ++ header).length = elementsStart := by
    rw [List.length_append, headSize]
    rfl
  have behind : response.drop elementsStart = kept := by rw [whole, List.drop_left' front]
  have length : response.length = elementsStart + kept.length := by rw [whole, List.length_append, front]
  have sizes : elementsStart = 48 ∧ hdrTxSize = 12 := ⟨rfl, rfl⟩
  have longer := announced.elements
  have fits := announced.fits
  refine ⟨behind, by rw [behind, again], ?_, by omega⟩
  rw [show response.length - hdrTxSize + 4 = 36 + kept.length + 4 by omega, whole, List.append_assoc]
  exact List.take_left' rfl

/-- A request of 137 bytes: a long element and, behind the 128 bytes that are looked at, an SSID. -/
def lateSsid : List UInt8 := List.replicate 24 0 ++ (221 :: 108 :: List.replicate 108 0) ++ [0, 1, 65]

/-- A host with the beacon that Wifi_BeaconStart builds for the name "B". -/
def announcedHost : Arm7 :=
  let beacon := dswifiBeacon [66] 0x00400001 {}
  let ram := MacRam.macWriteBytes (fun _ => 0) macBeaconStartOffset (txHeader (beacon.length + 4) ++ beacon)
  Beacon.beaconSetup (fun _ => 0) 1 {} { ram }

/-- A host that is asked for by another name answers when the name comes late. -/
theorem late_ssid_answered : ¬∀ (arm7 : Arm7) (curApSsid frame : List UInt8) (stale stack : Memory),
    (mpHostProcessProbeRequest stale stack curApSsid arm7 frame).isSome ↔
      hdrMgtMacSize ≤ frame.length ∧ Announced arm7 ∧ Asks curApSsid (requestedSsid frame) := by
  intro all
  have announced : Announced announcedHost := ⟨by decide +kernel, by decide +kernel, by decide +kernel⟩
  have cut : requestedSsid (lateSsid.take probeRequestSize) = none := by decide +kernel
  have answered := (@mpHostProcessProbeRequest_isSome _ [66] lateSsid (fun _ => 0) fun _ => 0).mpr
    ⟨by decide +kernel, announced, fun ssid named => absurd (cut.symm.trans named) (Option.some_ne_none _).symm⟩
  have named : requestedSsid lateSsid = some [65] := by decide +kernel
  rcases ((all _ _ _ _ _).mp answered).2.2 _ named with empty | same
  · exact absurd empty (by decide)
  · exact absurd same (by decide)

end Dswifi.BeaconFrame
