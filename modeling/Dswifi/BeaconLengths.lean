import Dswifi.AccessPointHistory
import Dswifi.BeaconReads

/-! The lengths that an entry of the list of access points has from a beacon. -/

namespace Dswifi.AccessPoints

open BeaconFrame ByteMemory Reading Runs
open Beacon (fieIdVendor fieVendorNintendoHeader)

variable {mem : Memory}

/-- An element of a console of Nintendo. -/
def NintendoElement (mem : Memory) (start : Nat) : Prop :=
  mem start = fieIdVendor ∧ fieVendorNintendoHeader ≤ (mem (start + 1)).toNat ∧
    InPlace mem (start + 2) nintendoTag

instance (mem : Memory) (start : Nat) : Decidable (NintendoElement mem start) :=
  inferInstanceAs (Decidable (_ ∧ _))

/-- One with the extra data of a host that runs DSWifi. -/
def DswifiElement (mem : Memory) (start : Nat) : Prop :=
  NintendoElement mem start ∧ mem (start + 2 + 0x13) = 1 ∧
    dswifiExtraData ≤ (mem (start + 2 + 0x12)).toNat ∧
    fieVendorNintendoHeader + dswifiExtraData ≤ (mem (start + 1)).toNat

instance (mem : Memory) (start : Nat) : Decidable (DswifiElement mem start) :=
  inferInstanceAs (Decidable (_ ∧ _))

/-- The byte of the extra data that tells the length of the name. -/
def nameLenOf (mem : Memory) (start : Nat) : UInt8 := mem (start + 2 + 27)

/-- Where the game data is, behind the extra data. -/
def gameDataStart (start : Nat) : Nat := start + 2 + fieVendorNintendoHeader + dswifiExtraData

def gameDataLenOf (mem : Memory) (start : Nat) : Nat :=
  gameDataSize (mem (start + 2 + 0x12)).toNat (mem (start + 1)).toNat

/-- The frame goes on to the end of the game data, if there is any. -/
def GameDataInside (limit : Nat) (mem : Memory) (start : Nat) : Prop :=
  gameDataLenOf mem start = 0 ∨ gameDataStart start + gameDataLenOf mem start ≤ limit

/-- The last element of a list of elements that a host that runs DSWifi has sent. -/
def lastDswifi (mem : Memory) (elements : List Nat) : Option Nat :=
  (elements.filter fun start => DswifiElement mem start).getLast?

def elementsOf (received : Received) (mem : Memory) : List Nat :=
  starts mem received.datalen received.datalen (capsIndex + 2)

/-! What one element changes. -/

/-- What the extra data tells. -/
structure Told where
  nameLen : UInt8
  gameDataLen : Nat
  gameData : List UInt8
  deriving DecidableEq

def told (found : Found) : Told where
  nameLen := found.info.nameLen
  gameDataLen := found.info.gameDataLen
  gameData := found.info.gameData.take found.info.gameDataLen

def toldBy (mem : Memory) (start : Nat) : Told where
  nameLen := nameLenOf mem start
  gameDataLen := gameDataLenOf mem start
  gameData := readBytes mem (gameDataStart start) (gameDataLenOf mem start)

/-- The tags differ in the second byte. -/
theorem not_microsoft {pos : Nat} (ours : InPlace mem pos nintendoTag) : ¬InPlace mem pos microsoftTag := by
  intro theirs
  have second : mem (pos + 1) = 0x09 := ours.byte (show 1 < nintendoTag.length by decide)
  have other : mem (pos + 1) = 0x50 := theirs.byte (show 1 < microsoftTag.length by decide)
  exact absurd (second.symm.trans other) (by decide)

theorem told_processExtraData (pos len : Nat) (found : Found) :
    told ((processExtraData pos len found).value mem) =
      ⟨mem (pos + 27), gameDataSize (mem (pos + 0x12)).toNat len,
        readBytes mem (pos + fieVendorNintendoHeader + dswifiExtraData)
          (gameDataSize (mem (pos + 0x12)).toNat len)⟩ := by
  simp only [processExtraData, value_bind, value_byte, value_bytes, value_pure, told, Told.mk.injEq, true_and]
  rw [List.take_append_of_le_length (by rw [readBytes_length]), List.take_of_length_le (by rw [readBytes_length])]

/-- An element of Nintendo tells that there is one, and in the extra data the rest. -/
theorem processNintendo_tells (start : Nat) (found : Found) (ours : NintendoElement mem start) :
    let after := (processNintendo (start + 2) (mem (start + 1)).toNat found).value mem
    after.hasNintendoInfo = true ∧
      told after = if DswifiElement mem start then toldBy mem start else told found := by
  simp only [processNintendo, value_bind, DswifiElement, ours, true_and]
  -- extra data of this library needs a multicart beacon and room in both lengths
  by_cases multicart : mem (start + 2 + 0x13) = 1
  · have goes : ¬(byte (start + 2 + 0x13)).value mem ≠ 1 := not_not.mpr multicart
    rw [if_neg goes]
    simp only [value_bind, multicart, true_and]
    by_cases long : dswifiExtraData ≤ (mem (start + 2 + 0x12)).toNat ∧
        fieVendorNintendoHeader + dswifiExtraData ≤ (mem (start + 1)).toNat
    · have enough : ¬(((byte (start + 2 + 0x12)).value mem).toNat < dswifiExtraData ∨
          (mem (start + 1)).toNat < fieVendorNintendoHeader + dswifiExtraData) := by
        rw [value_byte]
        omega
      rw [if_neg enough, if_pos long]
      exact ⟨rfl, told_processExtraData _ _ _⟩
    · have short : ((byte (start + 2 + 0x12)).value mem).toNat < dswifiExtraData ∨
          (mem (start + 1)).toNat < fieVendorNintendoHeader + dswifiExtraData := by
        rw [value_byte]
        omega
      rw [if_pos short, if_neg long]
      exact ⟨rfl, rfl⟩
  · have stops : (byte (start + 2 + 0x13)).value mem ≠ 1 := multicart
    rw [if_pos stops]
    simp only [multicart, false_and, if_false]
    exact ⟨rfl, rfl⟩

theorem processVendorTag_tells (start : Nat) (found : Found) (vendor : mem start = fieIdVendor) :
    let after := (processVendorTag (start + 2) (mem (start + 1)).toNat found).value mem
    (after.hasNintendoInfo = if NintendoElement mem start then true else found.hasNintendoInfo) ∧
      told after = if DswifiElement mem start then toldBy mem start else told found := by
  simp only [processVendorTag, value_bind, isVendorMicrosoft, isVendorNintendo, value_tag]
  by_cases ours : NintendoElement mem start
  · -- the tag of Microsoft is asked for first
    have other : ¬(14 ≤ (mem (start + 1)).toNat ∧ InPlace mem (start + 2) microsoftTag) :=
      fun theirs => not_microsoft ours.2.2 theirs.2
    rw [if_neg (by simpa using other), if_pos ours]
    simp only [value_bind, value_tag]
    rw [if_pos (decide_eq_true ours.2)]
    exact processNintendo_tells start found ours
  · have plain : ¬DswifiElement mem start := fun dswifi => ours dswifi.1
    rw [if_neg ours, if_neg plain]
    split
    · exact ⟨rfl, rfl⟩
    · simp only [value_bind, value_tag]
      rw [if_neg fun same => ours ⟨vendor, of_decide_eq_true same⟩]
      exact ⟨rfl, rfl⟩

theorem elementStep_tells (found : Found) (start : Nat) :
    ((elementStep mem found start).hasNintendoInfo =
        if decide (NintendoElement mem start) then true else found.hasNintendoInfo) ∧
      told (elementStep mem found start) =
        if decide (DswifiElement mem start) then toldBy mem start else told found := by
  simp only [decide_eq_true_eq]
  by_cases vendor : mem start = fieIdVendor
  · have tells := processVendorTag_tells start found vendor
    rw [elementStep, vendor]
    exact tells
  · have plain : ¬NintendoElement mem start := fun ours => vendor ours.1
    rw [if_neg plain, if_neg fun dswifi : DswifiElement mem start => plain dswifi.1]
    simp only [elementStep, processElement, if_neg vendor]
    split
    · exact ⟨rfl, rfl⟩
    · split
      · exact ⟨rfl, rfl⟩
      · split
        · exact ⟨rfl, rfl⟩
        · split
          · rw [processRsn]
            split
            · simp only [value_bind]
              split <;> exact ⟨rfl, rfl⟩
            · exact ⟨rfl, rfl⟩
          · exact ⟨rfl, rfl⟩

/-! What the frame tells. -/

theorem readFrame_told (received : Received) (mem : Memory) :
    told ((readFrame received received.datalen).value mem) =
      ((lastDswifi mem (elementsOf received mem)).map (toldBy mem)).getD ⟨0, 0, []⟩ := by
  -- each element of a host overwrites what the one before has told
  have last := run_last fun found start => (@elementStep_tells mem found start).2
  simp only [readFrame, value_bind, value_pure, processElements_run]
  exact last _ _

theorem readFrame_hasNintendoInfo (received : Received) (mem : Memory) {start : Nat}
    (dswifi : lastDswifi mem (elementsOf received mem) = some start) :
    ((readFrame received received.datalen).value mem).hasNintendoInfo = true := by
  have last := run_last fun found start => (@elementStep_tells mem found start).1
  have member := List.mem_filter.mp (List.mem_of_getLast? dswifi)
  have ours : start ∈ (elementsOf received mem).filter fun start => decide (NintendoElement mem start) :=
    List.mem_filter.mpr ⟨member.1, decide_eq_true (of_decide_eq_true member.2).1⟩
  obtain ⟨other, is⟩ := Option.isSome_iff_exists.mp (List.getLast?_isSome.mpr (List.ne_nil_of_mem ours))
  simp only [readFrame, value_bind, value_pure, processElements_run]
  refine (last _ _).trans ?_
  rw [elementsOf] at is
  rw [is]
  rfl

theorem parsed_of_keeps (received : Received) (mem : Memory)
    (kept : keeps received.curApScanFlags ((readFrame received received.datalen).value mem) = true) :
    ∃ ap, (processBeaconOrProbeResponse received).value mem = some ap := by
  rw [processBeaconOrProbeResponse, value_bind, if_pos kept]
  exact ⟨_, rfl⟩

/-! What the entry has of it. -/

def IsNintendo (ap : Entry) : Prop := ap.flags &&& apdataNintendoTag ≠ 0

theorem saveSsid_nintendo (wfc : List (List UInt8)) (ssid : Option (List UInt8)) (ap : Entry) :
    (saveSsid wfc ssid ap).nintendo = ap.nintendo := by
  cases ssid <;> rfl

theorem fill_nintendo (wfc : List (List UInt8)) (inAplist : Bool) (heard : Heard) (occupant : Entry) :
    (fill wfc inAplist heard occupant).nintendo = heard.nintendo.getD occupant.nintendo := by
  rw [fill]
  dsimp only
  rw [saveSsid_nintendo]
  cases inAplist <;> rfl

/-- The flag of the tag is not touched by the others. -/
theorem isNintendo_fill (wfc : List (List UInt8)) (inAplist : Bool) (heard : Heard) (occupant : Entry) :
    IsNintendo (fill wfc inAplist heard occupant) ↔ heard.nintendo.isSome = true := by
  -- the flags are different bits, and each part of the sum is one of few
  have flag : ∀ tagged compatible : Bool, ∀ security ∈ [0, apdataWep, apdataWpa],
      ∀ config ∈ [0, apdataConfigInWfc],
        (apdataActive ||| (if tagged then apdataNintendoTag else 0) |||
          (if compatible then apdataCompatible else 0) ||| security ||| config) &&& apdataNintendoTag ≠ 0 ↔
        tagged = true := by
    intro tagged compatible security safe config placed
    simp only [List.mem_cons, List.not_mem_nil, or_false] at safe placed
    rcases safe with rfl | rfl | rfl <;> rcases placed with rfl | rfl <;> cases tagged <;> cases compatible <;>
      decide
  have security : ∃ security ∈ [0, apdataWep, apdataWpa], heardFlags heard =
      apdataActive ||| (if heard.nintendo.isSome then apdataNintendoTag else 0) |||
        (if heard.compatible then apdataCompatible else 0) ||| security := by
    rw [heardFlags]
    exact ⟨_, by cases heard.secType <;> decide, rfl⟩
  obtain ⟨security, safe, split⟩ := security
  have flags : (fill wfc inAplist heard occupant).flags = (heardShown wfc heard).flags :=
    congrArg Shown.flags (shown_fill wfc inAplist heard occupant)
  rw [IsNintendo, flags, heardShown]
  dsimp only
  split
  · rw [← UInt16.or_zero (a := heardFlags heard), split]
    exact flag _ _ _ safe 0 (by decide)
  · rw [split]
    exact flag _ _ _ safe apdataConfigInWfc (by decide)

theorem fill_ssidLen (wfc : List (List UInt8)) (inAplist : Bool) (heard : Heard) {occupant : Entry}
    (short : occupant.ssidLen.toNat ≤ 32) : (fill wfc inAplist heard occupant).ssidLen.toNat ≤ 32 := by
  have length : (fill wfc inAplist heard occupant).ssidLen =
      if heard.ssid = none then occupant.ssidLen else (heardSsid heard).length.toUInt8 :=
    congrArg Shown.ssidLen (shown_fill wfc inAplist heard occupant)
  rw [length]
  split
  · exact short
  · cases told : heard.ssid with
    | none => contradiction
    | some ssid =>
        rw [heardSsid, told, length_copied]
        simpa using (ssidLength_le ssid).2

/-- Every SSID of the list fits. -/
def ShortSsids (data : WifiData) : Prop := ∀ i, (data.aplist i).ssidLen.toNat ≤ 32

theorem shortSsids_add {data : WifiData} (short : ShortSsids data) (acquired : Bool) (heard : Heard) :
    ShortSsids (accessPointAdd acquired heard data) := by
  cases acquired with
  | false => exact short
  | true =>
      intro i
      rw [accessPointAdd_aplist (chooseSlot_takes data.aplist heard.bssid)]
      by_cases written : i = (chooseSlot data.aplist heard.bssid).2
      · rw [written, Function.update_self]
        exact fill_ssidLen _ _ _ (short _)
      · rw [Function.update_of_ne written]
        exact short i

theorem shortSsids_run {start : WifiData} (short : ShortSsids start) (events : List Event) :
    ShortSsids (run step start events) := by
  have kept : ∀ data event, ShortSsids data → ShortSsids (step data event) := by
    intro data event short
    cases event with
    | add acquired heard => exact shortSsids_add short acquired heard
    | tick =>
        intro i
        simp only [step, accessPointTick, tickEntry]
        split <;> exact short i
    | clearAll => exact short
  exact run_invariant kept start events short

/-- The lengths that a host has sent, and its game data, after a beacon of `limit` bytes with
`elements`. Bytes of the game data are bytes of the element when they are in front of the end
of the element and of the frame. -/
structure InfoFits (limit : Nat) (mem : Memory) (elements : List Nat) (info : NintendoVendorInfo) : Prop where
  name : info.nameLen.toNat ≤ beaconNameChars
  size : info.gameDataLen ≤ beaconGameDataMax
  gameData : ∀ start, lastDswifi mem elements = some start →
    info.gameData.take info.gameDataLen = readBytes mem (gameDataStart start) info.gameDataLen ∧
      ∀ i < info.gameDataLen, gameDataStart start + i < start + 2 + (mem (start + 1)).toNat ∧
        gameDataStart start + i < limit
  none : lastDswifi mem elements = none → info.gameDataLen = 0

/-- The lengths of an entry; those of a host are used when the entry has the tag. -/
structure Fits (limit : Nat) (mem : Memory) (elements : List Nat) (ap : Entry) : Prop where
  ssid : ap.ssidLen.toNat ≤ 32
  info : IsNintendo ap → InfoFits limit mem elements ap.nintendo

theorem gameDataSize_fits {start : Nat} (dswifi : DswifiElement mem start) :
    gameDataLenOf mem start ≤ beaconGameDataMax ∧
      gameDataStart start + gameDataLenOf mem start ≤ start + 2 + (mem (start + 1)).toNat := by
  obtain ⟨_, _, _, long⟩ := dswifi
  have size : gameDataLenOf mem start ≤ beaconGameDataMax ∧ fieVendorNintendoHeader + dswifiExtraData +
      gameDataLenOf mem start ≤ (mem (start + 1)).toNat := by
    rw [gameDataLenOf, gameDataSize]
    split
    · exact ⟨Nat.zero_le _, long⟩
    · omega
  rw [gameDataStart]
  omega

theorem gameDataInside_iff {limit start : Nat} :
    GameDataInside limit mem start ↔ ∀ i < gameDataLenOf mem start, gameDataStart start + i < limit := by
  unfold GameDataInside
  constructor
  · intro inside i below
    omega
  · intro inside
    rcases Nat.eq_zero_or_pos (gameDataLenOf mem start) with none | some
    · exact .inl none
    · have last := inside (gameDataLenOf mem start - 1) (by omega)
      exact .inr (by omega)

/-- The last element of a host that runs DSWifi has a name that fits, and all its game data. -/
def HostFits (limit : Nat) (mem : Memory) (elements : List Nat) : Prop :=
  ∀ start, lastDswifi mem elements = some start →
    (nameLenOf mem start).toNat ≤ beaconNameChars ∧ GameDataInside limit mem start

/-- Of what the frame tells the length of the name can be too much, and the game data can be
cut off. -/
theorem infoFits_iff (received : Received) (mem : Memory) :
    InfoFits received.datalen mem (elementsOf received mem)
        ((readFrame received received.datalen).value mem).info ↔
      HostFits received.datalen mem (elementsOf received mem) := by
  have all := readFrame_told received mem
  have nameLen := congrArg Told.nameLen all
  have gameDataLen := congrArg Told.gameDataLen all
  have gameData := congrArg Told.gameData all
  simp only [told] at nameLen gameDataLen gameData
  unfold HostFits
  -- without an element of this library all lengths are zero
  cases last : lastDswifi mem (elementsOf received mem) with
  | none =>
      rw [last] at nameLen gameDataLen
      refine ⟨(fun _ _ impossible => nomatch impossible), fun _ => ⟨?_, ?_, ?_, fun _ => gameDataLen⟩⟩
      · exact nameLen ▸ Nat.zero_le _
      · exact gameDataLen ▸ Nat.zero_le _
      · intro start some
        cases last.symm.trans some
  | some start =>
      rw [last] at nameLen gameDataLen gameData
      have dswifi : DswifiElement mem start :=
        of_decide_eq_true (List.mem_filter.mp (List.mem_of_getLast? last)).2
      obtain ⟨small, inside⟩ := gameDataSize_fits dswifi
      constructor
      · rintro ⟨name, _, bytes, _⟩ other same
        obtain rfl := Option.some.inj same
        rw [nameLen] at name
        refine ⟨name, gameDataInside_iff.mpr fun i below => ?_⟩
        rw [gameDataLen] at bytes
        exact ((bytes start last).2 i below).2
      · intro host
        obtain ⟨name, whole⟩ := host start rfl
        refine ⟨?_, ?_, fun other same => ?_, fun none => ?_⟩
        · rw [nameLen]
          exact name
        · rw [gameDataLen]
          exact small
        · obtain rfl := Option.some.inj (last.symm.trans same)
          rw [gameData, gameDataLen]
          refine ⟨rfl, fun i below => ⟨?_, gameDataInside_iff.mp whole i below⟩⟩
          have below : i < gameDataLenOf mem start := below
          omega
        · cases last.symm.trans none

/-- The list when nothing has been heard. -/
def silent (settings : WifiData) : WifiData := { settings with aplist := fun _ => {} }

theorem shortSsids_silent (settings : WifiData) : ShortSsids (silent settings) :=
  fun _ => Nat.zero_le 32

/-- What is listed with the tag is what the frame has told. -/
theorem fits_iff {data : WifiData} (short : ShortSsids data) {received : Received} {ap : AccessPoint}
    (parsed : (processBeaconOrProbeResponse received).value mem = some ap) {inAplist : Bool}
    {i : Fin wifiMaxAp} (takes : Takes data.aplist (ofBeacon ap).bssid inAplist i) :
    Fits received.datalen mem (elementsOf received mem) ((accessPointAdd true (ofBeacon ap) data).aplist i) ↔
      (((readFrame received received.datalen).value mem).hasNintendoInfo = true →
        HostFits received.datalen mem (elementsOf received mem)) := by
  have nintendo : (ofBeacon ap).nintendo = _ := (parsed_fields parsed).2.1
  have tagged : IsNintendo (fill data.wfc inAplist (ofBeacon ap) (data.aplist i)) ↔
      ((readFrame received received.datalen).value mem).hasNintendoInfo = true := by
    rw [isNintendo_fill, nintendo]
    cases ((readFrame received received.datalen).value mem).hasNintendoInfo <;> simp
  have info : ((readFrame received received.datalen).value mem).hasNintendoInfo = true →
      (fill data.wfc inAplist (ofBeacon ap) (data.aplist i)).nintendo =
        ((readFrame received received.datalen).value mem).info := by
    intro there
    rw [fill_nintendo, nintendo, if_pos there]
    rfl
  rw [accessPointAdd_aplist takes, Function.update_self]
  constructor
  · intro fits there
    have host := fits.info (tagged.mpr there)
    rw [info there] at host
    exact (infoFits_iff received mem).mp host
  · intro hosts
    refine ⟨fill_ssidLen _ _ _ (short i), fun tag => ?_⟩
    rw [info (tagged.mp tag), infoFits_iff]
    exact hosts (tagged.mp tag)

theorem keeps_host {received : Received} {found : Found} (host : found.hasNintendoInfo = true) :
    keeps received.curApScanFlags found = true ↔ received.curApScanFlags &&& wscanListNdsHosts ≠ 0 := by
  rw [keeps, if_pos host]
  exact decide_eq_true_iff

/-- An entry has lengths that fit its arrays, and game data of the element, exactly when the
name of the host that is listed is not longer than it may be and its element is not cut off
by the end of the frame in front of the end of the game data. -/
theorem decoded_lengths_fit_iff (settings : WifiData) (events : List Event) (received : Received)
    (mem : Memory) :
    (∀ ap, (processBeaconOrProbeResponse received).value mem = some ap →
      ∀ inAplist i, Takes (run step (silent settings) events).aplist (ofBeacon ap).bssid inAplist i →
        Fits received.datalen mem (elementsOf received mem)
          ((accessPointAdd true (ofBeacon ap) (run step (silent settings) events)).aplist i)) ↔
      (received.curApScanFlags &&& wscanListNdsHosts ≠ 0 →
        HostFits received.datalen mem (elementsOf received mem)) := by
  have short := shortSsids_run (shortSsids_silent settings) events
  constructor
  · intro all lists start last
    have there := readFrame_hasNintendoInfo received mem last
    obtain ⟨ap, parsed⟩ := parsed_of_keeps received mem ((keeps_host there).mpr lists)
    have takes := chooseSlot_takes (run step (silent settings) events).aplist (ofBeacon ap).bssid
    exact (fits_iff short parsed takes).mp (all ap parsed _ _ takes) there start last
  · intro host ap parsed inAplist i takes
    refine (fits_iff short parsed takes).mpr fun there => host ?_
    exact (keeps_host there).mp (parsed_fields parsed).1

/-- A beacon with an element of a host that runs DSWifi, with this length and size of the extra
data, and with `nameLen` in the extra data, which its frame of 86 bytes ends with. -/
def hostBeacon (length extraDataSize nameLen : UInt8) (i : Nat) : UInt8 :=
  if i < 36 then 0 else (([fieIdVendor, length] ++ nintendoTag ++ List.replicate 14 0 ++ [extraDataSize, 1] ++
    List.replicate 4 0 ++ [0, 0, 0, nameLen] : List UInt8)[i - 36]?).getD 0

-- four bytes of game data that are behind the frame
example : gameDataLenOf (hostBeacon 52 28 10) 36 = 4 ∧ gameDataStart 36 = (scans 86).datalen ∧
    lastDswifi (hostBeacon 52 28 10) (elementsOf (scans 86) (hostBeacon 52 28 10)) = some 36 := by
  decide +kernel

/-- The entry says that its name, of ten characters, has 200. -/
theorem name_longer_than_array :
    ¬∀ (settings : WifiData) (events : List Event) (received : Received) (mem : Memory) (ap : AccessPoint),
      (processBeaconOrProbeResponse received).value mem = some ap →
        ∀ inAplist i, Takes (run step (silent settings) events).aplist (ofBeacon ap).bssid inAplist i →
          Fits received.datalen mem (elementsOf received mem)
            ((accessPointAdd true (ofBeacon ap) (run step (silent settings) events)).aplist i) := by
  intro all
  let longName := hostBeacon 48 24 200
  have last : lastDswifi longName (elementsOf (scans 86) longName) = some 36 := by decide +kernel
  have there := readFrame_hasNintendoInfo (scans 86) longName last
  obtain ⟨ap, parsed⟩ := parsed_of_keeps (scans 86) longName ((keeps_host there).mpr (by decide))
  have takes := chooseSlot_takes (run step (silent {}) []).aplist (ofBeacon ap).bssid
  have name := ((fits_iff (shortSsids_silent {}) parsed takes).mp
    (all {} [] (scans 86) longName ap parsed _ _ takes) there 36 last).1
  exact absurd name (by decide)

end Dswifi.AccessPoints
