import Dswifi.AccessPoint
import Dswifi.Bursts
import Dswifi.CStrings
import Dswifi.WfcSettings

/-! Loading the connections that the firmware keeps (source/arm7/wfc.c). The loader of the
DS settings and that of the DSi settings fill one table, which holds the profiles of the
records that pass every test, in the order of the records. A record that was damaged in up
to 16 bits next to each other is passed over, and the others are found as before. -/

namespace Dswifi.WfcSettings

open BeaconFrame (le16)
open ByteMemory ShiftRegister Bursts CStrings

def wifiMaxWfc : Nat := 6

/-- F_USER_SETTINGS_OFFSET -/
def userSettingsOffset : Nat := 0x20

def ntrRecordSize : Nat := 0x100
def twlRecordSize : Nat := 0x200
def recordsPerLoader : Nat := 3

/-! The fields of nvram_cfg_ntr and nvram_cfg_twl. What the loaders read of the first 256
bytes is at the same place in both, but `statusAt` is the status of one and the WPA mode of
the other. -/

def ssidAt : Nat := 0x40
def wepKey1At : Nat := 0x80
def ipAt : Nat := 0xC0
def gatewayAt : Nat := 0xC4
def primaryDnsAt : Nat := 0xC8
def secondaryDnsAt : Nat := 0xCC
def subnetMaskAt : Nat := 0xD0
def wepModeAt : Nat := 0xE6
def statusAt : Nat := 0xE7
def wpaModeAt : Nat := 0xE7
def slotIdxAt : Nat := 0xEF
def pmkAt : Nat := 0x100
def passAt : Nat := 0x120

def ssidSize : Nat := 32
def wpaPassSize : Nat := 64
def pmkSize : Nat := 32

/-- Wifi_ApSecurity -/
structure Security where
  passLen : UInt8 := 0
  pass : Vector UInt8 64 := .replicate 64 0
  pmk : Vector UInt8 32 := .replicate 32 0
  deriving DecidableEq

/-- An entry of `wfc`. An address is the number that its four bytes are in memory. -/
structure Config where
  ssid : Vector UInt8 33 := .replicate 33 0
  ssidLen : UInt8 := 0
  ip : Nat := 0
  gateway : Nat := 0
  subnetMask : BitVec 32 := 0#32
  dnsPrimary : Nat := 0
  dnsSecondary : Nat := 0
  security : Security := {}
  deriving DecidableEq

structure WfcData where
  wfc : Nat → Config := fun _ => {}
  wfcNumberOfConfigs : Nat := 0

/-! The fields of an entry. -/

/-- The loops that write the first bytes of an array. -/
def copyBytes {size : Nat} (count : Nat) (source : Memory) (dest : Vector UInt8 size) : Vector UInt8 size :=
  .ofFn fun i => if i.val < count then source i else dest[i]

def field (apData : Memory) (start : Nat) : Memory := fun i => apData (start + i)

/-- Wifi_WepKeySizeFromMode -/
def wepKeySizeFromMode (wepmode : Int) : Nat :=
  if wepmode = 1 ∨ wepmode = 5 then 5
  else if wepmode = 2 ∨ wepmode = 6 then 13
  else if wepmode = 3 ∨ wepmode = 7 then 16
  else 0

/-- The loop over the subnet mask, of a count that C defines it for. -/
def leadingOnes (ones : Nat) : BitVec 32 :=
  (List.range ones).foldl (fun s n => s ||| 1 <<< (31 - n)) 0

def htonl (s : BitVec 32) : BitVec 32 :=
  (s <<< 24) ||| (s >>> 24) ||| ((s &&& 0xFF00) <<< 8) ||| ((s &&& 0xFF0000) >>> 8)

def storeSsid (apData : Memory) (config : Config) : Config :=
  { config with
    ssid := copyBytes ssidSize (field apData ssidAt) config.ssid
    ssidLen := UInt8.ofNat (chars (readBytes apData ssidAt ssidSize)).length }

def storeWepKey (apData : Memory) (security : Security) : Security :=
  let keyLen := wepKeySizeFromMode (apData wepModeAt).toNat
  { security with
    pass := copyBytes keyLen (field apData wepKey1At) security.pass
    passLen := UInt8.ofNat keyLen }

def storeWpaKey (apData : Memory) (security : Security) : Security where
  pass := copyBytes wpaPassSize (field apData passAt) security.pass
  passLen := UInt8.ofNat wpaPassSize
  pmk := copyBytes pmkSize (field apData pmkAt) security.pmk

def storeIp (apData : Memory) (config : Config) : Config :=
  { config with
    ip := readU32 apData ipAt
    gateway := readU32 apData gatewayAt
    dnsPrimary := readU32 apData primaryDnsAt
    dnsSecondary := readU32 apData secondaryDnsAt
    subnetMask := htonl (leadingOnes (apData subnetMaskAt).toNat) }

def ntrConfig (apData : Memory) (config : Config) : Config :=
  let config := storeSsid apData config
  storeIp apData { config with security := storeWepKey apData config.security }

def twlSecurity (apData : Memory) (security : Security) : Security :=
  let security := if apData wepModeAt ≠ 0 then storeWepKey apData security else security
  if apData wpaModeAt ≠ 0 then storeWpaKey apData security else security

def twlConfig (apData : Memory) (config : Config) : Config :=
  let config := storeSsid apData config
  storeIp apData { config with security := twlSecurity apData config.security }

/-! The loaders. -/

/-- 256 bytes of what was read from the firmware. -/
def recordAt (apData : Memory) (start : Nat) : Record := .ofFn fun i => apData (start + i)

/-- The next slot of the table is filled, and the one after it becomes the next. -/
def WfcData.store (data : WfcData) (fill : Config → Config) : WfcData where
  wfc := Function.update data.wfc data.wfcNumberOfConfigs (fill (data.wfc data.wfcNumberOfConfigs))
  wfcNumberOfConfigs := data.wfcNumberOfConfigs + 1

def ntrSlot (data : WfcData) (apData : Memory) : WfcData :=
  if !ntrRecordValid (recordAt apData 0) then data
  else if apData statusAt = 0 then
    if apData wepModeAt > 7 then data else data.store (ntrConfig apData)
  else data

def twlSlot (allowWpa : Bool) (data : WfcData) (apData : Memory) : WfcData :=
  if !twlRecordValid (recordAt apData 0) (recordAt apData ntrRecordSize) then data
  else if apData slotIdxAt = 0 then data
  else if apData wepModeAt > 7 then data
  else if apData wpaModeAt ≠ 0 ∧ !allowWpa then data
  else data.store (twlConfig apData)

/-- Where the user settings begin, which the records are before. -/
def settingsStart (firmware : Memory) : Nat :=
  ((firmware userSettingsOffset).toNat + (firmware (userSettingsOffset + 1)).toNat * 256) * 8

/-- readFirmware, to a structure of `size` bytes that was zero. -/
def readFirmware (firmware : Memory) (address size : Nat) : Memory := fun i =>
  if i < size then firmware (address + i) else 0

/-- Where the records are. An address is a u32. -/
def ntrAddress (firmware : Memory) (i : Nat) : Nat :=
  (settingsStart firmware + 4294967296 - 0x400 + i * ntrRecordSize) % 4294967296

def twlAddress (firmware : Memory) (i : Nat) : Nat :=
  (settingsStart firmware + 4294967296 - 0xA00 + i * twlRecordSize) % 4294967296

def ntrApData (firmware : Memory) (i : Nat) : Memory := readFirmware firmware (ntrAddress firmware i) ntrRecordSize

def twlApData (firmware : Memory) (i : Nat) : Memory := readFirmware firmware (twlAddress firmware i) twlRecordSize

/-- Wifi_NTR_GetWfcSettings -/
def ntrGetWfcSettings (firmware : Memory) (data : WfcData) : WfcData :=
  (List.range recordsPerLoader).foldl (fun data i => ntrSlot data (ntrApData firmware i))
    { data with wfcNumberOfConfigs := 0 }

/-- Wifi_TWL_GetWfcSettings -/
def twlGetWfcSettings (allowWpa : Bool) (firmware : Memory) (data : WfcData) : WfcData :=
  (List.range recordsPerLoader).foldl (fun data i => twlSlot allowWpa data (twlApData firmware i)) data

/-- How the library was started: Wifi_NTR_Init on a DS, Wifi_NTR_Init on a DSi, or
Wifi_TWL_Init. -/
inductive Start where
  | ntr
  | ntrOnDsi
  | twl
  deriving DecidableEq, Repr

def Start.load (start : Start) (firmware : Memory) (data : WfcData) : WfcData :=
  match start with
  | .ntr => ntrGetWfcSettings firmware data
  | .ntrOnDsi => twlGetWfcSettings false firmware (ntrGetWfcSettings firmware data)
  | .twl => twlGetWfcSettings true firmware (ntrGetWfcSettings firmware data)

def Config.hasSsid (config : Config) (ssid : List UInt8) : Bool :=
  ssid.length = config.ssidLen.toNat ∧ ssid = config.ssid.toList.take ssid.length

/-- Wifi_GetWfcAccessPointIndex -/
def WfcData.accessPointIndex (data : WfcData) (ssid : List UInt8) : Option Nat :=
  (List.range data.wfcNumberOfConfigs).find? fun i => (data.wfc i).hasSsid ssid

/-! What the table is for: the profiles of the records that pass the tests. -/

def ntrProfile (apData : Memory) : Option Config :=
  if ntrRecordValid (recordAt apData 0) ∧ apData statusAt = 0 ∧ apData wepModeAt ≤ 7 then
    some (ntrConfig apData {})
  else none

def twlProfile (allowWpa : Bool) (apData : Memory) : Option Config :=
  if twlRecordValid (recordAt apData 0) (recordAt apData ntrRecordSize) ∧ apData slotIdxAt ≠ 0 ∧
      apData wepModeAt ≤ 7 ∧ (apData wpaModeAt = 0 ∨ allowWpa) then
    some (twlConfig apData {})
  else none

inductive Slot where
  | ntr (i : Nat)
  | twl (i : Nat)
  deriving DecidableEq, Repr

def Slot.apData (firmware : Memory) : Slot → Memory
  | .ntr i => ntrApData firmware i
  | .twl i => twlApData firmware i

def Slot.profile (allowWpa : Bool) (apData : Memory) : Slot → Option Config
  | .ntr _ => ntrProfile apData
  | .twl _ => twlProfile allowWpa apData

def Start.slots : Start → List Slot
  | .ntr => (List.range recordsPerLoader).map .ntr
  | _ => (List.range recordsPerLoader).map .ntr ++ (List.range recordsPerLoader).map .twl

def Start.allowsWpa (start : Start) : Bool := start = .twl

def Start.saved (start : Start) (firmware : Memory) : List Config :=
  start.slots.filterMap fun slot => slot.profile start.allowsWpa (slot.apData firmware)

/-- The table has these profiles, and nothing after them. -/
structure Holds (data : WfcData) (saved : List Config) : Prop where
  count : data.wfcNumberOfConfigs = saved.length
  entry : ∀ i, data.wfc i = saved.getD i {}

namespace Holds
variable {data : WfcData} {saved : List Config}

theorem store (holds : Holds data saved) (fill : Config → Config) :
    Holds (data.store fill) (saved ++ [fill {}]) := by
  constructor
  · simp [WfcData.store, holds.count]
  · intro i
    -- the slot has not been written to before
    have blank : data.wfc saved.length = {} := by
      rw [holds.entry]
      simp
    rw [WfcData.store, holds.count, blank]
    by_cases new : i = saved.length
    · simp [new]
    · simp only [Function.update_of_ne new, holds.entry, List.getD_eq_getElem?_getD]
      by_cases old : i < saved.length
      · rw [List.getElem?_append_left old]
      · rw [List.getElem?_eq_none (by omega), List.getElem?_eq_none (by simp; omega)]

theorem ntrSlot (holds : Holds data saved) (apData : Memory) :
    Holds (WfcSettings.ntrSlot data apData) (saved ++ (ntrProfile apData).toList) := by
  unfold WfcSettings.ntrSlot ntrProfile
  by_cases valid : ntrRecordValid (recordAt apData 0) = true
  · by_cases normal : apData statusAt = 0
    · by_cases known : apData wepModeAt ≤ 7
      · have stored := holds.store (ntrConfig apData)
        simpa [valid, normal, known, UInt8.not_lt.mpr known] using stored
      · simpa [valid, normal, known, UInt8.not_le.mp known] using holds
    · simpa [valid, normal] using holds
  · simpa [valid] using holds

theorem twlSlot (holds : Holds data saved) (allowWpa : Bool) (apData : Memory) :
    Holds (WfcSettings.twlSlot allowWpa data apData) (saved ++ (twlProfile allowWpa apData).toList) := by
  unfold WfcSettings.twlSlot twlProfile
  by_cases valid : twlRecordValid (recordAt apData 0) (recordAt apData ntrRecordSize) = true
  · by_cases unused : apData slotIdxAt = 0
    · simpa [valid, unused] using holds
    · by_cases known : apData wepModeAt ≤ 7
      · have stored := holds.store (twlConfig apData)
        by_cases plain : apData wpaModeAt = 0
        · simpa [valid, unused, known, UInt8.not_lt.mpr known, plain] using stored
        · cases allowWpa with
          | true => simpa [valid, unused, known, UInt8.not_lt.mpr known, plain] using stored
          | false => simpa [valid, unused, known, UInt8.not_lt.mpr known, plain] using holds
      · simpa [valid, unused, known, UInt8.not_le.mp known] using holds
  · simpa [valid] using holds

/-- A loop that keeps what the table holds and adds at most one profile in every step. -/
theorem loop {Item : Type} {step : WfcData → Item → WfcData} {profile : Item → Option Config}
    (adds : ∀ {data saved}, Holds data saved → ∀ item, Holds (step data item) (saved ++ (profile item).toList))
    (holds : Holds data saved) (items : List Item) :
    Holds (items.foldl step data) (saved ++ items.filterMap profile) := by
  induction items generalizing data saved with
  | nil => simpa using holds
  | cons item rest ih =>
      have next := ih (adds holds item)
      cases found : profile item with
      | none => simpa [List.filterMap_cons, found] using next
      | some config => simpa [List.filterMap_cons, found] using next

theorem ntrGetWfcSettings (firmware : Memory) :
    Holds (WfcSettings.ntrGetWfcSettings firmware {})
      ((List.range recordsPerLoader).filterMap fun i => ntrProfile (ntrApData firmware i)) := by
  have blank : Holds {} [] := ⟨rfl, fun _ => rfl⟩
  have loaded := blank.loop (fun holds i => holds.ntrSlot (ntrApData firmware i)) (List.range recordsPerLoader)
  rwa [List.nil_append] at loaded

theorem load (start : Start) (firmware : Memory) : Holds (start.load firmware {}) (start.saved firmware) := by
  have ntr := Holds.ntrGetWfcSettings firmware
  -- the DSi loader goes on where that of the DS has ended
  have both := fun allowWpa => ntr.loop
    (fun holds i => holds.twlSlot allowWpa (twlApData firmware i)) (List.range recordsPerLoader)
  have ntrSlots : ∀ allowWpa n, ((List.range n).map Slot.ntr).filterMap
      (fun slot => slot.profile allowWpa (slot.apData firmware)) =
        (List.range n).filterMap fun i => ntrProfile (ntrApData firmware i) := by
    intro allowWpa n
    simp only [List.filterMap_map, Function.comp_def, Slot.profile, Slot.apData]
  have twlSlots : ∀ allowWpa n, ((List.range n).map Slot.twl).filterMap
      (fun slot => slot.profile allowWpa (slot.apData firmware)) =
        (List.range n).filterMap fun i => twlProfile allowWpa (twlApData firmware i) := by
    intro allowWpa n
    simp only [List.filterMap_map, Function.comp_def, Slot.profile, Slot.apData]
  cases start with
  | ntr =>
      rw [Start.load, Start.saved, Start.slots, ntrSlots]
      exact ntr
  | ntrOnDsi =>
      simp only [Start.load, Start.saved, Start.slots, List.filterMap_append, ntrSlots, twlSlots]
      exact both false
  | twl =>
      simp only [Start.load, Start.saved, Start.slots, List.filterMap_append, ntrSlots, twlSlots]
      exact both true

end Holds

/-! The search of the table. -/

def Config.name (config : Config) : List UInt8 := config.ssid.toList.take config.ssidLen.toNat

theorem storeSsid_short (apData : Memory) (config : Config) : (storeSsid apData config).ssidLen.toNat ≤ ssidSize := by
  have few : (chars (readBytes apData ssidAt ssidSize)).length ≤ ssidSize := by
    have taken := chars_length_le (readBytes apData ssidAt ssidSize)
    rwa [readBytes_length] at taken
  rw [storeSsid, UInt8.toNat_ofNat_of_lt' (by dsimp only [ssidSize, UInt8.size] at few ⊢; omega)]
  exact few

theorem profile_short {slot : Slot} {allowWpa : Bool} {apData : Memory} {config : Config}
    (found : slot.profile allowWpa apData = some config) : config.ssidLen.toNat ≤ ssidSize := by
  cases slot with
  | ntr i =>
      rw [Slot.profile, ntrProfile] at found
      split at found
      · rw [← Option.some.inj found]
        exact storeSsid_short apData {}
      · cases found
  | twl i =>
      rw [Slot.profile, twlProfile] at found
      split at found
      · rw [← Option.some.inj found]
        exact storeSsid_short apData {}
      · cases found

theorem hasSsid_iff {config : Config} (short : config.ssidLen.toNat ≤ ssidSize) (ssid : List UInt8) :
    config.hasSsid ssid = true ↔ config.name = ssid := by
  have length : config.name.length = config.ssidLen.toNat := by
    dsimp only [ssidSize] at short
    rw [Config.name, List.length_take, Vector.length_toList]
    omega
  rw [Config.hasSsid, decide_eq_true_iff]
  constructor
  · rintro ⟨same, equal⟩
    rw [Config.name, ← same]
    exact equal.symm
  · rintro rfl
    exact ⟨length, by rw [length, Config.name]⟩

theorem saved_short {start : Start} {firmware : Memory} {config : Config} (member : config ∈ start.saved firmware) :
    config.ssidLen.toNat ≤ ssidSize := by
  obtain ⟨slot, _, found⟩ := List.mem_filterMap.mp member
  exact profile_short found

theorem Holds.accessPointIndex {data : WfcData} {saved : List Config} (holds : Holds data saved)
    (short : ∀ config ∈ saved, config.ssidLen.toNat ≤ ssidSize) (ssid : List UInt8) :
    data.accessPointIndex ssid = AccessPoints.getWfcAccessPointIndex (saved.map Config.name) ssid := by
  have here : ∀ i (inside : i < saved.length), (data.wfc i).hasSsid ssid = true ↔ saved[i].name = ssid := by
    intro i inside
    rw [holds.entry, List.getD_eq_getElem?_getD, List.getElem?_eq_getElem inside, Option.getD_some]
    exact hasSsid_iff (short _ (List.getElem_mem inside)) ssid
  rw [WfcData.accessPointIndex, AccessPoints.getWfcAccessPointIndex, holds.count, List.findIdx?_map]
  cases found : saved.findIdx? ((fun name => decide (name = ssid)) ∘ Config.name) with
  | none =>
      rw [List.findIdx?_eq_none_iff] at found
      rw [List.find?_range_eq_none]
      intro i inside
      have other := found _ (List.getElem_mem inside)
      simp only [Function.comp_apply, decide_eq_false_iff_not] at other
      simpa using fun told => other ((here i inside).mp told)
  | some i =>
      obtain ⟨inside, named, first⟩ := List.findIdx?_eq_some_iff_getElem.mp found
      simp only [Function.comp_apply, decide_eq_true_iff] at named first
      rw [List.find?_range_eq_some]
      refine ⟨(here i inside).mpr named, List.mem_range.mpr inside, fun j before => ?_⟩
      simpa using fun told => first j before ((here j (before.trans inside)).mp told)

theorem slots_length (start : Start) : start.slots.length ≤ wifiMaxWfc := by
  cases start <;> decide

/-- However the library was started and whatever the firmware holds, the table has the
profiles of the records that pass the tests, in their order and never more than it has room
for, and a network is found in it under its name. -/
theorem wfc_loaded (start : Start) (firmware : Memory) :
    Holds (start.load firmware {}) (start.saved firmware) ∧
      (start.load firmware {}).wfcNumberOfConfigs ≤ wifiMaxWfc ∧
      ∀ ssid, (start.load firmware {}).accessPointIndex ssid =
        AccessPoints.getWfcAccessPointIndex ((start.saved firmware).map Config.name) ssid := by
  have holds := Holds.load start firmware
  refine ⟨holds, ?_, holds.accessPointIndex fun config => saved_short⟩
  rw [holds.count]
  exact (List.length_filterMap_le _ _).trans (slots_length start)

/-! A record that was damaged. -/

theorem register_eq_feed (data : List UInt8) (start : BitVec 16) :
    data.foldl registerByte start = feed polynomial start (bitsOf data) := by
  induction data generalizing start with
  | nil => rfl
  | cons byte rest ih =>
      rw [List.foldl_cons, ih, bitsOf_cons, feed_append, feed_bitsOfByte (by decide)]
      rfl

/-- The CRC tells a burst of 16 bits or less. -/
theorem wifiCrc16Slow_burst {first second : List UInt8} (same : first.length = second.length) (differ : first ≠ second)
    {start : Nat} (window : ∀ i, (bitsOf first)[i]? ≠ (bitsOf second)[i]? → start ≤ i ∧ i < start + 16) :
    wifiCrc16Slow first ≠ wifiCrc16Slow second := by
  rw [wifiCrc16Slow_eq, wifiCrc16Slow_eq, setWidth_injective.ne_iff, register, register, register_eq_feed,
    register_eq_feed]
  apply feed_window (by decide) _ _ window
  · rw [bitsOf_length, bitsOf_length, same]
  · intro bits
    apply differ
    apply List.ext_getElem same
    intro k inside inside'
    apply UInt8.toBitVec_inj.mp
    apply BitVec.eq_of_getLsbD_eq
    intro b low
    have bit := congrArg (·[8 * k + b]?) bits
    have place : (8 * k + b) / 8 = k ∧ (8 * k + b) % 8 = b := by omega
    simpa only [bitsOf_getElem?, place, List.getElem?_eq_getElem inside, List.getElem?_eq_getElem inside',
      Option.map_some, Option.some.injEq] using bit

def Slot.address (firmware : Memory) : Slot → Nat
  | .ntr i => ntrAddress firmware i
  | .twl i => twlAddress firmware i

def Slot.size : Slot → Nat
  | .ntr _ => ntrRecordSize
  | .twl _ => twlRecordSize

theorem readFirmware_inside {firmware : Memory} {address size i : Nat} (inside : i < size) :
    readFirmware firmware address size i = firmware (address + i) := if_pos inside

theorem Slot.apData_eq (firmware : Memory) (slot : Slot) :
    slot.apData firmware = readFirmware firmware (slot.address firmware) slot.size := by
  cases slot <;> rfl

/-- The firmware is damaged in up to 16 bits next to each other, which are all in the 256
bytes from the address on. -/
structure Burst (firmware damaged : Memory) (address : Nat) : Prop where
  differs : ∃ i < 0x100, damaged (address + i) ≠ firmware (address + i)
  inside : ∀ other, damaged other ≠ firmware other → address ≤ other ∧ other < address + 0x100
  near : ∃ start, ∀ i bit, bit < 8 →
    (damaged (address + i)).toBitVec.getLsbD bit ≠ (firmware (address + i)).toBitVec.getLsbD bit →
      start ≤ 8 * i + bit ∧ 8 * i + bit < start + 16

/-- One byte that was changed. -/
theorem Burst.ofByte {firmware : Memory} (address : Nat) {k : Nat} (inside : k < 0x100) {byte : UInt8}
    (other : byte ≠ firmware (address + k)) :
    Burst firmware (Function.update firmware (address + k) byte) address where
  differs := ⟨k, inside, by rwa [Function.update_self]⟩
  inside place changed := by
    by_cases here : place = address + k
    · omega
    · exact absurd (Function.update_of_ne here _ _) changed
  near := by
    refine ⟨8 * k, fun i bit low changed => ?_⟩
    by_cases here : i = k
    · omega
    · rw [Function.update_of_ne (by omega)] at changed
      exact absurd rfl changed

theorem record_getElem? (apData : Memory) (start i : Nat) :
    (recordAt apData start).toList[i]? = if i < 0x100 then some (apData (start + i)) else none := by
  by_cases inside : i < 0x100
  · simp [recordAt, inside]
  · simp [inside]

/-- The CRC of the 256 bytes is not zero any more. -/
theorem Burst.crc {firmware damaged : Memory} {address : Nat} (burst : Burst firmware damaged address)
    {before after : Memory} {start : Nat} (read : ∀ i < 0x100, before (start + i) = firmware (address + i))
    (read' : ∀ i < 0x100, after (start + i) = damaged (address + i))
    (zero : wifiCrc16Slow (recordAt before start).toList = 0) : wifiCrc16Slow (recordAt after start).toList ≠ 0 := by
  obtain ⟨first, near⟩ := burst.near
  rw [← zero]
  apply wifiCrc16Slow_burst (by simp)
  · obtain ⟨i, inside, other⟩ := burst.differs
    intro same
    have byte := congrArg (·[i]?) same
    simp only [record_getElem?, if_pos inside, Option.some.injEq, read i inside, read' i inside] at byte
    exact other byte
  · intro i apart
    rw [bitsOf_getElem?, bitsOf_getElem?, record_getElem?, record_getElem?] at apart
    by_cases inside : i / 8 < 0x100
    · rw [if_pos inside, if_pos inside, Option.map_some, Option.map_some, read _ inside, read' _ inside] at apart
      have bit := near (i / 8) (i % 8) (Nat.mod_lt _ (by decide)) fun same => apart (by rw [same])
      rwa [Nat.div_add_mod] at bit
    · rw [if_neg inside, if_neg inside] at apart
      exact absurd rfl apart

theorem settingsStart_lt (firmware : Memory) : settingsStart firmware < 0x80000 := by
  have low := (firmware userSettingsOffset).toNat_lt
  have high := (firmware (userSettingsOffset + 1)).toNat_lt
  rw [settingsStart]
  omega

theorem listed_slot {start : Start} {slot : Slot} (listed : slot ∈ start.slots) :
    ∃ i < recordsPerLoader, slot = .ntr i ∨ slot = .twl i := by
  cases start with
  | ntr =>
      obtain ⟨i, few, rfl⟩ := List.mem_map.mp listed
      exact ⟨i, List.mem_range.mp few, .inl rfl⟩
  | ntrOnDsi | twl =>
      rcases List.mem_append.mp listed with listed | listed
      · obtain ⟨i, few, rfl⟩ := List.mem_map.mp listed
        exact ⟨i, List.mem_range.mp few, .inl rfl⟩
      · obtain ⟨i, few, rfl⟩ := List.mem_map.mp listed
        exact ⟨i, List.mem_range.mp few, .inr rfl⟩

/-- No byte belongs to two records. -/
theorem records_apart {start : Start} (firmware : Memory) {slot other : Slot} (listed : slot ∈ start.slots)
    (listed' : other ∈ start.slots) (apart : other ≠ slot) {k n : Nat} (inside : k < slot.size)
    (inside' : n < other.size) : slot.address firmware + k ≠ other.address firmware + n := by
  -- the records of the DSi end where those of the DS begin
  have bound := settingsStart_lt firmware
  obtain ⟨i, few, here⟩ := listed_slot listed
  obtain ⟨j, few', there⟩ := listed_slot listed'
  dsimp only [recordsPerLoader] at few few'
  rcases here with rfl | rfl <;> rcases there with rfl | rfl
  all_goals
    simp only [ne_eq, Slot.ntr.injEq, Slot.twl.injEq] at apart
    simp only [Slot.size, Slot.address, ntrAddress, twlAddress, ntrRecordSize, twlRecordSize] at *
    omega

theorem address_of_pointer {firmware damaged : Memory} (pointer : settingsStart damaged = settingsStart firmware)
    (slot : Slot) : slot.address damaged = slot.address firmware := by
  cases slot <;> simp only [Slot.address, ntrAddress, twlAddress, pointer]

section Damaged
variable {start : Start} {firmware damaged : Memory} {slot : Slot} {half : Nat}
  (pointer : settingsStart damaged = settingsStart firmware) (within : half * 0x100 < slot.size)
  (burst : Burst firmware damaged (slot.address firmware + half * 0x100))
include pointer within burst

/-- The other records are as they were. -/
theorem other_apData {other : Slot} (listed : slot ∈ start.slots) (listed' : other ∈ start.slots)
    (apart : other ≠ slot) : other.apData damaged = other.apData firmware := by
  rw [Slot.apData_eq, Slot.apData_eq, address_of_pointer pointer]
  funext n
  rw [readFirmware, readFirmware]
  by_cases inside : n < other.size
  · rw [if_pos inside, if_pos inside]
    by_contra changed
    obtain ⟨low, high⟩ := burst.inside _ changed
    obtain ⟨k, at_k⟩ := Nat.exists_eq_add_of_le ((Nat.le_add_right _ _).trans low)
    refine records_apart firmware listed listed' apart (k := k) ?_ inside at_k.symm
    cases slot with
    | ntr i =>
        dsimp only [Slot.size, ntrRecordSize] at within ⊢
        omega
    | twl i =>
        dsimp only [Slot.size, twlRecordSize] at within ⊢
        omega
  · rw [if_neg inside, if_neg inside]

/-- The record itself does not pass its tests any more. -/
theorem damaged_profile {allowWpa : Bool} (used : (slot.profile allowWpa (slot.apData firmware)).isSome) :
    slot.profile allowWpa (slot.apData damaged) = none := by
  have room : half * 0x100 + 0x100 ≤ slot.size := by
    cases slot with
    | ntr i =>
        dsimp only [Slot.size, ntrRecordSize] at within ⊢
        omega
    | twl i =>
        dsimp only [Slot.size, twlRecordSize] at within ⊢
        omega
  have read : ∀ (memory : Memory), slot.address memory = slot.address firmware → ∀ i < 0x100,
      slot.apData memory (half * 0x100 + i) = memory (slot.address firmware + half * 0x100 + i) := by
    intro memory same i inside
    have below : half * 0x100 + i < slot.size := (Nat.add_lt_add_left inside _).trans_le room
    rw [Slot.apData_eq, same, readFirmware_inside below, Nat.add_assoc]
  -- the CRC over the half that is hit was zero
  have failed := burst.crc (read firmware rfl) (read damaged (address_of_pointer pointer slot))
  cases slot with
  | ntr i =>
      have whole : half = 0 := by
        dsimp only [Slot.size, ntrRecordSize] at within
        omega
      subst whole
      rw [Slot.profile, ntrProfile] at used ⊢
      split at used
      · next passes =>
          have zero := passes.1
          simp only [ntrRecordValid, Bool.and_eq_true, decide_eq_true_iff] at zero
          rw [if_neg]
          rintro ⟨valid, -⟩
          simp only [ntrRecordValid, Bool.and_eq_true, decide_eq_true_iff] at valid
          exact failed zero.2 valid.2
      · cases used
  | twl i =>
      rw [Slot.profile, twlProfile] at used ⊢
      split at used
      · next passes =>
          have zero := passes.1
          simp only [twlRecordValid, Bool.and_eq_true, decide_eq_true_iff] at zero
          rw [if_neg]
          rintro ⟨valid, -⟩
          simp only [twlRecordValid, Bool.and_eq_true, decide_eq_true_iff] at valid
          have halves : half = 0 ∨ half = 1 := by
            dsimp only [Slot.size, twlRecordSize] at within
            omega
          rcases halves with rfl | rfl
          · exact failed zero.1.2 valid.1.2
          · exact failed zero.2 valid.2
      · cases used

/-- A record that was damaged in up to 16 bits next to each other is passed over, and all the
others are loaded as before. -/
theorem damaged_passed_over (listed : slot ∈ start.slots)
    (used : (slot.profile start.allowsWpa (slot.apData firmware)).isSome) :
    Holds (start.load damaged {}) ((start.slots.filter (· ≠ slot)).filterMap fun other =>
      other.profile start.allowsWpa (other.apData firmware)) := by
  have loaded := Holds.load start damaged
  -- its profile drops out, and every other record reads as before
  have same : start.saved damaged = (start.slots.filter (· ≠ slot)).filterMap fun other =>
      other.profile start.allowsWpa (other.apData firmware) := by
    rw [Start.saved, List.filterMap_filter]
    apply List.filterMap_congr
    intro other listed'
    by_cases here : other = slot
    · rw [here, damaged_profile pointer within burst used]
      simp
    · rw [other_apData pointer within burst listed listed' here]
      simp [here]
  rw [← same]
  exact loaded

end Damaged

/-- 254 bytes and their CRC. -/
def withCrc (contents : List UInt8) : List UInt8 :=
  contents ++ le16 (UInt16.ofBitVec ((wifiCrc16Slow contents).setWidth 16))

theorem withCrc_crc (contents : List UInt8) : wifiCrc16Slow (withCrc contents) = 0 := by
  have low : ((register contents).setWidth 32).setWidth 16 = register contents := by
    rw [BitVec.setWidth_setWidth (by decide), BitVec.setWidth_eq]
  rw [withCrc, wifiCrc16Slow_append_le16, wifiCrc16Slow_eq, UInt16.toBitVec_ofBitVec, low]

theorem recordAt_inPlace {apData : Memory} {start : Nat} {text : List UInt8} (there : InPlace apData start text)
    (whole : text.length = 0x100) : (recordAt apData start).toList = text := by
  apply List.ext_getElem (by simp [whole])
  intro i _ inside
  rw [← there.byte inside]
  simp [recordAt]

/-- The settings of a network whose name is "HI". -/
def savedContents : List UInt8 := List.replicate 0x40 0 ++ [0x48, 0x49] ++ List.replicate 0xBC 0

def savedFirmware : Memory :=
  writeBytes (writeBytes (fun _ => 0) userSettingsOffset (le16 0x0200)) 0xC00 (withCrc savedContents)

theorem saved_address : ntrAddress savedFirmware 0 = 0xC00 := by decide +kernel

theorem saved_length : (withCrc savedContents).length = 0x100 := by
  simp only [withCrc, savedContents, List.length_append, List.length_replicate, List.length_cons, List.length_nil,
    BeaconFrame.le16_length]

theorem saved_valid : ntrRecordValid (recordAt (ntrApData savedFirmware 0) 0) = true := by
  have there : InPlace (ntrApData savedFirmware 0) 0 (withCrc savedContents) := by
    have written : InPlace savedFirmware 0xC00 (withCrc savedContents) := writeBytes_inPlace _ _ _
    refine List.ext_getElem (by simp) fun i _ inside => ?_
    have record : i < ntrRecordSize := by rwa [saved_length] at inside
    have read : ntrApData savedFirmware 0 i = savedFirmware (0xC00 + i) := by
      rw [ntrApData, saved_address, readFirmware_inside record]
    rw [← written.byte inside, ← read]
    simp [readBytes]
  rw [ntrRecordValid, recordAt_inPlace there saved_length, withCrc_crc]
  decide +kernel

/-- The last letter of the name is another one. -/
theorem damaged_passed_over_letter :
    Holds (Start.ntr.load (Function.update savedFirmware (0xC00 + 0x41) 0x4A) {}) [] := by
  have burst : Burst savedFirmware (Function.update savedFirmware (0xC00 + 0x41) 0x4A)
      ((Slot.ntr 0).address savedFirmware + 0 * 0x100) := by
    rw [Slot.address, saved_address]
    exact Burst.ofByte 0xC00 (by decide) (by decide +kernel)
  have others : ((Start.ntr.slots.filter (· ≠ .ntr 0)).filterMap fun other =>
      other.profile Start.ntr.allowsWpa (other.apData savedFirmware)) = [] := by decide +kernel
  have used : ((Slot.ntr 0).profile Start.ntr.allowsWpa ((Slot.ntr 0).apData savedFirmware)).isSome := by
    rw [Slot.profile, Slot.apData, ntrProfile, if_pos ⟨saved_valid, by decide +kernel, by decide +kernel⟩]
    rfl
  rw [← others]
  exact damaged_passed_over (by decide +kernel) (by decide) burst (by decide) used

end Dswifi.WfcSettings
