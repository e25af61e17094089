import Dswifi.Beacon
import Dswifi.MpHost
import Dswifi.Ring

/-! The beacon a host announces itself with. The ARM9 (arm9/ntr/beacon.c) builds
the frame and leaves it in the TX ring for the ARM7. -/

namespace Dswifi.BeaconFrame

open MpHost (Mac)

def macBeaconSize : Nat := Beacon.macBeaconEndOffset - Beacon.macBeaconStartOffset
def hdrTxSize : Nat := 12
def wifiTransferRate2Mbps : UInt16 := 0x14
def typeBeacon : UInt16 := 0x80
def wifiBroadcastAddr : Mac := (0xFFFF, 0xFFFF, 0xFFFF)

def capsEss : UInt16 := 0x01
def capsPrivacy : UInt16 := 0x10
def capsShortPreamble : UInt16 := 0x20

def fieIdSsid : UInt8 := 0
def fieIdSupportedRates : UInt8 := 1
def fieIdTim : UInt8 := 5
def fieIdRsn : UInt8 := 48

def rateMandatory : UInt8 := 0x80
def rate1Mbps : UInt8 := 2
def rate2Mbps : UInt8 := 4
def rate5_5Mbps : UInt8 := 11
def rate11Mbps : UInt8 := 22

/-- DSWIFI_BEACON_NAME_SIZE / sizeof(u16) -/
def beaconNameChars : Nat := 10
def beaconGameDataMax : Nat := 16

/-- sizeof(DSWifiExtraData) -/
def dswifiExtraData : Nat := 24

/-- Wifi_BeaconExtraDataLayout -/
inductive ExtraDataLayout where
  | dswifi
  | raw
  deriving DecidableEq, Repr

/-- Wifi_BeaconVendorInfo -/
structure VendorInfo where
  steppingOffset : UInt16 := 0
  lcdVideoSync : UInt16 := 0
  fixedId : UInt32 := 0
  gameId : UInt32 := 0
  streamCode : UInt16 := 0
  beaconType : UInt8 := 0
  cmdDataSize : UInt16 := 0
  replyDataSize : UInt16 := 0
  extraData : Option (Nat → UInt8) := none
  extraDataSize : Nat := 0
  extraDataLayout : ExtraDataLayout := .dswifi
  omitSsid : Bool := false

/-- What the host keeps in the memory both CPUs share. `allowClients` is
WFLAG_REQ_ALLOWCLIENTS of the requests. -/
structure Shared where
  macAddr : Mac := (0, 0, 0)
  reqChannel : UInt8 := 0
  allowClients : Bool := false
  curMaxClients : UInt8 := 0
  curCmdDataSize : UInt16 := 0
  curReplyDataSize : UInt16 := 0
  hostPlayerName : Fin beaconNameChars → UInt16 := fun _ => 0
  hostPlayerNameLen : UInt8 := 0
  hostGameData : Fin beaconGameDataMax → UInt8 := fun _ => 0
  hostGameDataLen : UInt8 := 0
  curApSsid : List UInt8 := []
  beaconExtraDataLayout : ExtraDataLayout := .dswifi

/-- PersonalData of the firmware. The length is not to be trusted. -/
structure PersonalData where
  nameLen : UInt8
  name : Nat → UInt16

/-! Bytes of the frame. -/

def le16 (value : UInt16) : List UInt8 := [value.toUInt8, (value >>> 8).toUInt8]

def le32 (value : UInt32) : List UInt8 :=
  [value.toUInt8, (value >>> 8).toUInt8, (value >>> 16).toUInt8, (value >>> 24).toUInt8]

def bswap32 (value : UInt32) : UInt32 :=
  value >>> 24 ||| (value >>> 8 &&& (0xFF00 : UInt32)) ||| (value <<< 8 &&& (0xFF0000 : UInt32)) ||| value <<< 24

def macBytes (mac : Mac) : List UInt8 := le16 mac.1 ++ le16 mac.2.1 ++ le16 mac.2.2

/-- Wifi_TxHeader -/
def txHeader (txLength : Nat) : List UInt8 :=
  List.replicate 8 0 ++ le16 wifiTransferRate2Mbps ++ le16 (UInt16.ofNat txLength)

/-- IEEE_MgtFrameHeader -/
def mgtHeader (shared : Shared) : List UInt8 :=
  le16 typeBeacon ++ le16 0 ++ macBytes wifiBroadcastAddr ++ macBytes shared.macAddr ++
    macBytes shared.macAddr ++ le16 0

/-- FieVendorNintendoHeader -/
def vendorHeader (info : VendorInfo) : List UInt8 :=
  [0x00, 0x09, 0xBF, 0x00] ++ le16 info.steppingOffset ++ le16 info.lcdVideoSync ++ le32 info.fixedId ++
    le32 info.gameId ++ le16 info.streamCode ++ [UInt8.ofNat info.extraDataSize, info.beaconType] ++
    le16 info.cmdDataSize ++ le16 info.replyDataSize

def extraBytes (info : VendorInfo) : List UInt8 :=
  match info.extraData with
  | none => []
  | some data => (List.range info.extraDataSize).map data

/-- An information element: its type and its contents. -/
abbrev Fie := UInt8 × List UInt8

def fieBytes (fie : Fie) : List UInt8 := fie.1 :: UInt8.ofNat fie.2.length :: fie.2

def omitsSsid : Option VendorInfo → Bool
  | none => false
  | some info => info.omitSsid

def fies (shared : Shared) (ssid : List UInt8) (info : Option VendorInfo) : List Fie :=
  (if omitsSsid info then [] else [(fieIdSsid, ssid)]) ++
    [(fieIdSupportedRates, [rateMandatory ||| rate2Mbps, rateMandatory ||| rate1Mbps]),
      (Beacon.fieIdDsParamSet, [shared.reqChannel]),
      (fieIdTim, [0, 2, 0, 0, 0])] ++
    match info with
    | none => []
    | some info => [(Beacon.fieIdVendor, vendorHeader info ++ extraBytes info)]

/-- Timestamp, beacon interval and capability information. -/
def fixedFields : List UInt8 := List.replicate 8 0 ++ le16 100 ++ le16 (capsEss ||| capsShortPreamble)

/-- The frame from the IEEE header on, without the FCS. -/
def ieeeFrame (shared : Shared) (ssid : List UInt8) (info : Option VendorInfo) : List UInt8 :=
  mgtHeader shared ++ fixedFields ++ (fies shared ssid info).flatMap fieBytes

/-- Wifi_BeaconStartInternal. What it queues when it returns 0, without the room
for the FCS; `ring` is the TX ring it finds. -/
def beaconStartInternal (ssid : Option (Nat → UInt8)) (ssidLen : Nat) (info : Option VendorInfo)
    (ring : RingBuffer.Buffer) (shared : Shared) : Option (List UInt8) × Shared :=
  if ssidLen > 32 then (none, shared)
  else if ssidLen > 0 ∧ ssid.isNone then (none, shared)
  else if info.any fun info => info.extraDataSize > Beacon.beaconExtraDataMax then (none, shared)
  else if info.any fun info => info.extraDataSize > 0 ∧ info.extraData.isNone then (none, shared)
  else
    let name := (List.range ssidLen).map (ssid.getD fun _ => 0)
    let shared := { shared with
      curApSsid := name
      beaconExtraDataLayout := (info.map VendorInfo.extraDataLayout).getD .raw }
    let frame := ieeeFrame shared name info
    let frameSize := hdrTxSize + frame.length + 4
    if frameSize > macBeaconSize then (none, shared)
    else
      match (RingBuffer.bufferAllocBuffer .tx ring (4 + RingBuffer.roundUp32 frameSize + 4)).2 with
      | none => (none, shared)
      | some _ => (some (txHeader (frame.length + 4) ++ frame), shared)

def beaconStartEx (ssid : Option (List UInt8)) (info : Option VendorInfo) (ring : RingBuffer.Buffer)
    (shared : Shared) : Option (List UInt8) × Shared :=
  beaconStartInternal (ssid.map fun text i => text.getD i 0) (ssid.elim 0 List.length) info ring shared

/-- DSWifiExtraData -/
def extraHeader (shared : Shared) : List UInt8 :=
  [shared.curMaxClients + 1, 1, if shared.allowClients then 1 else 0, shared.hostPlayerNameLen] ++
    (List.ofFn shared.hostPlayerName).flatMap le16

def gameDataLen (shared : Shared) : Nat := min shared.hostGameDataLen.toNat beaconGameDataMax

/-- The extra data of DSWifi and the game data of the host behind it. -/
def extraData (shared : Shared) : List UInt8 :=
  extraHeader shared ++ (List.ofFn shared.hostGameData).take (gameDataLen shared)

def beaconInfo (gameId : UInt32) (shared : Shared) : VendorInfo where
  gameId := bswap32 gameId
  beaconType := 1
  cmdDataSize := shared.curCmdDataSize
  replyDataSize := shared.curReplyDataSize
  extraData := some fun i => (extraData shared).getD i 0
  extraDataSize := dswifiExtraData + gameDataLen shared
  extraDataLayout := .dswifi

/-- The name of the firmware over the first characters of the name of the host. -/
def copyFirmwareName (personal : PersonalData) (shared : Shared) : Shared :=
  { shared with
    hostPlayerName := fun i =>
      if i.val < min personal.nameLen.toNat beaconNameChars then personal.name i else shared.hostPlayerName i }

/-- Wifi_BeaconStart. The name is copied again whatever became of the beacon. -/
def beaconStart (personal : PersonalData) (ssid : Option (List UInt8)) (gameId : UInt32)
    (ring : RingBuffer.Buffer) (shared : Shared) : Option (List UInt8) × Shared :=
  let (frame, shared) := beaconStartEx ssid (some (beaconInfo gameId shared)) ring shared
  (frame, copyFirmwareName personal shared)

/-- The name of the host as Wifi_InitIPC leaves it. -/
def initIpc (personal : PersonalData) : Shared :=
  copyFirmwareName personal
    { hostPlayerNameLen := UInt8.ofNat (min personal.nameLen.toNat beaconNameChars) }

def multiplayerHostName (buffer : Fin beaconNameChars → UInt16) (len : UInt8) (shared : Shared) : Shared :=
  { shared with hostPlayerName := buffer, hostPlayerNameLen := len }

/-- Wifi_MultiplayerHostGameData. What it refuses changes nothing. -/
def multiplayerHostGameData (data : Option (Nat → UInt8)) (size : Nat) (shared : Shared) : Shared :=
  if size > beaconGameDataMax then shared
  else if size > 0 ∧ data.isNone then shared
  else { shared with
    hostGameDataLen := UInt8.ofNat size
    hostGameData := fun i => if i.val < size then (data.getD fun _ => 0) i else shared.hostGameData i }

/-! What the bytes of the frame are. -/

@[simp] theorem le16_length (value : UInt16) : (le16 value).length = 2 := rfl

@[simp] theorem le32_length (value : UInt32) : (le32 value).length = 4 := rfl

theorem le16_joined (value : UInt16) :
    value.toUInt8.toUInt16 ||| (value >>> 8).toUInt8.toUInt16 <<< 8 = value := by
  apply UInt16.toNat_inj.mp
  have small := value.toNat_lt
  have low : value.toNat % 256 < 2 ^ 8 := Nat.mod_lt _ (by decide)
  have high : (value >>> 8).toNat = value.toNat / 256 := by simp [Nat.shiftRight_eq_div_pow]
  simp only [UInt16.toNat_or, UInt16.toNat_shiftLeft, UInt8.toNat_toUInt16, UInt16.toNat_toUInt8, high]
  rw [Nat.or_comm, show (8 : UInt16).toNat % 16 = 8 from rfl,
    Nat.mod_eq_of_lt (show value.toNat / 256 < 256 by omega),
    Nat.mod_eq_of_lt (by rw [Nat.shiftLeft_eq]; omega), ← Nat.shiftLeft_add_eq_or_of_lt low,
    Nat.shiftLeft_eq]
  omega

theorem le16_injective : Function.Injective le16 := by
  intro first second same
  injection same with low high
  injection high with high
  rw [← le16_joined first, low, high, le16_joined second]

theorem le16s_length (values : List UInt16) : (values.flatMap le16).length = 2 * values.length := by
  induction values with
  | nil => rfl
  | cons value rest ih =>
      rw [List.flatMap_cons, List.length_append, ih, le16_length, List.length_cons]
      omega

theorem le16s_injective {first second : List UInt16} (same : first.flatMap le16 = second.flatMap le16) :
    first = second := by
  induction first generalizing second with
  | nil =>
      cases second with
      | nil => rfl
      | cons value rest => cases same
  | cons value rest ih =>
      cases second with
      | nil => cases same
      | cons other later =>
          obtain ⟨head, tail⟩ := List.append_inj same rfl
          rw [le16_injective head, ih tail]

@[simp] theorem macBytes_length (mac : Mac) : (macBytes mac).length = 6 := rfl

@[simp] theorem txHeader_length (txLength : Nat) : (txHeader txLength).length = hdrTxSize := rfl

@[simp] theorem mgtHeader_length (shared : Shared) : (mgtHeader shared).length = 24 := rfl

@[simp] theorem fixedFields_length : fixedFields.length = 12 := rfl

@[simp] theorem vendorHeader_length (info : VendorInfo) :
    (vendorHeader info).length = Beacon.fieVendorNintendoHeader := rfl

@[simp] theorem fieBytes_length (fie : Fie) : (fieBytes fie).length = fie.2.length + 2 := rfl

@[simp] theorem extraHeader_length (shared : Shared) : (extraHeader shared).length = dswifiExtraData := by
  simp only [extraHeader, List.length_append, le16s_length, List.length_ofFn]
  rfl

theorem gameDataLen_le (shared : Shared) : gameDataLen shared ≤ beaconGameDataMax := Nat.min_le_right _ _

@[simp] theorem extraData_length (shared : Shared) :
    (extraData shared).length = dswifiExtraData + gameDataLen shared := by
  rw [extraData, List.length_append, extraHeader_length, List.length_take, List.length_ofFn,
    Nat.min_eq_left (gameDataLen_le shared)]

/-- A list read through a pointer to it. -/
theorem range_map_getD (list : List UInt8) :
    (List.range list.length).map (fun i => list.getD i 0) = list := by
  refine List.ext_getElem (by simp) fun i inside _ => ?_
  have below : i < list.length := by simpa using inside
  simp [List.getElem?_eq_getElem below]

theorem extraBytes_beaconInfo (gameId : UInt32) (shared : Shared) :
    extraBytes (beaconInfo gameId shared) = extraData shared := by
  simp only [extraBytes, beaconInfo, ← extraData_length]
  exact range_map_getD _

/-- The elements of a beacon that Wifi_BeaconStart builds. -/
def dswifiFies (ssid : List UInt8) (gameId : UInt32) (shared : Shared) : List Fie :=
  [(fieIdSsid, ssid),
    (fieIdSupportedRates, [rateMandatory ||| rate2Mbps, rateMandatory ||| rate1Mbps]),
    (Beacon.fieIdDsParamSet, [shared.reqChannel]), (fieIdTim, [0, 2, 0, 0, 0]),
    (Beacon.fieIdVendor, vendorHeader (beaconInfo gameId shared) ++ extraData shared)]

theorem fies_beaconInfo (ssid : List UInt8) (gameId : UInt32) (shared : Shared) :
    fies shared ssid (some (beaconInfo gameId shared)) = dswifiFies ssid gameId shared := by
  rw [fies, extraBytes_beaconInfo]
  rfl

/-- The beacon that Wifi_BeaconStart queues, from the IEEE header on. -/
def dswifiBeacon (ssid : List UInt8) (gameId : UInt32) (shared : Shared) : List UInt8 :=
  mgtHeader shared ++ fixedFields ++ (dswifiFies ssid gameId shared).flatMap fieBytes

theorem dswifiBeacon_length (ssid : List UInt8) (gameId : UInt32) (shared : Shared) :
    (dswifiBeacon ssid gameId shared).length = 102 + ssid.length + gameDataLen shared := by
  simp [dswifiBeacon, dswifiFies, Beacon.fieVendorNintendoHeader, dswifiExtraData]
  omega

/-- What a beacon that was built is, and what building it did to the memory. -/
theorem beaconStart_some {personal : PersonalData} {ssid : Option (List UInt8)} {gameId : UInt32}
    {ring : RingBuffer.Buffer} {shared : Shared} {frame : List UInt8}
    (built : (beaconStart personal ssid gameId ring shared).1 = some frame) :
    (ssid.getD []).length ≤ 32 ∧
      frame = txHeader ((dswifiBeacon (ssid.getD []) gameId shared).length + 4) ++
        dswifiBeacon (ssid.getD []) gameId shared := by
  have name : (List.range (ssid.elim 0 List.length)).map
      ((ssid.map fun text i => text.getD i 0).getD fun _ => 0) = ssid.getD [] := by
    cases ssid with
    | none => rfl
    | some text => exact range_map_getD text
  have size : ssid.elim 0 List.length = (ssid.getD []).length := by cases ssid <;> rfl
  simp only [beaconStart, beaconStartEx, beaconStartInternal] at built
  rw [name] at built
  split at built
  · cases built
  · rename_i long
    refine ⟨by rw [← size]; omega, ?_⟩
    have same : ieeeFrame { shared with
          curApSsid := ssid.getD []
          beaconExtraDataLayout := .dswifi } (ssid.getD []) (some (beaconInfo gameId shared)) =
        dswifiBeacon (ssid.getD []) gameId shared := by
      rw [ieeeFrame, dswifiBeacon, ← fies_beaconInfo]
      rfl
    split at built
    · cases built
    · split at built
      · cases built
      · split at built
        · cases built
        · split at built
          · cases built
          · split at built
            · cases built
            · exact (Option.some.inj built).symm.trans (by rw [← same]; rfl)

end Dswifi.BeaconFrame
