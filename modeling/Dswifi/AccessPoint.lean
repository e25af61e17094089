import Dswifi.BeaconParse
import Dswifi.Runs
import Mathlib.Data.List.FinRange

/-! The list of access points that the ARM7 has found (arm7/access_point.c). -/

namespace Dswifi.AccessPoints

open BeaconFrame (ApSecurity NintendoVendorInfo)

def wifiMaxAp : Nat := 32

instance : NeZero wifiMaxAp := ⟨by decide⟩

/-- Thirteen channels, twice, and one more. -/
def wifiApTimeout : UInt32 := 13 * 2 + 1

def apdataWep : UInt16 := 0x0002
def apdataWpa : UInt16 := 0x0004
def apdataCompatible : UInt16 := 0x0008
def apdataNintendoTag : UInt16 := 0x0040
def apdataConfigInWfc : UInt16 := 0x0080
def apdataActive : UInt16 := 0x8000

/-- Wifi_ApCryptType -/
inductive CryptType where
  | none
  | wep
  | tkip
  | aes
  deriving DecidableEq, Repr

/-- Wifi_ApAuthType. The DSi puts any byte there that it has received. -/
abbrev AuthType := UInt8

def authNone : AuthType := 0

/-- Wifi_AccessPoint -/
structure Entry where
  ssid : List UInt8 := List.replicate 33 0
  ssidLen : UInt8 := 0
  bssid : List UInt8 := List.replicate 6 0
  channel : UInt8 := 0
  rssi : Int16 := 0
  flags : UInt16 := 0
  nintendo : NintendoVendorInfo := {}
  securityType : ApSecurity := .opened
  groupCryptType : CryptType := .none
  pairCryptType : CryptType := .none
  authType : AuthType := authNone
  timectr : UInt32 := 0
  deriving DecidableEq, Repr

def Entry.isActive (ap : Entry) : Bool := ap.flags &&& apdataActive ≠ 0

abbrev ApList := Fin wifiMaxAp → Entry

/-- What Wifi_AccessPointAdd is told of an access point. There is no `ssid` when
the pointer is NULL and no `rssi` when it is INT_MIN. -/
structure Heard where
  bssid : List UInt8
  sa : List UInt8
  ssid : Option (List UInt8)
  channel : UInt32
  rssi : Option Int16
  secType : ApSecurity
  groupCryptType : CryptType
  pairCryptType : CryptType
  authType : AuthType
  compatible : Bool
  nintendo : Option NintendoVendorInfo
  deriving DecidableEq, Repr

/-- The part of WifiData that is used here; `wfc` has the SSIDs of the settings. -/
structure WifiData where
  aplist : ApList := fun _ => {}
  curApBssid : List UInt8 := List.replicate 6 0
  rssi : UInt8 := 0
  wfc : List (List UInt8) := []
  dsiMode : Bool := false

def getWfcAccessPointIndex (wfc : List (List UInt8)) (ssid : List UInt8) : Option Nat :=
  wfc.findIdx? fun config => config = ssid

def clearEntry (ap : Entry) : Entry := { ap with flags := 0, bssid := [0, 0, 0] ++ ap.bssid.drop 3 }

def clearAll (data : WifiData) : WifiData := { data with aplist := fun i => clearEntry (data.aplist i) }

/-- The first loop of Wifi_AccessPointAdd. The BSSID is compared in entries that
have expired, too; the result says whether it was found. -/
def searchAplist (aplist : ApList) (bssid : List UInt8) :
    List (Fin wifiMaxAp) → Option (Fin wifiMaxAp) → Bool × Option (Fin wifiMaxAp)
  | [], chosenSlot => (false, chosenSlot)
  | i :: rest, chosenSlot =>
    if (aplist i).bssid = bssid then (true, some i)
    else searchAplist aplist bssid rest
      (if !(aplist i).isActive && chosenSlot.isNone then some i else chosenSlot)

/-- The second loop, for the access point that has been quiet for longest. -/
def longestQuiet (aplist : ApList) : List (Fin wifiMaxAp) → UInt32 → Fin wifiMaxAp → Fin wifiMaxAp
  | [], _, chosenSlot => chosenSlot
  | i :: rest, maxTimectr, chosenSlot =>
    if (aplist i).timectr > maxTimectr then longestQuiet aplist rest (aplist i).timectr i
    else longestQuiet aplist rest maxTimectr chosenSlot

def chooseSlot (aplist : ApList) (bssid : List UInt8) : Bool × Fin wifiMaxAp :=
  let (inAplist, chosenSlot) := searchAplist aplist bssid (List.finRange wifiMaxAp) none
  (inAplist, chosenSlot.getD (longestQuiet aplist (List.finRange wifiMaxAp) 0 0))

/-- The flags that do not depend on the SSID. -/
def heardFlags (heard : Heard) : UInt16 :=
  apdataActive ||| (if heard.nintendo.isSome then apdataNintendoTag else 0) |||
    (if heard.compatible then apdataCompatible else 0) |||
    (match heard.secType with
      | .opened => 0
      | .wep => apdataWep
      | .wpa | .wpa2 => apdataWpa)

/-- The length goes through a byte before it is compared with 32. -/
def ssidLength (ssid : List UInt8) : UInt8 :=
  if ssid.length.toUInt8 > 32 then 32 else ssid.length.toUInt8

def saveSsid (wfc : List (List UInt8)) (ssid : Option (List UInt8)) (ap : Entry) : Entry :=
  match ssid with
  | none => ap
  | some ssid =>
    let ssidLen := ssidLength ssid
    let copied := ssid.take ssidLen.toNat
    { ap with
      ssidLen
      ssid := copied ++ [0] ++ ap.ssid.drop (ssidLen.toNat + 1)
      flags := if getWfcAccessPointIndex wfc copied = none then ap.flags
        else ap.flags ||| apdataConfigInWfc }

/-- What is written to the chosen slot. -/
def fill (wfc : List (List UInt8)) (inAplist : Bool) (heard : Heard) (ap : Entry) : Entry :=
  let ap := if inAplist then ap else { ap with bssid := heard.bssid }
  let ap := { ap with
    timectr := 0
    flags := heardFlags heard
    nintendo := heard.nintendo.getD ap.nintendo
    securityType := heard.secType
    groupCryptType := heard.groupCryptType
    pairCryptType := heard.pairCryptType
    authType := heard.authType }
  let ap := saveSsid wfc heard.ssid ap
  { ap with
    channel := heard.channel.toUInt8
    rssi := if inAplist then heard.rssi.getD ap.rssi else heard.rssi.getD 0 }

/-- Wifi_AccessPointAdd. The lock of the entry is `acquired`, or the ARM9 holds it. -/
def accessPointAdd (acquired : Bool) (heard : Heard) (data : WifiData) : WifiData :=
  let (inAplist, chosenSlot) := chooseSlot data.aplist heard.bssid
  if !acquired then data else
    let ap := fill data.wfc inAplist heard (data.aplist chosenSlot)
    { data with
      aplist := Function.update data.aplist chosenSlot ap
      rssi := if data.curApBssid = heard.sa then ap.rssi.toUInt16.toUInt8 else data.rssi }

def tickEntry (timeout : UInt32) (ap : Entry) : Entry :=
  if ap.isActive then
    { ap with
      timectr := ap.timectr + 1
      flags := if ap.timectr + 1 > timeout then 0 else ap.flags }
  else ap

def accessPointTick (data : WifiData) : WifiData :=
  let timeout := if data.dsiMode then wifiApTimeout * 10 else wifiApTimeout
  { data with aplist := fun i => tickEntry timeout (data.aplist i) }

/-- What happens to the list. -/
inductive Event where
  | add (acquired : Bool) (heard : Heard)
  | tick
  | clearAll

def step (data : WifiData) : Event → WifiData
  | .add acquired heard => accessPointAdd acquired heard data
  | .tick => accessPointTick data
  | .clearAll => clearAll data

/-- What Wifi_ProcessBeaconOrProbeResponse tells of an access point. -/
def cryptOf : BeaconFrame.ApCrypt → CryptType
  | .none => .none
  | .wep => .wep

def authOf : BeaconFrame.ApAuth → AuthType
  | .none => authNone

def ofBeacon (ap : BeaconFrame.AccessPoint) : Heard where
  bssid := ap.bssid
  sa := ap.sa
  ssid := ap.ssid
  channel := ap.channel.toUInt32
  rssi := ap.rssi.map UInt16.toInt16
  secType := ap.secType
  groupCryptType := cryptOf ap.groupCryptType
  pairCryptType := cryptOf ap.pairCryptType
  authType := authOf ap.authType
  compatible := ap.compatible
  nintendo := ap.nintendo

end Dswifi.AccessPoints
