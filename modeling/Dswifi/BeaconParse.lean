import Dswifi.BeaconFrame
import Dswifi.Reading

/-! What the ARM7 makes of a beacon or a probe response
(arm7/ntr/ieee_802_11/beacon.c). The memory that is read is the copy of the
frame on the stack, and what is behind it. -/

namespace Dswifi.BeaconFrame

open Beacon (fieIdDsParamSet fieIdVendor fieVendorNintendoHeader)
open Reading

def hdrMgtSa : Nat := 10
def hdrMgtBssid : Nat := 16
def hdrMgtMacSize : Nat := 24

/-- HDR_MGT_MAC_SIZE, the timestamp and the beacon interval. -/
def capsIndex : Nat := hdrMgtMacSize + 8 + 2

def wscanListApCompatible : UInt8 := 1
def wscanListApIncompatible : UInt8 := 2
def wscanListNdsHosts : UInt8 := 4

/-- Wifi_ApSecurityType -/
inductive ApSecurity where
  | opened
  | wep
  | wpa
  | wpa2
  deriving DecidableEq, Repr

/-- Wifi_ApCryptType -/
inductive ApCrypt where
  | none
  | wep
  deriving DecidableEq, Repr

/-- Wifi_ApAuthType -/
inductive ApAuth where
  | none
  deriving DecidableEq, Repr

/-- Wifi_NintendoVendorInfo -/
structure NintendoVendorInfo where
  playersMax : UInt8 := 0
  playersCurrent : UInt8 := 0
  allowsConnections : UInt8 := 0
  gameId : UInt32 := 0
  nameLen : UInt8 := 0
  name : List UInt16 := List.replicate beaconNameChars 0
  gameDataLen : Nat := 0
  gameData : List UInt8 := List.replicate beaconGameDataMax 0
  deriving DecidableEq, Repr

/-- What the elements have told so far. `ptrSsid` is 0 when there was no SSID. -/
structure Found where
  compatible : Bool := true
  secType : ApSecurity := .opened
  ptrSsid : Nat := 0
  channel : UInt8
  hasNintendoInfo : Bool := false
  info : NintendoVendorInfo := {}
  deriving DecidableEq, Repr

/-- A little endian halfword of two bytes. -/
def half (pos : Nat) : Reading UInt16 := do
  let low ← byte pos
  let high ← byte (pos + 1)
  pure (low.toUInt16 ||| high.toUInt16 <<< 8)

/-- The halfwords of a list of bytes. -/
def joined : List UInt8 → List UInt16
  | low :: high :: rest => (low.toUInt16 ||| high.toUInt16 <<< 8) :: joined rest
  | _ => []

/-- What a cipher suite says of the security: TKIP and AES, then WEP. -/
def suiteSecurity (suite : UInt8) (secType : ApSecurity) : ApSecurity :=
  if suite = 2 ∨ suite = 3 ∨ suite = 4 then .wpa
  else if suite = 1 ∨ suite = 5 then .wep
  else secType

/-- The loop over the cipher suites of a WPA or an RSN element. A suite of
another organization is not stepped over. -/
def cipherSuites (magic : List UInt8) (last : Nat) : Nat → Nat → ApSecurity → Reading ApSecurity
  | 0, _, secType => pure secType
  | numUniCiphers + 1, j, secType =>
    if j ≤ last then do
      if ← startsWith magic j then
        let suite ← byte (j + magic.length)
        cipherSuites magic last numUniCiphers (j + magic.length + 1) (suiteSecurity suite secType)
      else
        cipherSuites magic last numUniCiphers j secType
    else pure secType

def wpaMagic : List UInt8 := [0x00, 0x50, 0xF2]
def rsnMagic : List UInt8 := [0x00, 0x0F, 0xAC]

/-- The OUI of Microsoft, the type and the version. -/
def microsoftTag : List UInt8 := [0x00, 0x50, 0xF2, 0x01, 0x01, 0x00]
def nintendoTag : List UInt8 := [0x00, 0x09, 0xBF, 0x00]

def isVendorMicrosoft (data len : Nat) : Reading Bool :=
  if len ≥ 14 then startsWith microsoftTag data else pure false

def isVendorNintendo (data len : Nat) : Reading Bool :=
  if len ≥ fieVendorNintendoHeader then startsWith nintendoTag data else pure false

/-- A word of four bytes, the highest first. -/
def be32 : List UInt8 → UInt32
  | [first, second, third, fourth] =>
    first.toUInt32 <<< 24 ||| second.toUInt32 <<< 16 ||| third.toUInt32 <<< 8 ||| fourth.toUInt32
  | _ => 0

/-- How much game data there is behind the extra data of DSWifi. -/
def gameDataSize (extraDataSize len : Nat) : Nat :=
  if len < fieVendorNintendoHeader + dswifiExtraData + (extraDataSize - dswifiExtraData) then 0
  else min (extraDataSize - dswifiExtraData) beaconGameDataMax

/-- The extra data and what is behind it, of a host that runs DSWifi. -/
def processExtraData (data len : Nat) (found : Found) : Reading Found := do
  let playersMax ← byte (data + 24)
  let playersCurrent ← byte (data + 25)
  let allowsConnections ← byte (data + 26)
  let nameLen ← byte (data + 27)
  let name ← bytes (data + 28) (2 * beaconNameChars)
  let extraDataSize ← byte (data + 0x12)
  let gameDataLen := gameDataSize extraDataSize.toNat len
  let gameData ← bytes (data + fieVendorNintendoHeader + dswifiExtraData) gameDataLen
  let info := found.info
  pure { found with
    info := { info with
      playersMax, playersCurrent, allowsConnections, nameLen, gameDataLen
      name := joined name
      gameData := gameData ++ info.gameData.drop gameDataLen } }

def processNintendo (data len : Nat) (found : Found) : Reading Found := do
  let gameId ← bytes (data + 12) 4
  let info := found.info
  let found := { found with hasNintendoInfo := true, info := { info with gameId := be32 gameId } }
  let beaconType ← byte (data + 0x13)
  if beaconType ≠ 1 then pure found
  else
    let extraDataSize ← byte (data + 0x12)
    if extraDataSize.toNat < dswifiExtraData ∨ len < fieVendorNintendoHeader + dswifiExtraData then pure found
    else processExtraData data len found

/-- Wifi_ProcessVendorTag -/
def processVendorTag (data len : Nat) (found : Found) : Reading Found := do
  if ← isVendorMicrosoft data len then
    let numUniCiphers ← half (data + 10)
    let secType ← cipherSuites wpaMagic (data + (len - 4)) numUniCiphers.toNat (data + 12) found.secType
    pure { found with secType }
  else if ← isVendorNintendo data len then
    processNintendo data len found
  else pure found

/-- The loop over the rates. -/
def rateSet : Nat → Nat → Bool → Reading Bool
  | 0, _, compatible => pure compatible
  | more + 1, pos, compatible => do
    let thisrate ← byte pos
    if thisrate = rateMandatory ||| rate1Mbps ∨ thisrate = rateMandatory ||| rate2Mbps then
      rateSet more (pos + 1) true
    else if thisrate = rateMandatory ||| rate5_5Mbps ∨ thisrate = rateMandatory ||| rate11Mbps then
      rateSet more (pos + 1) true
    else if thisrate &&& rateMandatory ≠ 0 then pure false
    else rateSet more (pos + 1) compatible

def processRsn (curloc seglen : Nat) (found : Found) : Reading Found :=
  if seglen ≥ 10 then do
    if ← startsWith [0x01, 0x00] curloc then
      let numUniCiphers ← half (curloc + 6)
      let secType ←
        cipherSuites rsnMagic (curloc + seglen - 4) numUniCiphers.toNat (curloc + 8) found.secType
      pure { found with secType }
    else pure found
  else pure found

/-- What one element tells. `curloc` is behind its type and length. -/
def processElement (segtype : UInt8) (seglen curloc : Nat) (found : Found) : Reading Found :=
  if segtype = fieIdSsid then pure { found with ptrSsid := curloc - 2 }
  else if segtype = fieIdSupportedRates then do
    let compatible ← rateSet seglen curloc false
    pure { found with compatible }
  else if segtype = fieIdDsParamSet then do
    let channel ← byte curloc
    pure { found with channel }
  else if segtype = fieIdRsn then processRsn curloc seglen found
  else if segtype = fieIdVendor then processVendorTag curloc seglen found
  else pure found

/-- The loop over the elements, each of which has at least two bytes. -/
def processElements (datalen : Nat) : Nat → Nat → Found → Reading Found
  | 0, _, found => pure found
  | fuel + 1, curloc, found =>
    if curloc ≥ datalen then pure found else do
      let segtype ← byte curloc
      let seglen ← byte (curloc + 1)
      let found ← processElement segtype seglen.toNat (curloc + 2) found
      processElements datalen fuel (curloc + 2 + seglen.toNat) found

/-- The filter of the list of access points. -/
def keeps (curApScanFlags : UInt8) (found : Found) : Bool :=
  if found.hasNintendoInfo then curApScanFlags &&& wscanListNdsHosts ≠ 0
  else if found.compatible then curApScanFlags &&& wscanListApCompatible ≠ 0
  else curApScanFlags &&& wscanListApIncompatible ≠ 0

/-- What Wifi_AccessPointAdd is given; `rssi` is INT_MIN when it is `none`. -/
structure AccessPoint where
  bssid : List UInt8
  sa : List UInt8
  ssid : Option (List UInt8)
  channel : UInt8
  rssi : Option UInt16
  secType : ApSecurity
  groupCryptType : ApCrypt
  pairCryptType : ApCrypt
  authType : ApAuth
  compatible : Bool
  nintendo : Option NintendoVendorInfo
  deriving DecidableEq, Repr

/-- What the ARM7 has received and how it scans. -/
structure Received where
  byteLength : Nat
  rssi : UInt16
  curChannel : UInt8
  curApScanFlags : UInt8

def Received.datalen (received : Received) : Nat := min received.byteLength 512

/-- The SSID as Wifi_AccessPointAdd copies it, up to 32 bytes. -/
def readSsid (ptrSsid : Nat) : Reading (Option (List UInt8)) :=
  if ptrSsid = 0 then pure none else do
    let ssidLen ← byte (ptrSsid + 1)
    let ssid ← bytes (ptrSsid + 2) (min ssidLen.toNat 32)
    pure (some ssid)

/-- From the capability information to the end of the elements. -/
def readFrame (received : Received) (fuel : Nat) : Reading Found := do
  let caps ← half capsIndex
  let found : Found := {
    channel := received.curChannel
    secType := if caps &&& capsPrivacy ≠ 0 then .wep else .opened }
  let found ← processElements received.datalen fuel (capsIndex + 2) found
  pure { found with compatible := found.compatible && !(found.secType = .wpa || found.secType = .wpa2) }

/-- Wifi_ProcessBeaconOrProbeResponse. There are fewer elements than bytes. -/
def processBeaconOrProbeResponse (received : Received) : Reading (Option AccessPoint) := do
  let found ← readFrame received received.datalen
  if keeps received.curApScanFlags found then
    let crypt := if found.secType = .wep then ApCrypt.wep else .none
    let bssid ← bytes hdrMgtBssid 6
    let sa ← bytes hdrMgtSa 6
    let ssid ← readSsid found.ptrSsid
    pure (some {
      bssid, sa, ssid
      channel := found.channel
      rssi := if received.curChannel = found.channel then some (received.rssi &&& 255) else none
      secType := found.secType
      groupCryptType := crypt
      pairCryptType := crypt
      authType := .none
      compatible := found.compatible
      nintendo := if found.hasNintendoInfo then some found.info else none })
  else pure none

end Dswifi.BeaconFrame
