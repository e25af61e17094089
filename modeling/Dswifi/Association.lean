import Dswifi.BeaconParse
import Dswifi.Runs

/-! Joining an access point (arm7/ntr/update.c and ieee_802_11/). The requests of the
console and the answers of the access point run in interrupts, and the update loop of
WIFIMODE_CONNECTING asks again when nothing has come for a while. A frame is read
from the buffer on the stack that it was copied to, and from what is behind it. -/

namespace Dswifi.Association

open BeaconFrame (half hdrMgtBssid hdrMgtMacSize)
open ByteMemory Reading Runs

def maxAssocRetry : Nat := 5

/-- WIFI_MODE -/
inductive Mode where
  | disabled | initializing | normal | scan | connecting | connected | disconnecting
  | cannotConnect | accessPoint
  deriving DecidableEq, Repr

/-- DSWifi_Mode -/
inductive LibraryMode where
  | internet | multiplayerClient | multiplayerHost
  deriving DecidableEq, Repr

/-- WIFI_AUTHLEVEL -/
inductive AuthLevel where
  | disconnected | authenticated | associated | deassociated | error
  deriving DecidableEq, Repr

/-- Wifi_FilterMode -/
inductive FilterMode where
  | idle | scan | internet | multiplayerHost | multiplayerClient | promiscuous
  deriving DecidableEq, Repr

/-- A request handed to Wifi_TxArm7QueueAdd. -/
inductive Request where
  | openSystemAuth
  | sharedKeyAuth
  | sharedKeyAuth2 (challengeText : List UInt8)
  | assoc (realRates : Bool)
  deriving DecidableEq, Repr

/-- `sent` and `retries` are history: the requests of the console, and the calls of
Wifi_AssociationUpdate since Wifi_AssociationStart. `authctr` is a u8, and `bssid` the one
of curAp. -/
structure Driver where
  curMode : Mode
  reqMode : Mode
  curLibraryMode : LibraryMode
  reqLibraryMode : LibraryMode
  macAddr : List UInt8
  bssid : List UInt8
  authlevel : AuthLevel
  authctr : Nat
  counter7 : UInt32
  realRates : Bool
  associationId : UInt16
  maxrate7 : UInt8
  filterMode : FilterMode
  wBssid : List UInt8
  sent : List Request
  retries : Nat
  deriving DecidableEq, Repr

def hdrMgtDa : Nat := 4
def authAlgoOpenSystem : UInt16 := 0
def authAlgoSharedKey : UInt16 := 1
def statusSuccess : UInt16 := 0
def statusAssocTooManyDevices : UInt16 := 17
def fieIdSupportedRates : UInt8 := 1
def fieIdChallengeText : UInt8 := 16
def rateSpeedMask : UInt8 := 0x7F
def rate2Mbps : UInt8 := 4
def transferRate1Mbps : UInt8 := 0x0A
def transferRate2Mbps : UInt8 := 0x14

/-! The requests. -/

def send (driver : Driver) (request : Request) : Driver :=
  { driver with sent := driver.sent ++ [request] }

def sendOpenSystemAuthPacket (driver : Driver) : Driver := send driver .openSystemAuth

def sendSharedKeyAuthPacket (driver : Driver) : Driver := send driver .sharedKeyAuth

def sendSharedKeyAuthPacket2 (driver : Driver) (challengeLength : UInt8) (challengeText : List UInt8) :
    Driver :=
  if challengeLength > 253 then driver else send driver (.sharedKeyAuth2 challengeText)

def sendAssocPacket (driver : Driver) : Driver := send driver (.assoc driver.realRates)

/-! The update loop. -/

def associationStart (driver : Driver) : Driver :=
  sendOpenSystemAuthPacket { driver with authctr := 0, authlevel := .disconnected, retries := 0 }

/-- The end of WIFIMODE_NORMAL when a connection is requested. -/
def connect (driver : Driver) (now : UInt16) : Driver :=
  associationStart
    { driver with
      wBssid := driver.bssid, realRates := true, counter7 := now.toUInt32, curMode := .connecting }

def associationUpdate (driver : Driver) : Driver :=
  let driver := { driver with authctr := (driver.authctr + 1) % 256, retries := driver.retries + 1 }
  if driver.authctr > maxAssocRetry then { driver with authlevel := .error } else
    match driver.authlevel with
    | .deassociated | .authenticated =>
        sendOpenSystemAuthPacket { driver with realRates := true, authlevel := .disconnected }
    | .disconnected => sendOpenSystemAuthPacket driver
    | .associated | .error => driver

def leave (driver : Driver) : Driver := { driver with filterMode := .idle, curMode := .normal }

/-- W_BSSID of a console that listens to no access point. -/
def noBssid : List UInt8 := List.replicate 6 0

/-- WIFIMODE_CONNECTING of Wifi_NTR_Update. The timer is a u16 that is compared
with a u32. -/
def ntrUpdate (driver : Driver) (now : UInt16) : Driver :=
  if driver.curLibraryMode ≠ driver.reqLibraryMode then leave driver
  else if driver.reqMode ≠ .connected then leave driver
  else if driver.authlevel = .associated then { driver with curMode := .connected }
  else if driver.authlevel = .error then { driver with curMode := .cannotConnect }
  else if now.toUInt32 - driver.counter7 > 20 then
    associationUpdate { driver with counter7 := now.toUInt32 }
  else driver

/-! The answers. -/

/-- A success, in the last frame of either kind of authentication. -/
def authenticate (driver : Driver) : Driver :=
  if driver.authlevel = .disconnected then
    sendAssocPacket { driver with authlevel := .authenticated, authctr := 0 }
  else driver

def openSystemResponse (driver : Driver) (seqNumber statusCode : UInt16) : Driver :=
  if seqNumber = 2 then
    if statusCode = 0 then authenticate driver
    else if statusCode = statusAssocTooManyDevices then { driver with authlevel := .error }
    else sendSharedKeyAuthPacket driver
  else driver

def sharedKeyResponse (driver : Driver) (seqNumber statusCode : UInt16) (data : Memory) : Driver :=
  if seqNumber = 2 then
    if statusCode = 0 then
      if data (hdrMgtMacSize + 6) = fieIdChallengeText then
        sendSharedKeyAuthPacket2 driver (data (hdrMgtMacSize + 7))
          (readBytes data (hdrMgtMacSize + 8) (data (hdrMgtMacSize + 7)).toNat)
      else driver
    else { driver with authlevel := .error }
  else if seqNumber = 4 then
    if statusCode = 0 then authenticate driver else { driver with authlevel := .error }
  else driver

def authAlgorithm (data : Memory) : UInt16 := (half hdrMgtMacSize).value data
def seqNumber (data : Memory) : UInt16 := (half (hdrMgtMacSize + 2)).value data
def statusCode (data : Memory) : UInt16 := (half (hdrMgtMacSize + 4)).value data

def processAuthentication (driver : Driver) (data : Memory) : Driver :=
  if readBytes data hdrMgtDa 6 ≠ driver.macAddr then driver
  else if readBytes data hdrMgtBssid 6 ≠ driver.bssid then driver
  else if authAlgorithm data = authAlgoOpenSystem then
    openSystemResponse driver (seqNumber data) (statusCode data)
  else if authAlgorithm data = authAlgoSharedKey then
    sharedKeyResponse driver (seqNumber data) (statusCode data) data
  else driver

/-- The loop over the rates of an association response. -/
def maxRate (data : Memory) : Nat → Nat → UInt8
  | 0, _ => transferRate1Mbps
  | more + 1, pos =>
      if data pos &&& rateSpeedMask = rate2Mbps then transferRate2Mbps else maxRate data more (pos + 1)

def processAssocResponse (driver : Driver) (data : Memory) : Driver :=
  if readBytes data hdrMgtDa 6 ≠ driver.macAddr then driver
  else if readBytes data hdrMgtBssid 6 ≠ driver.bssid then driver
  else if (half (hdrMgtMacSize + 2)).value data = statusSuccess then
    let rate :=
      if data (hdrMgtMacSize + 6) = fieIdSupportedRates then
        maxRate data (data (hdrMgtMacSize + 7)).toNat (hdrMgtMacSize + 8)
      else transferRate1Mbps
    let driver := { driver with
      associationId := (half (hdrMgtMacSize + 4)).value data
      maxrate7 := rate }
    if driver.authlevel = .authenticated ∨ driver.authlevel = .deassociated then
      { driver with authlevel := .associated, authctr := 0 }
    else driver
  else if driver.realRates then
    sendOpenSystemAuthPacket { driver with realRates := false, authlevel := .disconnected }
  else { driver with authlevel := .error }

end Dswifi.Association
