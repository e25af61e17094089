import Dswifi.AssociationRetries
import Dswifi.MultiplayerSizes
import Dswifi.Scanning
import Dswifi.WfcProfiles

/-! How an application connects to an access point (arm9/access_point.c) while the ARM7
follows its requests (Wifi_NTR_Update in arm7/ntr/update.c). The search for the access point
is made by Wifi_AssocStatus, in the list that the ARM7 keeps. A call of the application and
an update are one step each. -/

namespace Dswifi.Connecting

open AccessPoints (ApList Entry Heard accessPointAdd getWfcAccessPointIndex wifiMaxAp)
open Association (Driver FilterMode LibraryMode Mode leave noBssid transferRate1Mbps transferRate2Mbps)
open Joining (frameType typeAuthentication typeDeauthentication)
open WfcSettings (wepKeySizeFromMode)
open ByteMemory Runs Scanning

/-- WIFI_CONNECT_STATE -/
inductive ConnectState where
  | error | searching | associating | dhcping | done | searchingWfc
  deriving DecidableEq, Repr

/-- WIFI_ASSOCSTATUS -/
inductive AssocStatus where
  | disconnected | searching | authenticating | associating | acquiringDhcp | associated | cannotConnect
  deriving DecidableEq, Repr

/-- W_WEP_CNT, the size of the key in W_MODE_WEP, and the four slots of the key, which are
always written together. -/
structure Wep where
  enabled : Bool
  keylen : Nat
  key : List UInt8

/-- What the hardware is told of an access point: W_BSSID, and the key that it uses. -/
structure Tuning where
  bssid : List UInt8
  key : List UInt8
  deriving DecidableEq

/-- `wfcSecurity` has the passwords of the saved networks. `taken`, `latched` and `found` are
history: how often the ARM7 has taken up a request to connect, what it had told the hardware
when it last began to connect, and how often it had when the last search ended. -/
structure System where
  console : Console
  wep : Wep
  curApSecurity : List UInt8
  reqLoadWfcKey : Bool
  wfcSecurity : List (List UInt8)
  connectState : ConnectState
  connectPoint : Entry
  wifiLwipEnabled : Bool
  taken : Nat
  latched : Tuning
  found : Nat

def passSize : Nat := 64

/-! The list of access points, as the application sees it. -/

def activeAps (aplist : ApList) : List Entry := ((List.finRange wifiMaxAp).map aplist).filter Entry.isActive

def getNumAP (aplist : ApList) : Nat := (activeAps aplist).length

def getAPData (aplist : ApList) (apnum : Nat) : Option Entry := (activeAps aplist)[apnum]?

def Entry.name (ap : Entry) : List UInt8 := ap.ssid.take ap.ssidLen.toNat

/-- Whether the access point is the one that is described. -/
def matching (apdata ap : Entry) : Bool :=
  if apdata.bssid ≠ List.replicate 6 0 then apdata.bssid = ap.bssid
  else apdata.ssidLen ≠ 0 ∧ apdata.ssidLen ≤ 32 ∧ apdata.ssidLen = ap.ssidLen ∧ Entry.name apdata = Entry.name ap

def findMatchingAP (apdata : List Entry) (aplist : ApList) : Option (Nat × Entry) :=
  (List.range (getNumAP aplist)).findSome? fun i => do
    let ap ← getAPData aplist i
    let j ← apdata.findIdx? (matching · ap)
    return (j, ap)

def findMatchingAPFromWFC (wfc : List (List UInt8)) (aplist : ApList) : Option (Nat × Entry) :=
  (List.range (getNumAP aplist)).findSome? fun i => do
    let ap ← getAPData aplist i
    if ap.ssidLen = 0 then none else
      let j ← getWfcAccessPointIndex wfc (Entry.name ap)
      return (j, ap)

/-! The requests of the application. -/

def setReqMode (system : System) (reqMode : Mode) : System :=
  { system with console := { system.console with driver := { system.console.driver with reqMode } } }

def setLibraryMode (system : System) (reqLibraryMode : LibraryMode) (reqMode : Mode) : System :=
  { system with console := { system.console with driver := { system.console.driver with reqLibraryMode, reqMode } } }

/-- Wifi_ScanMode. A host does not scan. -/
def scanMode (system : System) : System :=
  match system.console.driver.curLibraryMode with
  | .multiplayerClient | .internet => setReqMode system .scan
  | .multiplayerHost => system

def internetMode (system : System) : System :=
  if system.wifiLwipEnabled then setLibraryMode system .internet .normal else system

def multiplayerClientMode (system : System) (clientPacketSize : UInt32) : System :=
  if TxQueue.clientSize clientPacketSize > TxQueue.macClientRxSize then system
  else setLibraryMode system .multiplayerClient .normal

def multiplayerHostMode (system : System) (hostPacketSize clientPacketSize : UInt32) : System :=
  if TxQueue.clientSize clientPacketSize > TxQueue.macClientRxSize then system
  else if RingBuffer.u32 (TxQueue.hdrTxSize + TxQueue.hostSize hostPacketSize) >
    TxQueue.macCmdbufSize then system
  else setLibraryMode system .multiplayerHost .accessPoint

def disconnectAP (system : System) : System :=
  { setReqMode system .normal with connectState := .error }

/-- The search begins, with the security settings that go with it. -/
def search (system : System) (apdata : Entry) (security : List UInt8) (reqLoadWfcKey : Bool) : System :=
  scanMode { disconnectAP system with
    connectState := .searching, curApSecurity := security, reqLoadWfcKey, connectPoint := apdata }

/-- Wifi_ConnectSecureAP; `none` is a NULL key. -/
def connectSecureAP (system : System) (apdata : Entry) (key : Option (List UInt8)) (keyLen : Nat) : System :=
  let failed := { system with connectState := .error }
  if apdata.ssidLen > 32 then failed
  else if key = none ∧ keyLen > 0 then failed
  else if keyLen > passSize then failed
  else search system apdata ((key.getD []).take keyLen) false

def connectAP (system : System) (apdata : Entry) (wepmode : Int) (wepkey : Option (List UInt8)) : System :=
  if wepmode < 0 ∨ wepmode > 2 then { system with connectState := .error }
  else connectSecureAP { system with connectState := .error } apdata wepkey (wepKeySizeFromMode wepmode)

def connectWfcAP (system : System) (apdata : Entry) : System :=
  if apdata.ssidLen > 32 then { system with connectState := .error } else search system apdata [] true

def autoConnect (system : System) : System :=
  let system := internetMode system
  if system.console.data.wfc.length = 0 then { system with connectState := .error }
  else scanMode { system with connectState := .searchingWfc }

/-! Wifi_AssocStatus. -/

/-- An access point is found, and the ARM7 is asked to connect to it. -/
def request (system : System) (ap : Entry) : System :=
  { setReqMode system .connected with
    console := { system.console with
      driver := { system.console.driver with reqMode := .connected, bssid := ap.bssid }
      data := { system.console.data with curApBssid := ap.bssid }
      curAp := ap }
    connectState := .associating
    found := system.taken }

/-- WIFIMODE_CONNECTED, for a request that was made. -/
def associated (system : System) (usingDhcp : Bool) : System × AssocStatus :=
  if system.wifiLwipEnabled ∧ system.console.driver.curLibraryMode = .internet ∧ usingDhcp then
    ({ system with connectState := .dhcping }, .acquiringDhcp)
  else ({ system with connectState := .done }, .associated)

/-- Wifi_AssocStatus; what lwIP says is `usingDhcp`, and whether there is an address `ready`. -/
def assocStatus (system : System) (usingDhcp ready : Bool) : System × AssocStatus :=
  match system.connectState with
  | .error => (system, .cannotConnect)
  | .searching =>
      match findMatchingAP [system.connectPoint] system.console.data.aplist with
      | some (_, ap) => (request system ap, .searching)
      | none => (system, .searching)
  | .associating =>
      match system.console.driver.curMode with
      | .disabled | .normal | .scan => (system, .disconnected)
      | .connecting => (system, .associating)
      | .connected => associated system usingDhcp
      | .cannotConnect => ({ system with connectState := .error }, .cannotConnect)
      | .accessPoint | .initializing | .disconnecting => (system, .disconnected)
  | .dhcping =>
      if system.wifiLwipEnabled then
        if ready then ({ system with connectState := .done }, .associated) else (system, .acquiringDhcp)
      else (disconnectAP system, .cannotConnect)
  | .done => (system, .associated)
  | .searchingWfc =>
      match findMatchingAPFromWFC system.console.data.wfc system.console.data.aplist with
      | some (n, ap) =>
          ({ request system ap with curApSecurity := system.wfcSecurity.getD n [] }, .searching)
      | none => (system, .searching)

/-! The ARM7. -/

def setMode (system : System) (driver : Driver) : System := { system with console := { system.console with driver } }

def wepKeyMaxSize : Nat := 32

/-- Wifi_WepModeFromKeySize -/
def wepModeFromKeySize (size : Nat) : Int :=
  if size = 5 then 1 else if size = 13 then 2 else if size = 16 then 3 else 0

/-- Wifi_NTR_SetWepKey -/
def setWepKey (wep : Wep) (wepkey : List UInt8) (wepmode : Int) : Wep :=
  if wepmode = 0 then wep
  else
    let len := wepKeySizeFromMode wepmode
    { wep with key := wepkey.take len ++ List.replicate (wepKeyMaxSize - len) 0 }

/-- Wifi_NTR_SetWepMode -/
def setWepMode (wep : Wep) (wepmode : Int) : Wep :=
  if wepmode < 0 ∨ wepmode > 7 then wep
  else
    { wep with
      enabled := wepmode ≠ 0
      keylen :=
        if wepmode = 0 then 1
        else if wepmode = 5 then 1
        else if wepmode = 6 then 2
        else if wepmode = 7 then 3
        else wepmode.toNat }

/-- The key that the hardware uses, if any. -/
def keyInUse (wep : Wep) : List UInt8 :=
  if wep.enabled then wep.key.take (wepKeySizeFromMode wep.keylen) else []

def tuning (system : System) : Tuning := ⟨system.console.driver.wBssid, keyInUse system.wep⟩

/-- The key of a password: only those of three sizes are keys of WEP. -/
def keyOf (security : List UInt8) : List UInt8 := if wepModeFromKeySize security.length = 0 then [] else security

/-- What the hardware has to be told for the request that was made. -/
def requested (system : System) : Tuning := ⟨system.console.curAp.bssid, keyOf system.curApSecurity⟩

/-- Wifi_NTR_Start -/
def ntrStart (system : System) : System :=
  { setMode system (Joining.ntrStart system.console.driver) with wep := { system.wep with enabled := true } }

/-- The end of WIFIMODE_NORMAL when a connection is requested. -/
def startConnecting (system : System) (now : UInt16) : System :=
  let console := system.console
  let wepmode := wepModeFromKeySize system.curApSecurity.length
  let wep := setWepMode (setWepKey system.wep system.curApSecurity wepmode) wepmode
  let filterMode :=
    match console.driver.curLibraryMode with
    | .multiplayerClient => .multiplayerClient
    | .internet => .internet
    | .multiplayerHost => console.driver.filterMode
  let driver := Association.connect { console.driver with bssid := console.curAp.bssid, filterMode } now
  { system with
    wep
    taken := system.taken + 1
    latched := ⟨driver.wBssid, keyInUse wep⟩
    console := { setChannel { console with reqChannel := console.curAp.channel } console.curAp.channel with driver } }

/-- A connection is requested in WIFIMODE_NORMAL. -/
def takeUp (system : System) (now : UInt16) : System :=
  if system.reqLoadWfcKey then
    match getWfcAccessPointIndex system.console.data.wfc (Entry.name system.console.curAp) with
    | none =>
        { setMode system { system.console.driver with curMode := .cannotConnect } with taken := system.taken + 1 }
    | some i => startConnecting { system with curApSecurity := system.wfcSecurity.getD i [] } now
  else startConnecting system now

/-- What WIFIMODE_NORMAL does in any case. -/
def idle (system : System) : System :=
  let driver := system.console.driver
  setMode system { driver with wBssid := noBssid, curLibraryMode := driver.reqLibraryMode }

def normalUpdate (system : System) (now : UInt16) : System :=
  let system := idle system
  let driver := system.console.driver
  match driver.reqMode with
  | .disabled => setMode system { driver with curMode := .disabled }
  | .accessPoint =>
      setMode system { driver with
        associationId := 0, maxrate7 := transferRate2Mbps, wBssid := driver.macAddr
        filterMode := .multiplayerHost, curMode := .accessPoint }
  | .scan => { system with console := scanStart system.console now }
  | .connected => takeUp system now
  | _ => system

/-- The changes of the mode in Wifi_NTR_Update. What a host does to its table and its beacon
while it is in WIFIMODE_ACCESSPOINT is a matter of its own. -/
def updateMode (system : System) (now : UInt16) : System :=
  let driver := system.console.driver
  match driver.curMode with
  | .disabled =>
      if driver.reqMode ≠ .disabled then
        let system := ntrStart system
        setMode system { system.console.driver with curMode := .normal }
      else system
  | .normal => normalUpdate system now
  | .scan => { system with console := scanUpdate system.console now }
  | .connecting => setMode system (Association.ntrUpdate driver now)
  | .connected => setMode system (Joining.connectedUpdate driver)
  | .cannotConnect =>
      if driver.curLibraryMode ≠ driver.reqLibraryMode ∨ driver.reqMode ≠ .connected then
        setMode system (leave driver) else system
  | .accessPoint =>
      if driver.reqMode ≠ .accessPoint ∨ driver.curLibraryMode ≠ driver.reqLibraryMode then
        setMode system (leave { driver with maxrate7 := transferRate1Mbps }) else system
  | .initializing | .disconnecting => system

def ntrUpdate (system : System) (now : UInt16) : System :=
  let system := updateMode system now
  if system.console.driver.curMode ≠ .scan ∧ system.console.curChannel ≠ system.console.reqChannel then
    { system with console := setChannel system.console system.console.reqChannel }
  else system

/-- Wifi_ProcessReceivedFrame, of the frames by which a console joins an access point. A host
takes two kinds of them for frames of its clients, which is a matter of its own. -/
def received (system : System) (frame : List UInt8) (stack : Memory) : System :=
  let driver := system.console.driver
  if driver.curMode = .accessPoint ∧
      (frameType frame stack = typeAuthentication ∨ frameType frame stack = typeDeauthentication) then system
  else setMode system (Joining.received driver frame stack)

/-- The calls of the application, what the radio receives, and the updates of the ARM7. -/
inductive Action where
  | connectAP (apdata : Entry) (wepmode : Int) (wepkey : Option (List UInt8))
  | connectSecureAP (apdata : Entry) (key : Option (List UInt8)) (keyLen : Nat)
  | connectWfcAP (apdata : Entry)
  | disconnectAP
  | autoConnect
  | assocStatus (usingDhcp ready : Bool)
  | scanModeFilter
  | scanMode
  | idleMode
  | disableWifi
  | internetMode
  | multiplayerClientMode (clientPacketSize : UInt32)
  | multiplayerHostMode (hostPacketSize clientPacketSize : UInt32)
  | setPromiscuousMode (enable : Bool)
  | setChannel (channel : Int)
  | heard (acquired : Bool) (heard : Heard)
  | received (frame : List UInt8) (stack : Memory)
  | ntrUpdate (now : UInt16)

def step (system : System) : Action → System
  | .connectAP apdata wepmode wepkey => connectAP system apdata wepmode wepkey
  | .connectSecureAP apdata key keyLen => connectSecureAP system apdata key keyLen
  | .connectWfcAP apdata => connectWfcAP system apdata
  | .disconnectAP => disconnectAP system
  | .autoConnect => autoConnect system
  | .assocStatus usingDhcp ready => (assocStatus system usingDhcp ready).1
  | .scanModeFilter => setReqMode system .scan
  | .scanMode => scanMode system
  | .idleMode => setReqMode system .normal
  | .disableWifi => setReqMode system .disabled
  | .internetMode => internetMode system
  | .multiplayerClientMode clientPacketSize => multiplayerClientMode system clientPacketSize
  | .multiplayerHostMode hostPacketSize clientPacketSize => multiplayerHostMode system hostPacketSize clientPacketSize
  | .setPromiscuousMode enable => { system with console := Scanning.step system.console (.setPromiscuousMode enable) }
  | .setChannel channel => { system with console := Scanning.step system.console (.setChannel channel) }
  | .heard acquired heard => { system with console := Scanning.step system.console (.heard acquired heard) }
  | .received frame stack => received system frame stack
  | .ntrUpdate now => ntrUpdate system now

/-- The calls that begin to connect, or give up. -/
def Action.Begins : Action → Prop
  | .connectAP .. | .connectSecureAP .. | .connectWfcAP _ | .disconnectAP | .autoConnect => True
  | _ => False

/-! What Wifi_AssocStatus tells of a connection. -/

/-- The call says that there is a connection, or that there will be none. -/
def Decides (status : AssocStatus) : Prop :=
  status = .associated ∨ status = .acquiringDhcp ∨ status = .cannotConnect

/-- The mode is one in which the console talks to an access point. -/
def Talking (mode : Mode) : Prop := mode = .connecting ∨ mode = .connected

instance (mode : Mode) : Decidable (Talking mode) := inferInstanceAs (Decidable (_ ∨ _))

/-- The hardware still has what it was told, though the access point may have sent the
console away, which clears W_BSSID. -/
def Held (system : System) : Prop :=
  (tuning system).key = system.latched.key ∧
    ((tuning system).bssid = system.latched.bssid ∨ (tuning system).bssid = noBssid)

/-- What the call decides is about the request that was made: the ARM7 has taken it up. If
there is a connection, the hardware was told of the access point that was found and of the
key for it, and has them as long as the console talks to it. -/
def Fresh (system : System) : Action → Prop
  | .assocStatus usingDhcp ready =>
      Decides (assocStatus system usingDhcp ready).2 →
        system.found < system.taken ∧
        ((assocStatus system usingDhcp ready).2 ≠ .cannotConnect →
          system.latched = requested system ∧ (Talking system.console.driver.curMode → Held system))
  | _ => True

/-- Only what belongs to the exchange of frames is different, and W_BSSID at most cleared. -/
def Answered (driver after : Driver) : Prop :=
  ∃ authlevel authctr realRates associationId maxrate7 wBssid sent,
    after = { driver with authlevel, authctr, realRates, associationId, maxrate7, wBssid, sent } ∧
      (wBssid = driver.wBssid ∨ wBssid = noBssid)

section Frames
variable {driver : Driver} {data : Memory}

theorem Answered.refl (driver : Driver) : Answered driver driver := ⟨_, _, _, _, _, _, _, rfl, .inl rfl⟩

theorem authenticate_answered : Answered driver (Association.authenticate driver) := by
  unfold Association.authenticate
  split
  · exact ⟨_, _, _, _, _, _, _, rfl, .inl rfl⟩
  · exact Answered.refl driver

theorem processAuthentication_answered : Answered driver (Association.processAuthentication driver data) := by
  unfold Association.processAuthentication Association.openSystemResponse Association.sharedKeyResponse
    Association.sendSharedKeyAuthPacket2
  repeat' split
  all_goals first
    | exact authenticate_answered
    | exact ⟨_, _, _, _, _, _, _, rfl, .inl rfl⟩

theorem processAssocResponse_answered : Answered driver (Association.processAssocResponse driver data) := by
  unfold Association.processAssocResponse
  split
  · exact Answered.refl driver
  · split
    · exact Answered.refl driver
    · split
      · dsimp only
        split <;> exact ⟨_, _, _, _, _, _, _, rfl, .inl rfl⟩
      · split <;> exact ⟨_, _, _, _, _, _, _, rfl, .inl rfl⟩

theorem received_answered (frame : List UInt8) (stack : Memory) :
    Answered driver (Joining.received driver frame stack) := by
  unfold Joining.received Joining.processDeauthentication Joining.deauthenticated
  dsimp only
  repeat' split
  all_goals first
    | exact processAssocResponse_answered
    | exact processAuthentication_answered
    | exact ⟨_, _, _, _, _, _, _, rfl, .inl rfl⟩
    | exact ⟨_, _, _, _, _, _, _, rfl, .inr rfl⟩

end Frames

/-! From the end of a search on. -/

def Searches (state : ConnectState) : Prop := state = .searching ∨ state = .searchingWfc

instance (state : ConnectState) : Decidable (Searches state) := inferInstanceAs (Decidable (_ ∨ _))

theorem associating_settled : ¬Searches .associating := by decide

/-- The mode is none of a connection. -/
def Away (mode : Mode) : Prop := mode ≠ .connecting ∧ mode ≠ .connected ∧ mode ≠ .cannotConnect

instance (mode : Mode) : Decidable (Away mode) := inferInstanceAs (Decidable (_ ∧ _))

theorem Away.silent {mode : Mode} (away : Away mode) : ¬Talking mode := not_or.mpr ⟨away.1, away.2.1⟩

/-- The states in which there has been a connection. -/
def Joined (state : ConnectState) : Prop := state = .dhcping ∨ state = .done

instance (state : ConnectState) : Decidable (Joined state) := inferInstanceAs (Decidable (_ ∨ _))

theorem associating_apart : ¬Joined .associating := by decide

/-- The ARM7 has not taken the request up yet, and goes nowhere but there. -/
structure Awaits (system : System) : Prop where
  untaken : system.found = system.taken
  associating : system.connectState = .associating
  connected : system.console.driver.curMode ≠ .connected
  cannotConnect : system.console.driver.curMode ≠ .cannotConnect
  leaves : system.console.driver.curMode = .connecting →
    system.console.driver.curLibraryMode ≠ system.console.driver.reqLibraryMode ∨
      system.console.driver.reqMode ≠ .connected

/-- The ARM7 has taken the request up. -/
structure Taken (system : System) : Prop where
  taken : system.found < system.taken
  settled : ¬Searches system.connectState
  latched : Talking system.console.driver.curMode ∨ Joined system.connectState → system.latched = requested system
  held : Talking system.console.driver.curMode → Held system

def Good (system : System) : Prop := Awaits system ∨ Taken system

theorem Good.settled {system : System} (good : Good system) : ¬Searches system.connectState := by
  rcases good with awaits | taken
  · rw [awaits.associating]
    exact associating_settled
  · exact taken.settled

theorem Good.latched {system : System} (good : Good system) (joined : Joined system.connectState) :
    system.latched = requested system := by
  rcases good with awaits | taken
  · rw [awaits.associating] at joined
    exact absurd joined associating_apart
  · exact taken.latched (.inr joined)

/-- What the end of an update does to the channel does not matter. -/
theorem ntrUpdate_eq (system : System) (now : UInt16) : ∃ curChannel calls, ntrUpdate system now =
    { updateMode system now with console := { (updateMode system now).console with curChannel, calls } } := by
  rw [ntrUpdate]
  dsimp only
  split
  · obtain ⟨curChannel, calls, tuned⟩ :=
      setChannel_eq (updateMode system now).console (updateMode system now).console.reqChannel
    exact ⟨curChannel, calls, by rw [tuned]⟩
  · exact ⟨_, _, rfl⟩

/-- The step leaves alone what belongs to the request. -/
structure Keeps (system after : System) : Prop where
  found : after.found = system.found
  taken : after.taken = system.taken
  connectState : after.connectState = system.connectState
  latched : after.latched = system.latched
  wep : after.wep = system.wep
  wBssid : after.console.driver.wBssid = system.console.driver.wBssid ∨ after.console.driver.wBssid = noBssid
  curApSecurity : after.curApSecurity = system.curApSecurity
  reqLoadWfcKey : after.reqLoadWfcKey = system.reqLoadWfcKey
  connectPoint : after.connectPoint = system.connectPoint
  curAp : after.console.curAp = system.console.curAp
  curMode : after.console.driver.curMode = system.console.driver.curMode
  reqMode : after.console.driver.reqMode = system.console.driver.reqMode
  curLibraryMode : after.console.driver.curLibraryMode = system.console.driver.curLibraryMode
  reqLibraryMode : after.console.driver.reqLibraryMode = system.console.driver.reqLibraryMode

theorem Keeps.requested {system after : System} (keeps : Keeps system after) : requested after = requested system := by
  rw [Connecting.requested, Connecting.requested, keeps.curAp, keeps.curApSecurity]

theorem Keeps.held {system after : System} (keeps : Keeps system after) (held : Held system) : Held after := by
  obtain ⟨key, bssid⟩ := held
  refine ⟨?_, ?_⟩
  · rw [tuning, keeps.wep, keeps.latched]
    exact key
  · rw [tuning, keeps.latched]
    rcases keeps.wBssid with same | cleared
    · rw [same]
      exact bssid
    · exact .inr cleared

theorem Keeps.good {system after : System} (keeps : Keeps system after) (good : Good system) : Good after := by
  rcases good with ⟨untaken, associating, connected, cannotConnect, leaves⟩ | ⟨taken, settled, latched, held⟩
  · refine .inl ⟨?_, keeps.connectState.trans associating, keeps.curMode ▸ connected, keeps.curMode ▸ cannotConnect, ?_⟩
    · rw [keeps.found, keeps.taken, untaken]
    · rw [keeps.curMode, keeps.curLibraryMode, keeps.reqLibraryMode, keeps.reqMode]
      exact leaves
  · refine .inr ⟨?_, keeps.connectState ▸ settled, ?_, ?_⟩
    · rw [keeps.found, keeps.taken]
      exact taken
    · rw [keeps.curMode, keeps.connectState, keeps.latched, keeps.requested]
      exact latched
    · rw [keeps.curMode]
      exact fun talking => keeps.held (held talking)

/-- What is received, and what only concerns the scan. -/
def Action.Aside : Action → Prop
  | .setPromiscuousMode _ | .setChannel _ | .heard _ _ | .received _ _ => True
  | _ => False

theorem step_aside {system : System} {action : Action} (aside : action.Aside) : Keeps system (step system action) := by
  cases action with
  | setPromiscuousMode enable => exact ⟨rfl, rfl, rfl, rfl, rfl, .inl rfl, rfl, rfl, rfl, rfl, rfl, rfl, rfl, rfl⟩
  | heard acquired heard => exact ⟨rfl, rfl, rfl, rfl, rfl, .inl rfl, rfl, rfl, rfl, rfl, rfl, rfl, rfl, rfl⟩
  | setChannel channel =>
      rw [step, Scanning.step]
      split
      · exact ⟨rfl, rfl, rfl, rfl, rfl, .inl rfl, rfl, rfl, rfl, rfl, rfl, rfl, rfl, rfl⟩
      · exact ⟨rfl, rfl, rfl, rfl, rfl, .inl rfl, rfl, rfl, rfl, rfl, rfl, rfl, rfl, rfl⟩
  | received frame stack =>
      rw [step, received]
      split
      · exact ⟨rfl, rfl, rfl, rfl, rfl, .inl rfl, rfl, rfl, rfl, rfl, rfl, rfl, rfl, rfl⟩
      · obtain ⟨_, _, _, _, _, wBssid, _, after, cleared⟩ := @received_answered system.console.driver frame stack
        rw [after]
        exact ⟨rfl, rfl, rfl, rfl, rfl, cleared, rfl, rfl, rfl, rfl, rfl, rfl, rfl, rfl⟩
  | _ => exact aside.elim

theorem ntrUpdate_keeps (system : System) (now : UInt16) : Keeps (updateMode system now) (ntrUpdate system now) := by
  obtain ⟨curChannel, calls, after⟩ := ntrUpdate_eq system now
  rw [after]
  exact ⟨rfl, rfl, rfl, rfl, rfl, .inl rfl, rfl, rfl, rfl, rfl, rfl, rfl, rfl, rfl⟩

theorem associationUpdate_eq (driver : Driver) :
    ∃ authlevel realRates sent, Association.associationUpdate driver =
        { driver with authctr := (driver.authctr + 1) % 256, retries := driver.retries + 1, authlevel, realRates, sent } ∧
      ((driver.authctr + 1) % 256 > Association.maxAssocRetry → authlevel = .error) := by
  unfold Association.associationUpdate
  dsimp only
  split
  · exact ⟨_, _, _, rfl, fun _ => rfl⟩
  · next few =>
      split
      all_goals exact ⟨_, _, _, rfl, fun many => absurd many few⟩

def router : Heard where
  bssid := [2, 0, 0, 0, 0, 1]
  sa := [2, 0, 0, 0, 0, 1]
  ssid := some [0x48, 0x49]
  channel := 6
  rssi := none
  secType := .opened
  groupCryptType := .none
  pairCryptType := .none
  authType := 0
  compatible := true
  nintendo := none

def poweredOn : System where
  console := { Scanning.home with driver := { Scanning.home.driver with curMode := .disabled, reqMode := .disabled } }
  wep := { enabled := false, keylen := 1, key := List.replicate wepKeyMaxSize 0 }
  curApSecurity := []
  reqLoadWfcKey := false
  wfcSecurity := [[]]
  connectState := .searching
  connectPoint := {}
  wifiLwipEnabled := false
  taken := 0
  latched := ⟨noBssid, []⟩
  found := 0

/-- The access point that is looked for, by its name. -/
def wanted : Entry := { ssid := [0x48, 0x49] ++ List.replicate 31 0, ssidLen := 2 }

/-- Two updates after the call, and the access point is heard. -/
def searched : List Action :=
  [.ntrUpdate 0, .ntrUpdate 0, .heard true router]

/-! The end of a search. -/

end Dswifi.Connecting
