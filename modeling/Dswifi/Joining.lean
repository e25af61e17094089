import Dswifi.AssociationRequest
import Dswifi.MpHostTable
import Dswifi.Leases

/-! A multiplayer host and the consoles that join it (arm7/ntr/ieee_802_11/ and
arm7/ntr/multiplayer.c). What the host has sent may reach a console late, twice, out of
order or not at all; what reaches the host may be anything. Frames go from the IEEE
header on, without the FCS. -/

namespace Dswifi.Joining

open Association (Driver Request LibraryMode Mode copied leave noBssid processAssocResponse processAuthentication
  sendOpenSystemAuthPacket hdrMgtDa statusSuccess statusAssocTooManyDevices authAlgoOpenSystem authAlgoSharedKey
  fieIdChallengeText transferRate2Mbps)
open BeaconFrame (half le16 le32 macBytes hdrMgtSa hdrMgtBssid hdrMgtMacSize capsEss capsPrivacy capsShortPreamble
  wifiBroadcastAddr rate1Mbps rate2Mbps rateMandatory fieIdSsid fieIdSupportedRates arrived)
open ByteMemory Reading Runs Leases MpHost TypedElements

def fcTypeSubtypeMask : UInt16 := 0xFC
def fcProtectedFrame : UInt16 := 0x4000
def typeAssocRequest : UInt16 := 0x00
def typeReassocRequest : UInt16 := 0x20
def typeReassocResponse : UInt16 := 0x30
def typeAuthentication : UInt16 := 0xB0
def typeDeauthentication : UInt16 := 0xC0
def statusUnspecified : UInt16 := 1
def statusAuthBadAlgorithm : UInt16 := 13
def statusAuthBadSeqNumber : UInt16 := 14
def reasonThisStationLeftDeauth : UInt16 := 3
def reasonCantHandleAllStations : UInt16 := 5
def reasonThisStationLeftDisassoc : UInt16 := 8

/-- Wifi_MPHost_GenMgtHeader -/
def mpHostGenMgtHeader (headerflags : UInt16) (destMac macAddr : Mac) : List UInt8 :=
  le16 headerflags ++ le16 0 ++ macBytes destMac ++ macBytes macAddr ++ macBytes macAddr ++ le16 0

/-- Wifi_GenMgtHeader, without the four bytes of a protected frame. -/
def genMgtHeader (headerflags : UInt16) (driver : Driver) : List UInt8 :=
  le16 headerflags ++ le16 0 ++ driver.bssid ++ driver.macAddr ++ driver.bssid ++ le16 0

/-! What the console sends. -/

/-- What a console knows of the host it joins, and its W_LISTENINT. -/
structure Ap where
  ssid : List UInt8
  wep : Bool
  listenInterval : UInt16

/-- The frame of a request. `iv` is the random number of a protected frame. -/
def requestFrame (driver : Driver) (ap : Ap) (iv : UInt32) : Request → List UInt8
  | .openSystemAuth =>
      genMgtHeader typeAuthentication driver ++ le16 authAlgoOpenSystem ++ le16 1 ++ le16 0
  | .sharedKeyAuth =>
      genMgtHeader typeAuthentication driver ++ le16 authAlgoSharedKey ++ le16 1 ++ le16 0
  | .sharedKeyAuth2 challengeText =>
      genMgtHeader (typeAuthentication ||| fcProtectedFrame) driver ++ le32 (iv &&& 0x0FFF) ++
        le16 authAlgoSharedKey ++ le16 3 ++ le16 0 ++
        [fieIdChallengeText, UInt8.ofNat challengeText.length] ++ challengeText
  | .assoc realRates =>
      genMgtHeader typeAssocRequest driver ++
        le16 (if ap.wep then capsEss ||| capsPrivacy ||| capsShortPreamble else capsEss ||| capsShortPreamble) ++
        le16 ap.listenInterval ++ [fieIdSsid, UInt8.ofNat ap.ssid.length] ++ ap.ssid ++
        if realRates then [fieIdSupportedRates, 2, rate1Mbps ||| rateMandatory, rate2Mbps]
        else [fieIdSupportedRates, 4, rate1Mbps ||| rateMandatory, rate2Mbps, 11, 22]

/-! What the host sends. -/

inductive Message where
  | authentication (clientMac : Mac) (statusCode : UInt16)
  | assocResponse (response : AssocResponse)
  | deauthentication (destMac : Mac) (reasonCode : UInt16)
  deriving DecidableEq, Repr

def Message.frame (macAddr : Mac) (wep : Bool) : Message → List UInt8
  | .authentication clientMac statusCode =>
      mpHostGenMgtHeader typeAuthentication clientMac macAddr ++ le16 authAlgoOpenSystem ++ le16 2 ++ le16 statusCode
  | .assocResponse response => response.frame macAddr wep
  | .deauthentication destMac reasonCode =>
      mpHostGenMgtHeader typeDeauthentication destMac macAddr ++ le16 reasonCode

/-- The host's answer to an authentication request, when it is for the host. -/
def answerAuthentication (shared : Shared) (clientMac : Mac) (authAlgorithm seqNumber statusCode : UInt16) :
    Shared × UInt16 :=
  if authAlgorithm = authAlgoOpenSystem then
    if seqNumber = 1 then
      if statusCode = statusSuccess then
        match clientAuthenticate shared clientMac with
        | (shared, some _) => (shared, statusSuccess)
        | (shared, none) => (shared, statusAssocTooManyDevices)
      else (shared, statusUnspecified)
    else (shared, statusAuthBadSeqNumber)
  else (shared, statusAuthBadAlgorithm)

def authenticationSize : Nat := hdrMgtMacSize + 6
def deauthenticationSize : Nat := hdrMgtMacSize + 2

/-- Wifi_MPHost_ProcessAuthentication -/
def mpHostProcessAuthentication (macAddr : Mac) (shared : Shared) (byteLength : Nat) :
    Reading (Shared × Option Message) :=
  if byteLength < authenticationSize then pure (shared, none)
  else do
    let da ← bytes hdrMgtDa 6
    if da ≠ macBytes macAddr then pure (shared, none)
    else
      let clientMac ← macAt hdrMgtSa
      let authAlgorithm ← half hdrMgtMacSize
      let seqNumber ← half (hdrMgtMacSize + 2)
      let statusCode ← half (hdrMgtMacSize + 4)
      let (shared, answer) := answerAuthentication shared clientMac authAlgorithm seqNumber statusCode
      pure (shared, some (.authentication clientMac answer))

/-- Wifi_MPHost_ProcessDeauthentication -/
def mpHostProcessDeauthentication (macAddr : Mac) (shared : Shared) (byteLength : Nat) : Reading Shared :=
  if byteLength < deauthenticationSize then pure shared
  else do
    let da ← bytes hdrMgtDa 6
    if da ≠ macBytes macAddr then pure shared
    else
      let clientMac ← macAt hdrMgtSa
      pure (clientDisconnect shared clientMac).1

/-- The control frame of a frame that has arrived, up to its type and subtype. -/
def frameType (frame : List UInt8) (stack : Memory) : UInt16 :=
  (half 0).value (arrived frame stack) &&& fcTypeSubtypeMask

/-- Wifi_ProcessReceivedFrame of a host, for the frames of joining and leaving. -/
def hostReceived (macAddr : Mac) (shared : Shared) (frame : List UInt8) (stack : Memory) : Shared × Option Message :=
  let type := frameType frame stack
  if type = typeAssocRequest ∨ type = typeReassocRequest then
    let (shared, response) := (processAssocRequest macAddr shared frame.length).value (copied 256 frame stack)
    (shared, response.map .assocResponse)
  else if type = typeAuthentication then
    (mpHostProcessAuthentication macAddr shared frame.length).value (copied authenticationSize frame stack)
  else if type = typeDeauthentication then
    ((mpHostProcessDeauthentication macAddr shared frame.length).value (copied deauthenticationSize frame stack), none)
  else (shared, none)

/-! What the console does. -/

/-- What Wifi_ProcessDeauthentication does with the reason. -/
def deauthenticated (driver : Driver) (reasonCode : UInt16) : Driver :=
  if reasonCode = reasonThisStationLeftDeauth ∨ reasonCode = reasonThisStationLeftDisassoc ∨
      reasonCode = reasonCantHandleAllStations then
    { driver with authlevel := .error, wBssid := noBssid, associationId := 0 }
  else { sendOpenSystemAuthPacket { driver with authlevel := .disconnected } with associationId := 0 }

def processDeauthentication (driver : Driver) (byteLength : Nat) (data : Memory) : Driver :=
  if byteLength < deauthenticationSize then driver
  else if readBytes data hdrMgtDa 6 ≠ driver.macAddr ∧
      readBytes data hdrMgtDa 6 ≠ macBytes wifiBroadcastAddr then driver
  else if readBytes data hdrMgtBssid 6 ≠ driver.bssid then driver
  else deauthenticated driver ((half hdrMgtMacSize).value data)

/-- Wifi_ProcessReceivedFrame of a console that is no host, for the same frames. -/
def received (driver : Driver) (frame : List UInt8) (stack : Memory) : Driver :=
  let type := frameType frame stack
  if type = typeAssocResponse ∨ type = typeReassocResponse then
    processAssocResponse driver (copied 64 frame stack)
  else if type = typeAuthentication then processAuthentication driver (copied 384 frame stack)
  else if type = typeDeauthentication then
    processDeauthentication driver frame.length (copied deauthenticationSize frame stack)
  else driver

/-- WIFIMODE_NORMAL of Wifi_NTR_Update, for a console that is not asked to be a host. -/
def normalUpdate (driver : Driver) (now : UInt16) : Driver :=
  let driver := { driver with wBssid := noBssid, curLibraryMode := driver.reqLibraryMode }
  match driver.reqMode with
  | .disabled => { driver with curMode := .disabled }
  | .scan => { driver with curMode := .scan, filterMode := .scan }
  | .connected =>
      Association.connect { driver with filterMode :=
        match driver.curLibraryMode with
        | .multiplayerClient => .multiplayerClient
        | .internet => .internet
        | .multiplayerHost => driver.filterMode } now
  | _ => driver

/-- WIFIMODE_CONNECTED of Wifi_NTR_Update. The deauthentication frame that it sends when
the console leaves is one of those that reach the host. -/
def connectedUpdate (driver : Driver) : Driver :=
  if driver.curLibraryMode ≠ driver.reqLibraryMode then leave driver
  else if driver.reqMode ≠ .connected then leave { driver with associationId := 0 }
  else if driver.authlevel = .error then { driver with curMode := .cannotConnect }
  else driver

/-- Wifi_NTR_Start -/
def ntrStart (driver : Driver) : Driver := { driver with associationId := 0, wBssid := noBssid, filterMode := .idle }

/-- Wifi_NTR_Update -/
def update (driver : Driver) (now : UInt16) : Driver :=
  match driver.curMode with
  | .disabled => if driver.reqMode ≠ .disabled then { ntrStart driver with curMode := .normal } else driver
  | .normal => normalUpdate driver now
  | .scan => if driver.reqMode ≠ .scan ∨ driver.curLibraryMode ≠ driver.reqLibraryMode then leave driver else driver
  | .connecting => Association.ntrUpdate driver now
  | .connected => connectedUpdate driver
  | .cannotConnect =>
      if driver.curLibraryMode ≠ driver.reqLibraryMode ∨ driver.reqMode ≠ .connected then leave driver else driver
  | .initializing | .disconnecting | .accessPoint => driver

/-! The host, the consoles and what is between them. -/

/-- `sent` is what the host has sent, and `events` is history: the association ids it has
granted, and the consoles whose entries are gone. -/
structure World where
  hostMac : Mac
  wep : Bool
  shared : Shared
  consoles : Mac → Driver
  sent : List (List UInt8)
  events : List (Event Mac UInt16)

inductive Action where
  | hostReceived (frame : List UInt8) (stack : Memory)
  | host (operation : Operation)
  | kickAll
  | received (mac : Mac) (frame : List UInt8) (stack : Memory)
  | request (mac : Mac) (reqMode : Mode) (reqLibraryMode : LibraryMode)
  | update (mac : Mac) (now : UInt16)

def present (shared : Shared) (i : Nat) (mac : Mac) : Bool :=
  (shared.clients.list i).state ≠ .disconnected ∧ (shared.clients.list i).macaddr = mac

/-- The consoles that had an entry, and have it no more. -/
def departed (before after : Shared) : List Mac :=
  (List.range maxMultiplayerClients).filterMap fun i =>
    let mac := (before.clients.list i).macaddr
    if present before i mac ∧ ¬present after i mac then some mac else none

/-- The deauthentication frames of the kicks that were noted since. -/
def kicks (before after : Shared) : List Message :=
  (after.log.drop before.log.length).filterMap fun
    | .deauthentication macaddr => some (.deauthentication macaddr reasonCantHandleAllStations)
    | _ => none

def granted : Option Message → List (Event Mac UInt16)
  | some (.assocResponse response) =>
      if response.statusCode = statusSuccess then [.granted response.clientMac response.associationId] else []
  | _ => []

/-- The host has changed its table and answered. -/
def hostStep (world : World) (next : Shared × Option Message) (more : List Message) : World :=
  { world with
    shared := next.1
    sent := world.sent ++
      (kicks world.shared next.1 ++ next.2.toList ++ more).map (Message.frame world.hostMac world.wep)
    events := world.events ++ (departed world.shared next.1).map .left ++ granted next.2 }

/-- A frame that comes in the name of the host is one that it has sent. -/
def Heard (world : World) (frame : List UInt8) : Prop :=
  frame ∈ world.sent ∨ hdrMgtBssid + 6 ≤ frame.length ∧ (frame.drop hdrMgtBssid).take 6 ≠ macBytes world.hostMac

instance (world : World) (frame : List UInt8) : Decidable (Heard world frame) := inferInstanceAs (Decidable (_ ∨ _))

def changeConsole (world : World) (mac : Mac) (driver : Driver) : World :=
  { world with consoles := Function.update world.consoles mac driver }

def step (world : World) : Action → World
  | .hostReceived frame stack => hostStep world (hostReceived world.hostMac world.shared frame stack) []
  | .host operation => hostStep world (MpHost.step world.shared operation, none) []
  | .kickAll => hostStep world (resetClients world.shared, none)
      [.deauthentication wifiBroadcastAddr reasonThisStationLeftDeauth]
  | .received mac frame stack =>
      if Heard world frame then changeConsole world mac (received (world.consoles mac) frame stack) else world
  | .request mac reqMode reqLibraryMode =>
      if reqMode = .accessPoint then world
      else changeConsole world mac { world.consoles mac with reqMode, reqLibraryMode }
  | .update mac now => changeConsole world mac (update (world.consoles mac) now)

/-- A console that wants nothing yet. -/
def fresh (hostMac mac : Mac) : Driver :=
  { curMode := .normal, reqMode := .normal, curLibraryMode := .multiplayerClient, reqLibraryMode := .multiplayerClient
    macAddr := macBytes mac, bssid := macBytes hostMac, authlevel := .disconnected, authctr := 0, counter7 := 0
    realRates := true, associationId := 0, maxrate7 := 0, filterMode := .idle, wBssid := noBssid, sent := []
    retries := 0 }

def start (hostMac : Mac) (wep allow : Bool) (maxClients : Fin (maxMultiplayerClients + 1)) : World :=
  { hostMac, wep, shared := accessPointStart maxClients allow, consoles := fresh hostMac, sent := [], events := [] }

/-! What a console reads of the frames of the host. -/

def Message.type : Message → UInt16
  | .authentication _ _ => typeAuthentication
  | .assocResponse _ => typeAssocResponse
  | .deauthentication _ _ => typeDeauthentication

def Message.destMac : Message → Mac
  | .authentication clientMac _ => clientMac
  | .assocResponse response => response.clientMac
  | .deauthentication destMac _ => destMac

def Message.body (wep : Bool) : Message → List UInt8
  | .authentication _ statusCode => le16 authAlgoOpenSystem ++ (le16 2 ++ le16 statusCode)
  | .assocResponse response =>
      le16 (if wep then capsEss ||| capsPrivacy ||| capsShortPreamble else capsEss ||| capsShortPreamble) ++
        (le16 response.statusCode ++ (le16 response.associationId ++
          [fieIdSupportedRates, 2, rate1Mbps ||| rateMandatory, rate2Mbps, 0, 0]))
  | .deauthentication _ reasonCode => le16 reasonCode

variable {macAddr : Mac} {wep : Bool} {data stack : Memory} {driver : Driver} {frame : List UInt8}

theorem Message.frame_eq (message : Message) :
    message.frame macAddr wep = mpHostGenMgtHeader message.type message.destMac macAddr ++ message.body wep := by
  cases message with
  | authentication clientMac statusCode => simp [frame, type, destMac, body]
  | assocResponse response =>
      simp [frame, type, destMac, body, AssocResponse.frame, mpHostGenMgtHeader]
  | deauthentication destMac reasonCode => rfl

theorem Message.body_length (message : Message) : (message.body wep).length ≤ 12 := by
  cases message <;> simp [body]

theorem header_read {headerflags : UInt16} {destMac : Mac} {body : List UInt8}
    (there : InPlace data 0 (mpHostGenMgtHeader headerflags destMac macAddr ++ body)) :
    (half 0).value data = headerflags ∧ readBytes data hdrMgtDa 6 = macBytes destMac ∧
      readBytes data hdrMgtBssid 6 = macBytes macAddr ∧ InPlace data hdrMgtMacSize body := by
  simp only [mpHostGenMgtHeader, inPlace_append, List.length_append, BeaconFrame.le16_length,
    BeaconFrame.macBytes_length] at there
  obtain ⟨⟨⟨⟨⟨⟨flags, _⟩, da⟩, _⟩, bssid⟩, _⟩, rest⟩ := there
  exact ⟨BeaconFrame.half_le16 flags, da, bssid, rest⟩

/-- A buffer that holds the longest of these frames has it whole. -/
theorem Message.copied_whole (message : Message) {size : Nat} (room : 36 ≤ size) :
    InPlace (copied size (message.frame macAddr wep) stack) 0
      (mpHostGenMgtHeader message.type message.destMac macAddr ++ message.body wep) := by
  have short := @Message.body_length wep message
  have whole := Association.copied_inPlace size (message.frame macAddr wep) stack 0
  rw [List.drop_zero, List.take_of_length_le, message.frame_eq] at whole
  · rwa [message.frame_eq]
  · rw [message.frame_eq, List.length_append]
    have header : (mpHostGenMgtHeader message.type message.destMac macAddr).length = 24 := rfl
    omega

theorem frameType_message (message : Message) : frameType (message.frame macAddr wep) stack = message.type := by
  have whole := BeaconFrame.arrived_inPlace (message.frame macAddr wep) stack
  rw [message.frame_eq] at whole
  rw [frameType, message.frame_eq, (header_read whole).1]
  cases message with
  | authentication _ _ | assocResponse _ | deauthentication _ _ =>
      simp only [Message.type]
      decide

theorem macBytes_injective {first second : Mac} (same : macBytes first = macBytes second) : first = second := by
  have halves := @BeaconFrame.le16s_injective [first.1, first.2.1, first.2.2] [second.1, second.2.1, second.2.2]
    (by simpa [macBytes] using same)
  simp only [List.cons.injEq, and_true] at halves
  obtain ⟨one, two, three⟩ := halves
  exact Prod.ext one (Prod.ext two three)

/-! What can become of the association id of a console. -/

theorem processAssocResponse_id :
    (processAssocResponse driver data).associationId = driver.associationId ∨
      readBytes data hdrMgtDa 6 = driver.macAddr ∧ (half (hdrMgtMacSize + 2)).value data = statusSuccess ∧
        (processAssocResponse driver data).associationId = (half (hdrMgtMacSize + 4)).value data := by
  unfold processAssocResponse
  split
  · exact .inl rfl
  · next mine =>
    split
    · exact .inl rfl
    · split
      · next success =>
        refine .inr ⟨not_not.mp mine, success, ?_⟩
        dsimp only
        split <;> rfl
      · split <;> exact .inl rfl

/-- The association id, the own address and that of the access point. -/
def names (driver : Driver) : UInt16 × List UInt8 × List UInt8 := (driver.associationId, driver.macAddr, driver.bssid)

theorem authenticate_names : names (Association.authenticate driver) = names driver := by
  unfold Association.authenticate
  split <;> rfl

theorem openSystemResponse_names (seqNumber statusCode : UInt16) :
    names (Association.openSystemResponse driver seqNumber statusCode) = names driver := by
  unfold Association.openSystemResponse
  split
  · split
    · exact authenticate_names
    · split <;> rfl
  · rfl

theorem sharedKeyResponse_names (seqNumber statusCode : UInt16) :
    names (Association.sharedKeyResponse driver seqNumber statusCode data) = names driver := by
  unfold Association.sharedKeyResponse
  split
  · split
    · split
      · unfold Association.sendSharedKeyAuthPacket2
        split <;> rfl
      · rfl
    · rfl
  · split
    · split
      · exact authenticate_names
      · rfl
    · rfl

theorem processAuthentication_names : names (processAuthentication driver data) = names driver := by
  unfold processAuthentication
  split
  · rfl
  · split
    · rfl
    · split
      · exact openSystemResponse_names _ _
      · split
        · exact sharedKeyResponse_names _ _
        · rfl

theorem processAssocResponse_addresses : (names (processAssocResponse driver data)).2 = (names driver).2 := by
  unfold processAssocResponse
  split
  · rfl
  · split
    · rfl
    · split
      · dsimp only
        split <;> rfl
      · split <;> rfl

theorem processDeauthentication_names (byteLength : Nat) :
    (names (processDeauthentication driver byteLength data)).2 = (names driver).2 ∧
      ((processDeauthentication driver byteLength data).associationId = driver.associationId ∨
        (processDeauthentication driver byteLength data).associationId = 0) := by
  unfold processDeauthentication
  split
  · exact ⟨rfl, .inl rfl⟩
  · split
    · exact ⟨rfl, .inl rfl⟩
    · split
      · exact ⟨rfl, .inl rfl⟩
      · unfold deauthenticated
        split <;> exact ⟨rfl, .inr rfl⟩

theorem received_addresses : (names (received driver frame stack)).2 = (names driver).2 := by
  unfold received
  dsimp only
  split
  · exact processAssocResponse_addresses
  · split
    · exact congrArg Prod.snd processAuthentication_names
    · split
      · exact (processDeauthentication_names _).1
      · rfl

theorem received_message (message : Message) : received driver (message.frame macAddr wep) stack =
    match message with
    | .authentication _ _ => processAuthentication driver (copied 384 (message.frame macAddr wep) stack)
    | .assocResponse _ => processAssocResponse driver (copied 64 (message.frame macAddr wep) stack)
    | .deauthentication _ _ => processDeauthentication driver (message.frame macAddr wep).length
        (copied deauthenticationSize (message.frame macAddr wep) stack) := by
  rw [received, frameType_message]
  cases message <;> rfl

/-- A console takes an association id from a response to it only. -/
theorem received_id (message : Message) :
    (received driver (message.frame macAddr wep) stack).associationId = driver.associationId ∨
      (received driver (message.frame macAddr wep) stack).associationId = 0 ∨
      ∃ response, message = .assocResponse response ∧ response.statusCode = statusSuccess ∧
        macBytes response.clientMac = driver.macAddr ∧
        (received driver (message.frame macAddr wep) stack).associationId = response.associationId := by
  rw [received_message]
  cases message with
  | authentication clientMac statusCode => exact .inl (congrArg Prod.fst processAuthentication_names)
  | deauthentication destMac reasonCode =>
      rcases (@processDeauthentication_names (copied deauthenticationSize
          (Message.frame macAddr wep (.deauthentication destMac reasonCode)) stack) driver _).2 with same | zero
      · exact .inl same
      · exact .inr (.inl zero)
  | assocResponse response =>
      have whole := @Message.copied_whole macAddr wep stack (.assocResponse response) 64 (by decide)
      obtain ⟨-, da, -, body⟩ := header_read whole
      simp only [Message.body, inPlace_append, BeaconFrame.le16_length] at body
      obtain ⟨-, status, id, -⟩ := body
      dsimp only
      rcases @processAssocResponse_id (copied 64 (Message.frame macAddr wep (.assocResponse response)) stack) driver with
        same | ⟨mine, success, taken⟩
      · exact .inl same
      · refine .inr (.inr ⟨response, rfl, ?_, ?_, ?_⟩)
        · exact (BeaconFrame.half_le16 status).symm.trans success
        · exact da.symm.trans mine
        · exact taken.trans (BeaconFrame.half_le16 id)

/-- What other access points send is not heard. -/
theorem received_other (long : hdrMgtBssid + 6 ≤ frame.length)
    (other : (frame.drop hdrMgtBssid).take 6 ≠ driver.bssid) : received driver frame stack = driver := by
  have bssid {size : Nat} (room : hdrMgtBssid + 6 ≤ size) :
      readBytes (copied size frame stack) hdrMgtBssid 6 ≠ driver.bssid := by
    have there := Association.copied_inPlace size frame stack hdrMgtBssid
    rw [there.readBytes_eq, List.drop_take, List.take_take, Nat.min_eq_left]
    · exact other
    · omega
    · rw [List.length_drop, List.length_take]
      omega
  unfold received
  dsimp only
  split
  · unfold processAssocResponse
    rw [if_pos (bssid (by decide)), ite_self]
  · split
    · unfold processAuthentication
      rw [if_pos (bssid (by decide)), ite_self]
    · split
      · unfold processDeauthentication
        rw [if_pos (bssid (by decide)), ite_self, ite_self]
      · rfl

theorem ntrUpdate_names (now : UInt16) : names (Association.ntrUpdate driver now) = names driver := by
  unfold Association.ntrUpdate leave
  split
  · rfl
  · split
    · rfl
    · split
      · rfl
      · split
        · rfl
        · split
          · unfold Association.associationUpdate
            dsimp only
            split
            · rfl
            · split <;> rfl
          · rfl

theorem update_names (now : UInt16) :
    (names (update driver now)).2 = (names driver).2 ∧
      ((update driver now).associationId = driver.associationId ∨ (update driver now).associationId = 0) := by
  unfold update
  split
  · split
    · exact ⟨rfl, .inr rfl⟩
    · exact ⟨rfl, .inl rfl⟩
  · unfold normalUpdate
    dsimp only
    split <;> exact ⟨rfl, .inl rfl⟩
  · unfold leave
    split <;> exact ⟨rfl, .inl rfl⟩
  · have same := @ntrUpdate_names driver now
    exact ⟨congrArg Prod.snd same, .inl (congrArg Prod.fst same)⟩
  · unfold connectedUpdate leave
    split
    · exact ⟨rfl, .inl rfl⟩
    · split
      · exact ⟨rfl, .inr rfl⟩
      · split <;> exact ⟨rfl, .inl rfl⟩
  · unfold leave
    split <;> exact ⟨rfl, .inl rfl⟩
  · exact ⟨rfl, .inl rfl⟩
  · exact ⟨rfl, .inl rfl⟩
  · exact ⟨rfl, .inl rfl⟩

/-! What the host answers. -/

section Host
variable {shared : Shared}

theorem clientAssociate_some (table : TableInv shared) {clientMac : Mac} {aid : Nat}
    (associated : (clientAssociate shared clientMac).2 = some aid) :
    ∃ i < maxMultiplayerClients, aid = i + 1 ∧ present (clientAssociate shared clientMac).1 i clientMac = true := by
  unfold clientAssociate at associated ⊢
  split at associated
  · cases associated
  · next allowed =>
    rw [if_neg allowed]
    split at associated
    · cases associated
    · next index found =>
      obtain ⟨inside, there, same⟩ := clientGetByMacAddr_some found
      have limit := table.limit
      split at associated
      · next state =>
        obtain rfl := Option.some_inj.mp associated
        refine ⟨index, by omega, table.aid index state, ?_⟩
        simp only [state, present, same]
        decide
      · next state =>
        obtain rfl := Option.some_inj.mp associated
        refine ⟨index, by omega, rfl, ?_⟩
        simp [present, MpHost.associate, setClient, same]
      · cases associated

theorem answerAuthentication_table (table : TableInv shared) (clientMac : Mac)
    (authAlgorithm seqNumber statusCode : UInt16) :
    TableInv (answerAuthentication shared clientMac authAlgorithm seqNumber statusCode).1 := by
  unfold answerAuthentication
  split
  · split
    · split
      · have kept := table.clientAuthenticate clientMac
        split
        · next authenticated => rwa [authenticated] at kept
        · next refused => rwa [refused] at kept
      · exact table
    · exact table
  · exact table

theorem mpHostProcessAuthentication_table (table : TableInv shared) (byteLength : Nat) :
    TableInv ((mpHostProcessAuthentication macAddr shared byteLength).value data).1 ∧
      ∀ response,
        ((mpHostProcessAuthentication macAddr shared byteLength).value data).2 ≠ some (.assocResponse response) := by
  unfold mpHostProcessAuthentication
  split
  · exact ⟨table, fun _ same => by cases same⟩
  · simp only [value_bind]
    split
    · exact ⟨table, fun _ same => by cases same⟩
    · exact ⟨answerAuthentication_table table _ _ _ _, fun _ same => by cases same⟩

theorem mpHostProcessDeauthentication_table (table : TableInv shared) (byteLength : Nat) :
    TableInv ((mpHostProcessDeauthentication macAddr shared byteLength).value data) := by
  unfold mpHostProcessDeauthentication
  split
  · exact table
  · simp only [value_bind]
    split
    · exact table
    · exact table.clientDisconnect _

/-- A granted id is the place of the console's entry. -/
def Placed (shared : Shared) (response : AssocResponse) : Prop :=
  ∃ i < maxMultiplayerClients, response.associationId = UInt16.ofNat (i + 1) ∧
    present shared i response.clientMac = true

theorem answerRequest_placed (table : TableInv shared) (clientMac : Mac) (refused : Bool) :
    TableInv (answerRequest shared clientMac refused).1 ∧
      ∀ response, (answerRequest shared clientMac refused).2 = some response → response.statusCode = statusSuccess →
        Placed (answerRequest shared clientMac refused).1 response := by
  have kept := table.clientAssociate clientMac
  have placed := @clientAssociate_some shared table clientMac
  unfold answerRequest
  split
  · refine ⟨table, ?_⟩
    rintro _ ⟨⟩ ⟨⟩
  · split
    · next none =>
      rw [none] at kept
      refine ⟨kept, ?_⟩
      rintro _ ⟨⟩ ⟨⟩
    · next next aid associated =>
      rw [associated] at kept placed
      refine ⟨kept, ?_⟩
      rintro _ ⟨⟩ -
      obtain ⟨i, inside, rfl, there⟩ := placed rfl
      exact ⟨i, inside, rfl, there⟩

theorem processAssocRequest_placed (table : TableInv shared) (byteLength : Nat) :
    TableInv ((processAssocRequest macAddr shared byteLength).value data).1 ∧
      ∀ response, ((processAssocRequest macAddr shared byteLength).value data).2 = some response →
        response.statusCode = statusSuccess →
          Placed ((processAssocRequest macAddr shared byteLength).value data).1 response := by
  unfold processAssocRequest
  simp only [value_bind]
  split
  · refine ⟨table, ?_⟩
    rintro _ ⟨⟩
  · rw [value_bind]
    split
    · refine ⟨table, ?_⟩
      rintro _ ⟨⟩ ⟨⟩
    · simp only [value_bind]
      split
      · refine ⟨table, ?_⟩
        rintro _ ⟨⟩ ⟨⟩
      · exact answerRequest_placed table _ _

theorem hostReceived_placed (table : TableInv shared) :
    TableInv (hostReceived macAddr shared frame stack).1 ∧
      ∀ response, (hostReceived macAddr shared frame stack).2 = some (.assocResponse response) →
        response.statusCode = statusSuccess → Placed (hostReceived macAddr shared frame stack).1 response := by
  unfold hostReceived
  dsimp only
  split
  · obtain ⟨kept, placed⟩ := @processAssocRequest_placed macAddr (copied 256 frame stack) shared table frame.length
    refine ⟨kept, ?_⟩
    intro response same
    obtain ⟨_, answered, ⟨⟩⟩ := Option.map_eq_some_iff.mp same
    exact placed response answered
  · split
    · obtain ⟨kept, none⟩ := @mpHostProcessAuthentication_table macAddr (copied authenticationSize frame stack) shared
        table frame.length
      exact ⟨kept, fun response same => absurd same (none response)⟩
    · split
      · refine ⟨mpHostProcessDeauthentication_table table _, ?_⟩
        rintro _ ⟨⟩
      · refine ⟨table, ?_⟩
        rintro _ ⟨⟩

end Host

/-! The invariant of the world. -/

structure WorldInv (world : World) : Prop where
  table : TableInv world.shared
  lawful : Lawful world.events
  agrees : ∀ id mac, leases world.events id = some mac →
    ∃ i < maxMultiplayerClients, id = UInt16.ofNat (i + 1) ∧ present world.shared i mac = true
  sent : ∀ frame ∈ world.sent, ∃ message : Message, frame = message.frame world.hostMac world.wep ∧
    ∀ event ∈ granted (some message), event ∈ world.events
  named : ∀ mac, (names (world.consoles mac)).2 = (macBytes mac, macBytes world.hostMac)
  held : ∀ mac, (world.consoles mac).associationId = 0 ∨ .granted mac (world.consoles mac).associationId ∈ world.events

theorem worldInv_start (hostMac : Mac) (wep allow : Bool) (maxClients : Fin (maxMultiplayerClients + 1)) :
    WorldInv (start hostMac wep allow maxClients) where
  table := .accessPointStart maxClients allow (Nat.le_of_lt_succ maxClients.isLt)
  lawful := trivial
  agrees := by
    rintro id mac ⟨⟩
  sent := by
    rintro frame ⟨⟩
  named := fun _ => rfl
  held := fun _ => .inl rfl

theorem ofNat_place {i j : Nat} (first : i < maxMultiplayerClients) (second : j < maxMultiplayerClients)
    (same : UInt16.ofNat (i + 1) = UInt16.ofNat (j + 1)) : i = j := by
  have sizes := congrArg UInt16.toNat same
  unfold maxMultiplayerClients at first second
  rw [UInt16.toNat_ofNat', UInt16.toNat_ofNat'] at sizes
  omega

theorem stays_of_not_departed {before after : Shared} {i : Nat} {mac : Mac} (inside : i < maxMultiplayerClients)
    (there : present before i mac = true) (stays : mac ∉ departed before after) : present after i mac = true := by
  by_contra gone
  apply stays
  have own : (before.clients.list i).macaddr = mac := by
    simp only [present, decide_eq_true_eq] at there
    exact there.2
  refine List.mem_filterMap.mpr ⟨i, List.mem_range.mpr inside, ?_⟩
  simp only [own]
  exact if_pos ⟨there, gone⟩

theorem kicks_granted {before after : Shared} : ∀ message ∈ kicks before after, granted (some message) = [] := by
  intro message member
  obtain ⟨note, -, kicked⟩ := List.mem_filterMap.mp member
  split at kicked
  · cases kicked
    rfl
  · cases kicked

/-- One step of the host: the departures are recorded, and then what is granted. -/
theorem WorldInv.hostStep {world : World} (inv : WorldInv world) {next : Shared × Option Message} {more : List Message}
    (table : TableInv next.1) (plain : ∀ message ∈ more, granted (some message) = [])
    (placed : ∀ response, next.2 = some (.assocResponse response) → response.statusCode = statusSuccess →
      Placed next.1 response) : WorldInv (hostStep world next more) := by
  have left (id : UInt16) (mac : Mac) :
      leases (world.events ++ (departed world.shared next.1).map .left) id = some mac →
      ∃ i < maxMultiplayerClients, id = UInt16.ofNat (i + 1) ∧ present next.1 i mac = true := by
    rw [leases, run_append, run_left]
    rintro ⟨held, stays⟩
    obtain ⟨i, inside, rfl, there⟩ := inv.agrees id mac held
    exact ⟨i, inside, rfl, stays_of_not_departed inside there stays⟩
  have lawful := lawful_append inv.lawful (legal_left (departed world.shared next.1))
  have grants : granted next.2 = [] ∨
      ∃ response, granted next.2 = [.granted response.clientMac response.associationId] ∧ Placed next.1 response := by
    unfold granted
    split
    · next response same =>
      split
      · next success => exact .inr ⟨response, rfl, placed response same success⟩
      · exact .inl rfl
    · exact .inl rfl
  have kept : ∀ event ∈ world.events, event ∈ (Joining.hostStep world next more).events := fun event member =>
    List.mem_append_left _ (List.mem_append_left _ member)
  refine ⟨table, ?_, ?_, ?_, inv.named, ?_⟩
  · rcases grants with none | ⟨response, one, i, inside, id, there⟩
    · simpa only [Joining.hostStep, none, List.append_nil] using lawful
    · simp only [Joining.hostStep, one]
      apply lawful_append lawful
      refine ⟨?_, trivial⟩
      cases held : leases (world.events ++ (departed world.shared next.1).map .left) response.associationId with
      | none => exact .inl held
      | some other =>
          obtain ⟨j, within, same, here⟩ := left _ _ held
          rw [id] at same
          obtain rfl := ofNat_place inside within same
          simp only [present, decide_eq_true_eq] at there here
          exact .inr (held.trans (congrArg some (here.2.symm.trans there.2)))
  · rcases grants with none | ⟨response, one, i, inside, place, there⟩
    · simpa only [Joining.hostStep, none, List.append_nil] using left
    · intro id mac
      simp only [Joining.hostStep, one]
      rw [leases, run_append, run_cons, run_nil, record]
      by_cases same : id = response.associationId
      · rw [same, Function.update_self, Option.some_inj]
        rintro rfl
        exact ⟨i, inside, place, there⟩
      · rw [Function.update_of_ne same]
        exact left id mac
  · intro frame member
    rcases List.mem_append.mp member with before | now
    · obtain ⟨message, same, told⟩ := inv.sent frame before
      exact ⟨message, same, fun event member => kept event (told event member)⟩
    · obtain ⟨message, said, rfl⟩ := List.mem_map.mp now
      refine ⟨message, rfl, ?_⟩
      rcases List.mem_append.mp said with answers | added
      · rcases List.mem_append.mp answers with kick | answer
        · simp [kicks_granted message kick]
        · rw [Option.mem_toList] at answer
          rw [← answer]
          exact fun event member => List.mem_append_right _ member
      · simp [plain message added]
  · intro mac
    rcases inv.held mac with zero | told
    · exact .inl zero
    · exact .inr (kept _ told)

/-- One step of a console. -/
theorem WorldInv.changeConsole {world : World} (inv : WorldInv world) {mac : Mac} {driver : Driver}
    (same : (names driver).2 = (names (world.consoles mac)).2)
    (told : driver.associationId = (world.consoles mac).associationId ∨ driver.associationId = 0 ∨
      .granted mac driver.associationId ∈ world.events) : WorldInv (changeConsole world mac driver) := by
  refine ⟨inv.table, inv.lawful, inv.agrees, inv.sent, ?_, ?_⟩
  · intro other
    by_cases here : other = mac
    · subst here
      simp only [Joining.changeConsole, Function.update_self]
      exact same.trans (inv.named other)
    · simp only [Joining.changeConsole, Function.update_of_ne here]
      exact inv.named other
  · intro other
    by_cases here : other = mac
    · subst here
      simp only [Joining.changeConsole, Function.update_self]
      rcases told with kept | zero | granted
      · rw [kept]
        exact inv.held other
      · exact .inl zero
      · exact .inr granted
    · simp only [Joining.changeConsole, Function.update_of_ne here]
      exact inv.held other

theorem WorldInv.received {world : World} (inv : WorldInv world) {mac : Mac} (heard : Heard world frame) :
    WorldInv (Joining.changeConsole world mac (Joining.received (world.consoles mac) frame stack)) := by
  apply inv.changeConsole received_addresses
  have named := inv.named mac
  simp only [names, Prod.mk.injEq] at named
  rcases heard with member | ⟨long, other⟩
  · obtain ⟨message, rfl, told⟩ := inv.sent frame member
    rcases @received_id world.hostMac world.wep stack (world.consoles mac) message with same | zero |
      ⟨response, rfl, success, mine, id⟩
    · exact .inl same
    · exact .inr (.inl zero)
    · have client := macBytes_injective (mine.trans named.1)
      refine .inr (.inr ?_)
      rw [id, ← client]
      apply told
      simp [granted, success]
  · rw [← named.2] at other
    exact .inl (congrArg Driver.associationId (received_other long other))

theorem WorldInv.step {world : World} (inv : WorldInv world) (action : Action) : WorldInv (step world action) := by
  cases action with
  | hostReceived frame stack =>
      obtain ⟨table, placed⟩ := @hostReceived_placed world.hostMac stack frame world.shared inv.table
      exact inv.hostStep table (by rintro _ ⟨⟩) placed
  | host operation => exact inv.hostStep (inv.table.step operation) (by rintro _ ⟨⟩) (by rintro _ ⟨⟩)
  | kickAll =>
      apply inv.hostStep (.resetClients inv.table.limit)
      · intro message member
        rw [List.mem_singleton.mp member]
        rfl
      · rintro _ ⟨⟩
  | received mac frame stack =>
      by_cases heard : Heard world frame
      · rw [Joining.step, if_pos heard]
        exact inv.received heard
      · rwa [Joining.step, if_neg heard]
  | request mac reqMode reqLibraryMode =>
      by_cases host : reqMode = .accessPoint
      · rwa [Joining.step, if_pos host]
      · rw [Joining.step, if_neg host]
        exact inv.changeConsole rfl (.inl rfl)
  | update mac now =>
      obtain ⟨same, id⟩ := @update_names (world.consoles mac) now
      apply inv.changeConsole same
      rcases id with kept | zero
      · exact .inl kept
      · exact .inr (.inl zero)

theorem worldInv_run (hostMac : Mac) (wep allow : Bool) (maxClients : Fin (maxMultiplayerClients + 1))
    (actions : List Action) : WorldInv (run step (start hostMac wep allow maxClients) actions) :=
  @run_invariant _ _ step WorldInv (fun _ action kept => kept.step action) _ actions
    (worldInv_start hostMac wep allow maxClients)

/-- In any order of what is sent, lost, repeated and received, the host leases its ids:
it grants none that another console holds, who holds one has the entry at its place, and
the id that a console goes by was granted to it, and is its own unless the host has let the
console go since. -/
theorem ids_leased (hostMac : Mac) (wep allow : Bool) (maxClients : Fin (maxMultiplayerClients + 1))
    (actions : List Action) :
    let world := run step (start hostMac wep allow maxClients) actions
    Lawful world.events ∧
      (∀ id mac, leases world.events id = some mac →
        ∃ i < world.shared.curMaxClients, id = UInt16.ofNat (i + 1) ∧ present world.shared i mac = true) ∧
      ∀ mac, (world.consoles mac).associationId = 0 ∨
        .granted mac (world.consoles mac).associationId ∈ world.events ∧
          ∀ before after, world.events = before ++ .granted mac (world.consoles mac).associationId :: after →
            leases world.events (world.consoles mac).associationId = some mac ∨ .left mac ∈ after := by
  have inv := worldInv_run hostMac wep allow maxClients actions
  dsimp only
  generalize run step (start hostMac wep allow maxClients) actions = world at inv
  refine ⟨inv.lawful, ?_, ?_⟩
  · intro id mac held
    obtain ⟨i, -, same, there⟩ := inv.agrees id mac held
    have connected : (world.shared.clients.list i).state ≠ .disconnected := by
      simp only [present, decide_eq_true_eq] at there
      exact there.1
    exact ⟨i, inv.table.inside_of_connected connected, same, there⟩
  · intro mac
    rcases inv.held mac with zero | told
    · exact .inl zero
    · refine .inr ⟨told, fun before after split => ?_⟩
      by_cases stays : .left mac ∈ after
      · exact .inr stays
      · have lawful := inv.lawful
        rw [split] at lawful ⊢
        exact .inl (leases_of_granted lawful stays)

/-! A console that asks is let in, or told that it is not. -/

section Exchange
variable {hostMac mac : Mac} {shared : Shared} {ap : Ap} {iv : UInt32}

theorem request_read {headerflags : UInt16} {body : List UInt8}
    (there : InPlace data 0 (genMgtHeader headerflags driver ++ body))
    (named : (names driver).2 = (macBytes mac, macBytes hostMac)) :
    (half 0).value data = headerflags ∧ readBytes data hdrMgtDa 6 = macBytes hostMac ∧
      (macAt hdrMgtSa).value data = mac ∧ InPlace data hdrMgtMacSize body := by
  simp only [names, Prod.mk.injEq] at named
  simp only [genMgtHeader, named, inPlace_append, List.length_append, BeaconFrame.le16_length,
    BeaconFrame.macBytes_length] at there
  obtain ⟨⟨⟨⟨⟨⟨flags, _⟩, da⟩, sa⟩, _⟩, _⟩, rest⟩ := there
  simp only [macBytes, inPlace_append, List.length_append, BeaconFrame.le16_length] at sa
  obtain ⟨⟨first, second⟩, third⟩ := sa
  refine ⟨BeaconFrame.half_le16 flags, da, ?_, rest⟩
  rw [macAt, value_bind, value_bind, value_bind, value_pure]
  exact Prod.ext (BeaconFrame.half_le16 first)
    (Prod.ext (BeaconFrame.half_le16 second) (BeaconFrame.half_le16 third))

theorem getByMacAddr_of_present (table : TableInv shared) {i : Nat} (inside : i < shared.curMaxClients)
    (there : present shared i mac = true) : clientGetByMacAddr shared mac = some i := by
  simp only [present, decide_eq_true_eq] at there
  obtain ⟨connected, own⟩ := there
  cases found : clientGetByMacAddr shared mac with
  | none => exact absurd own (clientGetByMacAddr_none found i inside connected)
  | some j =>
      obtain ⟨-, state, same⟩ := clientGetByMacAddr_some found
      exact congrArg some (table.macs j i state connected (same.trans own.symm))

/-- The host takes new clients, and has this one or a free entry. -/
def LetsIn (shared : Shared) (mac : Mac) : Prop :=
  shared.allowClients = true ∧
    ((clientGetByMacAddr shared mac).isSome = true ∨ (firstDisconnected shared).isSome = true)

instance : Decidable (LetsIn shared mac) := inferInstanceAs (Decidable (_ ∧ _))

theorem clientAuthenticate_refused (full : ¬LetsIn shared mac) : clientAuthenticate shared mac = (shared, none) := by
  unfold clientAuthenticate
  by_cases allowed : shared.allowClients = true
  · rw [if_neg (by simp [allowed])]
    have none : clientGetByMacAddr shared mac = none ∧ firstDisconnected shared = none := by
      simpa [LetsIn, allowed] using full
    rw [none.1, none.2]
  · rw [if_pos (by simp [allowed])]

theorem clientAuthenticate_letsIn (table : TableInv shared) (letsIn : LetsIn shared mac) :
    ∃ i < shared.curMaxClients, (clientAuthenticate shared mac).2 = some i ∧
      (clientAuthenticate shared mac).1.allowClients = true ∧
      clientGetByMacAddr (clientAuthenticate shared mac).1 mac = some i ∧
      ((clientAuthenticate shared mac).1.clients.list i).state = .authenticated := by
  obtain ⟨allowed, room⟩ := letsIn
  have kept := table.clientAuthenticate mac
  have open_ : ¬(!shared.allowClients) = true := by simp [allowed]
  unfold clientAuthenticate at kept ⊢
  rw [if_neg open_] at kept ⊢
  cases found : clientGetByMacAddr shared mac with
  | some i =>
      obtain ⟨inside, -, same⟩ := clientGetByMacAddr_some found
      simp only [found] at kept ⊢
      refine ⟨i, inside, rfl, allowed, ?_, ?_⟩
      · apply getByMacAddr_of_present kept inside
        simp [present, reauthenticate, setClient, same]
      · simp [reauthenticate, setClient]
  | none =>
      rw [found] at room
      obtain ⟨i, free⟩ := Option.isSome_iff_exists.mp (room.resolve_left (by simp))
      obtain ⟨inside, -⟩ := firstDisconnected_some free
      simp only [found, free] at kept ⊢
      refine ⟨i, inside, rfl, allowed, ?_, ?_⟩
      · apply getByMacAddr_of_present kept inside
        simp [present, addClient, setClient]
      · simp [addClient, setClient]

/-- A request that is for the host, whole in the buffer it is copied to. -/
theorem request_arrives {headerflags : UInt16} {body : List UInt8} {size : Nat} (request : Request)
    (split : requestFrame driver ap iv request = genMgtHeader headerflags driver ++ body)
    (named : (names driver).2 = (macBytes mac, macBytes hostMac)) (room : hdrMgtMacSize + body.length ≤ size) :
    (requestFrame driver ap iv request).length = hdrMgtMacSize + body.length ∧
      frameType (requestFrame driver ap iv request) stack = headerflags &&& fcTypeSubtypeMask ∧
      InPlace (copied size (requestFrame driver ap iv request) stack) 0 (genMgtHeader headerflags driver ++ body) := by
  have length : (genMgtHeader headerflags driver ++ body).length = hdrMgtMacSize + body.length := by
    simp only [names, Prod.mk.injEq] at named
    simp only [genMgtHeader, named, List.length_append, BeaconFrame.le16_length, BeaconFrame.macBytes_length]
    rfl
  rw [split, length]
  refine ⟨rfl, ?_, ?_⟩
  · have arrives := BeaconFrame.arrived_inPlace (genMgtHeader headerflags driver ++ body) stack
    rw [frameType, (request_read arrives named).1]
  · have whole := Association.copied_inPlace size (genMgtHeader headerflags driver ++ body) stack 0
    rwa [List.drop_zero, List.take_of_length_le (by omega)] at whole

theorem mpHostProcessAuthentication_value (da : readBytes data hdrMgtDa 6 = macBytes hostMac)
    (sa : (macAt hdrMgtSa).value data = mac) {authAlgorithm seqNumber statusCode : UInt16}
    (body : InPlace data hdrMgtMacSize (le16 authAlgorithm ++ (le16 seqNumber ++ le16 statusCode))) :
    (mpHostProcessAuthentication hostMac shared authenticationSize).value data =
      ((answerAuthentication shared mac authAlgorithm seqNumber statusCode).1,
        some (.authentication mac (answerAuthentication shared mac authAlgorithm seqNumber statusCode).2)) := by
  simp only [inPlace_append, BeaconFrame.le16_length] at body
  obtain ⟨algorithm, seq, status⟩ := body
  have mine : ¬(bytes hdrMgtDa 6).value data ≠ macBytes hostMac := not_not.mpr da
  have last : (half (hdrMgtMacSize + 4)).value data = statusCode := BeaconFrame.half_le16 status
  rw [mpHostProcessAuthentication, if_neg (Nat.lt_irrefl _), value_bind, if_neg mine, value_bind, sa, value_bind,
    BeaconFrame.half_le16 algorithm, value_bind, BeaconFrame.half_le16 seq, value_bind, last]
  generalize answerAuthentication shared mac authAlgorithm seqNumber statusCode = answer
  rcases answer with ⟨next, answered⟩
  rfl

/-- The host reads the request for authentication. -/
theorem hostReceived_openSystemAuth (named : (names driver).2 = (macBytes mac, macBytes hostMac)) :
    hostReceived hostMac shared (requestFrame driver ap iv .openSystemAuth) stack =
      ((answerAuthentication shared mac authAlgoOpenSystem 1 0).1,
        some (.authentication mac (answerAuthentication shared mac authAlgoOpenSystem 1 0).2)) := by
  have split : requestFrame driver ap iv .openSystemAuth =
      genMgtHeader typeAuthentication driver ++ (le16 authAlgoOpenSystem ++ (le16 1 ++ le16 0)) := by
    simp only [requestFrame, List.append_assoc]
  obtain ⟨length, type, whole⟩ := @request_arrives stack driver hostMac mac ap iv _ _ authenticationSize _ split named
    le_rfl
  obtain ⟨-, da, sa, body⟩ := request_read whole named
  have auth : typeAuthentication &&& fcTypeSubtypeMask = typeAuthentication := by decide
  have others : ¬(typeAuthentication = typeAssocRequest ∨ typeAuthentication = typeReassocRequest) := by decide
  have size : (requestFrame driver ap iv .openSystemAuth).length = authenticationSize := length
  rw [hostReceived, type, auth, if_neg others, if_pos rfl, size]
  exact mpHostProcessAuthentication_value da sa body

/-- The console takes the answer. -/
theorem received_authentication (named : (names driver).2 = (macBytes mac, macBytes hostMac)) (statusCode : UInt16) :
    received driver (Message.frame hostMac wep (.authentication mac statusCode)) stack =
      Association.openSystemResponse driver 2 statusCode := by
  have whole := @Message.copied_whole hostMac wep stack (.authentication mac statusCode) 384 (by decide)
  obtain ⟨-, da, bssid, body⟩ := header_read whole
  simp only [Message.body, inPlace_append, BeaconFrame.le16_length] at body
  obtain ⟨algorithm, seq, status⟩ := body
  simp only [names, Prod.mk.injEq] at named
  rw [received_message]
  dsimp only
  rw [processAuthentication, if_neg (not_not.mpr (da.trans named.1.symm)),
    if_neg (not_not.mpr (bssid.trans named.2.symm)), Association.authAlgorithm, BeaconFrame.half_le16 algorithm,
    if_pos rfl, Association.seqNumber, BeaconFrame.half_le16 seq, Association.statusCode, BeaconFrame.half_le16 status]

def requestRates (realRates : Bool) : List UInt8 :=
  if realRates then [rate1Mbps ||| rateMandatory, rate2Mbps] else [rate1Mbps ||| rateMandatory, rate2Mbps, 11, 22]

/-- The elements of a request for association. -/
def requestElements (ap : Ap) (realRates : Bool) : List Element :=
  [(fieIdSsid, ap.ssid), (fieIdSupportedRates, requestRates realRates)]

theorem assoc_split (plain : ap.wep = false) (realRates : Bool) :
    requestFrame driver ap iv (.assoc realRates) = genMgtHeader typeAssocRequest driver ++
      (le16 (capsEss ||| capsShortPreamble) ++
        (le16 ap.listenInterval ++ (requestElements ap realRates).flatMap bytesOf)) := by
  cases realRates <;> simp [requestFrame, plain, requestElements, requestRates, bytesOf]

/-- The host likes either of the rates that a console asks for. -/
theorem requestElements_liked (short : ap.ssid.length ≤ 32) (realRates : Bool) {datalen i : Nat}
    (there : InPlace data i ((requestElements ap realRates).flatMap bytesOf))
    (size : ((requestElements ap realRates).flatMap bytesOf).length = datalen - i) :
    (refusesRates datalen datalen i).value data = false := by
  have small : ∀ element ∈ requestElements ap realRates, element.2.length < 256 := by
    intro element member
    simp only [requestElements, List.mem_cons, List.not_mem_nil, or_false] at member
    rcases member with rfl | rfl
    · exact Nat.lt_of_le_of_lt short (by decide)
    · cases realRates <;> decide
  have lists : ratesOf (requestElements ap realRates) = [requestRates realRates] := by
    simp [ratesOf, requestElements, fieIdSsid, fieIdSupportedRates]
  obtain ⟨-, loop⟩ := refusesRates_splits (splits_flatMap small) there size (Nat.le_add_left datalen i)
  rw [lists] at loop
  have looks : LooksInside [requestRates realRates] := by
    cases realRates with
    | false => exact ⟨⟨by decide, by decide⟩, fun _ => trivial⟩
    | true => exact ⟨⟨by decide, by decide⟩, fun _ => trivial⟩
  rw [(loop looks).2]
  cases realRates <;> decide

/-- A client that has authenticated is given its place. -/
theorem hostReceived_assoc (named : (names driver).2 = (macBytes mac, macBytes hostMac)) (plain : ap.wep = false)
    (short : ap.ssid.length ≤ 32) (allowed : shared.allowClients = true) {i : Nat}
    (known : clientGetByMacAddr shared mac = some i) (state : (shared.clients.list i).state = .authenticated)
    (realRates : Bool) :
    hostReceived hostMac shared (requestFrame driver ap iv (.assoc realRates)) stack =
      (MpHost.associate shared i, some (.assocResponse ⟨mac, statusSuccess, UInt16.ofNat (i + 1)⟩)) := by
  have rates : (requestRates realRates).length ≤ 4 := by cases realRates <;> decide
  have elements : ((requestElements ap realRates).flatMap bytesOf).length ≤ 40 := by
    simp only [requestElements, bytesOf, List.flatMap_cons, List.flatMap_nil, List.length_append, List.length_cons,
      List.length_nil]
    omega
  have room : hdrMgtMacSize + (le16 (capsEss ||| capsShortPreamble) ++
      (le16 ap.listenInterval ++ (requestElements ap realRates).flatMap bytesOf)).length ≤ 256 := by
    simp only [List.length_append, BeaconFrame.le16_length, hdrMgtMacSize]
    omega
  obtain ⟨length, type, whole⟩ := @request_arrives stack driver hostMac mac ap iv _ _ 256 _
    (@assoc_split driver ap iv plain realRates) named room
  obtain ⟨-, da, sa, body⟩ := request_read whole named
  simp only [inPlace_append, BeaconFrame.le16_length] at body
  obtain ⟨caps, -, there⟩ := body
  have liked := @requestElements_liked (copied 256 (requestFrame driver ap iv (.assoc realRates)) stack) ap short
    realRates (min (requestFrame driver ap iv (.assoc realRates)).length 256) (hdrMgtMacSize + 4) there (by
      rw [length, Nat.min_eq_left room]
      simp only [List.length_append, BeaconFrame.le16_length]
      omega)
  have mine : ¬(bytes hdrMgtDa 6).value (copied 256 (requestFrame driver ap iv (.assoc realRates)) stack) ≠
      macBytes hostMac := not_not.mpr da
  have answered : (processAssocRequest hostMac shared (requestFrame driver ap iv (.assoc realRates)).length).value
      (copied 256 (requestFrame driver ap iv (.assoc realRates)) stack) =
      (MpHost.associate shared i, some ⟨mac, statusSuccess, UInt16.ofNat (i + 1)⟩) := by
    rw [processAssocRequest, value_bind, if_neg mine, value_bind, sa, if_neg (by simp [known]), value_bind,
      BeaconFrame.half_le16 caps, if_neg (by decide), value_bind, liked, value_pure, answerRequest, if_neg (by decide),
      clientAssociate, if_neg (by simp [allowed])]
    simp only [known, state]
  have request : typeAssocRequest &&& fcTypeSubtypeMask = typeAssocRequest := by decide
  rw [hostReceived, type, request, if_pos (.inl rfl), answered]
  rfl

/-- The console takes the id. -/
theorem received_assocResponse (named : (names driver).2 = (macBytes mac, macBytes hostMac)) (id : UInt16) :
    received driver (Message.frame hostMac wep (.assocResponse ⟨mac, statusSuccess, id⟩)) stack =
      driver.answered (.joined id transferRate2Mbps) := by
  simp only [names, Prod.mk.injEq] at named
  rw [received_message]
  dsimp only
  rw [Association.processAssocResponse_answered, named.1, named.2]
  exact congrArg driver.answered (host_response_read ⟨mac, statusSuccess, id⟩ rfl hostMac wep stack).2

theorem heard_answer (world : World) (next : Shared) (message : Message) (more : List Message) :
    Heard (hostStep world (next, some message) more) (message.frame world.hostMac world.wep) :=
  .inl (List.mem_append_right _ (List.mem_map_of_mem
    (List.mem_append_left _ (List.mem_append_right _ (List.mem_singleton.mpr rfl)))))

end Exchange

/-- The console's request for authentication reaches the host, and this answer the console. -/
def asks (world : World) (mac : Mac) (ap : Ap) (iv : UInt32) (stack : Nat → Memory) (statusCode : UInt16) : List Action :=
  [.hostReceived (requestFrame (world.consoles mac) ap iv .openSystemAuth) (stack 0),
    .received mac (Message.frame world.hostMac world.wep (.authentication mac statusCode)) (stack 1)]

/-- The same for the request for association. -/
def associates (world : World) (mac : Mac) (ap : Ap) (iv : UInt32) (stack : Nat → Memory) (id : UInt16) : List Action :=
  [.hostReceived (requestFrame (world.consoles mac) ap iv (.assoc (world.consoles mac).realRates)) (stack 2),
    .received mac (Message.frame world.hostMac world.wep (.assocResponse ⟨mac, statusSuccess, id⟩)) (stack 3)]

/-- The console is in, and host and console agree about where. -/
structure Joined (before after : World) (mac : Mac) (i : Nat) : Prop where
  asked : (after.consoles mac).sent = (before.consoles mac).sent ++ [.assoc (before.consoles mac).realRates]
  authlevel : (after.consoles mac).authlevel = .associated
  id : (after.consoles mac).associationId = UInt16.ofNat (i + 1)
  rate : (after.consoles mac).maxrate7 = transferRate2Mbps
  entry : (after.shared.clients.list i).state = .associated ∧ (after.shared.clients.list i).macaddr = mac
  leased : leases after.events (UInt16.ofNat (i + 1)) = some mac

/-- What the host makes of a console that waits for it. -/
theorem WorldInv.asks {world : World} (inv : WorldInv world) {mac : Mac} {ap : Ap} {iv : UInt32} {stack : Nat → Memory}
    (statusCode : UInt16)
    (answer : (answerAuthentication world.shared mac authAlgoOpenSystem 1 0).2 = statusCode) :
    run Joining.step world (Joining.asks world mac ap iv stack statusCode) =
      Joining.changeConsole
        (Joining.hostStep world ((answerAuthentication world.shared mac authAlgoOpenSystem 1 0).1,
          some (.authentication mac statusCode)) [])
        mac (Association.openSystemResponse (world.consoles mac) 2 statusCode) := by
  rw [Joining.asks, run_cons, run_cons, run_nil, Joining.step, hostReceived_openSystemAuth (inv.named mac), answer,
    Joining.step, if_pos (heard_answer ..)]
  exact congrArg _ (received_authentication (inv.named mac) statusCode)

/-- What it makes of one that has authenticated. -/
theorem run_associates {before world : World} {mac : Mac} {ap : Ap} {iv : UInt32} {stack : Nat → Memory}
    (host : world.hostMac = before.hostMac) (wep : world.wep = before.wep)
    (first : (names (before.consoles mac)).2 = (macBytes mac, macBytes before.hostMac))
    (second : (names (world.consoles mac)).2 = (macBytes mac, macBytes before.hostMac))
    (plain : ap.wep = false) (short : ap.ssid.length ≤ 32) (allowed : world.shared.allowClients = true) {i : Nat}
    (known : clientGetByMacAddr world.shared mac = some i)
    (state : (world.shared.clients.list i).state = .authenticated) :
    run step world (associates before mac ap iv stack (UInt16.ofNat (i + 1))) =
      changeConsole
        (hostStep world
          (MpHost.associate world.shared i, some (.assocResponse ⟨mac, statusSuccess, UInt16.ofNat (i + 1)⟩)) [])
        mac ((world.consoles mac).answered (.joined (UInt16.ofNat (i + 1)) transferRate2Mbps)) := by
  have heard := heard_answer world (MpHost.associate world.shared i)
    (.assocResponse ⟨mac, statusSuccess, UInt16.ofNat (i + 1)⟩) []
  rw [host, wep] at heard
  rw [associates, run_cons, run_cons, run_nil, step, host, hostReceived_assoc first plain short allowed known state, step,
    if_pos heard]
  exact congrArg _ (received_assocResponse second (UInt16.ofNat (i + 1)))

/-- A console that waits for an answer is let in exactly when the host takes new clients
and has its entry or a free one: then both are through with each other after an exchange,
and else the console gives up and the table stays as it is. -/
theorem joining_decided (hostMac : Mac) (wep allow : Bool) (maxClients : Fin (maxMultiplayerClients + 1))
    (actions : List Action) (mac : Mac) (ap : Ap) (iv : UInt32) (stack : Nat → Memory)
    (waits : ((run step (start hostMac wep allow maxClients) actions).consoles mac).authlevel = .disconnected)
    (plain : ap.wep = false) (short : ap.ssid.length ≤ 32) :
    let world := run step (start hostMac wep allow maxClients) actions
    if LetsIn world.shared mac then
      ∃ i < world.shared.curMaxClients, Joined world
        (run step world
          (asks world mac ap iv stack statusSuccess ++ associates world mac ap iv stack (UInt16.ofNat (i + 1))))
        mac i
    else
      let refused := run step world (asks world mac ap iv stack statusAssocTooManyDevices)
      (refused.consoles mac).authlevel = .error ∧ refused.shared = world.shared := by
  have inv := worldInv_run hostMac wep allow maxClients actions
  generalize run step (start hostMac wep allow maxClients) actions = world at inv waits
  dsimp only
  have authentication : answerAuthentication world.shared mac authAlgoOpenSystem 1 0 =
      match clientAuthenticate world.shared mac with
      | (shared, some _) => (shared, statusSuccess)
      | (shared, none) => (shared, statusAssocTooManyDevices) := rfl
  split
  · next letsIn =>
    obtain ⟨i, inside, found, allowed, known, state⟩ := clientAuthenticate_letsIn inv.table letsIn
    generalize clientAuthenticate world.shared mac = next at authentication found allowed known state
    rcases next with ⟨shared, index⟩
    cases found
    simp only at authentication allowed known state
    have first := @WorldInv.asks world inv mac ap iv stack statusSuccess (by rw [authentication])
    have named := inv.named mac
    have response : Association.openSystemResponse (world.consoles mac) 2 statusSuccess =
        Association.sendAssocPacket { world.consoles mac with authlevel := .authenticated, authctr := 0 } := by
      rw [Association.openSystemResponse, if_pos rfl, statusSuccess, if_pos rfl, Association.authenticate, if_pos waits]
    have own : (shared.clients.list i).macaddr = mac := (clientGetByMacAddr_some known).2.2
    refine ⟨i, inside, ?_⟩
    rw [run_append, first, authentication, response]
    generalize both : changeConsole (hostStep world (shared, some (.authentication mac statusSuccess)) []) mac
      (Association.sendAssocPacket { world.consoles mac with authlevel := .authenticated, authctr := 0 }) = asked
    have table : asked.shared = shared := by rw [← both]; rfl
    have driver : asked.consoles mac =
        Association.sendAssocPacket { world.consoles mac with authlevel := .authenticated, authctr := 0 } := by
      rw [← both]
      exact Function.update_self ..
    rw [run_associates (by rw [← both]; rfl) (by rw [← both]; rfl) named (by rw [driver]; exact named) plain short
      (by rw [table, allowed]) (by rw [table, known]) (by rw [table, state]), driver, table]
    exact
      { asked := by simp [changeConsole, Driver.answered, Association.sendAssocPacket, Association.send]
        authlevel := by simp [changeConsole, Driver.answered, Association.sendAssocPacket, Association.send]
        id := by simp [changeConsole, Driver.answered, Association.sendAssocPacket, Association.send]
        rate := by simp [changeConsole, Driver.answered, Association.sendAssocPacket, Association.send]
        entry := by simp [changeConsole, hostStep, MpHost.associate, setClient, own]
        leased := by
          simp only [changeConsole, hostStep, granted, if_true]
          rw [leases, run_append, run_cons, run_nil, record, Function.update_self] }
  · next full =>
    rw [clientAuthenticate_refused full] at authentication
    have first := @WorldInv.asks world inv mac ap iv stack statusAssocTooManyDevices (by rw [authentication])
    rw [first, authentication]
    constructor
    · simp [changeConsole, Association.openSystemResponse, statusAssocTooManyDevices]
    · rfl

/-- The console 2 is the first to join the host 1. -/
theorem joining_decided_first :
    let world := start (0x0101, 0x0101, 0x0101) false true 1
    let mac : Mac := (0x0202, 0x0202, 0x0202)
    let ap : Ap := { ssid := [0x44, 0x53], wep := false, listenInterval := 1 }
    ∃ i < 1, Joined world
      (run step world (asks world mac ap 0 (fun _ _ => 0) statusSuccess ++
        associates world mac ap 0 (fun _ _ => 0) (UInt16.ofNat (i + 1)))) mac i := by
  have decided := joining_decided (0x0101, 0x0101, 0x0101) false true 1 [] (0x0202, 0x0202, 0x0202)
    { ssid := [0x44, 0x53], wep := false, listenInterval := 1 } 0 (fun _ _ => 0) rfl rfl (by decide)
  have letsIn : LetsIn (start (0x0101, 0x0101, 0x0101) false true 1).shared (0x0202, 0x0202, 0x0202) := by decide
  dsimp only at decided
  split at decided
  · exact decided
  · next full => exact absurd letsIn full

end Dswifi.Joining
