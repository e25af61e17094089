import Mathlib.Data.List.Basic
import Mathlib.Data.List.Nodup
import Mathlib.Logic.Function.Basic
import Dswifi.Runs

/-! The table of clients of a multiplayer host (arm7/ntr/multiplayer.c, with the
access point case of Wifi_NTR_Update and the ARM9 calls that read or request a
change of the table). `Shared` holds the part of Wifi_MainStruct they use. The
spinlock and the critical sections make every function one step. Calls that
leave the table (deauthentication frames, the player count patched into the
beacon, each kick) are recorded in `log`. -/

namespace Dswifi.MpHost

/-- WIFI_MAX_MULTIPLAYER_CLIENTS -/
def maxMultiplayerClients : Nat := 15

abbrev Mac := UInt16 × UInt16 × UInt16

inductive ClientState where
  | disconnected
  | authenticated
  | associated
  deriving DecidableEq, Repr

structure ConnectedClient where
  macaddr : Mac := (0, 0, 0)
  associationId : Nat := 0
  state : ClientState := .disconnected
  deriving DecidableEq, Repr

/-- Wifi_ClientsInfoIpc. Only the first WIFI_MAX_MULTIPLAYER_CLIENTS entries of
`list` exist. `reqKickClientAIDMask` is a u8 in the source. -/
structure ClientsInfo where
  list : Nat → ConnectedClient
  aidMask : BitVec 16
  numConnected : Nat
  reqKickClientAIDMask : BitVec 8

inductive Note where
  | deauthentication (macaddr : Mac)
  | beaconCurrentPlayers (num : Nat)
  | kickByAID (aid : Nat)
  deriving DecidableEq, Repr

structure Shared where
  clients : ClientsInfo
  curMaxClients : Nat
  allowClients : Bool
  beaconAllowsConnections : Bool
  log : List Note

/-- BIT(n) of libnds, an int shifted and then cut to the width it is stored in. -/
def bit (width n : Nat) : BitVec width := BitVec.twoPow width n

def note (shared : Shared) (item : Note) : Shared := { shared with log := shared.log ++ [item] }

def setClient (info : ClientsInfo) (index : Nat) (client : ConnectedClient) : ClientsInfo :=
  { info with list := Function.update info.list index client }

def setBeaconCurrentPlayers (shared : Shared) : Shared :=
  note shared (.beaconCurrentPlayers (shared.clients.numConnected + 1))

@[simp] theorem note_clients (shared : Shared) (item : Note) :
    (note shared item).clients = shared.clients := rfl

@[simp] theorem note_curMaxClients (shared : Shared) (item : Note) :
    (note shared item).curMaxClients = shared.curMaxClients := rfl

@[simp] theorem note_allowClients (shared : Shared) (item : Note) :
    (note shared item).allowClients = shared.allowClients := rfl

@[simp] theorem setBeaconCurrentPlayers_clients (shared : Shared) :
    (setBeaconCurrentPlayers shared).clients = shared.clients := rfl

@[simp] theorem setBeaconCurrentPlayers_curMaxClients (shared : Shared) :
    (setBeaconCurrentPlayers shared).curMaxClients = shared.curMaxClients := rfl

@[simp] theorem setBeaconCurrentPlayers_allowClients (shared : Shared) :
    (setBeaconCurrentPlayers shared).allowClients = shared.allowClients := rfl

def resetClients (shared : Shared) : Shared :=
  setBeaconCurrentPlayers
    { shared with clients :=
        { shared.clients with list := fun _ => {}, numConnected := 0, aidMask := bit 16 0 } }

/-- The index found by the search loop; `none` is the -1 of the source. -/
def clientGetByMacAddr (shared : Shared) (macaddr : Mac) : Option Nat :=
  (List.range shared.curMaxClients).find? fun i =>
    (shared.clients.list i).state ≠ .disconnected ∧ macaddr = (shared.clients.list i).macaddr

def firstDisconnected (shared : Shared) : Option Nat :=
  (List.range shared.curMaxClients).find? fun i => (shared.clients.list i).state = .disconnected

/-- Back to the authenticated state; "maybe it's going from associated to
authenticated", so the bit of its association id is removed from the mask. -/
def reauthenticate (shared : Shared) (index : Nat) : Shared :=
  let client := shared.clients.list index
  let info := setClient shared.clients index { client with state := .authenticated }
  { shared with clients :=
      { info with aidMask := info.aidMask &&& ~~~(bit 16 client.associationId) } }

def addClient (shared : Shared) (index : Nat) (macaddr : Mac) : Shared :=
  let client := shared.clients.list index
  let info := setClient shared.clients index
    { client with state := .authenticated, macaddr := macaddr }
  setBeaconCurrentPlayers
    { shared with clients := { info with numConnected := (info.numConnected + 1) % 256 } }

def clientAuthenticate (shared : Shared) (macaddr : Mac) : Shared × Option Nat :=
  if !shared.allowClients then (shared, none) else
    match clientGetByMacAddr shared macaddr with
    | some index => (reauthenticate shared index, some index)
    | none =>
      match firstDisconnected shared with
      | some index => (addClient shared index macaddr, some index)
      | none => (shared, none)

def associate (shared : Shared) (index : Nat) : Shared :=
  let associationId := index + 1
  let client := shared.clients.list index
  let info := setClient shared.clients index
    { client with associationId := associationId, state := .associated }
  { shared with clients := { info with aidMask := info.aidMask ||| bit 16 associationId } }

def clientAssociate (shared : Shared) (macaddr : Mac) : Shared × Option Nat :=
  if !shared.allowClients then (shared, none) else
    match clientGetByMacAddr shared macaddr with
    | none => (shared, none)
    | some index =>
      match (shared.clients.list index).state with
      | .associated => (shared, some (shared.clients.list index).associationId)
      | .authenticated => (associate shared index, some (index + 1))
      | .disconnected => (shared, none)

/-- Common end of every departure: the entry is free, `aid` leaves the mask and
one client fewer is counted (num_connected is a u8). -/
def drop (shared : Shared) (index aid : Nat) : Shared :=
  let client := shared.clients.list index
  let info := setClient shared.clients index { client with state := .disconnected }
  { shared with clients :=
      { info with aidMask := info.aidMask &&& ~~~(bit 16 aid)
                  numConnected := (info.numConnected + 255) % 256 } }

def clientDisconnect (shared : Shared) (macaddr : Mac) : Shared × Bool :=
  match clientGetByMacAddr shared macaddr with
  | none => (shared, false)
  | some index =>
    (setBeaconCurrentPlayers (drop shared index (shared.clients.list index).associationId), true)

/-- The association ids passed by the callers run from 1 to 15. -/
def kickByAID (shared : Shared) (associationId : Nat) : Shared :=
  let shared := note shared (.kickByAID associationId)
  if associationId = 0 then shared else
    let index := associationId - 1
    if index ≥ shared.curMaxClients then shared else
      let client := shared.clients.list index
      if client.state = .disconnected then shared else
        setBeaconCurrentPlayers
          (drop (note shared (.deauthentication client.macaddr)) index associationId)

def kickIfNotAssociated (shared : Shared) (i : Nat) : Shared :=
  let client := shared.clients.list i
  if client.state = .authenticated then
    drop (note shared (.deauthentication client.macaddr)) i (i + 1)
  else shared

def kickNotAssociatedClients (shared : Shared) : Shared :=
  setBeaconCurrentPlayers
    ((List.range shared.curMaxClients).foldl kickIfNotAssociated shared)

/-! The ARM9 side of a kick and the loop of Wifi_NTR_Update that serves it. -/

def multiplayerKickClientByAID (shared : Shared) (associationId : Int) : Shared :=
  if associationId < 1 ∨ associationId > maxMultiplayerClients then shared else
    { shared with clients :=
        { shared.clients with
          reqKickClientAIDMask :=
            shared.clients.reqKickClientAIDMask ||| bit 8 associationId.toNat } }

def multiplayerAllowNewClients (shared : Shared) (allow : Bool) : Shared :=
  { shared with allowClients := allow }

/-- The association ids from 1 to 15, in the order every loop takes them. -/
def aids : List Nat := List.range' 1 15

def kickRequested (mask : BitVec 16) (shared : Shared) (aid : Nat) : Shared :=
  if mask.getLsbD aid then kickByAID shared aid else shared

def serveKickRequests (shared : Shared) : Shared :=
  let mask := shared.clients.reqKickClientAIDMask.setWidth 16
  if mask ≠ 0 then
    aids.foldl (kickRequested mask)
      { shared with clients := { shared.clients with reqKickClientAIDMask := 0 } }
  else shared

def serveAllowRequest (shared : Shared) : Shared :=
  if shared.beaconAllowsConnections = shared.allowClients then shared else
    if shared.allowClients then { shared with beaconAllowsConnections := true }
    else kickNotAssociatedClients { shared with beaconAllowsConnections := false }

/-- Wifi_NTR_Update in WIFIMODE_ACCESSPOINT while that mode stays requested. -/
def ntrUpdate (shared : Shared) : Shared := serveAllowRequest (serveKickRequests shared)

/-! Reading the table from the ARM9 (arm9/ntr/multiplayer.c), in host mode. -/

def multiplayerGetClientMask (shared : Shared) : BitVec 16 := shared.clients.aidMask

def multiplayerGetNumClients (shared : Shared) : Nat :=
  (List.range maxMultiplayerClients).countP fun i => shared.clients.aidMask.getLsbD (i + 1)

/-- The association id of the associated client with this address; 0 is nobody. -/
def multiplayerClientGetAIDFromMac (shared : Shared) (macaddr : Mac) : Nat :=
  match (List.range shared.curMaxClients).find? fun i =>
      (shared.clients.list i).state = .associated ∧ macaddr = (shared.clients.list i).macaddr with
  | some i => (shared.clients.list i).associationId
  | none => 0

/-- What can happen to the table. The kick of one association id is a call of
its own here; Wifi_NTR_Update makes it for every id requested. -/
inductive Operation where
  | resetClients
  | clientAuthenticate (macaddr : Mac)
  | clientAssociate (macaddr : Mac)
  | clientDisconnect (macaddr : Mac)
  | kickByAID (associationId : Nat)
  | kickNotAssociatedClients
  | multiplayerKickClientByAID (associationId : Int)
  | multiplayerAllowNewClients (allow : Bool)
  | ntrUpdate
  deriving DecidableEq, Repr

def step (shared : Shared) : Operation → Shared
  | .resetClients => resetClients shared
  | .clientAuthenticate macaddr => (clientAuthenticate shared macaddr).1
  | .clientAssociate macaddr => (clientAssociate shared macaddr).1
  | .clientDisconnect macaddr => (clientDisconnect shared macaddr).1
  | .kickByAID associationId => kickByAID shared associationId
  | .kickNotAssociatedClients => kickNotAssociatedClients shared
  | .multiplayerKickClientByAID associationId => multiplayerKickClientByAID shared associationId
  | .multiplayerAllowNewClients allow => multiplayerAllowNewClients shared allow
  | .ntrUpdate => ntrUpdate shared

/-- The table as the ARM7 leaves it when it enters access point mode: cleared,
and with the limit of clients the ARM9 asked for. -/
def accessPointStart (maxClients : Nat) (allow : Bool) : Shared :=
  { clients := { list := fun _ => {}, aidMask := bit 16 0, numConnected := 0,
                 reqKickClientAIDMask := 0 }
    curMaxClients := maxClients
    allowClients := allow
    beaconAllowsConnections := allow
    log := [] }

end Dswifi.MpHost
