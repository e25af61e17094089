import Dswifi.DlPlay.AppMessages
import Dswifi.MpHostTable

/-! The data that the consoles of a multiplayer game send each other (arm9/ntr/multiplayer.c,
arm9/ntr/rx_tx_queue.c): what the handlers of the game are given of the frames that
its calls have queued. The host tells its clients apart by the table of the ARM7. -/

namespace Dswifi.MultiplayerFrames

open Runs TxQueue
open MpHost hiding Mac
open DlPlay (Medium PacketType HostPacketType receivedPacket handlePacketFromHost frameControlMask macAt byteAt u16At
  ieeeHeaderSize hostHeaderSize clientHeaderSize txHeaderSize received_header receivedPacket_length receivedPacket_drop)

/-! Reading the table. -/

/-- Wifi_MultiplayerClientGetMacFromAID -/
def clientGetMacFromAID (shared : Shared) (aid : Int) : Option Mac :=
  if aid < 1 then none
  else if aid > shared.curMaxClients then none
  else
    let client := shared.clients.list (aid.toNat - 1)
    if client.state = .associated then some client.macaddr else none

/-- Wifi_MultiplayerClientMatchesMacAndAID -/
def clientMatchesMacAndAID (shared : Shared) (aid : Int) (macaddr : Mac) : Bool :=
  if aid < 1 then false
  else if aid > shared.curMaxClients then false
  else
    let client := shared.clients.list (aid.toNat - 1)
    client.state = .associated ∧ macaddr = client.macaddr

/-- Wifi_MultiplayerDropReason -/
inductive DropReason where
  | noHandler | tooShort | frameType | replyMac | destMac | aidMismatch
  deriving DecidableEq, Repr

/-- The end of Wifi_MultiplayerHandlePacketFromClient. -/
def handOver (shared : Shared) (type : PacketType) (packet : List UInt8) :
    Except DropReason (PacketType × Nat × List UInt8) :=
  let aid := multiplayerClientGetAIDFromMac shared (macAt packet 10)
  if aid = 0 then .error .aidMismatch else .ok (type, aid, packet.drop clientHeaderSize)

/-- Wifi_MultiplayerHandlePacketFromClient: what the handler of the host is given, or
why the frame is dropped. -/
def handlePacketFromClient (handler : Bool) (ownMac : Mac) (shared : Shared) (packet : List UInt8) :
    Except DropReason (PacketType × Nat × List UInt8) :=
  if !handler then .error .noHandler
  else if packet.length < clientHeaderSize then .error .tooShort
  else
    let control := u16At packet 0 &&& frameControlMask
    if control = typeDataCfAck ||| fcToDs then
      if macAt packet 16 ≠ wifiReplyMac then .error .replyMac else handOver shared .reply packet
    else if control = typeData ||| fcToDs then
      if macAt packet 16 ≠ ownMac then .error .destMac else handOver shared .data packet
    else .error .frameType

/-- The two calls of a client. -/
def clientFrame (station : Station) (data : Payload) : PacketType → Frame
  | .reply => multiplayerClientReplyTxFrame station data
  | .data => multiplayerClientToHostDataTxFrame station data

/-- A console that is the host of this table. -/
def hosting (station : Station) (shared : Shared) : Station :=
  { station with multiplayerClientGetMacFromAID := clientGetMacFromAID shared }

/-- The host of Download Play is such a handler. -/
theorem receiveFromClient_handed (ownMac : Mac) (packet : List UInt8) (world : DlPlay.World) :
    DlPlay.receiveFromClient ownMac packet world =
      match handlePacketFromClient true ownMac world.mp packet with
      | .ok (type, aid, body) => DlPlay.fromClientHandler type aid (byteAt packet 25) body world
      | .error _ => world := by
  have passedOn (type : PacketType) : DlPlay.handlePacketFromClient type (macAt packet 10) (byteAt packet 25)
      (packet.drop clientHeaderSize) world =
      match handOver world.mp type packet with
      | .ok (type, aid, body) => DlPlay.fromClientHandler type aid (byteAt packet 25) body world
      | .error _ => world := by
    unfold DlPlay.handlePacketFromClient handOver
    dsimp only
    split <;> rfl
  unfold DlPlay.receiveFromClient handlePacketFromClient
  rw [if_neg (show ¬(!true) = true by decide)]
  dsimp only
  split
  · rfl
  · split
    · split
      · rfl
      · exact passedOn .reply
    · split
      · split
        · rfl
        · exact passedOn .data
      · rfl

/-- The client with this address is associated under the id. -/
structure Under (shared : Shared) (aid : Nat) (macaddr : Mac) : Prop where
  positive : 1 ≤ aid
  inside : aid ≤ shared.curMaxClients
  state : (shared.clients.list (aid - 1)).state = .associated
  macaddr : (shared.clients.list (aid - 1)).macaddr = macaddr

section Lookups
variable {shared : Shared} {macaddr : Mac}

theorem getAIDFromMac_iff (table : TableInv shared) {aid : Nat} (positive : aid ≠ 0) :
    multiplayerClientGetAIDFromMac shared macaddr = aid ↔ Under shared aid macaddr := by
  unfold multiplayerClientGetAIDFromMac
  split
  · next i found =>
    have inside := List.mem_range.mp (List.mem_of_find?_eq_some found)
    have test := List.find?_some found
    simp only [decide_eq_true_eq] at test
    obtain ⟨state, same⟩ := test
    rw [table.aid i state]
    constructor
    · rintro rfl
      exact ⟨Nat.le_add_left 1 i, inside, state, same.symm⟩
    · intro under
      have own := table.macs (aid - 1) i (by simp [under.state]) (by simp [state]) (under.macaddr.trans same)
      have positive := under.positive
      omega
  · next none =>
    constructor
    · exact fun zero => absurd zero.symm positive
    · intro under
      have inside := under.inside
      have positive := under.positive
      have test := List.find?_eq_none.mp none (aid - 1) (List.mem_range.mpr (by omega))
      simp [under.state, under.macaddr] at test

theorem getMacFromAID_iff {aid : Int} :
    clientGetMacFromAID shared aid = some macaddr ↔ ∃ n : Nat, aid = n ∧ Under shared n macaddr := by
  unfold clientGetMacFromAID
  constructor
  · intro found
    split at found
    · cases found
    · split at found
      · cases found
      · dsimp only at found
        split at found
        · next state =>
          refine ⟨aid.toNat, by omega, by omega, by omega, state, Option.some_inj.mp found⟩
        · cases found
  · rintro ⟨n, rfl, under⟩
    have positive := under.positive
    have inside := under.inside
    rw [if_neg (by omega), if_neg (by omega)]
    simp [under.state, under.macaddr]

theorem matchesMacAndAID_iff {aid : Int} :
    clientMatchesMacAndAID shared aid macaddr = true ↔ clientGetMacFromAID shared aid = some macaddr := by
  unfold clientMatchesMacAndAID clientGetMacFromAID
  split
  · simp
  · split
    · simp
    · dsimp only
      split
      · next state => simp [state, eq_comm]
      · next state => simp [state]

end Lookups

/-! From the host to its clients. -/

/-- The other bits of the frame control do not change the kind of a frame. -/
theorem dataControl_kept (flags : UInt8) :
    ((UInt8.ofNat (typeData ||| fcFromDs)).toNat +
        256 * (UInt8.ofNat ((typeData ||| fcFromDs) / 256) ||| (flags &&& 0xFC)).toNat) &&&
          frameControlMask = typeData ||| fcFromDs ∧
    ((UInt8.ofNat (typeData ||| fcToDs)).toNat +
        256 * (UInt8.ofNat ((typeData ||| fcToDs) / 256) ||| (flags &&& 0xFC)).toNat) &&&
          frameControlMask = typeData ||| fcToDs := by
  have each : ∀ i : Fin 256, ((UInt8.ofNat (typeData ||| fcFromDs)).toNat +
        256 * (UInt8.ofNat ((typeData ||| fcFromDs) / 256) ||| (UInt8.ofNat i.val &&& 0xFC)).toNat) &&&
          frameControlMask = typeData ||| fcFromDs ∧
    ((UInt8.ofNat (typeData ||| fcToDs)).toNat +
        256 * (UInt8.ofNat ((typeData ||| fcToDs) / 256) ||| (UInt8.ofNat i.val &&& 0xFC)).toNat) &&&
          frameControlMask = typeData ||| fcToDs := by decide +kernel
  have this := each ⟨flags.toNat, flags.toNat_lt⟩
  rwa [UInt8.ofNat_toNat] at this

variable (medium : Medium) (station : Station) (data : Payload)

/-- A client checks a data frame for the size of a command, which has four bytes more in
its header. -/
theorem hostToClientFrame_handed (clientMacaddr ownMac bssid : Mac) :
    handlePacketFromHost ownMac bssid
        (receivedPacket medium ieeeHeaderSize (hostToClientFrame station clientMacaddr data)) =
      if 4 ≤ data.bytes.length ∧ ownMac = clientMacaddr ∧ bssid = station.macAddr then some (.data, data.bytes)
      else none := by
  have size : (hostToClientFrame station clientMacaddr data).header.length = txHeaderSize + ieeeHeaderSize := rfl
  obtain ⟨addr1, _, addr3, control⟩ := received_header medium ieeeHeaderSize transferRate2Mbps
    (24 + data.bytes.length + 4) (typeData ||| fcFromDs) clientMacaddr station.macAddr station.macAddr [] (by
      rw [List.append_nil]
      rfl) size rfl (by decide) (Nat.le_refl _)
  have kind := (dataControl_kept medium.flags).1
  rw [← control] at kind
  have length := @receivedPacket_length medium _ _ ieeeHeaderSize size rfl (by decide) (Nat.le_refl _)
  have body := @receivedPacket_drop medium _ _ ieeeHeaderSize size rfl (by decide) (Nat.le_refl _)
  have payload : (hostToClientFrame station clientMacaddr data).payload.bytes = data.bytes := rfl
  have other : ¬typeData ||| fcFromDs = typeDataCfPoll ||| fcFromDs := by decide
  rw [payload] at length body
  unfold handlePacketFromHost
  rw [length]
  by_cases long : 4 ≤ data.bytes.length
  · have enough : ¬ieeeHeaderSize + data.bytes.length < hostHeaderSize := by
      unfold hostHeaderSize
      omega
    rw [if_neg enough]
    simp only [kind, if_neg other, if_true, addr1, addr3, body, long, true_and]
    by_cases mine : ownMac = clientMacaddr
    · by_cases theirs : bssid = station.macAddr
      · simp [mine, theirs]
      · simp [mine, theirs, Ne.symm theirs]
    · simp [mine, Ne.symm mine]
  · have short : ieeeHeaderSize + data.bytes.length < hostHeaderSize := by
      unfold hostHeaderSize
      omega
    rw [if_pos short, if_neg (fun all => long all.1)]

theorem hostCmd_handed (ownMac bssid : Mac) :
    handlePacketFromHost ownMac bssid (receivedPacket medium hostHeaderSize (multiplayerHostCmdTxFrame station data)) =
      if bssid = station.macAddr then some (.cmd, data.bytes) else none := by
  by_cases theirs : bssid = station.macAddr
  · rw [if_pos theirs, theirs]
    exact DlPlay.command_arrives medium station data ownMac
  · have size : (multiplayerHostCmdTxFrame station data).header.length = txHeaderSize + hostHeaderSize := rfl
    obtain ⟨addr1, _, addr3, control⟩ := received_header medium hostHeaderSize transferRate2Mbps
      (28 + data.bytes.length + 4) (typeDataCfPoll ||| fcFromDs) wifiCmdMac station.macAddr station.macAddr
      (u16 0 ++ u16 0) rfl size rfl (by decide) (Nat.le_refl _)
    have kind := (DlPlay.frameControl_kept medium.flags).1
    rw [← control] at kind
    rw [if_neg theirs]
    unfold handlePacketFromHost
    simp only [kind, if_true, addr1, addr3, ne_eq, not_true_eq_false, Ne.symm theirs, not_false_eq_true, ite_self]

theorem data_to_client_iff (shared : Shared) (aid : Int) (ownMac bssid : Mac) (given : HostPacketType × List UInt8) :
    (∃ frame, multiplayerHostToClientDataTxFrame (hosting station shared) aid data = some frame ∧
        handlePacketFromHost ownMac bssid (receivedPacket medium ieeeHeaderSize frame) = some given) ↔
      (∃ n : Nat, aid = n ∧ Under shared n ownMac) ∧ bssid = station.macAddr ∧ 4 ≤ data.bytes.length ∧
        given = (.data, data.bytes) := by
  rw [← getMacFromAID_iff]
  constructor
  · rintro ⟨frame, sent, handed⟩
    obtain ⟨clientMacaddr, found, rfl⟩ := Option.map_eq_some_iff.mp sent
    rw [hostToClientFrame_handed] at handed
    split at handed
    · next all =>
      obtain ⟨long, rfl, theirs⟩ := all
      exact ⟨found, theirs, long, (Option.some_inj.mp handed).symm⟩
    · cases handed
  · rintro ⟨found, theirs, long, rfl⟩
    refine ⟨hostToClientFrame (hosting station shared) ownMac data, Option.map_eq_some_iff.mpr ⟨ownMac, found, rfl⟩, ?_⟩
    rw [hostToClientFrame_handed, if_pos ⟨long, rfl, theirs⟩]

/-- A command is handed to the clients of its host, and data for an association id to
the one console that is associated under it, if there are four bytes of it. -/
theorem sent_to_clients_exactly (shared : Shared) (ownMac bssid : Mac) (given : HostPacketType × List UInt8) :
    (handlePacketFromHost ownMac bssid (receivedPacket medium hostHeaderSize (multiplayerHostCmdTxFrame station data)) =
        some given ↔ bssid = station.macAddr ∧ given = (.cmd, data.bytes)) ∧
      ∀ aid : Int,
        (∃ frame, multiplayerHostToClientDataTxFrame (hosting station shared) aid data = some frame ∧
          handlePacketFromHost ownMac bssid (receivedPacket medium ieeeHeaderSize frame) = some given) ↔
        (∃ n : Nat, aid = n ∧ Under shared n ownMac) ∧ bssid = station.macAddr ∧ 4 ≤ data.bytes.length ∧
          given = (.data, data.bytes) := by
  constructor
  · rw [hostCmd_handed]
    by_cases theirs : bssid = station.macAddr
    · simp [theirs, eq_comm]
    · simp [theirs]
  · intro aid
    exact data_to_client_iff medium station data shared aid ownMac bssid given

/-! From a client to the host, and back. -/

/-- A reply goes to the magic address, whichever the host; data to the client's own host. -/
theorem clientFrame_handed (type : PacketType) (shared : Shared) (hostMac : Mac) :
    handlePacketFromClient true hostMac shared (receivedPacket medium ieeeHeaderSize (clientFrame station data type)) =
      if type = .data ∧ station.bssid ≠ hostMac then .error .destMac
      else if multiplayerClientGetAIDFromMac shared station.macAddr = 0 then .error .aidMismatch
      else .ok (type, multiplayerClientGetAIDFromMac shared station.macAddr, data.bytes) := by
  have size : (clientFrame station data type).header.length = txHeaderSize + clientHeaderSize := by
    cases type <;> rfl
  have trailer : (clientFrame station data type).trailer = DlPlay.fcsSize := by
    cases type <;> rfl
  have payload : (clientFrame station data type).payload.bytes = data.bytes := by
    cases type <;> rfl
  have body := @receivedPacket_drop medium _ clientHeaderSize ieeeHeaderSize size trailer (by decide) (by decide)
  have length := @receivedPacket_length medium _ clientHeaderSize ieeeHeaderSize size trailer (by decide) (by decide)
  have enough : ¬(receivedPacket medium ieeeHeaderSize (clientFrame station data type)).length < clientHeaderSize := by
    omega
  have other : ¬typeData ||| fcToDs = typeDataCfAck ||| fcToDs := by decide
  rw [payload] at body
  rw [handlePacketFromClient, if_neg (by decide), if_neg enough]
  cases type with
  | reply =>
      obtain ⟨_, addr2, addr3, control⟩ := received_header medium ieeeHeaderSize transferRate2Mbps
        (26 + data.bytes.length + 4) (typeDataCfAck ||| fcToDs) station.bssid station.macAddr wifiReplyMac
        [station.curClientAID, 0] rfl size rfl (by decide) (by decide)
      have kind := (DlPlay.frameControl_kept medium.flags).2
      rw [← control] at kind
      simp only [kind, if_true, addr2, addr3, ne_eq, not_true_eq_false, if_false, handOver, body, reduceCtorEq,
        false_and]
  | data =>
      obtain ⟨_, addr2, addr3, control⟩ := received_header medium ieeeHeaderSize transferRate2Mbps
        (26 + data.bytes.length + 4) (typeData ||| fcToDs) station.bssid station.macAddr station.bssid
        [station.curClientAID, 0] rfl size rfl (by decide) (by decide)
      have kind := (dataControl_kept medium.flags).2
      rw [← control] at kind
      simp only [kind, if_neg other, if_true, addr2, addr3, handOver, body, true_and]

/-- In every state of the table the frame of a client is handed to the host exactly when
the client is associated, under its id. The mask of the host has this id, and what the
host sends to it in answer is handed to the sender and to nobody else. -/
theorem answer_reaches_sender (maxClients : Fin (maxMultiplayerClients + 1)) (allow : Bool)
    (operations : List Operation) (host : Station) (answer : Payload) (type : PacketType) :
    let shared := run MpHost.step (accessPointStart maxClients allow) operations
    (∀ given, handlePacketFromClient true host.macAddr shared
          (receivedPacket medium ieeeHeaderSize (clientFrame station data type)) = .ok given ↔
        ∃ aid, Under shared aid station.macAddr ∧ (type = .data → station.bssid = host.macAddr) ∧
          given = (type, aid, data.bytes)) ∧
      ∀ aid : Nat, Under shared aid station.macAddr →
        shared.clients.aidMask.getLsbD aid = true ∧ clientMatchesMacAndAID shared aid station.macAddr = true ∧
        ∀ ownMac bssid, (∃ frame, multiplayerHostToClientDataTxFrame (hosting host shared) aid answer = some frame ∧
            handlePacketFromHost ownMac bssid (receivedPacket medium ieeeHeaderSize frame) =
              some (.data, answer.bytes)) ↔
          ownMac = station.macAddr ∧ bssid = host.macAddr ∧ 4 ≤ answer.bytes.length := by
  have table : TableInv (run MpHost.step (accessPointStart maxClients allow) operations) :=
    @run_invariant _ _ MpHost.step TableInv (fun _ operation kept => kept.step operation) _ operations
      (.accessPointStart maxClients allow (Nat.le_of_lt_succ maxClients.isLt))
  generalize run MpHost.step (accessPointStart maxClients allow) operations = shared at table
  dsimp only
  constructor
  · intro given
    rw [clientFrame_handed]
    constructor
    · intro handed
      split at handed
      · cases handed
      · next mine =>
        split at handed
        · cases handed
        · next known =>
          refine ⟨_, (getAIDFromMac_iff table known).mp rfl, ?_, (Except.ok.inj handed).symm⟩
          intro plain
          by_contra elsewhere
          exact mine ⟨plain, elsewhere⟩
    · rintro ⟨aid, under, theirs, rfl⟩
      have some : aid ≠ 0 := Nat.ne_of_gt under.positive
      rw [(getAIDFromMac_iff table some).mpr under, if_neg some, if_neg]
      rintro ⟨plain, elsewhere⟩
      exact elsewhere (theirs plain)
  · intro aid under
    have positive := under.positive
    have inside := under.inside
    have limit := table.limit
    constructor
    · have bit := (table.mask (aid - 1) (by omega)).mpr under.state
      rwa [Nat.sub_add_cancel positive] at bit
    constructor
    · exact matchesMacAndAID_iff.mpr (getMacFromAID_iff.mpr ⟨aid, rfl, under⟩)
    · intro ownMac bssid
      rw [data_to_client_iff medium host answer shared aid ownMac bssid]
      constructor
      · rintro ⟨⟨n, same, own⟩, theirs, long, -⟩
        obtain rfl := Int.ofNat.inj same
        exact ⟨own.macaddr.symm.trans under.macaddr, theirs, long⟩
      · rintro ⟨rfl, theirs, long⟩
        exact ⟨⟨aid, rfl, under⟩, theirs, long, rfl⟩

end Dswifi.MultiplayerFrames
