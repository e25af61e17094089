import Dswifi.AccessPointHistory
import Dswifi.Joining
import Dswifi.TxScheduling

/-! The scan of the DS (WIFIMODE_SCAN in arm7/ntr/update.c). While the timer lets it, the
update asks for the saved networks, one with each call, then for the network that the
application wants, and goes to the next channel; each change of the channel ages the list
of access points. A probe goes the way of every frame of the ARM7: it is refused when a
transmission is under way and another frame waits, and the scan goes on all the same. -/

namespace Dswifi.Scanning

open AccessPoints (ApList Entry Heard WifiData accessPointAdd accessPointTick chooseSlot clearAll wifiMaxAp)
open Association (Driver FilterMode LibraryMode Mode leave transferRate1Mbps)
open BeaconFrame (le16 macBytes wifiBroadcastAddr rate1Mbps rate2Mbps rateMandatory fieIdSsid fieIdSupportedRates
  hdrMgtMacSize)
open ByteMemory Runs
open TxScheduler (Frame HasRoom Scheduler Sends Sound hdrTxSize)

def scanlistSize : Nat := 13

def scanlist : Vector UInt8 scanlistSize := #v[1, 6, 11, 7, 13, 2, 3, 4, 5, 8, 9, 10, 12]

abbrev Ssid := { ssid : List UInt8 // ssid.length ≤ 32 }

/-- What a scan does: it gives a probe request to the queue, or sets the channel. -/
inductive Note where
  | probe (ssid : Ssid)
  | channel (channel : UInt8)
  deriving DecidableEq

/-- A console that can scan. `data` has the SSIDs of the six settings at most that are
saved, and `promisc` is WFLAG_REQ_PROMISC. `calls` is history, and `stack` is what the
frames are built over. -/
structure Console where
  driver : Driver
  data : WifiData
  curAp : Entry
  promisc : Bool
  scanPromisc : Bool
  scanIndex : Fin scanlistSize
  probeIndex : Nat
  curChannel : UInt8
  reqChannel : UInt8
  tx : Scheduler
  stack : Memory
  calls : List Note

/-- Wifi_SetChannel of the ARM7. -/
def setChannel (console : Console) (channel : UInt8) : Console :=
  if channel < 1 ∨ channel > 13 then console
  else { console with curChannel := channel, calls := console.calls ++ [.channel channel] }

def typeProbeRequest : UInt16 := 0x0040

/-- The lengths of the frame, from the IEEE header on and with the TX header. -/
def ieeeSize (ssidLen : Nat) : Nat := hdrMgtMacSize + (2 + ssidLen + 4)

def txSize (ssidLen : Nat) : Nat := hdrTxSize + ieeeSize ssidLen

/-- A probe request with the real rates. -/
def probeRequest (macAddr ssid : List UInt8) : List UInt8 :=
  TxQueue.txHeader transferRate1Mbps.toNat (ieeeSize ssid.length + 4) ++
    le16 typeProbeRequest ++ le16 0 ++ macBytes wifiBroadcastAddr ++ macAddr ++ macBytes wifiBroadcastAddr ++ le16 0 ++
    [fieIdSsid, UInt8.ofNat ssid.length] ++ ssid ++
    [fieIdSupportedRates, 2, rate1Mbps ||| rateMandatory, rate2Mbps ||| rateMandatory]

/-- The arguments of Wifi_TxArm7QueueAdd. -/
def probeFrame (stack : Memory) (macAddr : List UInt8) (ssid : Ssid) : Frame where
  data := writeBytes stack 0 (probeRequest macAddr ssid.val)
  datalen := txSize ssid.val.length
  headed := by simp [txSize, hdrTxSize]
  short := by
    have few := ssid.property
    simp only [txSize, ieeeSize, hdrTxSize, hdrMgtMacSize, TxQueue.macTxbuf]
    omega

/-- Wifi_SendProbeRequestPacket. What Wifi_TxArm7QueueAdd returns is not looked at. -/
def sendProbeRequestPacket (console : Console) (ssid : List UInt8) (ssidLen : Nat) : Console :=
  if few : ssidLen ≤ 32 then
    let ssid : Ssid := ⟨ssid.take ssidLen, (List.length_take_le ..).trans few⟩
    { console with
      tx := TxScheduler.step console.tx (.txArm7QueueAdd (probeFrame console.stack console.driver.macAddr ssid))
      calls := console.calls ++ [.probe ssid] }
  else console

def nextScanIndex (scanIndex : Fin scanlistSize) : Fin scanlistSize :=
  if inside : scanIndex.val + 1 < scanlistSize then ⟨scanIndex.val + 1, inside⟩ else ⟨0, by decide⟩

def changeChannel (console : Console) (now : UInt16) : Console :=
  let channel := scanlist[console.scanIndex]
  let console := { console with driver := { console.driver with counter7 := now.toUInt32 }, reqChannel := channel }
  let console := setChannel console channel
  { console with data := accessPointTick console.data, scanIndex := nextScanIndex console.scanIndex }

/-- The probes of the mode that looks for access points, and whether they are done. -/
def probeNext (console : Console) : Console × Bool :=
  if console.probeIndex > console.data.wfc.length then ({ console with probeIndex := 0 }, true)
  else if console.probeIndex = console.data.wfc.length then
    let asked := if console.curAp.ssidLen > 0 then
      sendProbeRequestPacket console console.curAp.ssid console.curAp.ssidLen.toNat else console
    ({ asked with probeIndex := console.probeIndex + 1 }, false)
  else
    let ssid := console.data.wfc.getD console.probeIndex []
    ({ sendProbeRequestPacket console ssid ssid.length with probeIndex := console.probeIndex + 1 }, false)

/-- The timer is a u16 that is compared with a u32. -/
def Due (console : Console) (now : UInt16) : Prop := now.toUInt32 - console.driver.counter7 > 1

instance (console : Console) (now : UInt16) : Decidable (Due console now) := inferInstanceAs (Decidable (_ > _))

def scanFilter (promisc : Bool) : FilterMode := if promisc then .promiscuous else .scan

/-- WIFIMODE_SCAN of Wifi_NTR_Update. -/
def scanUpdate (console : Console) (now : UInt16) : Console :=
  if console.driver.reqMode ≠ .scan ∨ console.driver.curLibraryMode ≠ console.driver.reqLibraryMode then
    { console with driver := leave console.driver }
  else
    let console := if console.promisc ≠ console.scanPromisc then { console with
        scanPromisc := console.promisc
        driver := { console.driver with filterMode := scanFilter console.promisc } }
      else console
    if console.scanPromisc then
      let console := if console.curChannel ≠ console.reqChannel then setChannel console console.reqChannel else console
      { console with data := accessPointTick console.data }
    else if Due console now then
      if console.driver.curLibraryMode = .multiplayerClient then changeChannel console now
      else
        let (console, change) := probeNext console
        if change then changeChannel console now else console
    else console

/-- WIFIMODE_NORMAL of Wifi_NTR_Update when a scan is requested. -/
def scanStart (console : Console) (now : UInt16) : Console :=
  { console with
    driver := { console.driver with
      counter7 := now.toUInt32, curMode := .scan, filterMode := scanFilter console.promisc }
    data := clearAll console.data
    scanPromisc := console.promisc
    scanIndex := ⟨0, by decide⟩
    probeIndex := 0 }

/-- What happens while a console scans. The calls of the application are those that do
not ask for another mode. The end of an update, the interrupts and the ARM9 are steps of
the transmitter. -/
inductive Action where
  | update (now : UInt16)
  | heard (acquired : Bool) (heard : Heard)
  | setPromiscuousMode (enable : Bool)
  | setChannel (channel : Int)
  | transmitter (event : TxScheduler.Event)

def step (console : Console) : Action → Console
  | .update now => scanUpdate console now
  | .heard acquired heard => { console with data := accessPointAdd acquired heard console.data }
  | .setPromiscuousMode enable => { console with promisc := enable }
  | .setChannel channel =>
      if channel < 1 ∨ channel > 13 then console else { console with reqChannel := UInt8.ofNat channel.toNat }
  | .transmitter event => { console with tx := TxScheduler.step console.tx event }

/-! The turns of a scan that hops through the channels. -/

structure Hopping (console : Console) : Prop where
  reqMode : console.driver.reqMode = .scan
  library : console.driver.curLibraryMode = console.driver.reqLibraryMode
  promisc : console.promisc = false
  scanPromisc : console.scanPromisc = false

/-- The application leaves the promiscuous mode off, and the ARM7 sends nothing else. -/
def Action.Plain : Action → Prop
  | .setPromiscuousMode enable => enable = false
  | .transmitter event => ∀ frame, event ≠ .txArm7QueueAdd frame
  | _ => True

def isDue (console : Console) : Action → Bool
  | .update now => Due console now
  | _ => false

def probes (ssid : List UInt8) (ssidLen : Nat) : List Note :=
  if few : ssidLen ≤ 32 then [.probe ⟨ssid.take ssidLen, (List.length_take_le ..).trans few⟩] else []

/-- What is asked for on a channel, update by update. -/
def asked (console : Console) : List (List Note) :=
  if console.driver.curLibraryMode = .multiplayerClient then []
  else console.data.wfc.map (fun ssid => probes ssid ssid.length) ++
    [if console.curAp.ssidLen > 0 then probes console.curAp.ssid console.curAp.ssidLen.toNat else []]

/-- What the turn of a scan does, counted from its start: the probes, and then the next
channel. -/
def turn (console : Console) (i : Nat) : List Note :=
  (asked console)[i % ((asked console).length + 1)]?.getD
    [.channel scanlist[(⟨i / ((asked console).length + 1) % scanlistSize, Nat.mod_lt _ (by decide)⟩ : Fin scanlistSize)]]

theorem scanlist_within (i : Fin scanlistSize) : ¬(scanlist[i] < 1 ∨ scanlist[i] > 13) := by
  revert i
  decide

theorem scanlist_injective {i j : Fin scanlistSize} (same : scanlist[i] = scanlist[j]) : i = j := by
  revert i j
  decide

theorem nextScanIndex_val (i : Fin scanlistSize) : (nextScanIndex i).val = (i.val + 1) % scanlistSize := by
  revert i
  decide

/-- The frame of a call. -/
def frameOf (console : Console) : Note → Option Frame
  | .probe ssid => some (probeFrame console.stack console.driver.macAddr ssid)
  | .channel _ => none

/-- The transmitter after it is given the frames of some calls. -/
def offered (console : Console) (notes : List Note) : Scheduler :=
  run TxScheduler.step console.tx ((notes.filterMap (frameOf console)).map .txArm7QueueAdd)

@[simp] theorem offered_nil (console : Console) : offered console [] = console.tx := rfl

theorem sendProbeRequestPacket_eq (console : Console) (ssid : List UInt8) (ssidLen : Nat) :
    sendProbeRequestPacket console ssid ssidLen = { console with
      tx := offered console (probes ssid ssidLen), calls := console.calls ++ probes ssid ssidLen } := by
  rw [sendProbeRequestPacket, probes]
  split
  · rfl
  · rw [List.append_nil]
    rfl

theorem changeChannel_eq (console : Console) (now : UInt16) :
    changeChannel console now = { console with
      driver := { console.driver with counter7 := now.toUInt32 }
      data := accessPointTick console.data
      scanIndex := nextScanIndex console.scanIndex
      curChannel := scanlist[console.scanIndex]
      reqChannel := scanlist[console.scanIndex]
      calls := console.calls ++ [.channel scanlist[console.scanIndex]] } := by
  rw [changeChannel, setChannel]
  dsimp only
  rw [if_neg (scanlist_within console.scanIndex)]

theorem setChannel_eq (console : Console) (channel : UInt8) :
    ∃ curChannel calls, setChannel console channel = { console with curChannel, calls } := by
  rw [setChannel]
  split
  · exact ⟨_, _, rfl⟩
  · exact ⟨_, _, rfl⟩

theorem probeNext_eq (console : Console) :
    ∃ probeIndex tx calls, (probeNext console).1 = { console with probeIndex, tx, calls } := by
  rw [probeNext]
  split
  · exact ⟨_, _, _, rfl⟩
  · split
    · dsimp only
      split
      · exact ⟨_, _, _, by rw [sendProbeRequestPacket_eq]⟩
      · exact ⟨_, _, _, rfl⟩
    · dsimp only
      exact ⟨_, _, _, by rw [sendProbeRequestPacket_eq]⟩

/-- An update ends the scan when something else is requested, or leaves the mode alone. -/
theorem scanUpdate_driver (console : Console) (now : UInt16) :
    if console.driver.reqMode ≠ .scan ∨ console.driver.curLibraryMode ≠ console.driver.reqLibraryMode then
      (scanUpdate console now).driver = leave console.driver
    else ∃ counter7 filterMode, (scanUpdate console now).driver = { console.driver with counter7, filterMode } := by
  rw [scanUpdate]
  split
  · rfl
  · generalize marked : (if console.promisc ≠ console.scanPromisc then { console with
        scanPromisc := console.promisc
        driver := { console.driver with filterMode := scanFilter console.promisc } } else console) = after
    -- the promiscuous mode changes no more of the driver than its filter
    have same : ∃ filterMode, after.driver = { console.driver with filterMode } := by
      rw [← marked]
      split <;> exact ⟨_, rfl⟩
    obtain ⟨filterMode, same⟩ := same
    dsimp only
    split
    · refine ⟨console.driver.counter7, filterMode, ?_⟩
      split
      · obtain ⟨_, _, tuned⟩ := setChannel_eq after after.reqChannel
        rw [tuned]
        exact same
      · exact same
    · split
      · split
        · exact ⟨_, filterMode, by rw [changeChannel_eq, same]⟩
        · obtain ⟨_, _, _, probed⟩ := probeNext_eq after
          split
          · exact ⟨_, filterMode, by rw [probed, changeChannel_eq]; dsimp only; rw [same]⟩
          · exact ⟨_, filterMode, by rw [probed]; exact same⟩
      · exact ⟨_, filterMode, same⟩

theorem scanUpdate_curAp (console : Console) (now : UInt16) : (scanUpdate console now).curAp = console.curAp := by
  rw [scanUpdate]
  split
  · rfl
  · generalize marked : (if console.promisc ≠ console.scanPromisc then { console with
        scanPromisc := console.promisc
        driver := { console.driver with filterMode := scanFilter console.promisc } } else console) = after
    have same : after.curAp = console.curAp := by
      rw [← marked]
      split <;> rfl
    dsimp only
    split
    · split
      · obtain ⟨_, _, tuned⟩ := setChannel_eq after after.reqChannel
        rw [tuned, same]
      · exact same
    · split
      · split
        · rw [changeChannel_eq, same]
        · obtain ⟨_, _, _, probed⟩ := probeNext_eq after
          split
          · rw [probed, changeChannel_eq, same]
          · rw [probed, same]
      · exact same

/-- The whole of an update of a scan that hops: one turn, when the timer lets it. -/
theorem scanUpdate_hopping {console : Console} (hopping : Hopping console)
    (within : console.probeIndex ≤ (asked console).length) (now : UInt16) :
    scanUpdate console now =
      if Due console now then
        match (asked console)[console.probeIndex]? with
        | some notes => { console with
            probeIndex := console.probeIndex + 1, tx := offered console notes, calls := console.calls ++ notes }
        | none => changeChannel { console with probeIndex := 0 } now
      else console := by
  have stays : ¬(console.driver.reqMode ≠ .scan ∨ console.driver.curLibraryMode ≠ console.driver.reqLibraryMode) :=
    fun leaves => leaves.elim (· hopping.reqMode) (· hopping.library)
  have agrees : ¬console.promisc ≠ console.scanPromisc := fun differs =>
    differs (hopping.promisc.trans hopping.scanPromisc.symm)
  have hops : ¬console.scanPromisc = true := by simp [hopping.scanPromisc]
  rw [scanUpdate, if_neg stays, if_neg agrees]
  dsimp only
  rw [if_neg hops]
  by_cases due : Due console now
  · rw [if_pos due, if_pos due]
    by_cases client : console.driver.curLibraryMode = .multiplayerClient
    · -- a client of a host asks for no network, so that each turn is a change of the channel
      have none : asked console = [] := by rw [asked, if_pos client]
      rw [none, List.length_nil, Nat.le_zero] at within
      rw [if_pos client, none, List.getElem?_nil]
      congr 1
      rw [← within]
    · rw [asked, if_neg client] at within ⊢
      rw [List.length_append, List.length_map, List.length_singleton] at within
      rw [if_neg client, probeNext]
      -- a saved network, the one of the application, or none is left
      rcases Nat.lt_trichotomy console.probeIndex console.data.wfc.length with saved | manual | done
      · have notPast : ¬console.probeIndex > console.data.wfc.length := by omega
        rw [if_neg notPast, if_neg saved.ne, List.getElem?_append_left (by simpa using saved), List.getElem?_map,
          List.getD_eq_getElem?_getD, List.getElem?_eq_getElem saved]
        simp [sendProbeRequestPacket_eq]
      · have notPast : ¬console.probeIndex > console.data.wfc.length := by omega
        rw [if_neg notPast, if_pos manual, List.getElem?_append_right (by simpa using manual.ge), List.length_map,
          manual, Nat.sub_self, List.getElem?_cons_zero]
        by_cases wanted : console.curAp.ssidLen > 0
        · simp [wanted, sendProbeRequestPacket_eq]
        · simp [wanted]
      · rw [if_pos done, List.getElem?_eq_none (by simpa using Nat.succ_le_of_lt done)]
        rfl
  · rw [if_neg due, if_neg due]

theorem accessPointAdd_wfc (acquired : Bool) (heard : Heard) (data : WifiData) :
    (accessPointAdd acquired heard data).wfc = data.wfc := by
  unfold accessPointAdd
  dsimp only
  split <;> rfl

theorem asked_eq {console other : Console} (library : other.driver.curLibraryMode = console.driver.curLibraryMode)
    (wfc : other.data.wfc = console.data.wfc) (curAp : other.curAp = console.curAp) : asked other = asked console := by
  rw [asked, asked, library, wfc, curAp]

/-! The probes on their way to the air. -/

/-- The frames of the probes are short enough for the queue of the ARM7. -/
theorem probeFrame_small (stack : Memory) (macAddr : List UInt8) (ssid : Ssid) :
    (probeFrame stack macAddr ssid).datalen ≤ 1024 := by
  have few := ssid.property
  simp only [probeFrame, txSize, ieeeSize, hdrTxSize, hdrMgtMacSize]
  omega

/-- The transmitter of a console after `notes`. It has accepted some of their frames in
their order, and every one if there was always room. -/
structure Transmits (origin console : Console) (notes : List Note) (always : Prop) : Prop where
  sound : Sound console.tx
  frames : frameOf console = frameOf origin
  accepted : ∃ accepted, console.tx.accepted = origin.tx.accepted ++ accepted ∧
    accepted.Sublist (notes.filterMap (frameOf origin)) ∧ (always → accepted = notes.filterMap (frameOf origin))

theorem transmits_offered {origin console : Console} {notes : List Note} {always : Prop}
    (transmits : Transmits origin console notes always) (room : always → HasRoom console.tx) (note : Note) :
    Transmits origin { console with tx := offered console [note] } (notes ++ [note]) always := by
  obtain ⟨sound, frames, accepted, same, some, all⟩ := transmits
  cases note with
  | channel channel =>
      -- a change of the channel gives the queue nothing
      refine ⟨sound, frames, accepted, same, ?_, ?_⟩
      · rw [List.filterMap_append]
        exact some.trans (List.sublist_append_left ..)
      · intro has
        rw [List.filterMap_append]
        exact (all has).trans (List.append_nil _).symm
  | probe ssid =>
      have frame : frameOf origin (.probe ssid) = frameOf console (.probe ssid) := (congrFun frames _).symm
      have added := TxScheduler.step_add_accepted sound (probeFrame_small console.stack console.driver.macAddr ssid)
      have after : offered console [.probe ssid] = TxScheduler.step console.tx
          (.txArm7QueueAdd (probeFrame console.stack console.driver.macAddr ssid)) := rfl
      have ours : (notes ++ [Note.probe ssid]).filterMap (frameOf origin) =
          notes.filterMap (frameOf origin) ++ [probeFrame console.stack console.driver.macAddr ssid] := by
        rw [List.filterMap_append, List.filterMap_cons, frame]
        rfl
      refine ⟨?_, frames, ?_⟩
      · rw [after]
        change Sound (TxScheduler.step console.tx (.txArm7QueueAdd _))
        exact TxScheduler.step_sound _ _ sound
      · dsimp only
        rw [after, added, same, ours, List.append_assoc]
        refine ⟨_, rfl, ?_, ?_⟩
        · apply some.append
          split
          · exact List.Sublist.refl _
          · exact List.nil_sublist _
        · intro has
          rw [all has, if_pos (room has)]

/-- A scan of which so many turns are over. -/
structure Turned (origin console : Console) (turns : Nat) (always : Prop) : Prop where
  hopping : Hopping console
  asked : asked console = asked origin
  probeIndex : console.probeIndex = turns % ((Scanning.asked origin).length + 1)
  scanIndex : console.scanIndex.val = turns / ((Scanning.asked origin).length + 1) % scanlistSize
  calls : console.calls = origin.calls ++ (List.range turns).flatMap (turn origin)
  transmits : Transmits origin console ((List.range turns).flatMap (turn origin)) always

theorem range_turns (origin : Console) (turns : Nat) :
    (List.range (turns + 1)).flatMap (turn origin) = (List.range turns).flatMap (turn origin) ++ turn origin turns := by
  rw [List.range_succ, List.flatMap_append, List.flatMap_singleton]

/-- There is at most one probe in a turn. -/
theorem asked_single {console : Console} {notes : List Note} (member : notes ∈ asked console) :
    notes = [] ∨ ∃ ssid, notes = [.probe ssid] := by
  have single (ssid : List UInt8) (ssidLen : Nat) : probes ssid ssidLen = [] ∨ ∃ sent, probes ssid ssidLen = [.probe sent] := by
    rw [probes]
    split
    · exact .inr ⟨_, rfl⟩
    · exact .inl rfl
  rw [asked] at member
  split at member
  · cases member
  · rcases List.mem_append.mp member with saved | manual
    · obtain ⟨ssid, _, rfl⟩ := List.mem_map.mp saved
      exact single ssid ssid.length
    · rw [List.mem_singleton.mp manual]
      split
      · exact single _ _
      · exact .inl rfl

/-- Every due update has room for a probe. -/
def RoomWhenDue (console : Console) (action : Action) : Prop := isDue console action = true → HasRoom console.tx

instance (console : Console) (action : Action) : Decidable (RoomWhenDue console action) :=
  inferInstanceAs (Decidable (_ → _))

theorem turned_update {origin console : Console} {turns : Nat} {always : Prop}
    (turned : Turned origin console turns always) (now : UInt16)
    (room : always → Due console now → HasRoom console.tx) :
    Turned origin (scanUpdate console now) (turns + if Due console now then 1 else 0) always := by
  have rest : turns % ((asked origin).length + 1) < (asked origin).length + 1 := Nat.mod_lt _ (Nat.succ_pos _)
  have whole := Nat.mod_add_div turns ((asked origin).length + 1)
  obtain ⟨reqMode, library, promisc, scanPromisc⟩ := turned.hopping
  have within : console.probeIndex ≤ (asked console).length := by
    rw [turned.asked, turned.probeIndex]
    exact Nat.le_of_lt_succ rest
  rw [scanUpdate_hopping turned.hopping within]
  by_cases due : Due console now
  · rw [if_pos due, if_pos due, turned.asked, turned.probeIndex]
    rcases Nat.lt_or_eq_of_le (Nat.le_of_lt_succ rest) with probing | done
    · -- a probe, and the dwell goes on
      have next := (Nat.div_mod_unique (Nat.succ_pos (asked origin).length)).mpr
        ⟨show turns % ((asked origin).length + 1) + 1 + ((asked origin).length + 1) *
          (turns / ((asked origin).length + 1)) = turns + 1 by omega, Nat.succ_lt_succ probing⟩
      have here : turn origin turns = (asked origin)[turns % ((asked origin).length + 1)] := by
        rw [turn, List.getElem?_eq_getElem probing]
        rfl
      rw [List.getElem?_eq_getElem probing]
      refine ⟨⟨reqMode, library, promisc, scanPromisc⟩, turned.asked, next.2.symm, next.1 ▸ turned.scanIndex, ?_, ?_⟩
      · rw [range_turns, here, ← List.append_assoc, ← turned.calls]
      · rw [range_turns, here]
        obtain ⟨sound, frames, accepted⟩ := turned.transmits
        dsimp only
        rcases asked_single (List.getElem_mem probing) with quiet | ⟨ssid, sent⟩
        · simp only [quiet, List.append_nil, offered_nil]
          exact ⟨sound, frames, accepted⟩
        · rw [sent]
          have after := transmits_offered turned.transmits (fun has => room has due) (.probe ssid)
          exact ⟨after.sound, after.frames, after.accepted⟩
    · -- the dwell is over
      have next := (Nat.div_mod_unique (Nat.succ_pos (asked origin).length)).mpr
        ⟨show 0 + ((asked origin).length + 1) * (turns / ((asked origin).length + 1) + 1) = turns + 1 by
          rw [Nat.mul_add_one]; omega, Nat.succ_pos _⟩
      have place : console.scanIndex = ⟨_, Nat.mod_lt _ (by decide)⟩ := Fin.ext turned.scanIndex
      have here : turn origin turns = [.channel scanlist[console.scanIndex]] := by
        rw [turn, List.getElem?_eq_none done.ge]
        exact congrArg (fun i : Fin scanlistSize => [Note.channel scanlist[i]]) place.symm
      rw [List.getElem?_eq_none done.ge]
      dsimp only
      rw [changeChannel_eq]
      refine ⟨⟨reqMode, library, promisc, scanPromisc⟩, turned.asked, next.2.symm, ?_, ?_, ?_⟩
      · dsimp only
        rw [nextScanIndex_val, turned.scanIndex, next.1, Nat.mod_add_mod]
      · rw [range_turns, here, ← List.append_assoc, ← turned.calls]
      · rw [range_turns, here]
        have after := transmits_offered turned.transmits (fun has => room has due) (.channel scanlist[console.scanIndex])
        exact ⟨after.sound, after.frames, after.accepted⟩
  · rw [if_neg due, if_neg due]
    exact turned

theorem turned_step {origin console : Console} {turns : Nat} {always : Prop} {action : Action}
    (turned : Turned origin console turns always) (plain : action.Plain) (room : always → RoomWhenDue console action) :
    Turned origin (step console action) (turns + if isDue console action then 1 else 0) always := by
  obtain ⟨reqMode, library, promisc, scanPromisc⟩ := turned.hopping
  obtain ⟨sound, frames, accepted⟩ := turned.transmits
  cases action with
  | update now =>
      have updated := turned_update turned now fun has due => room has (decide_eq_true due)
      simpa [step, isDue] using updated
  | heard acquired heard =>
      have same := @asked_eq console (step console (.heard acquired heard)) rfl
        (accessPointAdd_wfc acquired heard console.data) rfl
      exact ⟨⟨reqMode, library, promisc, scanPromisc⟩, same.trans turned.asked, turned.probeIndex, turned.scanIndex,
        turned.calls, ⟨sound, frames, accepted⟩⟩
  | setPromiscuousMode enable =>
      exact ⟨⟨reqMode, library, plain, scanPromisc⟩, turned.asked, turned.probeIndex, turned.scanIndex, turned.calls,
        ⟨sound, frames, accepted⟩⟩
  | setChannel channel =>
      rw [step]
      split
      · exact turned
      · exact ⟨⟨reqMode, library, promisc, scanPromisc⟩, turned.asked, turned.probeIndex, turned.scanIndex,
          turned.calls, ⟨sound, frames, accepted⟩⟩
  | transmitter event =>
      refine ⟨⟨reqMode, library, promisc, scanPromisc⟩, turned.asked, turned.probeIndex, turned.scanIndex,
        turned.calls, TxScheduler.step_sound _ _ sound, frames, ?_⟩
      have same := TxScheduler.step_other_accepted sound plain
      dsimp only [step]
      rwa [same]

theorem turned_run {origin console : Console} {turns : Nat} {always : Prop} {actions : List Action}
    (turned : Turned origin console turns always) (plain : ∀ action ∈ actions, action.Plain)
    (room : always → EachStep step RoomWhenDue console actions) :
    Turned origin (run step console actions) (turns + countSteps step isDue console actions) always := by
  -- the count of the turns that are over says where the scan is
  induction actions generalizing console turns with
  | nil => exact turned
  | cons action rest ih =>
      have later := ih (turned_step turned (plain action List.mem_cons_self) fun has => (room has).1)
        (fun other member => plain other (List.mem_cons_of_mem _ member)) fun has => (room has).2
      rw [countSteps, Nat.add_comm (countSteps ..), ← Nat.add_assoc]
      exact later

theorem turned_scanStart (console : Console) (now : UInt16) (requested : console.driver.reqMode = .scan)
    (library : console.driver.curLibraryMode = console.driver.reqLibraryMode) (promisc : console.promisc = false)
    (sound : Sound console.tx) (always : Prop) : Turned console (scanStart console now) 0 always where
  hopping := ⟨requested, library, promisc, promisc⟩
  asked := asked_eq rfl rfl rfl
  probeIndex := (Nat.zero_mod _).symm
  scanIndex := by rw [Nat.zero_div]; rfl
  calls := (List.append_nil _).symm
  transmits := ⟨sound, rfl, [], (List.append_nil _).symm, List.Sublist.refl _, fun _ => rfl⟩

/-- What a scan does, for any timing, whatever is heard and sent meanwhile. Each due update
is a turn; the transmitter accepts frames of the probes in their order, every one if it has
room at each turn, and starts those it has accepted in that order, each once. -/
theorem scan_sweeps (console : Console) (now : UInt16) (requested : console.driver.reqMode = .scan)
    (library : console.driver.curLibraryMode = console.driver.reqLibraryMode) (promisc : console.promisc = false)
    (sound : Sound console.tx) (actions : List Action) (plain : ∀ action ∈ actions, action.Plain) :
    let after := run step (scanStart console now) actions
    let turns := (List.range (countSteps step isDue (scanStart console now) actions)).flatMap (turn console)
    after.calls = console.calls ++ turns ∧
      (∃ accepted, after.tx.accepted = console.tx.accepted ++ accepted ∧
        accepted.Sublist (turns.filterMap (frameOf console)) ∧
        (EachStep step RoomWhenDue (scanStart console now) actions → accepted = turns.filterMap (frameOf console))) ∧
      ∃ sent waiting, Sends after.tx sent waiting := by
  intro after turns
  have turned := turned_run (turned_scanStart console now requested library promisc sound
    (EachStep step RoomWhenDue (scanStart console now) actions)) plain id
  rw [Nat.zero_add] at turned
  exact ⟨turned.calls, turned.transmits.accepted, turned.transmits.sound.sends⟩

/-- A console with one saved network that is asked to scan for access points. -/
def home : Console where
  driver := { Joining.fresh (0, 0, 0) (0, 0, 0) with
    reqMode := .scan, curLibraryMode := .internet, reqLibraryMode := .internet }
  data := { wfc := [[0x48, 0x49]] }
  curAp := {}
  promisc := false
  scanPromisc := false
  scanIndex := ⟨0, by decide⟩
  probeIndex := 0
  curChannel := 1
  reqChannel := 1
  tx := TxScheduler.start (fun _ => 0) fun _ => 0
  stack := fun _ => 0
  calls := []

theorem scan_sweeps_home :
    let actions := [2, 2, 2, 4, 3, 4, 4, 6].map Action.update
    let hi : Note := .probe ⟨[0x48, 0x49], by decide⟩
    (run step (scanStart home 0) actions).calls = [hi, .channel 1, hi, .channel 6, hi] ∧
      (∃ sent waiting, Sends (run step (scanStart home 0) actions).tx sent waiting) ∧
      (run step (scanStart home 0) actions).tx.accepted.length = 2 := by
  have swept := scan_sweeps home 0 rfl rfl rfl (TxScheduler.start_sound _ _) ([2, 2, 2, 4, 3, 4, 4, 6].map .update)
    (by simp [Action.Plain])
  refine ⟨swept.1.trans (by decide), swept.2.2, ?_⟩
  -- the third finds a transmission under way and the second waiting
  decide

/-! How long an access point stays in the list that is not heard any more. -/

def Note.isChannel : Note → Bool
  | .channel _ => true
  | .probe _ => false

/-- How often the channel was changed. -/
def hops (notes : List Note) : Nat := notes.countP Note.isChannel

/-- How often the scan came to a channel. -/
def visits (channel : UInt8) (notes : List Note) : Nat := notes.count (.channel channel)

/-- Nothing is written to the slot. -/
def Apart (slot : Fin wifiMaxAp) (console : Console) : Action → Prop
  | .heard acquired heard => acquired = true → (chooseSlot console.data.aplist heard.bssid).2 ≠ slot
  | _ => True

/-- What is left of an entry after so many ticks. -/
def Aged (fresh : Entry) (ticks : Nat) (ap : Entry) : Prop :=
  ap.bssid = fresh.bssid ∧
    if ticks ≤ 2 * scanlistSize + 1 then ap.isActive = true ∧ ap.timectr = UInt32.ofNat ticks else ap.isActive = false

theorem aged_tick {fresh ap : Entry} {ticks : Nat} (aged : Aged fresh ticks ap) :
    Aged fresh (ticks + 1) (AccessPoints.tickEntry AccessPoints.wifiApTimeout ap) := by
  obtain ⟨bssid, counted⟩ := aged
  refine ⟨?_, ?_⟩
  · rw [AccessPoints.tickEntry]
    split <;> exact bssid
  · by_cases gone : ticks ≤ 2 * scanlistSize + 1
    · rw [if_pos gone] at counted
      obtain ⟨active, timectr⟩ := counted
      have next : ap.timectr + 1 = UInt32.ofNat (ticks + 1) := by rw [timectr, UInt32.ofNat_add]; rfl
      have small : ticks + 1 < UInt32.size := by simp only [scanlistSize, UInt32.size] at gone ⊢; omega
      have timeout : UInt32.ofNat (ticks + 1) > AccessPoints.wifiApTimeout ↔ 2 * scanlistSize + 1 < ticks + 1 := by
        rw [gt_iff_lt, UInt32.lt_iff_toNat_lt, UInt32.toNat_ofNat_of_lt' small]
        exact Iff.rfl
      rw [AccessPoints.tickEntry, if_pos active, next]
      by_cases last : ticks + 1 ≤ 2 * scanlistSize + 1
      · rw [if_pos last, if_neg (by rw [timeout]; omega)]
        exact ⟨active, rfl⟩
      · rw [if_neg last, if_pos (by rw [timeout]; omega)]
        simp [Entry.isActive]
    · rw [if_neg gone] at counted
      rw [if_neg (by omega), AccessPoints.tickEntry, if_neg (by simp [counted])]
      exact counted

/-- A scan that has heard an access point at a channel of its list, and has done `more` since. -/
structure Since (heardAt : Console) (slot : Fin wifiMaxAp) (place : Fin scanlistSize) (console : Console)
    (more : List Note) : Prop where
  hopping : Hopping console
  within : console.probeIndex ≤ (asked console).length
  ntr : console.data.dsiMode = false
  calls : console.calls = heardAt.calls ++ more
  scanIndex : console.scanIndex.val = (place.val + 1 + hops more) % scanlistSize
  visits : visits scanlist[place] more = hops more / scanlistSize
  aged : Aged (heardAt.data.aplist slot) (hops more) (console.data.aplist slot)

theorem probes_quiet (ssid : List UInt8) (ssidLen : Nat) : ∀ note ∈ probes ssid ssidLen, note.isChannel = false := by
  intro note member
  rw [probes] at member
  split at member
  · rw [List.mem_singleton.mp member]
    rfl
  · cases member

theorem asked_quiet {console : Console} {notes : List Note} (member : notes ∈ asked console) :
    ∀ note ∈ notes, note.isChannel = false := by
  rw [asked] at member
  split at member
  · cases member
  · rcases List.mem_append.mp member with saved | manual
    · obtain ⟨ssid, _, rfl⟩ := List.mem_map.mp saved
      exact probes_quiet ssid ssid.length
    · rw [List.mem_singleton.mp manual]
      split
      · exact probes_quiet _ _
      · nofun

theorem hops_append (first second : List Note) : hops (first ++ second) = hops first + hops second :=
  List.countP_append

theorem hops_quiet {notes : List Note} (quiet : ∀ note ∈ notes, note.isChannel = false) : hops notes = 0 :=
  List.countP_eq_zero.mpr fun note member => by simp [quiet note member]

theorem visits_quiet {notes : List Note} (quiet : ∀ note ∈ notes, note.isChannel = false) (channel : UInt8) :
    visits channel notes = 0 :=
  List.count_eq_zero.mpr fun member => absurd (quiet _ member) (by simp [Note.isChannel])

theorem visits_append (channel : UInt8) (first second : List Note) :
    visits channel (first ++ second) = visits channel first + visits channel second :=
  List.count_append

/-- The scan comes back to a channel with every thirteenth change. -/
theorem visits_hop {place here : Fin scanlistSize} {count : Nat}
    (reached : here.val = (place.val + 1 + count) % scanlistSize) :
    count / scanlistSize + visits scanlist[place] [.channel scanlist[here]] = (count + 1) / scanlistSize := by
  have below := place.isLt
  rw [Nat.succ_div, visits, List.count_singleton]
  -- no channel is twice in the list, so the scan is back only at its place
  by_cases same : here = place
  · subst same
    have back : scanlistSize ∣ count + 1 := by simp only [scanlistSize] at reached below ⊢; omega
    simp [back]
  · have differs : ¬scanlistSize ∣ count + 1 := fun back => same (Fin.ext (by
      simp only [scanlistSize] at reached below back ⊢; omega))
    have other : (Note.channel scanlist[here] == Note.channel scanlist[place]) = false :=
      beq_eq_false_iff_ne.mpr fun equal => same (scanlist_injective (Note.channel.inj equal))
    rw [other, if_neg differs]
    rfl

theorem since_update {heardAt console : Console} {slot : Fin wifiMaxAp} {place : Fin scanlistSize} {more : List Note}
    (since : Since heardAt slot place console more) (now : UInt16) :
    ∃ next, Since heardAt slot place (scanUpdate console now) next := by
  obtain ⟨reqMode, library, promisc, scanPromisc⟩ := since.hopping
  rw [scanUpdate_hopping since.hopping since.within]
  split
  · cases turns : (asked console)[console.probeIndex]? with
    | some notes =>
        obtain ⟨inside, _⟩ := List.getElem?_eq_some_iff.mp turns
        have quiet := asked_quiet (List.mem_of_getElem? turns)
        have hopless : hops (more ++ notes) = hops more := by rw [hops_append, hops_quiet quiet, Nat.add_zero]
        refine ⟨more ++ notes, ⟨reqMode, library, promisc, scanPromisc⟩, Nat.succ_le_of_lt inside, since.ntr, ?_, ?_,
          ?_, ?_⟩
        · rw [← List.append_assoc, ← since.calls]
        · rw [hopless]
          exact since.scanIndex
        · rw [visits_append, visits_quiet quiet, hopless]
          exact since.visits
        · rw [hopless]
          exact since.aged
    | none =>
        -- the next channel, and a tick for the list
        dsimp only
        rw [changeChannel_eq]
        have hop : hops (more ++ [.channel scanlist[console.scanIndex]]) = hops more + 1 := by
          rw [hops_append]
          rfl
        refine ⟨more ++ [.channel scanlist[console.scanIndex]], ⟨reqMode, library, promisc, scanPromisc⟩,
          Nat.zero_le _, since.ntr, ?_, ?_, ?_, ?_⟩
        · rw [← List.append_assoc, ← since.calls]
        · rw [hop]
          dsimp only
          rw [nextScanIndex_val, since.scanIndex, Nat.mod_add_mod, Nat.add_assoc]
        · rw [visits_append, since.visits, visits_hop since.scanIndex, hop]
        · have ticked := aged_tick since.aged
          rw [hop]
          dsimp only [accessPointTick]
          rw [since.ntr]
          exact ticked
  · exact ⟨more, since⟩

theorem since_step {heardAt console : Console} {slot : Fin wifiMaxAp} {place : Fin scanlistSize} {more : List Note}
    {action : Action} (since : Since heardAt slot place console more) (plain : action.Plain)
    (apart : Apart slot console action) : ∃ next, Since heardAt slot place (step console action) next := by
  obtain ⟨reqMode, library, promisc, scanPromisc⟩ := since.hopping
  cases action with
  | update now => exact since_update since now
  | heard acquired heard =>
      have same := @asked_eq console (step console (.heard acquired heard)) rfl
        (accessPointAdd_wfc acquired heard console.data) rfl
      have within : console.probeIndex ≤ (asked (step console (.heard acquired heard))).length := same ▸ since.within
      -- what is heard goes to another slot, or nowhere
      have kept : (accessPointAdd acquired heard console.data).aplist slot = console.data.aplist slot ∧
          (accessPointAdd acquired heard console.data).dsiMode = console.data.dsiMode := by
        rw [accessPointAdd]
        dsimp only
        cases acquired with
        | false => exact ⟨rfl, rfl⟩
        | true => exact ⟨Function.update_of_ne (apart rfl).symm _ _, rfl⟩
      refine ⟨more, ⟨reqMode, library, promisc, scanPromisc⟩, within, kept.2.trans since.ntr, since.calls,
        since.scanIndex, since.visits, ?_⟩
      rw [step, kept.1]
      exact since.aged
  | setPromiscuousMode enable =>
      exact ⟨more, ⟨reqMode, library, plain, scanPromisc⟩, since.within, since.ntr, since.calls, since.scanIndex,
        since.visits, since.aged⟩
  | setChannel channel =>
      rw [step]
      split
      · exact ⟨more, since⟩
      · exact ⟨more, ⟨reqMode, library, promisc, scanPromisc⟩, since.within, since.ntr, since.calls, since.scanIndex,
          since.visits, since.aged⟩
  | transmitter event =>
      exact ⟨more, ⟨reqMode, library, promisc, scanPromisc⟩, since.within, since.ntr, since.calls, since.scanIndex,
        since.visits, since.aged⟩

theorem since_run {heardAt console : Console} {slot : Fin wifiMaxAp} {place : Fin scanlistSize} {more : List Note}
    {actions : List Action} (since : Since heardAt slot place console more)
    (plain : ∀ action ∈ actions, action.Plain) (apart : EachStep step (Apart slot) console actions) :
    ∃ next, Since heardAt slot place (run step console actions) next := by
  induction actions generalizing console more with
  | nil => exact ⟨more, since⟩
  | cons action rest ih =>
      obtain ⟨now, later⟩ := apart
      obtain ⟨next, after⟩ := since_step since (plain action List.mem_cons_self) now
      exact ih after (fun other member => plain other (List.mem_cons_of_mem _ member)) later

theorem or_and_self (flag more : UInt16) : (flag ||| more) &&& flag = flag := by
  rw [← UInt16.toBitVec_inj, UInt16.toBitVec_and, UInt16.toBitVec_or]
  ext i inside
  rw [BitVec.getElem_and, BitVec.getElem_or]
  cases flag.toBitVec[i] <;> simp

theorem fill_active (wfc : List (List UInt8)) (inAplist : Bool) (heard : Heard) (ap : Entry) :
    (AccessPoints.fill wfc inAplist heard ap).isActive = true := by
  have flags : ∃ more, (AccessPoints.fill wfc inAplist heard ap).flags = AccessPoints.apdataActive ||| more := by
    unfold AccessPoints.fill AccessPoints.saveSsid AccessPoints.heardFlags
    dsimp only
    cases heard.ssid with
    | none => exact ⟨_, by simp only [UInt16.or_assoc]; rfl⟩
    | some ssid =>
        dsimp only
        split
        · exact ⟨_, by simp only [UInt16.or_assoc]; rfl⟩
        · exact ⟨_, by simp only [UInt16.or_assoc]; rfl⟩
  obtain ⟨more, flags⟩ := flags
  rw [Entry.isActive, flags, or_and_self]
  decide

theorem fill_timectr (wfc : List (List UInt8)) (inAplist : Bool) (heard : Heard) (ap : Entry) :
    (AccessPoints.fill wfc inAplist heard ap).timectr = 0 := by
  unfold AccessPoints.fill AccessPoints.saveSsid
  cases heard.ssid <;> rfl

/-- An access point that is heard is in the list then, with nothing on its clock. -/
theorem heard_fresh (console : Console) (heard : Heard) :
    let ap := (step console (.heard true heard)).data.aplist (chooseSlot console.data.aplist heard.bssid).2
    ap.isActive = true ∧ ap.timectr = 0 ∧ ap.bssid = heard.bssid := by
  have takes := AccessPoints.chooseSlot_takes console.data.aplist heard.bssid
  have written := congrFun (AccessPoints.accessPointAdd_aplist takes) (chooseSlot console.data.aplist heard.bssid).2
  rw [Function.update_self] at written
  dsimp only [step]
  rw [written]
  exact ⟨fill_active _ _ _ _, fill_timectr _ _ _ _, AccessPoints.fill_bssid takes console.data.wfc⟩

/-- The radio is on the channel that the scan has come to last. -/
def Tuned (console : Console) (place : Fin scanlistSize) : Prop :=
  console.scanIndex = nextScanIndex place ∧ console.curChannel = scanlist[place]

/-- A scan that is tuned once it has changed the channel, which it had done `first` times. -/
structure Tracked (first : Nat) (console : Console) : Prop where
  hopping : Hopping console
  within : console.probeIndex ≤ (asked console).length
  ntr : console.data.dsiMode = false
  tuned : first < hops console.calls → ∃ place, Tuned console place

theorem tracked_update {first : Nat} {console : Console} (tracked : Tracked first console) (now : UInt16) :
    Tracked first (scanUpdate console now) := by
  obtain ⟨⟨reqMode, library, promisc, scanPromisc⟩, within, ntr, tuned⟩ := tracked
  rw [scanUpdate_hopping ⟨reqMode, library, promisc, scanPromisc⟩ within]
  split
  · cases turns : (asked console)[console.probeIndex]? with
    | some notes =>
        obtain ⟨inside, _⟩ := List.getElem?_eq_some_iff.mp turns
        have quiet := hops_quiet (asked_quiet (List.mem_of_getElem? turns))
        refine ⟨⟨reqMode, library, promisc, scanPromisc⟩, Nat.succ_le_of_lt inside, ntr, fun more => ?_⟩
        dsimp only at more
        rw [hops_append, quiet] at more
        exact tuned more
    | none =>
        dsimp only
        rw [changeChannel_eq]
        exact ⟨⟨reqMode, library, promisc, scanPromisc⟩, Nat.zero_le _, ntr, fun _ => ⟨console.scanIndex, rfl, rfl⟩⟩
  · exact ⟨⟨reqMode, library, promisc, scanPromisc⟩, within, ntr, tuned⟩

theorem tracked_step {first : Nat} {console : Console} {action : Action} (tracked : Tracked first console)
    (plain : action.Plain) : Tracked first (step console action) := by
  obtain ⟨⟨reqMode, library, promisc, scanPromisc⟩, within, ntr, tuned⟩ := tracked
  cases action with
  | update now => exact tracked_update ⟨⟨reqMode, library, promisc, scanPromisc⟩, within, ntr, tuned⟩ now
  | heard acquired heard =>
      have same := @asked_eq console (step console (.heard acquired heard)) rfl
        (accessPointAdd_wfc acquired heard console.data) rfl
      refine ⟨⟨reqMode, library, promisc, scanPromisc⟩, same ▸ within, ?_, tuned⟩
      rw [step, accessPointAdd]
      cases acquired with
      | false => exact ntr
      | true => exact ntr
  | setPromiscuousMode enable => exact ⟨⟨reqMode, library, plain, scanPromisc⟩, within, ntr, tuned⟩
  | setChannel channel =>
      rw [step]
      split
      · exact ⟨⟨reqMode, library, promisc, scanPromisc⟩, within, ntr, tuned⟩
      · exact ⟨⟨reqMode, library, promisc, scanPromisc⟩, within, ntr, tuned⟩
  | transmitter event => exact ⟨⟨reqMode, library, promisc, scanPromisc⟩, within, ntr, tuned⟩

theorem tracked_run {first : Nat} {console : Console} {actions : List Action} (tracked : Tracked first console)
    (plain : ∀ action ∈ actions, action.Plain) : Tracked first (run step console actions) := by
  induction actions generalizing console with
  | nil => exact tracked
  | cons action rest ih =>
      exact ih (tracked_step tracked (plain action List.mem_cons_self))
        fun other member => plain other (List.mem_cons_of_mem _ member)

/-- An access point that is heard by a scan that has changed the channel: from then until its
slot is written again it is in the list as long as the channel was changed at most 27 times
more, and the channel that the radio was on comes back with every thirteenth change. It can
be missed there twice. -/
theorem listed_iff (console : Console) (now : UInt16) (requested : console.driver.reqMode = .scan)
    (library : console.driver.curLibraryMode = console.driver.reqLibraryMode) (promisc : console.promisc = false)
    (ntr : console.data.dsiMode = false) (before : List Action) (plainBefore : ∀ action ∈ before, action.Plain)
    (changed : hops console.calls < hops (run step (scanStart console now) before).calls) (heard : Heard)
    (actions : List Action) (plain : ∀ action ∈ actions, action.Plain)
    (apart : EachStep step
      (Apart (chooseSlot (run step (scanStart console now) before).data.aplist heard.bssid).2)
      (step (run step (scanStart console now) before) (.heard true heard)) actions) :
    let hearing := run step (scanStart console now) before
    let slot := (chooseSlot hearing.data.aplist heard.bssid).2
    let after := run step hearing (.heard true heard :: actions)
    ∃ more, after.calls = hearing.calls ++ more ∧
      visits hearing.curChannel more = hops more / scanlistSize ∧
      ((after.data.aplist slot).isActive = true ↔ hops more ≤ 2 * scanlistSize + 1) ∧
      (after.data.aplist slot).bssid = heard.bssid := by
  intro hearing slot after
  have first : Tracked (hops console.calls) (scanStart console now) :=
    ⟨⟨requested, library, promisc, promisc⟩, Nat.zero_le _, ntr, fun more => absurd more (Nat.lt_irrefl _)⟩
  obtain ⟨⟨reqMode, library, promisc, scanPromisc⟩, within, ntr, tuned⟩ := tracked_run first plainBefore
  -- the radio is still on the channel of the last change
  obtain ⟨place, next, channel⟩ := tuned changed
  obtain ⟨active, timectr, bssid⟩ := heard_fresh hearing heard
  have same := @asked_eq hearing (step hearing (.heard true heard)) rfl
    (accessPointAdd_wfc true heard hearing.data) rfl
  have start : Since (step hearing (.heard true heard)) slot place (step hearing (.heard true heard)) [] :=
    { hopping := ⟨reqMode, library, promisc, scanPromisc⟩
      within := same ▸ within
      ntr := ntr
      calls := (List.append_nil _).symm
      scanIndex := by
        have index := congrArg Fin.val next
        rw [nextScanIndex_val] at index
        exact index
      visits := rfl
      aged := ⟨rfl, by rw [if_pos (by decide)]; exact ⟨active, timectr⟩⟩ }
  obtain ⟨more, since⟩ := since_run start plain apart
  have visited := since.visits
  rw [← channel] at visited
  refine ⟨more, since.calls, visited, ?_, since.aged.1.trans bssid⟩
  -- the clock of the entry has counted the changes
  have counted := since.aged.2
  constructor
  · intro listed
    by_contra late
    rw [if_neg late] at counted
    exact absurd (listed.symm.trans counted) (by decide)
  · intro early
    rw [if_pos early] at counted
    exact counted.1

def neighbour : Heard where
  bssid := [2, 0, 0, 0, 0, 1]
  sa := [2, 0, 0, 0, 0, 1]
  ssid := some [0x48, 0x49]
  channel := 12
  rssi := none
  secType := .opened
  groupCryptType := .none
  pairCryptType := .none
  authType := 0
  compatible := true
  nintendo := none

/-- A console that looks for hosts, and changes the channel with every due update. -/
def roaming : Console :=
  { home with driver := { home.driver with
      curLibraryMode := .multiplayerClient, reqLibraryMode := .multiplayerClient } }

def thirteenHops : List Action := (List.range 13).map fun i => .update (UInt16.ofNat (4 + 2 * i))

theorem listed_iff_roaming :
    let hearing := run step (scanStart roaming 0) [.update 2]
    let slot := (chooseSlot hearing.data.aplist neighbour.bssid).2
    let after := run step hearing (.heard true neighbour :: thirteenHops)
    hearing.curChannel = 1 ∧ ∃ more, after.calls = hearing.calls ++ more ∧
      visits 1 more = hops more / scanlistSize ∧
      ((after.data.aplist slot).isActive = true ↔ hops more ≤ 2 * scanlistSize + 1) ∧
      (after.data.aplist slot).bssid = neighbour.bssid :=
  ⟨by decide, listed_iff roaming 0 rfl rfl rfl rfl [.update 2] (by simp [Action.Plain]) (by decide) neighbour thirteenHops
    (by simp [thirteenHops, Action.Plain]) (by simp [thirteenHops, List.range_succ, EachStep, Apart])⟩

end Dswifi.Scanning
