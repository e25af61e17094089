import Mathlib.Data.List.OfFn
import Dswifi.BeaconFrame
import Dswifi.Runs

/-! The name that the beacons of a session announce. Starting a beacon copies the
name of the firmware over the one it has just announced. -/

namespace Dswifi.BeaconFrame

open Runs

/-- The length and the characters of a name, as they are sent. -/
def nameBytes (name : Fin beaconNameChars → UInt16) (len : UInt8) : List UInt8 :=
  len :: (List.ofFn name).flatMap le16

/-- Where the length of the name is in what Wifi_BeaconStart queues. -/
def nameOfs (ssid : List UInt8) : Nat :=
  hdrTxSize + 24 + 12 + (ssid.length + 2) + 4 + 3 + 7 + 2 + Beacon.fieVendorNintendoHeader + 3

def announced (ssid frame : List UInt8) : List UInt8 :=
  (frame.drop (nameOfs ssid)).take (1 + 2 * beaconNameChars)

theorem nameBytes_length (name : Fin beaconNameChars → UInt16) (len : UInt8) :
    (nameBytes name len).length = 1 + 2 * beaconNameChars := by
  rw [nameBytes, List.length_cons, le16s_length, List.length_ofFn, Nat.add_comm]

theorem nameBytes_inj {first second : Fin beaconNameChars → UInt16} {len other : UInt8}
    (same : nameBytes first len = nameBytes second other) : first = second ∧ len = other := by
  injection same with length name
  exact ⟨List.ofFn_injective (le16s_injective name), length⟩

/-- What Wifi_BeaconStart queues, up to the name. -/
def beforeName (ssid : List UInt8) (gameId : UInt32) (shared : Shared) : List UInt8 :=
  txHeader ((dswifiBeacon ssid gameId shared).length + 4) ++ mgtHeader shared ++ fixedFields ++
    fieBytes (fieIdSsid, ssid) ++
    fieBytes (fieIdSupportedRates, [rateMandatory ||| rate2Mbps, rateMandatory ||| rate1Mbps]) ++
    fieBytes (Beacon.fieIdDsParamSet, [shared.reqChannel]) ++ fieBytes (fieIdTim, [0, 2, 0, 0, 0]) ++
    [Beacon.fieIdVendor, UInt8.ofNat (vendorHeader (beaconInfo gameId shared) ++ extraData shared).length] ++
    vendorHeader (beaconInfo gameId shared) ++
    [shared.curMaxClients + 1, 1, if shared.allowClients then 1 else 0]

theorem beforeName_length (ssid : List UInt8) (gameId : UInt32) (shared : Shared) :
    (beforeName ssid gameId shared).length = nameOfs ssid := by
  simp only [beforeName, List.length_append, txHeader_length, mgtHeader_length, fixedFields_length,
    fieBytes_length, vendorHeader_length, List.length_cons, List.length_nil, nameOfs]

theorem dswifiBeacon_split (ssid : List UInt8) (gameId : UInt32) (shared : Shared) :
    txHeader ((dswifiBeacon ssid gameId shared).length + 4) ++ dswifiBeacon ssid gameId shared =
      beforeName ssid gameId shared ++ (nameBytes shared.hostPlayerName shared.hostPlayerNameLen ++
        (List.ofFn shared.hostGameData).take (gameDataLen shared)) := by
  generalize header : txHeader ((dswifiBeacon ssid gameId shared).length + 4) = tx
  rw [beforeName, header, dswifiBeacon, dswifiFies]
  simp only [List.flatMap_cons, List.flatMap_nil, fieBytes, extraData, extraHeader, nameBytes,
    List.append_assoc, List.cons_append, List.nil_append, List.append_nil]

/-- A beacon announces the name that is in the shared memory when it is built. -/
theorem beaconStart_announces {personal : PersonalData} {ssid : Option (List UInt8)} {gameId : UInt32}
    {ring : RingBuffer.Buffer} {shared : Shared} {frame : List UInt8}
    (built : (beaconStart personal ssid gameId ring shared).1 = some frame) :
    announced (ssid.getD []) frame = nameBytes shared.hostPlayerName shared.hostPlayerNameLen := by
  obtain ⟨_, rfl⟩ := beaconStart_some built
  rw [announced, dswifiBeacon_split, List.drop_left' (beforeName_length ..), ← nameBytes_length,
    List.take_left]

theorem beaconStart_shared (personal : PersonalData) (ssid : Option (List UInt8)) (gameId : UInt32)
    (ring : RingBuffer.Buffer) (shared : Shared) :
    (beaconStart personal ssid gameId ring shared).2.hostPlayerName =
        (copyFirmwareName personal shared).hostPlayerName ∧
      (beaconStart personal ssid gameId ring shared).2.hostPlayerNameLen = shared.hostPlayerNameLen := by
  have kept : (beaconStartEx ssid (some (beaconInfo gameId shared)) ring shared).2.hostPlayerName =
        shared.hostPlayerName ∧
      (beaconStartEx ssid (some (beaconInfo gameId shared)) ring shared).2.hostPlayerNameLen =
        shared.hostPlayerNameLen := by
    simp only [beaconStartEx, beaconStartInternal]
    repeat' split
    all_goals exact ⟨rfl, rfl⟩
  refine ⟨?_, kept.2⟩
  funext i
  simp only [beaconStart, copyFirmwareName, kept.1]

/-- A call of the application. -/
inductive Call where
  | hostName (buffer : Fin beaconNameChars → UInt16) (len : UInt8)
  | gameData (data : Option (Nat → UInt8)) (size : Nat)
  | beaconStart (ssid : Option (List UInt8)) (gameId : UInt32) (ring : RingBuffer.Buffer)

/-- The shared memory, the name last given, the one of the firmware before that,
and whether a beacon was started since it was given. -/
structure Session where
  shared : Shared
  given : Fin beaconNameChars → UInt16
  givenLen : UInt8
  begun : Bool

namespace Session

def opened (personal : PersonalData) : Session where
  shared := initIpc personal
  given := (initIpc personal).hostPlayerName
  givenLen := (initIpc personal).hostPlayerNameLen
  begun := false

def step (personal : PersonalData) (session : Session) : Call → Session
  | .hostName buffer len =>
    { shared := multiplayerHostName buffer len session.shared
      given := buffer
      givenLen := len
      begun := false }
  | .gameData data size => { session with shared := multiplayerHostGameData data size session.shared }
  | .beaconStart ssid gameId ring =>
    { session with
      shared := (BeaconFrame.beaconStart personal ssid gameId ring session.shared).2
      begun := true }

/-- A beacon that this call builds announces the name last given. -/
def Announces (personal : PersonalData) (session : Session) : Call → Prop
  | .beaconStart ssid gameId ring =>
    ∀ frame, (BeaconFrame.beaconStart personal ssid gameId ring session.shared).1 = some frame →
      announced (ssid.getD []) frame = nameBytes session.given session.givenLen
  | _ => True

/-- The name starts with the characters of the firmware's. -/
def LikeFirmware (personal : PersonalData) (name : Fin beaconNameChars → UInt16) : Prop :=
  ∀ i : Fin beaconNameChars, i.val < min personal.nameLen.toNat beaconNameChars → name i = personal.name i

/-- A beacon is built once for a name that the firmware's would change. -/
def OncePerName (personal : PersonalData) (session : Session) : Call → Prop
  | .beaconStart ssid gameId ring =>
    (BeaconFrame.beaconStart personal ssid gameId ring session.shared).1.isSome → session.begun = true →
      LikeFirmware personal session.given
  | _ => True

/-- What is in the shared memory: the name given, under the firmware's once a
beacon was started. -/
structure Inv (personal : PersonalData) (session : Session) : Prop where
  len : session.shared.hostPlayerNameLen = session.givenLen
  fresh : session.begun = false → session.shared.hostPlayerName = session.given
  covered : session.begun = true → session.shared.hostPlayerName = fun i : Fin beaconNameChars =>
    if i.val < min personal.nameLen.toNat beaconNameChars then personal.name i else session.given i

theorem Inv.opened (personal : PersonalData) : Inv personal (opened personal) := ⟨rfl, fun _ => rfl, nofun⟩

theorem Inv.step {personal : PersonalData} (session : Session) (call : Call) (valid : Inv personal session) :
    Inv personal (session.step personal call) := by
  cases call with
  | hostName buffer len => exact ⟨rfl, fun _ => rfl, nofun⟩
  | gameData data size =>
      have kept : (multiplayerHostGameData data size session.shared).hostPlayerName =
            session.shared.hostPlayerName ∧
          (multiplayerHostGameData data size session.shared).hostPlayerNameLen =
            session.shared.hostPlayerNameLen := by
        unfold multiplayerHostGameData
        repeat' split
        all_goals exact ⟨rfl, rfl⟩
      exact ⟨kept.2.trans valid.len, fun fresh => kept.1.trans (valid.fresh fresh),
        fun begun => kept.1.trans (valid.covered begun)⟩
  | beaconStart ssid gameId ring =>
      obtain ⟨name, len⟩ := beaconStart_shared personal ssid gameId ring session.shared
      refine ⟨len.trans valid.len, nofun, fun _ => name.trans ?_⟩
      funext i
      simp only [copyFirmwareName]
      -- the name is only cut at its length, so what was there behind it stays
      by_cases copied : i.val < min personal.nameLen.toNat beaconNameChars
      · rw [if_pos copied, if_pos copied]
      · rw [if_neg copied, if_neg copied]
        cases begun : session.begun with
        | false => rw [valid.fresh begun]; rfl
        | true =>
            rw [valid.covered begun]
            exact if_neg copied

/-- The name in the shared memory is the one given when no beacon was started
since, or when the firmware's changes nothing in it. -/
theorem Inv.name_iff {personal : PersonalData} {session : Session} (valid : Inv personal session) :
    session.shared.hostPlayerName = session.given ↔
      (session.begun = true → LikeFirmware personal session.given) := by
  cases begun : session.begun with
  | false => simp [valid.fresh begun]
  | true =>
      rw [valid.covered begun]
      constructor
      · intro same _ i copied
        exact (congrFun same i).symm.trans (if_pos copied)
      · intro like
        funext i
        split
        · exact (like rfl i ‹_›).symm
        · rfl

theorem announces_iff {personal : PersonalData} (session : Session) (call : Call)
    (valid : Inv personal session) : Announces personal session call ↔ OncePerName personal session call := by
  cases call with
  | hostName buffer len => exact Iff.rfl
  | gameData data size => exact Iff.rfl
  | beaconStart ssid gameId ring =>
      simp only [Announces, OncePerName]
      rw [← valid.name_iff]
      cases built : (BeaconFrame.beaconStart personal ssid gameId ring session.shared).1 with
      | none => simp
      | some frame =>
          have announces := beaconStart_announces built
          constructor
          · intro all _
            exact (nameBytes_inj (announces.symm.trans (all frame rfl))).1
          · intro same other found
            rw [← Option.some.inj found, announces, same rfl, valid.len]

end Session

/-- In a session every beacon announces the name last given, or the firmware's if
none was, exactly when none is built from a name that an earlier start has put
the firmware's over and changed. -/
theorem beacons_announce (personal : PersonalData) (calls : List Call) :
    EachStep (Session.step personal) (Session.Announces personal) (Session.opened personal) calls ↔
      EachStep (Session.step personal) (Session.OncePerName personal) (Session.opened personal) calls :=
  each_step_iff_guard (fun session call valid _ => Session.Inv.step session call valid)
    Session.announces_iff _ calls (Session.Inv.opened personal)

/-- The name of the firmware is A, and the host calls itself X. -/
def firmwareA : PersonalData where
  nameLen := 1
  name := fun _ => 65

def announceTwice : List Call :=
  [.hostName (fun _ => 88) 1, .beaconStart none 0 { mem := fun _ => 0, read := 0, write := 0 },
    .beaconStart none 0 { mem := fun _ => 0, read := 0, write := 0 }]

/-- The second beacon of a name announces the firmware's. -/
theorem second_beacon_renames :
    ¬ EachStep (Session.step firmwareA) (Session.Announces firmwareA) (Session.opened firmwareA)
      announceTwice := by
  rintro ⟨_, _, announces, _⟩
  generalize before : Session.step firmwareA (Session.step firmwareA (Session.opened firmwareA)
    (.hostName (fun _ => 88) 1)) (.beaconStart none 0 { mem := fun _ => 0, read := 0, write := 0 }) =
      session at announces
  have queued : (beaconStart firmwareA none 0 { mem := fun _ => 0, read := 0, write := 0 }
      session.shared).1.isSome := by
    rw [← before]
    decide +kernel
  obtain ⟨frame, built⟩ := Option.isSome_iff_exists.mp queued
  have name := (nameBytes_inj ((beaconStart_announces built).symm.trans (announces frame built))).1
  have first := congrFun name ⟨0, by decide⟩
  rw [← before] at first
  exact absurd first (by decide +kernel)

end Dswifi.BeaconFrame
