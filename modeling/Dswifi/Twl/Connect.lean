import Dswifi.AccessPointHistory
import Dswifi.CStrings

/-! The command that connects a DSi to an access point (arm7/twl/ath/wmi.twl.c). Its
SSID is copied as a string to a field that has no room for a terminator, in front of
the channel. -/

namespace Dswifi.Twl

open AccessPoints
open BeaconFrame (le16 le32)
open ByteMemory CStrings

/-- The SSID of an entry is followed by a zero. -/
structure Terminated (ap : Entry) : Prop where
  array : ap.ssid.length = 33
  short : ap.ssidLen.toNat ≤ 32
  ends : ap.ssid[ap.ssidLen.toNat]? = some 0

/-- WifiData->curAp, a copy of an entry of the list. -/
structure CurAp where
  entry : Entry
  terminated : Terminated entry
  mac : entry.bssid.length = 6

def CurAp.name (curAp : CurAp) : List UInt8 := curAp.entry.ssid.take curAp.entry.ssidLen.toNat

def apCrypt : CryptType → UInt8
  | .none => 1
  | .wep => 2
  | .tkip => 3
  | .aes => 4

def wifiChannelToMhz (channel : UInt8) : UInt32 :=
  if channel = 14 then 2484 else 2412 + (channel.toUInt32 - 1) * 5

/-- WMI_CONNECT_CSA_FOLLOW_BSS -/
def defaultWmiConnectCtrlFlags : UInt32 := 0x0020

/-- The places of the SSID and of the BSSID in wmi_params, and its size. -/
def paramsSsid : Nat := 8
def paramsBssid : Nat := 42
def paramsSize : Nat := 52

/-- From networkType to groupCryptoLen. -/
def connectFields (ap : Entry) : List UInt8 :=
  match ap.securityType with
  | .opened => [1, 1, 1, 1, 0, 1, 0]
  | .wep => [1, 2, 1, apCrypt .wep, 0, apCrypt .wep, 0]
  | .wpa | .wpa2 => [1, 1, 5, apCrypt ap.pairCryptType, 0, apCrypt ap.groupCryptType, 0]

/-- wmi_params as it is initialized. -/
def connectParams (ap : Entry) : List UInt8 :=
  connectFields ap ++ [ap.ssidLen] ++ List.replicate 32 0 ++ le16 (wifiChannelToMhz ap.channel).toUInt16 ++
    List.replicate 6 0 ++ le32 defaultWmiConnectCtrlFlags

/-- wmi_connect_cmd: what is sent with WMI_CONNECT_CMD. It is made in the same way for
every type of security; the keys of WEP have their own commands. -/
def wmiConnectCmd (stack : Memory) (ap : Entry) : List UInt8 :=
  let params := writeBytes stack 0 (connectParams ap)
  let params := strcpy params paramsSsid ap.ssid
  let params := writeBytes params paramsBssid ap.bssid
  readBytes params 0 paramsSize

/-- The access point is in the command, and every other field is as initialized. -/
structure Carries (ap : Entry) (name sent : List UInt8) : Prop where
  ssidLength : sent[7]? = some ap.ssidLen
  ssid : (sent.drop paramsSsid).take name.length = name
  channel : (sent.drop 40).take 2 = le16 (wifiChannelToMhz ap.channel).toUInt16
  bssid : (sent.drop paramsBssid).take 6 = ap.bssid
  others : sent.take 7 = connectFields ap ∧ sent.drop 48 = le32 defaultWmiConnectCtrlFlags

/-- The name is a string, and one of 32 bytes is not a string unless the byte behind it is
zero anyway. -/
structure IsString (ap : Entry) (name : List UInt8) : Prop where
  hidden : ∀ byte ∈ hidden name, byte = 0
  ends : (chars name).length = 32 → (wifiChannelToMhz ap.channel).toUInt16.toUInt8 = 0

theorem Terminated.saveSsid {ap : Entry} (terminated : Terminated ap) (wfc : List (List UInt8))
    (ssid : Option (List UInt8)) : Terminated (saveSsid wfc ssid ap) := by
  cases ssid with
  | none => exact terminated
  | some ssid =>
      have copied := length_copied ssid
      have short := (ssidLength_le ssid).2
      refine ⟨?_, short, ?_⟩
      · change (ssid.take (ssidLength ssid).toNat ++ [0] ++ ap.ssid.drop ((ssidLength ssid).toNat + 1)).length = 33
        rw [List.length_append, List.length_append, copied, List.length_drop, terminated.array,
          List.length_singleton]
        omega
      · change (ssid.take (ssidLength ssid).toNat ++ [0] ++ ap.ssid.drop ((ssidLength ssid).toNat + 1))[
          (ssidLength ssid).toNat]? = some 0
        rw [List.append_assoc, List.getElem?_append_right (le_of_eq copied), copied, Nat.sub_self]
        rfl

theorem Terminated.fill {ap : Entry} (terminated : Terminated ap) (wfc : List (List UInt8)) (inAplist : Bool)
    (heard : Heard) : Terminated (fill wfc inAplist heard ap) := by
  have saved (other : Entry) (ssid : other.ssid = ap.ssid) (length : other.ssidLen = ap.ssidLen) :
      Terminated (AccessPoints.saveSsid wfc heard.ssid other) := by
    refine Terminated.saveSsid ⟨?_, ?_, ?_⟩ wfc heard.ssid
    · rw [ssid, terminated.array]
    · rw [length]
      exact terminated.short
    · rw [ssid, length, terminated.ends]
  cases inAplist with
  | true => exact ⟨(saved _ (by rfl) (by rfl)).array, (saved _ (by rfl) (by rfl)).short, (saved _ (by rfl) (by rfl)).ends⟩
  | false => exact ⟨(saved _ (by rfl) (by rfl)).array, (saved _ (by rfl) (by rfl)).short, (saved _ (by rfl) (by rfl)).ends⟩

/-- Every entry of the list is terminated, whatever has been heard. -/
theorem terminated_run {start : WifiData} (terminated : ∀ i, Terminated (start.aplist i)) (events : List Event) :
    ∀ i, Terminated ((Runs.run step start events).aplist i) := by
  have kept : ∀ data event, (∀ i, Terminated (data.aplist i)) → ∀ i, Terminated ((step data event).aplist i) := by
    intro data event now i
    cases event with
    | add acquired heard =>
        cases acquired with
        | false => exact now i
        | true =>
            have takes := chooseSlot_takes data.aplist heard.bssid
            rw [step, accessPointAdd_aplist takes]
            by_cases chosen : i = (chooseSlot data.aplist heard.bssid).2
            · subst chosen
              rw [Function.update_self]
              exact (now _).fill data.wfc _ heard
            · rw [Function.update_of_ne chosen]
              exact now i
    | tick =>
        simp only [step, accessPointTick, tickEntry]
        split
        · exact ⟨(now i).array, (now i).short, (now i).ends⟩
        · exact now i
    | clearAll => exact ⟨(now i).array, (now i).short, (now i).ends⟩
  exact Runs.run_invariant kept start events terminated

/-- The address of what is heard has six bytes. -/
def Event.HasMac : Event → Prop
  | .add _ heard => heard.bssid.length = 6
  | _ => True

theorem mac_step {data : WifiData} {event : Event} (macs : ∀ i, (data.aplist i).bssid.length = 6)
    (told : Event.HasMac event) : ∀ i, ((step data event).aplist i).bssid.length = 6 := by
  intro i
  cases event with
  | add acquired heard =>
      cases acquired with
      | false => exact macs i
      | true =>
          have takes := chooseSlot_takes data.aplist heard.bssid
          rw [step, accessPointAdd_aplist takes]
          by_cases chosen : i = (chooseSlot data.aplist heard.bssid).2
          · subst chosen
            rw [Function.update_self, fill_bssid takes]
            exact told
          · rw [Function.update_of_ne chosen]
            exact macs i
  | tick =>
      simp only [step, accessPointTick, tickEntry]
      split <;> exact macs i
  | clearAll =>
      have mac := macs i
      simp only [step, clearAll, clearEntry, List.length_append, List.length_cons, List.length_nil, List.length_drop]
      omega

theorem mac_run {start : WifiData} (macs : ∀ i, (start.aplist i).bssid.length = 6) {events : List Event}
    (told : ∀ event ∈ events, Event.HasMac event) :
    ∀ i, ((Runs.run step start events).aplist i).bssid.length = 6 := by
  have admitted : Runs.EachStep step (fun _ event => Event.HasMac event) start events :=
    Runs.each_step_of_actions events (fun event member _ => told event member) start
  exact @Runs.run_invariant_of_guard _ _ step (fun data => ∀ i, (data.aplist i).bssid.length = 6) _
    (fun _ _ macs told => mac_step macs told) start events macs admitted

theorem Terminated.blank : Terminated {} := ⟨rfl, Nat.zero_le 32, rfl⟩

/-- An entry of the list, whatever has been heard since the console was switched on. -/
def CurAp.ofList (events : List Event) (told : ∀ event ∈ events, Event.HasMac event) (i : Fin wifiMaxAp) : CurAp where
  entry := (Runs.run step {} events).aplist i
  terminated := terminated_run (fun _ => .blank) events i
  mac := mac_run (fun _ => rfl) told i

theorem CurAp.ssid_eq (curAp : CurAp) : ∃ rest, curAp.entry.ssid = curAp.name ++ 0 :: rest := by
  have ends := curAp.terminated.ends
  obtain ⟨inside, zero⟩ := List.getElem?_eq_some_iff.mp ends
  refine ⟨curAp.entry.ssid.drop (curAp.entry.ssidLen.toNat + 1), ?_⟩
  rw [name, ← zero, List.getElem_cons_drop, List.take_append_drop]

theorem CurAp.name_length (curAp : CurAp) : curAp.name.length = curAp.entry.ssidLen.toNat := by
  have short := curAp.terminated.short
  have array := curAp.terminated.array
  rw [name, List.length_take]
  omega

theorem padded_length {text : List UInt8} (short : text.length ≤ 32) :
    (text ++ List.replicate (32 - text.length) 0).length = 32 := by
  rw [List.length_append, List.length_replicate]
  omega

/-- The zero of a text of 32 bytes is written to the channel. -/
theorem strcpy_params {mem : Memory} {head bssid flags src : List UInt8} {low high : UInt8}
    (start : InPlace mem 0 (head ++ List.replicate 32 0 ++ [low, high] ++ List.replicate 6 0 ++ flags))
    (headSize : head.length = 8) (mac : bssid.length = 6) (short : (chars src).length ≤ 32) :
    InPlace (writeBytes (strcpy mem 8 src) 42 bssid) 0
      (head ++ (chars src ++ List.replicate (32 - (chars src).length) 0) ++
        [if (chars src).length = 32 then 0 else low, high] ++ bssid ++ flags) := by
  have field := padded_length short
  have string : (chars src ++ [0]).length = (chars src).length + 1 := List.length_append
  rw [inPlace_append, inPlace_append, inPlace_append, inPlace_append] at start ⊢
  simp only [List.length_append, List.length_replicate, List.length_cons, List.length_nil, headSize, mac,
    Nat.zero_add] at start ⊢
  obtain ⟨⟨⟨⟨front, blank⟩, channel⟩, -⟩, behind⟩ := start
  have kept {pos : Nat} {part : List UInt8} (there : InPlace mem pos part)
      (apart : pos + part.length ≤ 8 ∨ 8 + (chars src).length + 1 ≤ pos)
      (apart' : pos + part.length ≤ 42 ∨ 48 ≤ pos) :
      InPlace (writeBytes (strcpy mem 8 src) 42 bssid) pos part :=
    (there.writeBytes (by rw [string]; omega)).writeBytes (by rw [mac]; omega)
  have copied : InPlace (strcpy mem 8 src) 8 (chars src ++ [0]) := writeBytes_inPlace _ _ _
  have filled : InPlace (strcpy mem 8 src) 8 (chars src ++ List.replicate (32 - (chars src).length) 0) ∧
      InPlace (writeBytes (strcpy mem 8 src) 42 bssid) 40 [if (chars src).length = 32 then 0 else low, high] := by
    by_cases full : (chars src).length = 32
    · obtain ⟨text, zero⟩ := inPlace_append.mp copied
      rw [full] at zero
      have high' := (inPlace_append.mp (show InPlace mem (8 + 32) ([low] ++ [high]) from channel)).2
      rw [if_pos full, full, Nat.sub_self, List.replicate_zero, List.append_nil]
      refine ⟨text, inPlace_append.mpr ⟨zero.writeBytes (.inl ?_), kept high' ?_ (.inl ?_)⟩⟩
      all_goals simp only [List.length_cons, List.length_nil]; omega
    · rw [if_neg full]
      exact ⟨strcpy_short blank (by omega), kept channel (by omega) (.inl le_rfl)⟩
  rw [Nat.add_sub_cancel' short]
  refine ⟨⟨⟨⟨kept front (by omega) (by omega), ?_⟩, ?_⟩, ?_⟩, ?_⟩
  · exact filled.1.writeBytes (.inl (by rw [field]; decide))
  · exact filled.2
  · exact writeBytes_inPlace _ _ _
  · exact kept behind (by omega) (by omega)

theorem connectFields_length (ap : Entry) : (connectFields ap).length = 7 := by
  rw [connectFields]
  split <;> rfl

/-- What is sent. -/
theorem wmiConnectCmd_eq (curAp : CurAp) (stack : Memory) :
    let text := chars curAp.name
    let mhz := (wifiChannelToMhz curAp.entry.channel).toUInt16
    wmiConnectCmd stack curAp.entry =
      connectFields curAp.entry ++ [curAp.entry.ssidLen] ++ (text ++ List.replicate (32 - text.length) (0 : UInt8)) ++
        [if text.length = 32 then 0 else mhz.toUInt8, (mhz >>> 8).toUInt8] ++ curAp.entry.bssid ++
        le32 defaultWmiConnectCtrlFlags := by
  intro text mhz
  have copied : chars curAp.entry.ssid = text := by
    obtain ⟨rest, ssid⟩ := curAp.ssid_eq
    rw [ssid, chars_append_zero]
  have short : text.length ≤ 32 := by
    have name := curAp.name_length
    have bound := curAp.terminated.short
    have fewer : text.length ≤ curAp.name.length := chars_length_le curAp.name
    omega
  have fields := connectFields_length curAp.entry
  have mac := curAp.mac
  have start := writeBytes_inPlace stack 0 (connectParams curAp.entry)
  rw [connectParams] at start
  have whole := @strcpy_params _ _ _ _ _ _ _ start (by rw [List.length_append, fields]; rfl) mac (by rwa [copied])
  rw [copied] at whole
  refine Eq.trans ?_ whole
  change readBytes _ 0 52 = readBytes _ 0 _
  refine congrArg (readBytes _ 0) ?_
  simp only [List.length_append, fields, mac, List.length_replicate, Nat.add_sub_cancel' short]
  rfl

/-- The fields of the command by their places. -/
theorem params_parts {sent front field mac flags : List UInt8} {len low high : UInt8}
    (made : sent = front ++ [len] ++ field ++ [low, high] ++ mac ++ flags) (frontSize : front.length = 7)
    (fieldSize : field.length = 32) (macSize : mac.length = 6) :
    sent[7]? = some len ∧ (∀ n ≤ 32, (sent.drop paramsSsid).take n = field.take n) ∧
      (sent.drop 40).take 2 = [low, high] ∧ (sent.drop paramsBssid).take 6 = mac ∧ sent.take 7 = front ∧
      sent.drop 48 = flags := by
  have drop (skipped rest : List UInt8) (size : Nat) (same : sent = skipped ++ rest) (length : skipped.length = size) :
      sent.drop size = rest := by rw [same, List.drop_left' length]
  have atSsid := drop (front ++ [len]) (field ++ [low, high] ++ mac ++ flags) 8 (by simp [made]) (by simp [frontSize])
  have atChannel := drop (front ++ [len] ++ field) ([low, high] ++ mac ++ flags) 40 (by simp [made])
    (by simp [frontSize, fieldSize])
  have atMac := drop (front ++ [len] ++ field ++ [low, high]) (mac ++ flags) 42 (by simp [made])
    (by simp [frontSize, fieldSize])
  have atFlags := drop (front ++ [len] ++ field ++ [low, high] ++ mac) flags 48 made
    (by simp [frontSize, fieldSize, macSize])
  refine ⟨?_, fun n inside => ?_, ?_, ?_, ?_, atFlags⟩
  · simp [made, frontSize]
  · rw [paramsSsid, atSsid, List.append_assoc, List.append_assoc, List.take_append_of_le_length (by omega)]
  · rw [atChannel]
    rfl
  · rw [paramsBssid, atMac, List.take_left' macSize]
  · simp only [made, List.append_assoc]
    exact List.take_left' frontSize

theorem connect_carries_iff (curAp : CurAp) (stack : Memory) :
    Carries curAp.entry curAp.name (wmiConnectCmd stack curAp.entry) ↔ IsString curAp.entry curAp.name := by
  have mac := curAp.mac
  have nameLength := curAp.name_length
  have short := curAp.terminated.short
  have fewer := chars_length_le curAp.name
  have fields := connectFields_length curAp.entry
  have padded := @take_padded curAp.name (32 - (chars curAp.name).length) (by omega)
  have field := @padded_length (chars curAp.name) (by omega)
  have sent := wmiConnectCmd_eq curAp stack
  dsimp only at sent
  obtain ⟨length, ssid, channel, bssid, front, flags⟩ := params_parts sent fields field mac
  have whole := ssid curAp.name.length (by omega)
  constructor
  · intro carries
    refine ⟨padded.mp (whole.symm.trans carries.ssid), fun full => ?_⟩
    have pair := channel.symm.trans carries.channel
    rw [if_pos full] at pair
    exact (List.cons.inj pair).1.symm
  · intro string
    refine ⟨length, whole.trans (padded.mpr string.hidden), channel.trans ?_, bssid, front, flags⟩
    rw [le16]
    refine congrArg (· :: _) ?_
    split
    · rename_i full
      exact (string.ends full).symm
    · rfl

/-- The entry of an open access point on channel 1 whose name is as long as it may be, when
it is the first that is heard. -/
def longName : CurAp :=
  let heard : Heard :=
    { bssid := [2, 0, 0, 0, 0, 1], sa := [2, 0, 0, 0, 0, 1], ssid := some (List.replicate 32 65), channel := 1
      rssi := none, secType := .opened, groupCryptType := .none, pairCryptType := .none, authType := authNone
      compatible := true, nintendo := none }
  .ofList [.add true heard] (by simp [Event.HasMac, heard]) ⟨0, by decide⟩

/-- The terminator of a name of 32 bytes replaces half of the frequency. -/
theorem long_name_off_channel : ¬∀ (curAp : CurAp) (stack : Memory),
    Carries curAp.entry curAp.name (wmiConnectCmd stack curAp.entry) := by
  intro all
  exact absurd (all longName fun _ => 0).channel (by decide +kernel)

end Dswifi.Twl
