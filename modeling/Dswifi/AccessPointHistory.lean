import Dswifi.AccessPoint
import Dswifi.BeaconReads
import Dswifi.KeyedSlots

/-! What an entry of the list of access points keeps of the one that was there
before, and which entries have a BSSID. -/

namespace Dswifi.AccessPoints

open BeaconFrame hiding ApCrypt ApAuth
open ByteMemory (Memory)
open Reading (value_bind value_pure value_byte value_bytes)
open KeyedSlots Runs

/-- The slot that is written for a BSSID: the first that has it, else the first that
is free, else the first of those that have been quiet for longest. -/
inductive Takes (aplist : ApList) (bssid : List UInt8) : Bool → Fin wifiMaxAp → Prop where
  | listed {i} (same : (aplist i).bssid = bssid) (first : ∀ j < i, (aplist j).bssid ≠ bssid) :
      Takes aplist bssid true i
  | free {i} (new : ∀ j, (aplist j).bssid ≠ bssid) (inactive : (aplist i).isActive = false)
      (first : ∀ j < i, (aplist j).isActive = true) : Takes aplist bssid false i
  | quiet {i} (new : ∀ j, (aplist j).bssid ≠ bssid) (full : ∀ j, (aplist j).isActive = true)
      (longest : ∀ j, (aplist j).timectr ≤ (aplist i).timectr)
      (first : ∀ j < i, (aplist j).timectr < (aplist i).timectr) : Takes aplist bssid false i

theorem Takes.place {aplist : ApList} {bssid : List UInt8} {inAplist : Bool} {i : Fin wifiMaxAp}
    (takes : Takes aplist bssid inAplist i) : Place Entry.bssid aplist bssid i := by
  cases takes with
  | listed same first => exact .inl ⟨same, first⟩
  | free new _ _ => exact .inr new
  | quiet new _ _ _ => exact .inr new

theorem Takes.unique {aplist : ApList} {bssid : List UInt8} {inAplist other : Bool} {i j : Fin wifiMaxAp}
    (takes : Takes aplist bssid inAplist i) (also : Takes aplist bssid other j) :
    other = inAplist ∧ j = i := by
  -- a slot is the first of its kind, and only one of the three kinds is there
  cases takes with
  | listed same first =>
      cases also with
      | listed again before =>
          refine ⟨rfl, le_antisymm (not_lt.mp fun less => before i less same) ?_⟩
          exact not_lt.mp fun less => first j less again
      | free new _ _ => exact absurd same (new i)
      | quiet new _ _ _ => exact absurd same (new i)
  | free new inactive first =>
      cases also with
      | listed again _ => exact absurd again (new j)
      | free _ idle before =>
          refine ⟨rfl, le_antisymm (not_lt.mp fun less => ?_) (not_lt.mp fun less => ?_)⟩
          · exact absurd (before i less) (by simp [inactive])
          · exact absurd (first j less) (by simp [idle])
      | quiet _ full _ _ => exact absurd (full i) (by simp [inactive])
  | quiet new full longest first =>
      cases also with
      | listed again _ => exact absurd again (new j)
      | free _ idle _ => exact absurd (full j) (by simp [idle])
      | quiet _ _ most before =>
          refine ⟨rfl, le_antisymm (not_lt.mp fun less => ?_) (not_lt.mp fun less => ?_)⟩
          · exact absurd (longest j) (UInt32.not_le.mpr (before i less))
          · exact absurd (most i) (UInt32.not_le.mpr (first j less))

/-! The loops. The slots that are still to come are all behind those that were
looked at. -/

/-- What the first loop has seen of the slots before `rest`. -/
structure Searched (aplist : ApList) (bssid : List UInt8) (rest : List (Fin wifiMaxAp))
    (chosenSlot : Option (Fin wifiMaxAp)) : Prop where
  new : ∀ j, j ∉ rest → (aplist j).bssid ≠ bssid
  none : chosenSlot = none → ∀ j, j ∉ rest → (aplist j).isActive = true
  some : ∀ i, chosenSlot = some i → i ∉ rest ∧ (aplist i).isActive = false ∧
    ∀ j < i, (aplist j).isActive = true

/-- The slots of `rest` are a last part of all slots. -/
def Remaining (rest : List (Fin wifiMaxAp)) : Prop := ∃ looked, looked ++ rest = List.finRange wifiMaxAp

theorem Remaining.before {i : Fin wifiMaxAp} {rest : List (Fin wifiMaxAp)} (remaining : Remaining (i :: rest))
    (j : Fin wifiMaxAp) : (j ∉ i :: rest ↔ j < i) ∧ (j ∉ rest ↔ j ≤ i) := by
  obtain ⟨looked, all⟩ := remaining
  have sorted : (looked ++ i :: rest).Pairwise (· < ·) := by
    rw [all]
    exact List.pairwise_lt_finRange wifiMaxAp
  have member : j ∈ looked ++ i :: rest := by
    rw [all]
    exact List.mem_finRange j
  obtain ⟨_, behind, below⟩ := List.pairwise_append.mp sorted
  have above := (List.pairwise_cons.mp behind).1
  rcases List.mem_append.mp member with looked | here
  · have less := below j looked i List.mem_cons_self
    have out : j ∉ i :: rest := fun later => absurd (below j looked j later) (lt_irrefl j)
    exact ⟨⟨fun _ => less, fun _ => out⟩,
      ⟨fun _ => less.le, fun _ later => out (List.mem_cons_of_mem i later)⟩⟩
  · rcases List.mem_cons.mp here with same | later
    · subst same
      refine ⟨⟨fun out => absurd here out, fun less => absurd less (lt_irrefl j)⟩,
        ⟨fun _ => le_rfl, fun _ later => absurd (above j later) (lt_irrefl j)⟩⟩
    · have more := above j later
      exact ⟨⟨fun out => absurd here out, fun less => absurd less more.asymm⟩,
        ⟨fun out => absurd later out, fun le => absurd more (not_lt.mpr le)⟩⟩

theorem Remaining.tail {i : Fin wifiMaxAp} {rest : List (Fin wifiMaxAp)} (remaining : Remaining (i :: rest)) :
    Remaining rest := by
  obtain ⟨looked, all⟩ := remaining
  exact ⟨looked ++ [i], by rw [List.append_assoc, List.singleton_append, all]⟩

theorem searchAplist_searched {aplist : ApList} {bssid : List UInt8} {rest : List (Fin wifiMaxAp)}
    {chosenSlot : Option (Fin wifiMaxAp)} (remaining : Remaining rest)
    (searched : Searched aplist bssid rest chosenSlot) :
    (∃ i, searchAplist aplist bssid rest chosenSlot = (true, some i) ∧ Takes aplist bssid true i) ∨
      ∃ chosen, searchAplist aplist bssid rest chosenSlot = (false, chosen) ∧
        Searched aplist bssid [] chosen := by
  induction rest generalizing chosenSlot with
  | nil => exact .inr ⟨chosenSlot, rfl, searched⟩
  | cons i rest ih =>
      have before := remaining.before
      by_cases same : (aplist i).bssid = bssid
      · refine .inl ⟨i, by rw [searchAplist, if_pos same], .listed same fun j less => ?_⟩
        exact searched.new j ((before j).1.mpr less)
      · rw [searchAplist, if_neg same]
        refine ih remaining.tail ⟨fun j out => ?_, fun unset j out => ?_, fun slot set => ?_⟩
        · rcases ((before j).2.mp out).eq_or_lt with here | less
          · exact here ▸ same
          · exact searched.new j ((before j).1.mpr less)
        · -- a slot that is not active would have been kept
          cases kept : chosenSlot with
          | none =>
              cases active : (aplist i).isActive with
              | false => simp [active, kept] at unset
              | true =>
                  rcases ((before j).2.mp out).eq_or_lt with here | less
                  · exact here ▸ active
                  · exact searched.none kept j ((before j).1.mpr less)
          | some slot => simp [kept] at unset
        · cases kept : chosenSlot with
          | none =>
              cases active : (aplist i).isActive with
              | false =>
                  have here : i = slot := by simpa [active, kept] using set
                  subst here
                  exact ⟨(before i).2.mpr le_rfl, active, fun j less =>
                    searched.none kept j ((before j).1.mpr less)⟩
              | true => simp [active, kept] at set
          -- a slot that was kept before is left alone
          | some old =>
              have here : old = slot := by simpa [kept] using set
              subst here
              obtain ⟨out, facts⟩ := searched.some old kept
              exact ⟨fun later => out (List.mem_cons_of_mem i later), facts⟩

/-- What the second loop has seen: the first of the greatest counters so far. -/
structure Compared (aplist : ApList) (rest : List (Fin wifiMaxAp)) (maxTimectr : UInt32)
    (chosenSlot : Fin wifiMaxAp) : Prop where
  greatest : ∀ j, j ∉ rest → (aplist j).timectr ≤ maxTimectr
  reached : maxTimectr ≤ (aplist chosenSlot).timectr
  first : ∀ j < chosenSlot, (aplist j).timectr < maxTimectr

theorem longestQuiet_compared {aplist : ApList} {rest : List (Fin wifiMaxAp)} {maxTimectr : UInt32}
    {chosenSlot : Fin wifiMaxAp} (remaining : Remaining rest)
    (compared : Compared aplist rest maxTimectr chosenSlot) :
    ∃ longest, Compared aplist [] longest (longestQuiet aplist rest maxTimectr chosenSlot) := by
  induction rest generalizing maxTimectr chosenSlot with
  | nil => exact ⟨maxTimectr, compared⟩
  | cons i rest ih =>
      have before := remaining.before
      by_cases longer : (aplist i).timectr > maxTimectr
      · rw [longestQuiet, if_pos longer]
        refine ih remaining.tail ⟨fun j out => ?_, UInt32.le_refl _, fun j less => ?_⟩
        · rcases ((before j).2.mp out).eq_or_lt with here | less
          · exact here ▸ UInt32.le_refl _
          · exact UInt32.le_trans (compared.greatest j ((before j).1.mpr less)) (UInt32.le_of_lt longer)
        · exact UInt32.lt_of_le_of_lt (compared.greatest j ((before j).1.mpr less)) longer
      · rw [longestQuiet, if_neg longer]
        refine ih remaining.tail ⟨fun j out => ?_, compared.reached, compared.first⟩
        rcases ((before j).2.mp out).eq_or_lt with here | less
        · exact here ▸ UInt32.not_lt.mp longer
        · exact compared.greatest j ((before j).1.mpr less)

/-- The slot that Wifi_AccessPointAdd chooses. -/
theorem chooseSlot_takes (aplist : ApList) (bssid : List UInt8) :
    Takes aplist bssid (chooseSlot aplist bssid).1 (chooseSlot aplist bssid).2 := by
  have all : Remaining (List.finRange wifiMaxAp) := ⟨[], rfl⟩
  have none : ∀ j : Fin wifiMaxAp, j ∉ List.finRange wifiMaxAp → False :=
    fun j out => out (List.mem_finRange j)
  have start : Searched aplist bssid (List.finRange wifiMaxAp) Option.none :=
    ⟨fun j out => (none j out).elim, fun _ j out => (none j out).elim, nofun⟩
  rw [chooseSlot]
  rcases searchAplist_searched all start with ⟨i, found, takes⟩ | ⟨chosen, found, searched⟩
  · rw [found]
    exact takes
  · rw [found]
    have new := fun j => searched.new j List.not_mem_nil
    cases chosen with
    | some i =>
        obtain ⟨_, inactive, first⟩ := searched.some i rfl
        exact .free new inactive first
    | none =>
        -- every slot is active, and the one that was quiet for longest goes
        have zero : Compared aplist (List.finRange wifiMaxAp) 0 0 :=
          ⟨fun j out => (none j out).elim, UInt32.zero_le, fun j less => absurd less (Fin.not_lt_zero j)⟩
        obtain ⟨longest, compared⟩ := longestQuiet_compared all zero
        have most := fun j => compared.greatest j List.not_mem_nil
        exact .quiet new (fun j => searched.none rfl j List.not_mem_nil)
          (fun j => UInt32.le_trans (most j) compared.reached)
          fun j less => UInt32.lt_of_lt_of_le (compared.first j less) compared.reached

/-! What an entry shows. -/

/-- The SSID of an entry are the first `ssidLen` characters of the array. -/
structure Shown where
  ssid : List UInt8
  ssidLen : UInt8
  flags : UInt16
  channel : UInt8
  rssi : Int16
  securityType : ApSecurity
  groupCryptType : CryptType
  pairCryptType : CryptType
  authType : AuthType
  deriving DecidableEq, Repr

def shown (ap : Entry) : Shown where
  ssid := ap.ssid.take ap.ssidLen.toNat
  ssidLen := ap.ssidLen
  flags := ap.flags
  channel := ap.channel
  rssi := ap.rssi
  securityType := ap.securityType
  groupCryptType := ap.groupCryptType
  pairCryptType := ap.pairCryptType
  authType := ap.authType

/-- The SSID that fits the entry, empty when there is none. -/
def heardSsid (heard : Heard) : List UInt8 :=
  match heard.ssid with
  | none => []
  | some ssid => ssid.take (ssidLength ssid).toNat

/-- What was told, and nothing else. -/
def heardShown (wfc : List (List UInt8)) (heard : Heard) : Shown where
  ssid := heardSsid heard
  ssidLen := (heardSsid heard).length.toUInt8
  flags := if heard.ssid.isNone ∨ getWfcAccessPointIndex wfc (heardSsid heard) = none then heardFlags heard
    else heardFlags heard ||| apdataConfigInWfc
  channel := heard.channel.toUInt8
  rssi := heard.rssi.getD 0
  securityType := heard.secType
  groupCryptType := heard.groupCryptType
  pairCryptType := heard.pairCryptType
  authType := heard.authType

/-- What is not told was blank in the entry before. -/
structure BlankBefore (heard : Heard) (inAplist : Bool) (occupant : Entry) : Prop where
  ssid : heard.ssid = none → occupant.ssidLen = 0
  rssi : inAplist = true → heard.rssi = none → occupant.rssi = 0

theorem ssidLength_toNat (ssid : List UInt8) : (ssidLength ssid).toNat = min (ssid.length % 256) 32 := by
  have byte : ssid.length.toUInt8.toNat = ssid.length % 256 := UInt8.toNat_ofNat'
  rw [ssidLength]
  split
  · rename_i long
    have above : 32 < ssid.length.toUInt8.toNat := UInt8.lt_iff_toNat_lt.mp long
    rw [Nat.min_eq_right (by omega)]
    rfl
  · rename_i short
    have below : ¬32 < ssid.length.toUInt8.toNat := fun above => short (UInt8.lt_iff_toNat_lt.mpr above)
    omega

theorem ssidLength_le (ssid : List UInt8) :
    (ssidLength ssid).toNat ≤ ssid.length ∧ (ssidLength ssid).toNat ≤ 32 := by
  rw [ssidLength_toNat]
  omega

theorem length_copied (ssid : List UInt8) :
    (ssid.take (ssidLength ssid).toNat).length = (ssidLength ssid).toNat := by
  rw [List.length_take, Nat.min_eq_left (ssidLength_le ssid).1]

/-- What a filled entry shows that was not told comes from the entry before. -/
theorem shown_fill (wfc : List (List UInt8)) (inAplist : Bool) (heard : Heard) (occupant : Entry) :
    shown (fill wfc inAplist heard occupant) =
      { heardShown wfc heard with
        ssid := if heard.ssid = none then (shown occupant).ssid else heardSsid heard
        ssidLen := if heard.ssid = none then occupant.ssidLen else (heardSsid heard).length.toUInt8
        rssi := if inAplist then heard.rssi.getD occupant.rssi else heard.rssi.getD 0 } := by
  cases told : heard.ssid with
  | none => cases inAplist <;> simp [shown, fill, saveSsid, heardShown, told]
  | some ssid =>
      have text : heardSsid heard = ssid.take (ssidLength ssid).toNat := by rw [heardSsid, told]
      have length : (heardSsid heard).length.toUInt8 = ssidLength ssid := by
        rw [text, length_copied]
        exact UInt8.ofNat_toNat
      have front : ∀ rest, (ssid.take (ssidLength ssid).toNat ++ rest).take (ssidLength ssid).toNat =
          ssid.take (ssidLength ssid).toNat := fun rest => by
        rw [List.take_append_of_le_length (Nat.le_of_eq (length_copied ssid).symm), List.take_take,
          Nat.min_self]
      cases inAplist <;> simp only [shown, fill, saveSsid, told, front, List.append_assoc] <;>
        simp [heardShown, told, ← text, length]

theorem shown_fill_iff (wfc : List (List UInt8)) (inAplist : Bool) (heard : Heard) (occupant : Entry) :
    shown (fill wfc inAplist heard occupant) = heardShown wfc heard ↔ BlankBefore heard inAplist occupant := by
  have empty : heard.ssid = none → heardSsid heard = [] := fun none => by rw [heardSsid, none]
  rw [shown_fill]
  constructor
  · intro same
    refine ⟨fun none => ?_, fun there none => ?_⟩
    · have length := congrArg Shown.ssidLen same
      simpa [heardShown, none, empty none] using length
    · have rssi := congrArg Shown.rssi same
      simpa [heardShown, there, none] using rssi
  · rintro ⟨ssid, rssi⟩
    -- each field is the one of the occupant only where that was blank or the new one is told
    have name : (if heard.ssid = none then (shown occupant).ssid else heardSsid heard) = heardSsid heard := by
      split
      · rename_i none
        rw [empty none, shown, ssid none]
        rfl
      · rfl
    have length : (if heard.ssid = none then occupant.ssidLen else (heardSsid heard).length.toUInt8) =
        (heardSsid heard).length.toUInt8 := by
      split
      · rename_i none
        rw [empty none, ssid none]
        rfl
      · rfl
    have signal : (if inAplist then heard.rssi.getD occupant.rssi else heard.rssi.getD 0) =
        heard.rssi.getD 0 := by
      split
      · rename_i there
        cases told : heard.rssi with
        | none => exact rssi there told
        | some _ => rfl
      · rfl
    rw [name, length, signal]
    rfl

/-- One slot is written. -/
theorem accessPointAdd_aplist {data : WifiData} {heard : Heard} {inAplist : Bool} {i : Fin wifiMaxAp}
    (takes : Takes data.aplist heard.bssid inAplist i) :
    (accessPointAdd true heard data).aplist =
      Function.update data.aplist i (fill data.wfc inAplist heard (data.aplist i)) := by
  obtain ⟨found, slot⟩ := takes.unique (chooseSlot_takes data.aplist heard.bssid)
  simp only [accessPointAdd, found, slot, Bool.not_true]
  rfl

/-! The BSSIDs of the active entries. -/

def FirstActive (data : WifiData) : Prop := FirstLive Entry.bssid (·.isActive = true) data.aplist

theorem fill_bssid {aplist : ApList} {inAplist : Bool} {heard : Heard} {i : Fin wifiMaxAp}
    (takes : Takes aplist heard.bssid inAplist i) (wfc : List (List UInt8)) :
    (fill wfc inAplist heard (aplist i)).bssid = heard.bssid := by
  have saved : ∀ ap, (saveSsid wfc heard.ssid ap).bssid = ap.bssid := by
    intro ap
    cases heard.ssid <;> rfl
  rw [fill]
  dsimp only
  rw [saved]
  cases takes with
  | listed same _ => exact same
  | free _ _ _ => rfl
  | quiet _ _ _ _ => rfl

/-- No step gives two active entries one BSSID. -/
theorem firstActive_step {data : WifiData} (first : FirstActive data) (event : Event) :
    FirstActive (step data event) := by
  cases event with
  | add acquired heard =>
      cases acquired with
      | false => exact first
      | true =>
          have takes := chooseSlot_takes data.aplist heard.bssid
          rw [FirstActive, step, accessPointAdd_aplist takes]
          refine FirstLive.put first ?_
          rw [fill_bssid takes]
          exact takes.place
  | tick =>
      refine FirstLive.retire first (fun i => ?_) fun i active => ?_
      · simp only [step, accessPointTick, tickEntry]
        split <;> rfl
      · simp only [step, accessPointTick, tickEntry] at active
        split at active
        · assumption
        · exact active
  | clearAll => exact FirstLive.blank fun i => by simp [step, clearAll, clearEntry, Entry.isActive]

theorem firstActive_run {start : WifiData} (first : FirstActive start) (events : List Event) :
    FirstActive (run step start events) := by
  have kept : ∀ data event, FirstActive data → FirstActive (step data event) :=
    fun _ event now => firstActive_step now event
  exact run_invariant kept start events first

/-- An entry shows what was told of its access point and nothing of the one before
exactly when what was not told was blank; and at all times the active entries have
different BSSIDs. -/
theorem entries_of_history_iff (data : WifiData) (heard : Heard) :
    (∃ inAplist i, Takes data.aplist heard.bssid inAplist i ∧
      (∀ j ≠ i, (accessPointAdd true heard data).aplist j = data.aplist j) ∧
      (shown ((accessPointAdd true heard data).aplist i) = heardShown data.wfc heard ↔
        BlankBefore heard inAplist (data.aplist i))) ∧
      ∀ start events, (∀ i, (start.aplist i).isActive = false) →
        ∀ i j, ((run step start events).aplist i).isActive = true →
          ((run step start events).aplist j).isActive = true →
            ((run step start events).aplist i).bssid = ((run step start events).aplist j).bssid → i = j := by
  refine ⟨?_, fun start events inactive i j here there same => ?_⟩
  · have takes := chooseSlot_takes data.aplist heard.bssid
    refine ⟨_, _, takes, fun j other => ?_, ?_⟩
    · rw [accessPointAdd_aplist takes, Function.update_of_ne other]
    · rw [accessPointAdd_aplist takes, Function.update_self]
      exact shown_fill_iff _ _ _ _
  · have blank : FirstActive start := FirstLive.blank fun i => by simp [inactive i]
    exact FirstLive.unique (firstActive_run blank events) here there same

/-! What a frame leaves out. -/

/-- The parameters of Wifi_AccessPointAdd. -/
theorem parsed_fields {received : Received} {mem : Memory} {ap : AccessPoint}
    (parsed : (processBeaconOrProbeResponse received).value mem = some ap) :
    let found := (readFrame received received.datalen).value mem
    keeps received.curApScanFlags found = true ∧
      (ap.nintendo = if found.hasNintendoInfo then some found.info else none) ∧
      ap.ssid = (readSsid found.ptrSsid).value mem := by
  intro found
  rw [processBeaconOrProbeResponse, value_bind] at parsed
  by_cases kept : keeps received.curApScanFlags found = true
  · rw [if_pos kept] at parsed
    simp only [value_bind, value_pure, Option.some.injEq] at parsed
    exact ⟨kept, by rw [← parsed], by rw [← parsed]⟩
  · rw [if_neg kept] at parsed
    cases parsed

/-- There is no SSID exactly when the frame has no such element. -/
theorem ofBeacon_ssid {received : Received} {mem : Memory} {ap : AccessPoint}
    (parsed : (processBeaconOrProbeResponse received).value mem = some ap) :
    (ofBeacon ap).ssid = none ↔
      ∀ start ∈ starts mem received.datalen received.datalen (capsIndex + 2), mem start ≠ fieIdSsid := by
  have ssid : (ofBeacon ap).ssid = _ := (parsed_fields parsed).2.2
  rw [ssid, readFrame_ptrSsid]
  have absent : lastSsid mem received.datalen received.datalen (capsIndex + 2) = none ↔
      ∀ start ∈ starts mem received.datalen received.datalen (capsIndex + 2), mem start ≠ fieIdSsid := by
    rw [lastSsid, List.getLast?_eq_none_iff, List.filter_eq_nil_iff]
    simp only [decide_eq_true_eq]
  rw [← absent]
  cases last : lastSsid mem received.datalen received.datalen (capsIndex + 2) with
  | none => simp [readSsid]
  | some start =>
      rw [Option.getD_some, readSsid, if_neg (lastSsid_pos last)]
      simp

/-! An access point that names itself, and one that does not, long after it. -/

def scans (byteLength : Nat) : Received where
  byteLength
  rssi := 60
  curChannel := 1
  curApScanFlags := 7

/-- A beacon with the SSID "AB". -/
def namedBeacon (i : Nat) : UInt8 := if i = 37 then 2 else if i = 38 then 0x41 else if i = 39 then 0x42 else 0

/-- A beacon of another access point, without an SSID element. -/
def namelessBeacon (i : Nat) : UInt8 := if i = 16 then 3 else 0

def heardOf (received : Received) (frame : Memory) : List Heard :=
  (((processBeaconOrProbeResponse received).value frame).map ofBeacon).toList

/-- The first was heard once, and has not been since. -/
def afterNamed : WifiData :=
  run step {} ((heardOf (scans 40) namedBeacon).map (Event.add true) ++ List.replicate 28 Event.tick)

/-- The other is shown with the SSID of the first. -/
theorem ssid_of_previous_occupant :
    ¬∀ data heard, (∀ i, (data.aplist i).isActive = true → (data.aplist i).bssid ≠ heard.bssid) →
      ∀ inAplist i, Takes data.aplist heard.bssid inAplist i →
        shown ((accessPointAdd true heard data).aplist i) = heardShown data.wfc heard := by
  intro all
  have wrong : ∃ heard ∈ heardOf (scans 36) namelessBeacon,
      (∀ j, (afterNamed.aplist j).bssid ≠ heard.bssid) ∧ (afterNamed.aplist 0).isActive = false ∧
        shown ((accessPointAdd true heard afterNamed).aplist 0) ≠ heardShown afterNamed.wfc heard := by
    decide +kernel
  obtain ⟨heard, _, new, inactive, differs⟩ := wrong
  exact differs (all afterNamed heard (fun j _ => new j) false 0
    (.free new inactive fun j less => absurd less (Fin.not_lt_zero j)))

end Dswifi.AccessPoints
