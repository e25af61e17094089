import Dswifi.Association
import Dswifi.BeaconReads
import Dswifi.BeaconRoundTrip

/-! What the console looks at of an association response (Wifi_ProcessAssocResponse of
arm7/ntr/ieee_802_11/association.c). The number of rates is taken from the frame, and
so is the place of everything in front of them. -/

namespace Dswifi.Association

open BeaconFrame (half hdrMgtBssid hdrMgtMacSize arrived within_half)
open ByteMemory Reading

/-- Whether the response is one of the access point, and what it says: the association
id and the rate that is handed to Wifi_NTR_SetupTransferOptions. -/
inductive Answer where
  | other
  | refused
  | joined (associationId : UInt16) (rate : UInt8)
  deriving DecidableEq, Repr

def is2Mbps (rate : UInt8) : Bool := rate &&& rateSpeedMask = rate2Mbps

/-- The rates, up to the first of 2 Mbit/s. -/
def readMaxRate : Reading UInt8 := do
  if (← byte (hdrMgtMacSize + 6)) = fieIdSupportedRates then
    let numRates ← byte (hdrMgtMacSize + 7)
    if ← anyByte is2Mbps numRates.toNat (hdrMgtMacSize + 8) then pure transferRate2Mbps
    else pure transferRate1Mbps
  else pure transferRate1Mbps

/-- Wifi_ProcessAssocResponse, up to what it does with the answer. -/
def readAssocResponse (macAddr bssid : List UInt8) : Reading Answer := do
  let da ← bytes hdrMgtDa 6
  if da ≠ macAddr then pure .other
  else
    let from_ ← bytes hdrMgtBssid 6
    if from_ ≠ bssid then pure .other
    else
      let statusCode ← half (hdrMgtMacSize + 2)
      if statusCode = statusSuccess then
        let associationId ← half (hdrMgtMacSize + 4)
        let rate ← readMaxRate
        pure (.joined associationId rate)
      else pure .refused

/-- What the driver does with the answer. -/
def Driver.answered (driver : Driver) : Answer → Driver
  | .other => driver
  | .refused =>
      if driver.realRates then
        sendOpenSystemAuthPacket { driver with realRates := false, authlevel := .disconnected }
      else { driver with authlevel := .error }
  | .joined associationId rate =>
      let driver := { driver with associationId, maxrate7 := rate }
      if driver.authlevel = .authenticated ∨ driver.authlevel = .deassociated then
        { driver with authlevel := .associated, authctr := 0 }
      else driver

variable {data : Memory} {limit : Nat}

theorem maxRate_eq (count pos : Nat) :
    maxRate data count pos =
      if (anyByte is2Mbps count pos).value data then transferRate2Mbps else transferRate1Mbps := by
  induction count generalizing pos with
  | zero => rfl
  | succ count ih =>
      rw [maxRate, anyByte, value_bind, value_byte, ih]
      simp only [is2Mbps, decide_eq_true_eq]
      split
      · rfl
      · rfl

theorem value_readMaxRate : readMaxRate.value data =
    if data (hdrMgtMacSize + 6) = fieIdSupportedRates then
      maxRate data (data (hdrMgtMacSize + 7)).toNat (hdrMgtMacSize + 8)
    else transferRate1Mbps := by
  rw [readMaxRate, value_bind, value_byte]
  split
  · rw [value_bind, value_byte, value_bind, maxRate_eq]
    split
    · rfl
    · rfl
  · rfl

/-- The driver does with a response what is done with the answer read from it. -/
theorem processAssocResponse_answered (driver : Driver) :
    processAssocResponse driver data =
      driver.answered ((readAssocResponse driver.macAddr driver.bssid).value data) := by
  rw [processAssocResponse, readAssocResponse, value_bind, value_bytes]
  split
  · rfl
  · rw [value_bind, value_bytes]
    split
    · rfl
    · rw [value_bind]
      split
      · simp only [value_bind, value_pure, value_readMaxRate]
        rfl
      · rfl

/-- What is looked at of a response: the status code; of a success the association id
and the byte behind it, and if that is the type of the rates, their number and the
rates up to the first of 2 Mbit/s. -/
structure ResponseInside (limit : Nat) (data : Memory) : Prop where
  status : hdrMgtMacSize + 4 ≤ limit
  element : (half (hdrMgtMacSize + 2)).value data = statusSuccess → hdrMgtMacSize + 7 ≤ limit
  rates : (half (hdrMgtMacSize + 2)).value data = statusSuccess →
    data (hdrMgtMacSize + 6) = fieIdSupportedRates →
      hdrMgtMacSize + 8 ≤ limit ∧ ∀ i < (data (hdrMgtMacSize + 7)).toNat,
        (∀ k < i, is2Mbps (data (hdrMgtMacSize + 8 + k)) = false) → hdrMgtMacSize + 8 + i < limit

theorem within_readAssocResponse {macAddr bssid : List UInt8} (ours : readBytes data hdrMgtDa 6 = macAddr)
    (theirs : readBytes data hdrMgtBssid 6 = bssid) :
    Within limit (readAssocResponse macAddr bssid) data ↔ ResponseInside limit data := by
  have size : hdrMgtMacSize = 24 := rfl
  have da : hdrMgtDa = 4 := rfl
  have bssidPos : hdrMgtBssid = 16 := rfl
  have sent : ¬(bytes hdrMgtDa 6).value data ≠ macAddr := not_not.mpr ours
  have known : ¬(bytes hdrMgtBssid 6).value data ≠ bssid := not_not.mpr theirs
  rw [readAssocResponse, within_bind, within_bytes, if_neg sent, within_bind, within_bytes, if_neg known,
    within_bind, within_half]
  by_cases success : (half (hdrMgtMacSize + 2)).value data = statusSuccess
  · rw [if_pos success, within_bind, within_half, within_bind, readMaxRate, within_bind, within_byte, value_byte]
    by_cases rates : data (hdrMgtMacSize + 6) = fieIdSupportedRates
    · rw [if_pos rates, within_bind, within_byte, value_byte, within_bind, within_anyByte]
      have chosen (found : Bool) : Within limit
          (if found then pure transferRate2Mbps else pure transferRate1Mbps : Reading UInt8) data := by
        split <;> exact within_pure _
      simp only [chosen, within_pure, and_true]
      constructor
      · rintro ⟨_, _, status, id, element, count, each⟩
        exact ⟨by omega, fun _ => by omega, fun _ _ => ⟨by omega, each⟩⟩
      · intro inside
        obtain ⟨count, each⟩ := inside.rates success rates
        exact ⟨by omega, by omega, by omega, by omega, by omega, by omega, each⟩
    · rw [if_neg rates]
      simp only [within_pure, and_true]
      constructor
      · rintro ⟨_, _, status, id, element⟩
        exact ⟨by omega, fun _ => by omega, fun _ same => absurd same rates⟩
      · intro inside
        have element := inside.element success
        omega
  · rw [if_neg success]
    simp only [within_pure, and_true]
    constructor
    · rintro ⟨_, _, status⟩
      exact ⟨by omega, fun same => absurd same success, fun same => absurd same success⟩
    · intro inside
      have status := inside.status
      omega

/-- The rate that is handed to Wifi_NTR_SetupTransferOptions. -/
def Answer.rate? : Answer → Option UInt8
  | .joined _ rate => some rate
  | _ => none

/-- The response is a success, and the element behind the fixed fields is one of rates
that has 2 Mbit/s among those in the frame. -/
def Lists2Mbps (frame : List UInt8) : Prop :=
  frame[hdrMgtMacSize + 2]? = some 0 ∧ frame[hdrMgtMacSize + 3]? = some 0 ∧
    frame[hdrMgtMacSize + 6]? = some fieIdSupportedRates ∧
    ∃ numRates, frame[hdrMgtMacSize + 7]? = some numRates ∧
      ∃ i < numRates.toNat, (frame[hdrMgtMacSize + 8 + i]?).any is2Mbps = true

/-- A buffer of so many bytes on the stack, with the start of a frame in it. -/
def copied (size : Nat) (frame : List UInt8) (stack : Memory) : Memory := arrived (frame.take size) stack

theorem copied_get {size : Nat} {frame : List UInt8} {stack : Memory} (i : Nat)
    (inside : i < min frame.length size) : frame[i]? = some (copied size frame stack i) := by
  rw [copied, arrived, List.getElem?_take_of_lt (by omega), List.getElem?_eq_getElem (by omega)]
  rfl

theorem copied_inPlace (size : Nat) (frame : List UInt8) (stack : Memory) (start : Nat) :
    InPlace (copied size frame stack) start ((frame.take size).drop start) := by
  have all : InPlace (copied size frame stack) 0 (frame.take size) :=
    BeaconFrame.arrived_inPlace (frame.take size) stack
  by_cases long : start ≤ (frame.take size).length
  · have behind := all.drop long
    rwa [Nat.zero_add] at behind
  · rw [List.drop_eq_nil_of_le (Nat.le_of_not_le long)]
    rfl

theorem half_zero (pos : Nat) : (half pos).value data = 0 ↔ data pos = 0 ∧ data (pos + 1) = 0 := by
  rw [half, value_bind, value_bind, value_pure, value_byte, value_byte]
  constructor
  · intro zero
    exact ⟨by rw [← @MacRam.lowHalf_pair (data pos) (data (pos + 1)), zero]; rfl,
      by rw [← @MacRam.highHalf_pair (data pos) (data (pos + 1)), zero]; rfl⟩
  · rintro ⟨low, high⟩
    rw [low, high]
    rfl

theorem readAssocResponse_success {macAddr bssid : List UInt8} (ours : readBytes data hdrMgtDa 6 = macAddr)
    (theirs : readBytes data hdrMgtBssid 6 = bssid)
    (success : (half (hdrMgtMacSize + 2)).value data = statusSuccess) :
    (readAssocResponse macAddr bssid).value data =
      .joined ((half (hdrMgtMacSize + 4)).value data) (readMaxRate.value data) := by
  have sent : ¬(bytes hdrMgtDa 6).value data ≠ macAddr := not_not.mpr ours
  have known : ¬(bytes hdrMgtBssid 6).value data ≠ bssid := not_not.mpr theirs
  rw [readAssocResponse, value_bind, if_neg sent, value_bind, if_neg known, value_bind, if_pos success]
  rfl

theorem selects_iff {macAddr bssid : List UInt8} (ours : readBytes data hdrMgtDa 6 = macAddr)
    (theirs : readBytes data hdrMgtBssid 6 = bssid) :
    ((readAssocResponse macAddr bssid).value data).rate? = some transferRate2Mbps ↔
      (half (hdrMgtMacSize + 2)).value data = statusSuccess ∧
        data (hdrMgtMacSize + 6) = fieIdSupportedRates ∧
        ∃ i < (data (hdrMgtMacSize + 7)).toNat, is2Mbps (data (hdrMgtMacSize + 8 + i)) = true := by
  by_cases success : (half (hdrMgtMacSize + 2)).value data = statusSuccess
  · rw [readAssocResponse_success ours theirs success, value_readMaxRate, Answer.rate?, Option.some_inj,
      maxRate_eq, ← value_anyByte]
    by_cases rates : data (hdrMgtMacSize + 6) = fieIdSupportedRates
    · rw [if_pos rates]
      simp only [success, rates, true_and]
      split
      · rename_i found
        simp [found]
      · rename_i missing
        simp only [missing]
        decide
    · rw [if_neg rates]
      simp only [rates, false_and, and_false, iff_false]
      decide
  · have sent : ¬(bytes hdrMgtDa 6).value data ≠ macAddr := not_not.mpr ours
    have known : ¬(bytes hdrMgtBssid 6).value data ≠ bssid := not_not.mpr theirs
    rw [readAssocResponse, value_bind, if_neg sent, value_bind, if_neg known, value_bind, if_neg success]
    simp [success, Answer.rate?]

/-- Of a response of the access point only bytes of the frame are looked at, and 2 Mbit/s
is selected when the response lists it, exactly when what is looked at is there. -/
theorem assoc_response_inside_iff {macAddr bssid frame : List UInt8} {stack : Memory}
    (ours : readBytes (copied 64 frame stack) hdrMgtDa 6 = macAddr)
    (theirs : readBytes (copied 64 frame stack) hdrMgtBssid 6 = bssid) :
    Within (min frame.length 64) (readAssocResponse macAddr bssid) (copied 64 frame stack) ∧
      (((readAssocResponse macAddr bssid).value (copied 64 frame stack)).rate? = some transferRate2Mbps ↔
        Lists2Mbps frame) ↔
    ResponseInside (min frame.length 64) (copied 64 frame stack) := by
  rw [within_readAssocResponse ours theirs]
  refine and_iff_left_of_imp fun inside => ?_
  have size : hdrMgtMacSize = 24 := rfl
  have status := inside.status
  have get := @copied_get 64 frame stack
  rw [selects_iff ours theirs, Lists2Mbps, statusSuccess, half_zero, get (hdrMgtMacSize + 2) (by omega),
    get (hdrMgtMacSize + 3) (by omega), Option.some_inj, Option.some_inj, and_assoc]
  refine and_congr_right fun low => and_congr_right fun high => ?_
  have success : (half (hdrMgtMacSize + 2)).value (copied 64 frame stack) = statusSuccess :=
    (half_zero _).mpr ⟨low, high⟩
  have element := inside.element success
  rw [get (hdrMgtMacSize + 6) (by omega), Option.some_inj]
  refine and_congr_right fun rates => ?_
  obtain ⟨count, each⟩ := inside.rates success rates
  rw [get (hdrMgtMacSize + 7) (by omega), search_inside get each]
  constructor
  · intro found
    exact ⟨_, rfl, found⟩
  · rintro ⟨_, same, found⟩
    cases same
    exact found

/-- A success for the console 1 of the access point 2, with these bytes behind the
association id. -/
def success (behind : List UInt8) : List UInt8 :=
  [0x10, 0, 0, 0] ++ List.replicate 6 1 ++ List.replicate 12 2 ++ [0, 0] ++ [0x21, 0, 0, 0, 1, 0xC0] ++ behind

/-- The rates of a frame that ends behind their number are read behind the frame. -/
theorem rates_behind_frame : ¬∀ (macAddr bssid frame : List UInt8) (stack : Memory),
    readBytes (copied 64 frame stack) hdrMgtDa 6 = macAddr →
    readBytes (copied 64 frame stack) hdrMgtBssid 6 = bssid →
    Within (min frame.length 64) (readAssocResponse macAddr bssid) (copied 64 frame stack) ∧
      (((readAssocResponse macAddr bssid).value (copied 64 frame stack)).rate? = some transferRate2Mbps ↔
        Lists2Mbps frame) := by
  intro all
  have inside := (all (List.replicate 6 1) (List.replicate 6 2) (success [1, 8]) (fun _ => 0)
    (by decide +kernel) (by decide +kernel)).1 32 (by decide +kernel)
  exact absurd inside (by decide)

theorem assoc_response_inside_two :
    ResponseInside (min (success [1, 2, 0x82, 0x84]).length 64) (copied 64 (success [1, 2, 0x82, 0x84]) fun _ => 0) ∧
      ((readAssocResponse (List.replicate 6 1) (List.replicate 6 2)).value
        (copied 64 (success [1, 2, 0x82, 0x84]) fun _ => 0)).rate? = some transferRate2Mbps := by
  have inside : ResponseInside (min (success [1, 2, 0x82, 0x84]).length 64)
      (copied 64 (success [1, 2, 0x82, 0x84]) fun _ => 0) :=
    ⟨by decide, fun _ => by decide, fun _ _ => ⟨by decide, by decide +kernel⟩⟩
  refine ⟨inside, ((assoc_response_inside_iff (by decide +kernel) (by decide +kernel)).mpr inside).2.mpr ?_⟩
  exact ⟨rfl, rfl, rfl, 2, rfl, 1, by decide, by decide⟩

end Dswifi.Association
