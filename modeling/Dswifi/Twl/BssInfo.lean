import Dswifi.AccessPointHistory
import Dswifi.BeaconReads

/-! The events of the DSi card that tell of an access point (arm7/twl/ath/wmi.twl.c),
and which bytes of one are looked at. -/

namespace Dswifi.Twl

open ByteMemory Reading
open AccessPoints (CryptType AuthType Heard authNone)
open Beacon (fieIdVendor)
open BeaconFrame (ApSecurity be32 half fieIdSsid fieIdRsn capsPrivacy starts suiteCount)

def ieeeCryptTkip : UInt32 := 0x000FAC02
def ieeeCryptAesCcmp : UInt32 := 0x000FAC04
def ieeeAuthPsk : UInt32 := 0x000FAC02

/-- sizeof(wmi_bss_info_hdr) -/
def bssInfoHdrSize : Nat := 16

/-- sizeof(wmi_bss_info_frame_hdr) -/
def bssInfoFrameHdrSize : Nat := 12

def wmiIeeeToCrypt (ieee : UInt32) : CryptType :=
  if ieee = ieeeCryptTkip then .tkip else if ieee = ieeeCryptAesCcmp then .aes else .none

def wifiMhzToChannel (mhz : UInt32) : UInt32 := if mhz = 2484 then 14 else 1 + (mhz - 2412) / 5

/-- What the elements have told so far. -/
structure BssFound where
  ssid : List UInt8 := []
  secType : ApSecurity
  groupCrypto : CryptType := .none
  pairCrypto : CryptType := .none
  authType : AuthType := authNone
  deriving DecidableEq, Repr

/-- The two loops over suites. Each stops behind a suite that is good enough. -/
def bssSuites {Suite : Type} (meaning : UInt32 → Suite) (enough : UInt32 → Bool) : Nat → Nat → Suite → Reading Suite
  | 0, _, said => pure said
  | more + 1, pos, _ => do
    let suite ← bytes pos 4
    if enough (be32 suite) then pure (meaning (be32 suite))
    else bssSuites meaning enough more (pos + 4) (meaning (be32 suite))

def isAes (cipher : UInt32) : Bool := wmiIeeeToCrypt cipher = .aes

def pairSuites : Nat → Nat → CryptType → Reading CryptType := bssSuites wmiIeeeToCrypt isAes

def isPsk (auth : UInt32) : Bool := auth = ieeeAuthPsk

def authSuites : Nat → Nat → AuthType → Reading AuthType := bssSuites UInt32.toUInt8 isPsk

/-- An RSN element. Its length is not looked at. -/
def bssRsn (readPtr : Nat) (found : BssFound) : Reading BssFound := do
  let version ← half readPtr
  if version ≠ 1 then pure { found with secType := .wpa2 }
  else
    let groupCipher ← bytes (readPtr + 2) 4
    let numPairwise ← half (readPtr + 6)
    let numPairwise := min numPairwise.toNat 4
    let pairCrypto ← pairSuites numPairwise (readPtr + 8) found.pairCrypto
    let numAuthkey ← half (readPtr + 8 + 4 * numPairwise)
    let authType ← authSuites (min numAuthkey.toNat 4) (readPtr + 10 + 4 * numPairwise) found.authType
    pure { found with
      secType := if pairCrypto = .tkip then .wpa else .wpa2
      groupCrypto := wmiIeeeToCrypt (be32 groupCipher)
      pairCrypto, authType }

def bssElement (id : UInt8) (len readPtr : Nat) (found : BssFound) : Reading BssFound :=
  if id = fieIdSsid then do
    let first ← byte readPtr
    if first > 0 then
      let ssid ← bytes readPtr (min len 32)
      pure { found with ssid }
    else pure found
  else if id = fieIdVendor then pure found
  else if id = fieIdRsn then bssRsn readPtr found
  else pure found

/-- The loop over the elements. What is left is a signed number. -/
def bssElements : Nat → Int → Nat → BssFound → Reading BssFound
  | 0, _, _, found => pure found
  | fuel + 1, dataLeft, readPtr, found =>
    if dataLeft > 0 then do
      let id ← byte readPtr
      let len ← byte (readPtr + 1)
      let found ← bssElement id len.toNat (readPtr + 2) found
      bssElements fuel (dataLeft - 2 - len.toNat) (readPtr + 2 + len.toNat) found
    else pure found

/-- The length behind the headers, as an s32. -/
def bssDataLeft (len : UInt32) : Int := (len - 16 - 12).toInt32.toInt

/-- wmi_handle_bss_info, up to what it tells Wifi_AccessPointAdd. -/
def handleBssInfo (len : UInt32) (fuel : Nat) : Reading (Option Heard) :=
  if len.toNat ≤ bssInfoHdrSize + bssInfoFrameHdrSize then pure none else do
    let snr ← byte 3
    if snr < 0x10 then pure none
    else
      let capability ← half (bssInfoHdrSize + 10)
      let found ← bssElements fuel (bssDataLeft len) (bssInfoHdrSize + bssInfoFrameHdrSize)
        { secType := if capability &&& capsPrivacy ≠ 0 then .wep else .opened }
      let bssid ← bytes 6 6
      let channel ← half 0
      let rssi ← half 4
      pure (some {
        bssid
        sa := bssid
        ssid := some found.ssid
        channel := wifiMhzToChannel channel.toUInt32
        rssi := some rssi.toInt16
        secType := found.secType
        groupCryptType := found.groupCrypto
        pairCryptType := found.pairCrypto
        authType := found.authType
        compatible := true
        nintendo := none })

/-- There are fewer elements than bytes. -/
def wmiHandleBssInfo (len : UInt32) : Reading (Option Heard) := handleBssInfo len len.toNat

/-! What is looked at. -/

variable {mem : Memory} {limit : Nat}

def suiteAt (mem : Memory) (pos : Nat) : UInt32 := be32 (readBytes mem pos 4)

/-- The suites are in the event, up to one that is good enough. -/
def BssSuitesInside (limit : Nat) (mem : Memory) (enough : UInt32 → Bool) (count pos : Nat) : Prop :=
  ∀ i < count, (∀ k < i, enough (suiteAt mem (pos + 4 * k)) = false) → pos + 4 * i + 4 ≤ limit

/-- The version; in an element of version 1 the group cipher and the count of ciphers,
these, the count of key managements and these. At most four of each are used. -/
def BssRsnInside (limit : Nat) (mem : Memory) (pos : Nat) : Prop :=
  pos + 1 < limit ∧ ((half pos).value mem = 1 →
    pos + 7 < limit ∧
      BssSuitesInside limit mem isAes (min (suiteCount mem (pos + 6)) 4) (pos + 8) ∧
      pos + 9 + 4 * min (suiteCount mem (pos + 6)) 4 < limit ∧
      BssSuitesInside limit mem isPsk
        (min (suiteCount mem (pos + 8 + 4 * min (suiteCount mem (pos + 6)) 4)) 4)
        (pos + 10 + 4 * min (suiteCount mem (pos + 6)) 4))

/-- The first byte of an SSID is looked at even when it has none. -/
def BssSsidInside (limit : Nat) (mem : Memory) (pos len : Nat) : Prop :=
  pos < limit ∧ (0 < mem pos → pos + min len 32 ≤ limit)

def BssElementInside (limit : Nat) (mem : Memory) (id : UInt8) (len pos : Nat) : Prop :=
  (id = fieIdSsid → BssSsidInside limit mem pos len) ∧ (id = fieIdRsn → BssRsnInside limit mem pos)

theorem bssSuitesInside_succ {enough : UInt32 → Bool} {count pos : Nat} :
    BssSuitesInside limit mem enough (count + 1) pos ↔
      pos + 4 ≤ limit ∧ (enough (suiteAt mem pos) = false →
        BssSuitesInside limit mem enough count (pos + 4)) := by
  have shift (k : Nat) : pos + 4 * (k + 1) = pos + 4 + 4 * k := by omega
  rw [BssSuitesInside, BssSuitesInside, upTo_succ]
  simp only [shift, Nat.mul_zero, Nat.add_zero]

theorem within_bssSuites {Suite : Type} (meaning : UInt32 → Suite) (enough : UInt32 → Bool) (count pos : Nat)
    (said : Suite) :
    Within limit (bssSuites meaning enough count pos said) mem ↔ BssSuitesInside limit mem enough count pos := by
  induction count generalizing pos said with
  | zero => simp [bssSuites, BssSuitesInside]
  | succ count ih =>
      rw [bssSuitesInside_succ, bssSuites, within_bind, within_bytes, value_bytes, or_iff_right (by decide)]
      refine and_congr_right fun _ => ?_
      by_cases good : enough (suiteAt mem pos) = true
      · rw [if_pos (show enough (be32 (readBytes mem pos 4)) = true from good)]
        simp [good]
      · rw [if_neg (show ¬enough (be32 (readBytes mem pos 4)) = true from good), ih]
        simp [good]

theorem within_bssRsn (pos : Nat) (found : BssFound) :
    Within limit (bssRsn pos found) mem ↔ BssRsnInside limit mem pos := by
  rw [bssRsn, BssRsnInside, within_bind, BeaconFrame.within_half]
  refine and_congr_right fun _ => ?_
  by_cases known : (half pos).value mem = 1
  · have goes : ¬(half pos).value mem ≠ 1 := not_not.mpr known
    rw [if_neg goes]
    simp only [within_bind, within_bytes, BeaconFrame.within_half, pairSuites, authSuites, within_bssSuites,
      within_pure, and_true, known, true_imp_iff, suiteCount]
    constructor
    · rintro ⟨_, counted, pairs, also, auths⟩
      exact ⟨counted, pairs, by omega, auths⟩
    · rintro ⟨counted, pairs, also, auths⟩
      exact ⟨.inr (by omega), counted, pairs, by omega, auths⟩
  · have stops : (half pos).value mem ≠ 1 := known
    rw [if_pos stops]
    simp [known]

theorem within_bssElement (id : UInt8) (len pos : Nat) (found : BssFound) :
    Within limit (bssElement id len pos found) mem ↔ BssElementInside limit mem id len pos := by
  rw [BssElementInside, bssElement]
  by_cases name : id = fieIdSsid
  · subst name
    rw [if_pos rfl, within_bind, within_byte]
    have other : fieIdSsid ≠ fieIdRsn := by decide
    simp only [other, false_imp_iff, and_true, true_imp_iff, BssSsidInside]
    refine and_congr_right fun inside => ?_
    by_cases some : 0 < mem pos
    · rw [if_pos (show (byte pos).value mem > 0 from some)]
      simp only [within_bind, within_bytes, within_pure, and_true, some, true_imp_iff]
      omega
    · rw [if_neg (show ¬(byte pos).value mem > 0 from some)]
      simp [some]
  · rw [if_neg name]
    by_cases rsn : id = fieIdRsn
    · subst rsn
      rw [if_neg (by decide), if_pos rfl, within_bssRsn]
      simp [name]
    · rw [if_neg rsn, ite_self]
      simp [name, rsn]

/-- As long as what is left ends where the event does, the walk is over its elements. -/
theorem within_bssElements {fuel pos : Nat} {dataLeft : Int} (left : dataLeft = limit - pos) (found : BssFound) :
    Within limit (bssElements fuel dataLeft pos found) mem ↔
      ∀ start ∈ starts mem limit fuel pos, start + 1 < limit ∧
        BssElementInside limit mem (mem start) (mem (start + 1)).toNat (start + 2) := by
  induction fuel generalizing pos dataLeft found with
  | zero => simp [bssElements, starts]
  | succ fuel ih =>
      rw [bssElements, starts]
      by_cases past : pos ≥ limit
      · have none : ¬dataLeft > 0 := by omega
        rw [if_neg none, if_pos past]
        simp
      · have some : dataLeft > 0 := by omega
        have rest : dataLeft - 2 - (mem (pos + 1)).toNat = (limit : Int) - (pos + 2 + (mem (pos + 1)).toNat : Nat) := by
          omega
        rw [if_pos some, if_neg past, List.forall_mem_cons]
        simp only [within_bind, within_byte, value_byte, within_bssElement, ih rest]
        rw [← and_assoc, ← and_assoc]
        refine and_congr_left fun _ => and_congr_left fun _ => ?_
        omega

/-- More turns than there are bytes left change nothing. -/
theorem bssElements_enough {fuel pos : Nat} {dataLeft : Int} (enough : dataLeft ≤ fuel) (more : Nat)
    (found : BssFound) :
    bssElements (fuel + more) dataLeft pos found mem = bssElements fuel dataLeft pos found mem := by
  induction fuel generalizing pos dataLeft found with
  | zero =>
      have none : ¬dataLeft > 0 := not_lt.mpr enough
      cases more with
      | zero => rfl
      | succ more => simp only [bssElements, if_neg none]
  | succ fuel ih =>
      rw [show fuel + 1 + more = fuel + more + 1 by omega]
      simp only [bssElements]
      split
      · refine bind_congr (bind_congr (bind_congr ?_))
        exact ih (by simp only [value_byte]; omega) _
      · rfl

/-- Up to 2 GiB behind the headers the signed number is what is left, and beyond there
is nothing left. -/
theorem bssDataLeft_eq {len : UInt32} (long : 28 < len.toNat) :
    bssDataLeft len = if len.toNat < 2 ^ 31 + 28 then (len.toNat : Int) - 28 else (len.toNat : Int) - 28 - 2 ^ 32 := by
  have behind : (len - 16 - 12).toNat = len.toNat - 28 := by
    have first : (16 : UInt32) ≤ len := UInt32.le_iff_toNat_le.mpr (by change 16 ≤ _; omega)
    have headers : (len - 16).toNat = len.toNat - 16 := UInt32.toNat_sub_of_le _ _ first
    have second : (12 : UInt32) ≤ len - 16 := UInt32.le_iff_toNat_le.mpr (by rw [headers]; change 12 ≤ _; omega)
    rw [UInt32.toNat_sub_of_le _ _ second, headers]
    change len.toNat - 16 - 12 = _
    omega
  have signed : bssDataLeft len = (len - 16 - 12).toBitVec.toInt := rfl
  have bound := len.toNat_lt
  rw [signed, BitVec.toInt_eq_toNat_cond, UInt32.toNat_toBitVec, behind]
  split <;> split <;> omega

/-- The reading of an event ends after as many turns of the loop as it has bytes. -/
def BssEnds (len : UInt32) (mem : Memory) : Prop :=
  ∀ more, handleBssInfo len (len.toNat + more) mem = handleBssInfo len len.toNat mem

theorem bssInfo_ends (len : UInt32) (mem : Memory) : BssEnds len mem := by
  intro more
  rw [handleBssInfo, handleBssInfo]
  by_cases short : len.toNat ≤ bssInfoHdrSize + bssInfoFrameHdrSize
  · rw [if_pos short, if_pos short]
  · have fits : bssDataLeft len ≤ len.toNat := by
      rw [bssDataLeft_eq (Nat.lt_of_not_le short)]
      split <;> omega
    rw [if_neg short, if_neg short]
    refine bind_congr ?_
    split
    · rfl
    · exact bind_congr (bind_congr_first (bssElements_enough fits more _))

/-- What the parser asks of the elements of an event that it reads. -/
def BssInfoInside (len : UInt32) (mem : Memory) : Prop :=
  28 < len.toNat → len.toNat < 2 ^ 31 + 28 → 0x10 ≤ mem 3 →
    ∀ start ∈ starts mem len.toNat len.toNat 28, start + 1 < len.toNat ∧
      BssElementInside len.toNat mem (mem start) (mem (start + 1)).toNat (start + 2)

theorem bssElements_none {fuel pos : Nat} {dataLeft : Int} (none : dataLeft ≤ 0) (found : BssFound) :
    bssElements fuel dataLeft pos found = pure found := by
  cases fuel with
  | zero => rfl
  | succ fuel => rw [bssElements, if_neg (not_lt.mpr none)]

/-- The parser ends, and looks at bytes of the event only, exactly when what it asks of
each element lies in the event. -/
theorem bss_reads_inside_iff (len : UInt32) (mem : Memory) :
    BssEnds len mem ∧ Within len.toNat (wmiHandleBssInfo len) mem ↔ BssInfoInside len mem := by
  rw [and_iff_right (bssInfo_ends len mem), wmiHandleBssInfo, handleBssInfo, BssInfoInside]
  by_cases short : len.toNat ≤ bssInfoHdrSize + bssInfoFrameHdrSize
  · have none : ¬28 < len.toNat := not_lt.mpr short
    rw [if_pos short]
    simp [none]
  · have long : 28 < len.toNat := Nat.lt_of_not_le short
    rw [if_neg short, within_bind, within_byte]
    by_cases quiet : mem 3 < 0x10
    · rw [if_pos (show (byte 3).value mem < 0x10 from quiet)]
      simp only [within_pure, and_true]
      exact ⟨fun _ _ _ loud => absurd quiet (UInt8.not_lt.mpr loud), fun _ => by omega⟩
    · rw [if_neg (show ¬(byte 3).value mem < 0x10 from quiet)]
      simp only [within_bind, BeaconFrame.within_half, within_bytes, within_pure, and_true, long, true_imp_iff,
        UInt8.not_lt.mp quiet]
      have headers : 3 < len.toNat ∧ bssInfoHdrSize + 10 + 1 < len.toNat ∧ (6 = 0 ∨ 6 + 6 ≤ len.toNat) ∧
          0 + 1 < len.toNat ∧ 4 + 1 < len.toNat := by
        simp only [bssInfoHdrSize]
        omega
      simp only [headers, true_and, and_true]
      -- the data that is left is counted in a signed number, so a huge event has none
      by_cases positive : len.toNat < 2 ^ 31 + 28
      · simp only [positive, true_imp_iff]
        refine within_bssElements ?_ _
        rw [bssDataLeft_eq long, if_pos positive]
        rfl
      · have none : bssDataLeft len ≤ 0 := by
          have bound := len.toNat_lt
          rw [bssDataLeft_eq long, if_neg positive]
          omega
        rw [bssElements_none none]
        exact ⟨fun _ small => absurd small positive, fun _ => within_pure _⟩

/-- An event of 29 bytes: behind the headers there is the type of an element and
nothing else. -/
def cutOffEvent (i : Nat) : UInt8 := if i = 3 then 0x20 else 0

/-- The length of that element is read behind the event. -/
theorem reads_behind_event :
    ¬∀ (len : UInt32) (mem : Memory), BssEnds len mem ∧ Within len.toNat (wmiHandleBssInfo len) mem := by
  intro all
  have inside := (all 29 cutOffEvent).2 29 (by decide +kernel)
  exact absurd inside (by decide)

end Dswifi.Twl
