import Dswifi.BeaconParse
import Dswifi.Runs

/-! Which bytes of the copied frame the parser of beacons and probe responses
looks at. An element that is cut off by the end of the frame is read as if it
went on behind it, up to where its contents stop the parser. -/

namespace Dswifi.BeaconFrame

open ByteMemory Reading
open Beacon (fieIdDsParamSet fieIdVendor fieVendorNintendoHeader)

variable {mem : Memory} {limit : Nat}

/-- A rate that the console would have to support ends the list. -/
def stopsRates (rate : UInt8) : Prop :=
  rate &&& rateMandatory ≠ 0 ∧ rate ≠ rateMandatory ||| rate1Mbps ∧ rate ≠ rateMandatory ||| rate2Mbps ∧
    rate ≠ rateMandatory ||| rate5_5Mbps ∧ rate ≠ rateMandatory ||| rate11Mbps

/-- The rates are in the frame, up to the first that ends the list. -/
def RatesInside (limit : Nat) (mem : Memory) (pos len : Nat) : Prop :=
  ∀ i < len, (∀ k < i, ¬stopsRates (mem (pos + k))) → pos + i < limit

/-- A text is in the frame, up to its first difference from what is expected. -/
def TextInside (limit : Nat) (mem : Memory) (pos : Nat) (text : List UInt8) : Prop :=
  ∀ i < text.length, readBytes mem pos i = text.take i → pos + i < limit

/-- The suites are in the frame, as many as are announced and as the element has
room for, up to the first of another organization. -/
def SuitesInside (limit : Nat) (mem : Memory) (magic : List UInt8) (last count pos : Nat) : Prop :=
  ∀ k < count, pos + k * (magic.length + 1) ≤ last →
    (∀ m < k, InPlace mem (pos + m * (magic.length + 1)) magic) →
      TextInside limit mem (pos + k * (magic.length + 1)) magic ∧
        (InPlace mem (pos + k * (magic.length + 1)) magic →
          pos + k * (magic.length + 1) + magic.length < limit)

theorem ratesInside_succ {pos len : Nat} : RatesInside limit mem pos (len + 1) ↔
    pos < limit ∧ (¬stopsRates (mem pos) → RatesInside limit mem (pos + 1) len) := by
  have shift (k : Nat) : pos + 1 + k = pos + (k + 1) := by omega
  rw [RatesInside, RatesInside, upTo_succ]
  simp only [shift, Nat.add_zero]

theorem within_rateSet (len pos : Nat) (compatible : Bool) :
    Within limit (rateSet len pos compatible) mem ↔ RatesInside limit mem pos len := by
  induction len generalizing pos compatible with
  | zero => simp [rateSet, RatesInside]
  | succ len ih =>
      rw [ratesInside_succ, rateSet, within_bind, within_byte, value_byte]
      refine and_congr_right fun _ => ?_
      split
      · rename_i slow
        rw [ih]
        exact ⟨fun all _ => all, fun all => all fun stops => by
          rcases slow with same | same <;> simp [stopsRates, same] at stops⟩
      · split
        · rename_i fast
          rw [ih]
          exact ⟨fun all _ => all, fun all => all fun stops => by
            rcases fast with same | same <;> simp [stopsRates, same] at stops⟩
        · rename_i slow fast
          obtain ⟨one, two⟩ := not_or.mp slow
          obtain ⟨five, eleven⟩ := not_or.mp fast
          split
          · rename_i mandatory
            simp [stopsRates, one, two, five, eleven, mandatory]
          · rename_i optional
            rw [ih]
            exact ⟨fun all _ => all, fun all => all fun stops => optional stops.1⟩

theorem suitesInside_succ {magic : List UInt8} {last count pos : Nat} :
    SuitesInside limit mem magic last (count + 1) pos ↔
      (pos ≤ last → TextInside limit mem pos magic ∧
        (InPlace mem pos magic → pos + magic.length < limit ∧
          SuitesInside limit mem magic last count (pos + magic.length + 1))) := by
  have shift (k : Nat) : pos + (k + 1) * (magic.length + 1) =
      pos + magic.length + 1 + k * (magic.length + 1) := by
    rw [Nat.succ_mul]
    omega
  constructor
  · intro all room
    have first := all 0 (Nat.succ_pos _) (by simpa using room) nofun
    simp only [Nat.zero_mul, Nat.add_zero] at first
    refine ⟨first.1, fun there => ⟨first.2 there, fun k below room before => ?_⟩⟩
    rw [← shift] at room ⊢
    refine all (k + 1) (Nat.succ_lt_succ below) room fun m small => ?_
    cases m with
    | zero => simpa using there
    | succ m =>
        rw [shift]
        exact before m (Nat.lt_of_succ_lt_succ small)
  · intro now k below room before
    obtain ⟨text, later⟩ := now (by omega)
    cases k with
    | zero => simpa using ⟨text, fun there => (later there).1⟩
    | succ k =>
        have there : InPlace mem pos magic := by simpa using before 0 (Nat.succ_pos _)
        rw [shift] at room ⊢
        refine (later there).2 k (Nat.lt_of_succ_lt_succ below) room fun m small => ?_
        rw [← shift]
        exact before (m + 1) (Nat.succ_lt_succ small)

theorem within_cipherSuites (magic : List UInt8) (last count pos : Nat) (secType : ApSecurity) :
    Within limit (cipherSuites magic last count pos secType) mem ↔
      SuitesInside limit mem magic last count pos := by
  induction count generalizing pos secType with
  | zero => simp [cipherSuites, SuitesInside]
  | succ count ih =>
      rw [suitesInside_succ, cipherSuites]
      by_cases room : pos ≤ last
      · rw [if_pos room, within_bind, within_startsWith, value_startsWith]
        simp only [room, true_imp_iff]
        refine and_congr_right fun text => ?_
        by_cases there : readBytes mem pos magic.length = magic
        · rw [if_pos (decide_eq_true there), within_bind, within_byte, ih]
          exact ⟨fun all _ => all, fun all => all there⟩
        · -- the loop stays at a suite of another organization
          rw [if_neg (by simpa using there), ih]
          refine ⟨fun _ same => absurd same there, fun _ k below room before => ?_⟩
          cases k with
          | zero => simpa using ⟨text, fun same => absurd same there⟩
          | succ k => exact absurd (by simpa [InPlace] using before 0 (Nat.succ_pos _)) there
      · rw [if_neg room]
        simp [room]

/-- The number of cipher suites that an element announces. -/
def suiteCount (mem : Memory) (pos : Nat) : Nat := ((half pos).value mem).toNat

@[simp] theorem within_half (pos : Nat) : Within limit (half pos) mem ↔ pos + 1 < limit := by
  simp only [half, within_bind, within_byte, within_pure, and_true]
  omega

theorem half_le16 {pos : Nat} {value : UInt16} (there : InPlace mem pos (le16 value)) : (half pos).value mem = value := by
  have low := there.byte (show 0 < 2 by decide)
  have high := there.byte (show 1 < 2 by decide)
  rw [half, value_bind, value_bind, value_pure, value_byte, value_byte, ← le16_joined value]
  exact congrArg₂ (fun low high : UInt8 => low.toUInt16 ||| high.toUInt16 <<< 8) low high

/-- An RSN element of version 1, its count of suites and the suites. -/
def RsnInside (limit : Nat) (mem : Memory) (pos len : Nat) : Prop :=
  10 ≤ len → TextInside limit mem pos [0x01, 0x00] ∧
    (InPlace mem pos [0x01, 0x00] → pos + 7 < limit ∧
      SuitesInside limit mem rsnMagic (pos + len - 4) (suiteCount mem (pos + 6)) (pos + 8))

theorem within_processRsn (pos len : Nat) (found : Found) :
    Within limit (processRsn pos len found) mem ↔ RsnInside limit mem pos len := by
  rw [processRsn, RsnInside]
  by_cases long : 10 ≤ len
  · rw [if_pos long, within_bind, within_startsWith, value_startsWith]
    simp only [long, true_imp_iff]
    refine and_congr_right fun _ => ?_
    by_cases version : readBytes mem pos [(0x01 : UInt8), 0x00].length = [0x01, 0x00]
    · rw [if_pos (decide_eq_true version)]
      simp only [within_bind, within_half, within_cipherSuites, within_pure, and_true]
      exact ⟨fun all _ => all, fun all => all version⟩
    · rw [if_neg (by simpa using version)]
      exact ⟨fun _ same => absurd same version, fun _ => within_pure _⟩
  · rw [if_neg long]
    simp [long]

/-- A WPA element, its count of suites and the suites. -/
def MicrosoftInside (limit : Nat) (mem : Memory) (pos len : Nat) : Prop :=
  pos + 11 < limit ∧ SuitesInside limit mem wpaMagic (pos + (len - 4)) (suiteCount mem (pos + 10)) (pos + 12)

/-- The header of an element of Nintendo up to the type of the beacon, and, of
a host that runs DSWifi, the extra data and the game data. -/
def NintendoInside (limit : Nat) (mem : Memory) (pos len : Nat) : Prop :=
  pos + 0x13 < limit ∧
    (mem (pos + 0x13) = 1 → dswifiExtraData ≤ (mem (pos + 0x12)).toNat →
      fieVendorNintendoHeader + dswifiExtraData ≤ len →
        pos + fieVendorNintendoHeader + dswifiExtraData + gameDataSize (mem (pos + 0x12)).toNat len ≤ limit)

theorem within_processNintendo (pos len : Nat) (found : Found) :
    Within limit (processNintendo pos len found) mem ↔ NintendoInside limit mem pos len := by
  rw [NintendoInside]
  simp only [processNintendo, within_bind, within_bytes, within_byte]
  by_cases multicart : mem (pos + 0x13) = 1
  · have goes : ¬(byte (pos + 0x13)).value mem ≠ 1 := not_not.mpr multicart
    rw [if_neg goes]
    simp only [within_bind, within_byte]
    by_cases short : (mem (pos + 0x12)).toNat < dswifiExtraData ∨
        len < fieVendorNintendoHeader + dswifiExtraData
    · rw [if_pos (show ((byte (pos + 0x12)).value mem).toNat < dswifiExtraData ∨ _ from short)]
      simp only [within_pure, and_true]
      constructor
      · intro inside
        exact ⟨inside.2.1, fun _ _ _ => by omega⟩
      · intro inside
        omega
    · rw [if_neg (show ¬(((byte (pos + 0x12)).value mem).toNat < dswifiExtraData ∨ _) from short)]
      simp only [processExtraData, within_bind, within_byte, within_bytes, within_pure, value_byte, and_true,
        multicart, true_imp_iff, fieVendorNintendoHeader, dswifiExtraData, beaconNameChars] at short ⊢
      omega
  · have stops : (byte (pos + 0x13)).value mem ≠ 1 := multicart
    rw [if_pos stops]
    simp only [within_pure, and_true, multicart, false_imp_iff]
    omega

/-- What is looked at of a vendor element depends on whose it is. -/
def VendorInside (limit : Nat) (mem : Memory) (pos len : Nat) : Prop :=
  (14 ≤ len → TextInside limit mem pos microsoftTag) ∧
    (14 ≤ len ∧ InPlace mem pos microsoftTag → MicrosoftInside limit mem pos len) ∧
    (fieVendorNintendoHeader ≤ len → ¬InPlace mem pos microsoftTag →
      TextInside limit mem pos nintendoTag ∧ (InPlace mem pos nintendoTag → NintendoInside limit mem pos len))

/-- The two tests of a vendor compare an element that is long enough. -/
theorem within_tag {long : Prop} [Decidable long] (text : List UInt8) (pos : Nat) :
    Within limit (if long then startsWith text pos else pure false) mem ↔
      (long → TextInside limit mem pos text) := by
  rw [within_guard, within_startsWith]
  exact Iff.rfl

theorem value_tag {long : Prop} [Decidable long] (text : List UInt8) (pos : Nat) :
    (if long then startsWith text pos else pure false).value mem = decide (long ∧ InPlace mem pos text) := by
  split
  · rename_i holds
    rw [value_startsWith]
    simp [holds, InPlace]
  · rename_i short
    simp [short]

theorem within_processVendorTag (pos len : Nat) (found : Found) :
    Within limit (processVendorTag pos len found) mem ↔ VendorInside limit mem pos len := by
  rw [VendorInside, processVendorTag, within_bind, isVendorMicrosoft, within_tag, value_tag]
  refine and_congr_right fun _ => ?_
  by_cases tag : 14 ≤ len ∧ InPlace mem pos microsoftTag
  · rw [if_pos (decide_eq_true tag)]
    simp only [within_bind, within_half, within_cipherSuites, within_pure, and_true]
    exact ⟨fun all => ⟨fun _ => all, fun _ other => absurd tag.2 other⟩, fun all => all.1 tag⟩
  · rw [if_neg (fun same => tag (of_decide_eq_true same)), within_bind, isVendorNintendo, within_tag, value_tag]
    by_cases long : fieVendorNintendoHeader ≤ len
    · have other : ¬InPlace mem pos microsoftTag := fun same =>
        tag ⟨Nat.le_trans (by decide) long, same⟩
      by_cases ours : InPlace mem pos nintendoTag
      · rw [if_pos (decide_eq_true ⟨long, ours⟩), within_processNintendo]
        exact ⟨fun all => ⟨fun same => absurd same tag, fun _ _ => ⟨all.1 long, fun _ => all.2⟩⟩,
          fun all => ⟨fun _ => (all.2 long other).1, (all.2 long other).2 ours⟩⟩
      · rw [if_neg (fun same => ours (of_decide_eq_true same).2)]
        exact ⟨fun all => ⟨fun same => absurd same tag, fun _ _ => ⟨all.1 long, fun same => absurd same ours⟩⟩,
          fun all => ⟨fun _ => (all.2 long other).1, within_pure _⟩⟩
    · rw [if_neg (fun same => long (of_decide_eq_true same).1)]
      exact ⟨fun _ => ⟨fun same => absurd same tag, fun large => absurd large long⟩,
        fun _ => ⟨fun large => absurd large long, within_pure _⟩⟩

/-- What is looked at of an element lies in the frame. -/
def ElementInside (limit : Nat) (mem : Memory) (segtype : UInt8) (seglen curloc : Nat) : Prop :=
  (segtype = fieIdSupportedRates → RatesInside limit mem curloc seglen) ∧
    (segtype = fieIdDsParamSet → curloc < limit) ∧
    (segtype = fieIdRsn → RsnInside limit mem curloc seglen) ∧
    (segtype = fieIdVendor → VendorInside limit mem curloc seglen)

theorem within_processElement (segtype : UInt8) (seglen curloc : Nat) (found : Found) :
    Within limit (processElement segtype seglen curloc found) mem ↔
      ElementInside limit mem segtype seglen curloc := by
  -- an element of one kind is none of another
  have other {p : Prop} {a b : UInt8} (different : a ≠ b) : a = b → p := different.elim
  rw [ElementInside, processElement]
  by_cases name : segtype = fieIdSsid
  · subst name
    rw [if_pos rfl]
    exact ⟨fun _ => ⟨other (by decide), other (by decide), other (by decide), other (by decide)⟩,
      fun _ => within_pure _⟩
  · rw [if_neg name]
    by_cases rates : segtype = fieIdSupportedRates
    · subst rates
      rw [if_pos rfl]
      simp only [within_bind, within_rateSet, within_pure, and_true]
      exact ⟨fun inside => ⟨fun _ => inside, other (by decide), other (by decide), other (by decide)⟩,
        fun all => all.1 trivial⟩
    · rw [if_neg rates]
      by_cases channel : segtype = fieIdDsParamSet
      · subst channel
        rw [if_pos rfl]
        simp only [within_bind, within_byte, within_pure, and_true]
        exact ⟨fun inside => ⟨other (by decide), fun _ => inside, other (by decide), other (by decide)⟩,
          fun all => all.2.1 trivial⟩
      · rw [if_neg channel]
        by_cases rsn : segtype = fieIdRsn
        · subst rsn
          rw [if_pos rfl, within_processRsn]
          exact ⟨fun inside => ⟨other (by decide), other (by decide), fun _ => inside, other (by decide)⟩,
            fun all => all.2.2.1 rfl⟩
        · rw [if_neg rsn]
          by_cases vendor : segtype = fieIdVendor
          · subst vendor
            rw [if_pos rfl, within_processVendorTag]
            exact ⟨fun inside => ⟨other (by decide), other (by decide), other (by decide), fun _ => inside⟩,
              fun all => all.2.2.2 rfl⟩
          · rw [if_neg vendor]
            simp [rates, channel, rsn, vendor]

/-- Where the elements of the frame start. -/
def starts (mem : Memory) (limit : Nat) : Nat → Nat → List Nat
  | 0, _ => []
  | fuel + 1, pos =>
    if pos ≥ limit then [] else pos :: starts mem limit fuel (pos + 2 + (mem (pos + 1)).toNat)

theorem within_processElements (fuel pos : Nat) (found : Found) :
    Within limit (processElements limit fuel pos found) mem ↔
      ∀ start ∈ starts mem limit fuel pos, start + 1 < limit ∧
        ElementInside limit mem (mem start) (mem (start + 1)).toNat (start + 2) := by
  induction fuel generalizing pos found with
  | zero => simp [processElements, starts]
  | succ fuel ih =>
      rw [processElements, starts]
      by_cases past : pos ≥ limit
      · simp [past]
      · rw [if_neg past, if_neg past, List.forall_mem_cons]
        simp only [within_bind, within_byte, value_byte, within_processElement, ih]
        rw [← and_assoc, ← and_assoc]
        refine and_congr_left fun _ => and_congr_left fun _ => ?_
        omega

/-- More turns than there are bytes change nothing. -/
theorem processElements_enough {datalen fuel pos : Nat} (enough : datalen ≤ pos + fuel) (more : Nat)
    (found : Found) :
    processElements datalen (fuel + more) pos found mem = processElements datalen fuel pos found mem := by
  induction fuel generalizing pos found with
  | zero =>
      have past : pos ≥ datalen := enough
      cases more with
      | zero => rfl
      | succ more => simp only [processElements, if_pos past]
  | succ fuel ih =>
      rw [show fuel + 1 + more = fuel + more + 1 by omega]
      simp only [processElements]
      split
      · rfl
      · refine bind_congr (bind_congr (bind_congr ?_))
        exact ih (by simp only [value_byte]; omega) _

/-- Reading the frame ends, whatever it is told, after as many turns of the loop
as the frame has bytes. -/
def Ends (received : Received) (mem : Memory) : Prop :=
  ∀ more, readFrame received (received.datalen + more) mem = readFrame received received.datalen mem

theorem readFrame_ends (received : Received) (mem : Memory) : Ends received mem := by
  intro more
  refine bind_congr (bind_congr_first ?_)
  exact processElements_enough (Nat.le_add_left _ _) more _

/-- Where the SSID element is whose contents are copied: the last one. -/
def lastSsid (mem : Memory) (limit fuel pos : Nat) : Option Nat :=
  ((starts mem limit fuel pos).filter fun start => mem start = fieIdSsid).getLast?

theorem processVendorTag_ptrSsid (pos len : Nat) (found : Found) :
    ((processVendorTag pos len found).value mem).ptrSsid = found.ptrSsid := by
  simp only [processVendorTag, value_bind]
  split
  · rfl
  · simp only [value_bind]
    split
    · simp only [processNintendo, value_bind]
      split
      · rfl
      · simp only [value_bind]
        split <;> rfl
    · rfl

theorem processElement_ptrSsid (segtype : UInt8) (seglen curloc : Nat) (found : Found) :
    ((processElement segtype seglen curloc found).value mem).ptrSsid =
      if segtype = fieIdSsid then curloc - 2 else found.ptrSsid := by
  rw [processElement]
  split
  · rfl
  · split
    · rfl
    · split
      · rfl
      · split
        · rw [processRsn]
          split
          · simp only [value_bind]
            split <;> rfl
          · rfl
        · split
          · exact processVendorTag_ptrSsid _ _ _
          · rfl

def elementStep (mem : Memory) (found : Found) (start : Nat) : Found :=
  (processElement (mem start) (mem (start + 1)).toNat (start + 2) found).value mem

/-- The loop takes one element after the other. -/
theorem processElements_run (fuel pos : Nat) (found : Found) :
    (processElements limit fuel pos found).value mem =
      Runs.run (elementStep mem) found (starts mem limit fuel pos) := by
  induction fuel generalizing pos found with
  | zero => rfl
  | succ fuel ih =>
      rw [processElements, starts]
      split
      · rfl
      · simp only [value_bind, value_byte, ih]
        rfl

/-- The SSID that is kept is the last one. -/
theorem processElements_ptrSsid (fuel pos : Nat) (found : Found) :
    ((processElements limit fuel pos found).value mem).ptrSsid =
      (lastSsid mem limit fuel pos).getD found.ptrSsid := by
  have writes : ∀ (found : Found) (start : Nat), (elementStep mem found start).ptrSsid =
      if decide (mem start = fieIdSsid) then start else found.ptrSsid := by
    intro found start
    rw [elementStep, processElement_ptrSsid, Nat.add_sub_cancel]
    simp only [decide_eq_true_eq]
  rw [processElements_run, Runs.run_last writes, Option.map_id']
  rfl

theorem starts_ge {fuel pos start : Nat} (member : start ∈ starts mem limit fuel pos) : pos ≤ start := by
  induction fuel generalizing pos with
  | zero => cases member
  | succ fuel ih =>
      rw [starts] at member
      split at member
      · cases member
      · rcases List.mem_cons.mp member with same | later
        · exact Nat.le_of_eq same.symm
        · have above := ih later
          omega

theorem lastSsid_mem {fuel pos start : Nat} (last : lastSsid mem limit fuel pos = some start) :
    start ∈ starts mem limit fuel pos :=
  List.mem_of_mem_filter (List.mem_of_getLast? last)

/-- The start that says that no SSID was found is not that of an element. -/
theorem lastSsid_pos {fuel start : Nat} (last : lastSsid mem limit fuel (capsIndex + 2) = some start) :
    start ≠ 0 := by
  have above := starts_ge (lastSsid_mem last)
  simp only [capsIndex] at above
  omega

/-- What the parser looks at lies in the frame: the fixed fields; of every
element its type, its length and what its kind asks for; and the SSID, when the
access point is one that the scan lists. -/
structure FrameInside (received : Received) (mem : Memory) : Prop where
  fixed : capsIndex + 2 ≤ received.datalen
  elements : ∀ start ∈ starts mem received.datalen received.datalen (capsIndex + 2),
    start + 1 < received.datalen ∧
      ElementInside received.datalen mem (mem start) (mem (start + 1)).toNat (start + 2)
  ssid : keeps received.curApScanFlags ((readFrame received received.datalen).value mem) = true →
    ∀ start, lastSsid mem received.datalen received.datalen (capsIndex + 2) = some start →
      start + 2 + min (mem (start + 1)).toNat 32 ≤ received.datalen

theorem within_readFrame (received : Received) :
    Within received.datalen (readFrame received received.datalen) mem ↔
      capsIndex + 2 ≤ received.datalen ∧
        ∀ start ∈ starts mem received.datalen received.datalen (capsIndex + 2),
          start + 1 < received.datalen ∧
            ElementInside received.datalen mem (mem start) (mem (start + 1)).toNat (start + 2) := by
  simp only [readFrame, within_bind, within_half, within_processElements, within_pure, and_true]
  exact Iff.rfl

theorem readFrame_ptrSsid (received : Received) :
    ((readFrame received received.datalen).value mem).ptrSsid =
      (lastSsid mem received.datalen received.datalen (capsIndex + 2)).getD 0 := by
  simp only [readFrame, value_bind, value_pure, processElements_ptrSsid]

/-- The parser ends, and looks at bytes of the frame only, exactly when what it
asks of each element lies in the frame. -/
theorem reads_inside_iff (received : Received) (mem : Memory) :
    Ends received mem ∧ Within received.datalen (processBeaconOrProbeResponse received) mem ↔
      FrameInside received mem := by
  have ssid : Within received.datalen
        (readSsid ((readFrame received received.datalen).value mem).ptrSsid) mem ↔
      ∀ start, lastSsid mem received.datalen received.datalen (capsIndex + 2) = some start →
        start + 1 < received.datalen ∧
          (min (mem (start + 1)).toNat 32 = 0 ∨
            start + 2 + min (mem (start + 1)).toNat 32 ≤ received.datalen) := by
    rw [readFrame_ptrSsid]
    cases last : lastSsid mem received.datalen received.datalen (capsIndex + 2) with
    | none => simp [readSsid]
    | some start =>
        rw [Option.getD_some, readSsid, if_neg (lastSsid_pos last)]
        simp
  rw [processBeaconOrProbeResponse, within_bind, within_readFrame]
  constructor
  · rintro ⟨_, ⟨fixed, elements⟩, rest⟩
    refine ⟨fixed, elements, fun kept start last => ?_⟩
    rw [if_pos kept] at rest
    simp only [within_bind, within_pure, and_true, ssid] at rest
    have inside := rest.2.2 start last
    omega
  · rintro ⟨fixed, elements, name⟩
    refine ⟨readFrame_ends received mem, ⟨fixed, elements⟩, ?_⟩
    split
    · rename_i kept
      simp only [within_bind, within_bytes, within_pure, and_true, ssid]
      simp only [capsIndex, hdrMgtMacSize, hdrMgtBssid, hdrMgtSa] at fixed ⊢
      refine ⟨.inr (by omega), .inr (by omega), fun start last => ?_⟩
      exact ⟨(elements start (lastSsid_mem last)).1, .inr (name kept start last)⟩
    · exact within_pure _

/-- A beacon of 512 bytes whose last element has its type in the last of them. -/
def cutOff : Received where
  byteLength := 512
  rssi := 60
  curChannel := 1
  curApScanFlags := 7

/-- The length of that element is read behind the copy of the frame. -/
theorem reads_behind_frame :
    ¬∀ (received : Received) (mem : Memory), Ends received mem ∧
      Within received.datalen (processBeaconOrProbeResponse received) mem := by
  intro all
  have inside := (all cutOff fun i => if i = 37 then 1 else 0).2 512 (by decide +kernel)
  exact absurd inside (by decide)

end Dswifi.BeaconFrame
