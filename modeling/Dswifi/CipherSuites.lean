import Dswifi.BeaconReads
import Dswifi.BeaconRoundTrip
import Mathlib.Data.List.TakeWhile

/-! The cipher suites that a beacon lists, in an RSN element or in the WPA element of
Microsoft. The loops over them stay at the first suite of another organization until
the count is used up, so that the suites behind it are not heard. -/

namespace Dswifi.BeaconFrame

open ByteMemory Reading
open Beacon (fieIdVendor fieVendorNintendoHeader)

structure Suite where
  first : UInt8
  second : UInt8
  third : UInt8
  type : UInt8
  deriving DecidableEq, Repr

def Suite.oui (suite : Suite) : List UInt8 := [suite.first, suite.second, suite.third]

def Suite.bytes (suite : Suite) : List UInt8 := suite.oui ++ [suite.type]

/-- The two elements that list cipher suites. -/
inductive SuiteList where
  | rsn
  | microsoft
  deriving DecidableEq, Repr

namespace SuiteList

def fieId : SuiteList → UInt8
  | rsn => fieIdRsn
  | microsoft => fieIdVendor

/-- What is in front of the group cipher suite. -/
def version : SuiteList → List UInt8
  | rsn => [0x01, 0x00]
  | microsoft => microsoftTag

def magic : SuiteList → List UInt8
  | rsn => rsnMagic
  | microsoft => wpaMagic

def knows (list : SuiteList) (suite : Suite) : Bool := suite.oui = list.magic

end SuiteList

/-- An element with as many pairwise suites as its count says. -/
structure SuiteElement where
  list : SuiteList
  group : Suite
  suites : List Suite
  rest : List UInt8
  fits : list.version.length + 6 + 4 * suites.length + rest.length ≤ 255

namespace SuiteElement

/-- The contents of the element. -/
def body (element : SuiteElement) : List UInt8 :=
  element.list.version ++ (element.group.bytes ++ (le16 (UInt16.ofNat element.suites.length) ++
    (element.suites.flatMap Suite.bytes ++ element.rest)))

/-- The element without the suites of other organizations. -/
def recognised (element : SuiteElement) : SuiteElement where
  list := element.list
  group := element.group
  suites := element.suites.filter element.list.knows
  rest := element.rest
  fits := by
    have fewer := List.length_filter_le element.list.knows element.suites
    have fits := element.fits
    omega

/-- The security type after the element, whose contents are at `pos`. -/
def security (element : SuiteElement) (mem : Memory) (pos : Nat) (found : Found) : ApSecurity :=
  ((processElement element.list.fieId element.body.length pos found).value mem).secType

/-- The suites that the loop gets to. -/
def heard (element : SuiteElement) : List Suite := element.suites.takeWhile element.list.knows

/-- The suites that it would have to hear behind the first of another organization. -/
def unheard (element : SuiteElement) : List Suite :=
  (element.suites.dropWhile element.list.knows).filter element.list.knows

end SuiteElement

/-- The security type that a suite stands for; the other types are reserved. -/
def Suite.tells (suite : Suite) : Option ApSecurity :=
  if suite.type = 2 ∨ suite.type = 3 ∨ suite.type = 4 then some .wpa
  else if suite.type = 1 ∨ suite.type = 5 then some .wep
  else none

/-- What the last of the suites tells that tells something. -/
def lastTold (suites : List Suite) : Option ApSecurity := (suites.filterMap Suite.tells).getLast?

/-- If a suite behind the first of another organization tells something, the last of
these tells what is known before. -/
def SuiteElement.NothingMissed (element : SuiteElement) (before : ApSecurity) : Prop :=
  ∀ security, lastTold element.unheard = some security →
    (lastTold element.heard).getD before = security

theorem suiteSecurity_tells (suite : Suite) (secType : ApSecurity) :
    suiteSecurity suite.type secType = suite.tells.getD secType := by
  unfold suiteSecurity Suite.tells
  split
  · rfl
  · split
    · rfl
    · rfl

theorem lastTold_append (first second : List Suite) (before : ApSecurity) :
    (lastTold (first ++ second)).getD before = (lastTold second).getD ((lastTold first).getD before) := by
  rw [lastTold, List.filterMap_append, List.getLast?_append]
  change ((lastTold second).or (lastTold first)).getD before = _
  cases lastTold second with
  | none => rfl
  | some security => rfl

theorem lastTold_cons (suite : Suite) (rest : List Suite) (before : ApSecurity) :
    (lastTold (suite :: rest)).getD before = (lastTold rest).getD (suiteSecurity suite.type before) := by
  have single : (lastTold [suite]).getD before = suiteSecurity suite.type before := by
    rw [suiteSecurity_tells, lastTold]
    cases tells : suite.tells with
    | none => simp [tells]
    | some security => simp [tells]
  rw [← single]
  exact lastTold_append [suite] rest before

variable {mem : Memory}

/-- The loop gets to the suites in front of the first of another organization. -/
theorem cipherSuites_value (list : SuiteList) {suites : List Suite} {last pos : Nat}
    (there : InPlace mem pos (suites.flatMap Suite.bytes)) (room : pos + 4 * suites.length ≤ last + 4)
    (secType : ApSecurity) :
    (cipherSuites list.magic last suites.length pos secType).value mem =
      (lastTold (suites.takeWhile list.knows)).getD secType := by
  have three : list.magic.length = 3 := by cases list <;> rfl
  induction suites generalizing pos secType with
  | nil => rfl
  | cons suite suites ih =>
      rw [List.flatMap_cons, inPlace_append] at there
      obtain ⟨first, later⟩ := there
      have oui : readBytes mem pos 3 = suite.oui := (inPlace_append.mp first).1
      rw [List.length_cons] at room ⊢
      rw [cipherSuites, if_pos (by omega), value_bind, value_startsWith, three, oui]
      by_cases known : suite.oui = list.magic
      · have type : mem (pos + 3) = suite.type := first.byte (show 3 < 4 by decide)
        have takes : list.knows suite = true := decide_eq_true known
        rw [if_pos (decide_eq_true known), List.takeWhile_cons_of_pos takes, lastTold_cons]
        simp only [value_bind, value_byte, type]
        have behind : pos + 4 + 4 * suites.length ≤ last + 4 := by omega
        exact ih later behind _
      · -- nothing in the rest of the loop changes, and its count runs out
        have stays (count : Nat) : (cipherSuites list.magic last count pos secType).value mem = secType := by
          induction count with
          | zero => rfl
          | succ count stays =>
              rw [cipherSuites, if_pos (by omega), value_bind, value_startsWith, three, oui,
                if_neg (by simpa using known)]
              exact stays
        rw [if_neg (by simpa using known), stays, List.takeWhile_cons_of_neg (by simpa [SuiteList.knows] using known)]
        rfl

/-- What an RSN element tells. One with no room for a suite is not read. -/
theorem processRsn_security {suites : List Suite} {pos seglen : Nat} (version : InPlace mem pos [0x01, 0x00])
    (count : suiteCount mem (pos + 6) = suites.length)
    (there : InPlace mem (pos + 8) (suites.flatMap Suite.bytes)) (room : 8 + 4 * suites.length ≤ seglen)
    (found : Found) :
    ((processRsn pos seglen found).value mem).secType =
      (lastTold (suites.takeWhile SuiteList.rsn.knows)).getD found.secType := by
  unfold suiteCount at count
  rw [processRsn]
  split
  · have same : readBytes mem pos [(0x01 : UInt8), 0x00].length = [0x01, 0x00] := version
    rw [value_bind, value_startsWith, if_pos (decide_eq_true same)]
    simp only [value_bind, value_pure, count]
    have behind : pos + 8 + 4 * suites.length ≤ pos + seglen - 4 + 4 := by omega
    exact cipherSuites_value .rsn there behind _
  · have none : suites = [] := List.eq_nil_of_length_eq_zero (by omega)
    subst none
    rfl

theorem processVendorTag_security {suites : List Suite} {pos len : Nat}
    (version : InPlace mem pos microsoftTag) (count : suiteCount mem (pos + 10) = suites.length)
    (there : InPlace mem (pos + 12) (suites.flatMap Suite.bytes)) (room : 12 + 4 * suites.length ≤ len)
    (found : Found) :
    ((processVendorTag pos len found).value mem).secType =
      (lastTold (suites.takeWhile SuiteList.microsoft.knows)).getD found.secType := by
  unfold suiteCount at count
  rw [processVendorTag, value_bind, isVendorMicrosoft, value_tag]
  by_cases long : 14 ≤ len
  · rw [if_pos (decide_eq_true ⟨long, version⟩)]
    simp only [value_bind, value_pure, count]
    have behind : pos + 12 + 4 * suites.length ≤ pos + (len - 4) + 4 := by omega
    exact cipherSuites_value .microsoft there behind _
  · have none : suites = [] := List.eq_nil_of_length_eq_zero (by omega)
    have small : ¬fieVendorNintendoHeader ≤ len := fun large => long (Nat.le_trans (by decide) large)
    rw [if_neg (fun same => long (of_decide_eq_true same).1), value_bind, isVendorNintendo, value_tag,
      if_neg (fun same => small (of_decide_eq_true same).1), none]
    rfl

section Element
variable {element : SuiteElement} {pos : Nat} (found : Found)

theorem flatMap_bytes_length (suites : List Suite) : (suites.flatMap Suite.bytes).length = 4 * suites.length := by
  induction suites with
  | nil => rfl
  | cons suite suites ih =>
      rw [List.flatMap_cons, List.length_append, ih, List.length_cons]
      change 4 + _ = _
      omega

theorem body_length (element : SuiteElement) : element.body.length =
    element.list.version.length + 6 + 4 * element.suites.length + element.rest.length := by
  simp only [SuiteElement.body, List.length_append, le16_length, flatMap_bytes_length]
  change _ + (4 + _) = _
  omega

/-- The version, the count and the suites are where the parser looks for them. -/
theorem body_inPlace (there : InPlace mem pos element.body) :
    InPlace mem pos element.list.version ∧
      suiteCount mem (pos + element.list.version.length + 4) = element.suites.length ∧
      InPlace mem (pos + element.list.version.length + 6) (element.suites.flatMap Suite.bytes) := by
  simp only [SuiteElement.body, inPlace_append] at there
  obtain ⟨version, _, count, suites, _⟩ := there
  refine ⟨version, ?_, suites⟩
  have fits := element.fits
  have value : (half (pos + element.list.version.length + 4)).value mem = _ := half_le16 count
  rw [suiteCount, value, UInt16.toNat_ofNat']
  omega

/-- What the element tells is what the last suite tells that the loop gets to. -/
theorem security_heard (there : InPlace mem pos element.body) :
    element.security mem pos found = (lastTold element.heard).getD found.secType := by
  obtain ⟨version, count, suites⟩ := body_inPlace there
  have length := body_length element
  rw [SuiteElement.security, SuiteElement.heard]
  cases same : element.list with
  | rsn =>
      rw [same] at version count suites length
      rw [SuiteList.fieId, processElement, if_neg (by decide), if_neg (by decide), if_neg (by decide), if_pos rfl]
      refine processRsn_security version count suites ?_ found
      change _ = 2 + 6 + _ + _ at length
      omega
  | microsoft =>
      rw [same] at version count suites length
      rw [SuiteList.fieId, processElement_vendor]
      refine processVendorTag_security version count suites ?_ found
      change _ = 6 + 6 + _ + _ at length
      omega

/-- With these suites gone the loop gets to all that are left. -/
theorem recognised_heard (element : SuiteElement) :
    element.recognised.heard = element.heard ++ element.unheard := by
  have kept : element.recognised.heard = element.suites.filter element.list.knows :=
    List.takeWhile_eq_self_iff.mpr fun suite member => List.of_mem_filter member
  have front : element.heard.filter element.list.knows = element.heard :=
    List.filter_eq_self.mpr fun suite member => List.mem_takeWhile_imp member
  rw [kept, ← front, SuiteElement.unheard, ← List.filter_append]
  exact congrArg _ List.takeWhile_append_dropWhile.symm

/-- Suites of other organizations are left out as they should be exactly when nothing is
missed behind the first of them. -/
theorem security_ignores_iff {mem' : Memory} {pos' : Nat} (there : InPlace mem pos element.body)
    (there' : InPlace mem' pos' element.recognised.body) :
    element.security mem pos found = element.recognised.security mem' pos' found ↔
      element.NothingMissed found.secType := by
  have all : element.recognised.heard = element.heard ++ element.unheard := recognised_heard element
  rw [security_heard found there, security_heard found there', all, lastTold_append, SuiteElement.NothingMissed]
  cases lastTold element.unheard with
  | none => simp
  | some security => simp

end Element

/-- A suite of a vendor in front of AES. -/
def vendorFirst : SuiteElement where
  list := .rsn
  group := ⟨0x00, 0x0F, 0xAC, 4⟩
  suites := [⟨0x00, 0x40, 0x96, 0⟩, ⟨0x00, 0x0F, 0xAC, 4⟩]
  rest := []
  fits := by decide

theorem vendorFirst_hides : ¬∀ (element : SuiteElement) (found : Found) (mem mem' : Memory) (pos pos' : Nat),
    InPlace mem pos element.body → InPlace mem' pos' element.recognised.body →
      element.security mem pos found = element.recognised.security mem' pos' found := by
  intro all
  have same := all vendorFirst { channel := 1 } (writeBytes (fun _ => 0) 0 vendorFirst.body)
    (writeBytes (fun _ => 0) 0 vendorFirst.recognised.body) 0 0 (writeBytes_inPlace ..) (writeBytes_inPlace ..)
  exact absurd same (by decide +kernel)

/-- With the vendor's suite behind it AES is heard. -/
theorem security_ignores_last : let element : SuiteElement := { vendorFirst with
      suites := [⟨0x00, 0x0F, 0xAC, 4⟩, ⟨0x00, 0x40, 0x96, 0⟩], fits := by decide }
    element.NothingMissed .opened ∧
      element.security (writeBytes (fun _ => 0) 0 element.body) 0 { channel := 1 } =
        element.recognised.security (writeBytes (fun _ => 0) 0 element.recognised.body) 0 { channel := 1 } := by
  intro element
  have nothing : element.NothingMissed .opened := by
    intro security told
    have none : lastTold element.unheard = none := by decide
    rw [none] at told
    cases told
  exact ⟨nothing, (security_ignores_iff { channel := 1 } (writeBytes_inPlace ..) (writeBytes_inPlace ..)).mpr nothing⟩

end Dswifi.BeaconFrame
