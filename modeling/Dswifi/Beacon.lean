import Dswifi.MacRam
import Dswifi.SlotRing
import Dswifi.StickyTable

/-! The beacon of a host while it is transmitted. The ARM9 (arm9/ntr/beacon.c)
leaves fragments and patches of single bytes in shared memory, and the ARM7
(arm7/ntr/beacon.c) writes them into the frame in MAC RAM. -/

namespace Dswifi.Beacon

open MacRam

def macBeaconStartOffset : Nat := 0x0A00
def macBeaconEndOffset : Nat := 0x0C00
def hdrTxIeeeFrameSize : Nat := 0xA
def hdrTxSize : Nat := 0xC
def hdrMgtMacSize : Nat := 24

/-- MGT_FIE_ID_DS_PARAM_SET and MGT_FIE_ID_VENDOR -/
def fieIdDsParamSet : UInt8 := 3
def fieIdVendor : UInt8 := 221

/-- sizeof(FieVendorNintendoHeader) -/
def fieVendorNintendoHeader : Nat := 24
def fieNintendoOfsExtraDataSize : Nat := 0x12

def beaconExtraDataMax : Nat := 0x70
def beaconMaxFragments : Nat := 13
def beaconPatchSlots : Nat := 8
def beaconMaxStickyPatches : Nat := 8

structure Patch where
  offset : UInt8
  value : UInt8
  deriving DecidableEq, Repr

/-- Wifi_BeaconRotateSkip -/
inductive RotateSkip where
  | ok
  | noVendorIe
  | beaconOff
  | noFragments
  | sizeMismatch
  deriving DecidableEq, Repr

/-- What both CPUs can reach. -/
structure Shared where
  beaconFragments : Nat → Nat → UInt8 := fun _ _ => 0
  beaconFragmentSize : Nat := 0
  beaconFragmentCount : Nat := 0
  beaconFragmentGeneration : UInt8 := 0
  beaconPatch : SlotRing Patch := { slot := fun _ => ⟨0, 0⟩ }
  beaconPreTbttCount : UInt16 := 0
  beaconFragmentWrites : UInt16 := 0
  beaconRotateSkip : RotateSkip := .ok

/-- What the information elements of a beacon say. Addresses are in MAC RAM, and
0 stands for an element that is not there. -/
structure Elements where
  beaconChannelAddr : Nat := 0
  vendorIeAddr : Nat := 0
  beaconExtraDataAddr : Nat := 0
  beaconExtraDataSize : Nat := 0

/-- The ARM7: its MAC RAM, whether W_TXBUF_BEACON is enabled, and the static
variables of beacon.c. -/
structure Arm7 extends Elements where
  ram : Ram := fun _ => 0
  txbufBeacon : Bool := false
  beaconFragmentIndex : Nat := 0
  beaconFragmentGeneration : UInt8 := 0
  stickyPatches : List Patch := []

/-! The ARM9. -/

/-- Wifi_BeaconSetExtraDataFragments. What it refuses changes nothing. -/
def beaconSetExtraDataFragments (fragments : Option (Nat → UInt8)) (fragmentSize : Nat) (count : Int)
    (shared : Shared) : Shared :=
  if count < 1 ∨ count > beaconMaxFragments then shared
  else if fragmentSize = 0 ∨ fragmentSize > beaconExtraDataMax then shared
  else
    match fragments with
    | none => shared
    | some src =>
      { shared with
        beaconFragments := fun i j =>
          if i < count.toNat ∧ j < fragmentSize then src (i * fragmentSize + j)
          else shared.beaconFragments i j
        beaconFragmentSize := fragmentSize
        beaconFragmentCount := count.toNat
        beaconFragmentGeneration := shared.beaconFragmentGeneration + 1 }

/-- The ring after a patch, if it is accepted. -/
def patchAccepted (offset : Nat) (value : UInt8) (shared : Shared) : Option (SlotRing Patch) :=
  if offset ≥ fieVendorNintendoHeader + beaconExtraDataMax then none
  else shared.beaconPatch.put beaconPatchSlots ⟨UInt8.ofNat offset, value⟩

def beaconPatchVendorByte (offset : Nat) (value : UInt8) (shared : Shared) : Shared :=
  match patchAccepted offset value shared with
  | none => shared
  | some ring => { shared with beaconPatch := ring }

/-! The ARM7 reads a new beacon. -/

/-- What one element of the frame tells; its contents start at `i`. -/
def readElement (data : Nat → UInt8) (type : UInt8) (seglen i : Nat) (elements : Elements) : Elements :=
  if type = fieIdDsParamSet then { elements with beaconChannelAddr := macBeaconStartOffset + i }
  else if type = fieIdVendor ∧ seglen ≥ fieVendorNintendoHeader ∧ data i = 0x00 ∧ data (i + 1) = 0x09 ∧
      data (i + 2) = 0xBF ∧ data (i + 3) = 0x00 then
    { elements with
      vendorIeAddr := macBeaconStartOffset + i
      beaconExtraDataAddr := macBeaconStartOffset + i + fieVendorNintendoHeader
      beaconExtraDataSize :=
        min (data (i + fieNintendoOfsExtraDataSize)).toNat (seglen - fieVendorNintendoHeader) }
  else elements

/-- The loop over the elements. Each of them has a type and a length, so there
are fewer of them than bytes. -/
def readElements (data : Nat → UInt8) (len : Nat) : Nat → Nat → Elements → Elements
  | 0, _, elements => elements
  | fuel + 1, i, elements =>
      if i < len then
        let seglen := (data (i + 1)).toNat
        readElements data len fuel (i + 2 + seglen) (readElement data (data i) seglen (i + 2) elements)
      else elements

def frameLen (ram : Ram) : Nat :=
  hdrTxSize + (ram (macBeaconStartOffset + hdrTxIeeeFrameSize)).toNat - 4

/-- Where the elements of a beacon start. -/
def elementsStart : Nat := hdrTxSize + hdrMgtMacSize + 8 + 2 + 2

def setBeaconChannel (channel : UInt8) (arm7 : Arm7) : Arm7 :=
  if arm7.beaconChannelAddr = 0 ∨ arm7.txbufBeacon = false then arm7 else
    { arm7 with ram := macWriteByte arm7.ram arm7.beaconChannelAddr channel }

/-- Wifi_BeaconSetup, once the frame is in MAC RAM. `stack` is what is in the
buffer behind the part of the frame that is read into it. -/
def beaconSetup (stack : Nat → UInt8) (channel : UInt8) (shared : Shared) (arm7 : Arm7) : Arm7 :=
  let len := frameLen arm7.ram
  if len ≤ elementsStart then { arm7 with txbufBeacon := false } else
    let len := min len (macBeaconEndOffset - macBeaconStartOffset)
    let data : Nat → UInt8 := fun i =>
      if i < (len + 1) / 2 * 2 then macReadByte arm7.ram (macBeaconStartOffset + i) else stack i
    let elements := readElements data len len elementsStart
      { beaconChannelAddr := arm7.beaconChannelAddr }
    setBeaconChannel channel
      { arm7 with
        toElements := elements
        txbufBeacon := true
        beaconFragmentIndex := 0
        beaconFragmentGeneration := shared.beaconFragmentGeneration
        stickyPatches := [] }

/-! The ARM7 keeps the beacon up to date. -/

def writeStickyPatch (vendorIeAddr : Nat) (ram : Ram) (patch : Patch) : Ram :=
  macWriteByte ram (vendorIeAddr + patch.offset.toNat) patch.value

def beaconWriteStickyPatches (arm7 : Arm7) : Arm7 :=
  { arm7 with ram := arm7.stickyPatches.foldl (writeStickyPatch arm7.vendorIeAddr) arm7.ram }

/-- A patch that is taken from the ring replaces one for the same offset, and is
dropped if there is no space left. -/
def stickPatch : List Patch → Patch → List Patch := StickyTable.put Patch.offset beaconMaxStickyPatches

/-- The loop over the ring. -/
def takePatches : Nat → SlotRing Patch → List Patch → SlotRing Patch × List Patch
  | 0, ring, sticky => (ring, sticky)
  | fuel + 1, ring, sticky =>
      if ring.read = ring.write then (ring, sticky) else
        takePatches fuel (ring.drop beaconPatchSlots) (stickPatch sticky (ring.slot ring.read))

def beaconApplyPatches (shared : Shared) (arm7 : Arm7) : Shared × Arm7 :=
  let (ring, sticky) := takePatches beaconPatchSlots shared.beaconPatch arm7.stickyPatches
  let shared := { shared with beaconPatch := ring }
  let arm7 := { arm7 with stickyPatches := sticky }
  if arm7.vendorIeAddr = 0 ∨ arm7.txbufBeacon = false then (shared, arm7)
  else (shared, beaconWriteStickyPatches arm7)

def rotateSkip (shared : Shared) (arm7 : Arm7) : RotateSkip :=
  if arm7.beaconExtraDataAddr = 0 then .noVendorIe
  else if arm7.txbufBeacon = false then .beaconOff
  else if shared.beaconFragmentCount < 2 ∨ shared.beaconFragmentSize = 0 then .noFragments
  else if shared.beaconFragmentSize ≠ arm7.beaconExtraDataSize then .sizeMismatch
  else .ok

/-- The fragment to write next: the first one if the table has been replaced. -/
def fragmentIndex (shared : Shared) (arm7 : Arm7) : Nat :=
  if shared.beaconFragmentGeneration ≠ arm7.beaconFragmentGeneration then 0
  else arm7.beaconFragmentIndex

def fragmentBytes (shared : Shared) (index : Nat) : List UInt8 :=
  (List.range shared.beaconFragmentSize).map (shared.beaconFragments index)

def beaconRotateFragment (shared : Shared) (arm7 : Arm7) : Shared × Arm7 :=
  let shared := { shared with
    beaconPreTbttCount := shared.beaconPreTbttCount + 1
    beaconRotateSkip := rotateSkip shared arm7 }
  if rotateSkip shared arm7 ≠ .ok then (shared, arm7) else
    let index := fragmentIndex shared arm7
    let arm7 := beaconWriteStickyPatches
      { arm7 with ram := macWriteBytes arm7.ram arm7.beaconExtraDataAddr (fragmentBytes shared index) }
    ({ shared with beaconFragmentWrites := shared.beaconFragmentWrites + 1 },
      { arm7 with
        beaconFragmentGeneration := shared.beaconFragmentGeneration
        beaconFragmentIndex := if index + 1 ≥ shared.beaconFragmentCount then 0 else index + 1 })

end Dswifi.Beacon
