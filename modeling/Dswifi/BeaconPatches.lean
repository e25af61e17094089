import Dswifi.Beacon
import Dswifi.Runs

/-! Patches and fragments of a beacon over a whole run. Each step of a CPU is
taken at once, and steps come in any order. What has been accepted, taken and
written is remembered beside the state. -/

namespace Dswifi.Beacon

open MacRam Runs

inductive Event where
  /-- A frame arrives in MAC RAM, and the ARM7 reads it. -/
  | setup (ram : Ram) (stack : Nat → UInt8) (channel : UInt8)
  | patchVendorByte (offset : Nat) (value : UInt8)
  | setExtraDataFragments (fragments : Option (Nat → UInt8)) (fragmentSize : Nat) (count : Int)
  | applyPatches
  | rotateFragment

structure World where
  shared : Shared := {}
  arm7 : Arm7 := {}
  /-- The patches that were accepted, since ever and since the last setup. -/
  accepted : List Patch := []
  acceptedSince : List Patch := []
  /-- The patches that were taken from the ring, since ever and since the last setup. -/
  taken : List Patch := []
  takenSince : List Patch := []
  /-- Fragments written since the last table and the last setup. -/
  written : Nat := 0
  /-- A fragment has been written since the last setup. -/
  turned : Bool := false
  /-- Tables since the last fragment or setup, and since the last rotation of any kind. -/
  unseen : Nat := 0
  recent : Nat := 0

def tableAccepted (fragments : Option (Nat → UInt8)) (fragmentSize : Nat) (count : Int) : Bool :=
  fragments.isSome ∧ ¬ (count < 1 ∨ count > beaconMaxFragments) ∧
    ¬ (fragmentSize = 0 ∨ fragmentSize > beaconExtraDataMax)

def waiting (shared : Shared) : List Patch := shared.beaconPatch.contents beaconPatchSlots

/-- What the loop of Wifi_BeaconApplyPatches takes. -/
def takenNow (shared : Shared) : List Patch :=
  (shared.beaconPatch.drain beaconPatchSlots beaconPatchSlots).1

def setup (ram : Ram) (stack : Nat → UInt8) (channel : UInt8) (world : World) : World :=
  let arm7 := beaconSetup stack channel world.shared { world.arm7 with ram }
  if frameLen ram ≤ elementsStart then { world with arm7 } else
    { world with arm7, acceptedSince := [], takenSince := [], written := 0, turned := false, unseen := 0 }

def patchVendorByte (offset : Nat) (value : UInt8) (world : World) : World :=
  let next := { world with shared := beaconPatchVendorByte offset value world.shared }
  let patch : Patch := ⟨UInt8.ofNat offset, value⟩
  if (patchAccepted offset value world.shared).isSome then
    { next with
      accepted := world.accepted ++ [patch]
      acceptedSince := world.acceptedSince ++ [patch] }
  else next

def setExtraDataFragments (fragments : Option (Nat → UInt8)) (fragmentSize : Nat) (count : Int)
    (world : World) : World :=
  let next := { world with
    shared := beaconSetExtraDataFragments fragments fragmentSize count world.shared }
  if tableAccepted fragments fragmentSize count then
    { next with written := 0, unseen := world.unseen + 1, recent := world.recent + 1 }
  else next

def applyPatches (world : World) : World :=
  let (shared, arm7) := beaconApplyPatches world.shared world.arm7
  { world with
    shared, arm7
    taken := world.taken ++ takenNow world.shared
    takenSince := world.takenSince ++ takenNow world.shared }

def rotateFragment (world : World) : World :=
  let (shared, arm7) := beaconRotateFragment world.shared world.arm7
  if rotateSkip world.shared world.arm7 = .ok then
    { world with shared, arm7, written := world.written + 1, turned := true, unseen := 0, recent := 0 }
  else { world with shared, arm7, recent := 0 }

def step (world : World) : Event → World
  | .setup ram stack channel => setup ram stack channel world
  | .patchVendorByte offset value => patchVendorByte offset value world
  | .setExtraDataFragments fragments fragmentSize count =>
      setExtraDataFragments fragments fragmentSize count world
  | .applyPatches => applyPatches world
  | .rotateFragment => rotateFragment world

/-! What is asked of a run, and of a step. -/

def offsets (patches : List Patch) : Nat := StickyTable.distinct Patch.offset patches

/-- Not too many patches are taken for one beacon, and a table that is replaced
between two fragments of it is not replaced so often that it looks the same. -/
def Admitted (world : World) : Event → Prop
  | .applyPatches => offsets (world.takenSince ++ waiting world.shared) ≤ beaconMaxStickyPatches
  | .rotateFragment => rotateSkip world.shared world.arm7 = .ok → world.turned = true →
      world.unseen < 256
  | _ => True

/-- The same with patches counted when they are accepted, and tables counted
between rotations of any kind. -/
def Counted (world : World) : Event → Prop
  | .patchVendorByte offset value => (patchAccepted offset value world.shared).isSome →
      offsets (world.acceptedSince ++ [⟨UInt8.ofNat offset, value⟩]) ≤ beaconMaxStickyPatches
  | .rotateFragment => world.recent < 256
  | _ => True

/-- The patches are written, because there is a beacon for them. -/
def Writes (world : World) : Event → Prop
  | .applyPatches => world.arm7.vendorIeAddr ≠ 0 ∧ world.arm7.txbufBeacon = true
  | .rotateFragment => rotateSkip world.shared world.arm7 = .ok
  | _ => False

/-- The beacon before the patches are written into it. -/
def underPatches (world : World) : Event → Nat → UInt8
  | .rotateFragment, address =>
      overlaid world.arm7.ram world.arm7.beaconExtraDataAddr
        (fragmentBytes world.shared (world.written % world.shared.beaconFragmentCount)) address
  | _, address => macReadByte world.arm7.ram address

structure Good (world : World) (event : Event) : Prop where
  /-- Patches are taken in the order in which they were accepted, and none is lost. -/
  queue : (step world event).taken ++ waiting (step world event).shared = (step world event).accepted
  emptied : event = .applyPatches → waiting (step world event).shared = []
  /-- What was taken last for an offset is there. -/
  patched : Writes world event → ∀ patch,
    StickyTable.last Patch.offset (step world event).takenSince patch.offset = some patch →
      macReadByte (step world event).arm7.ram ((step world event).arm7.vendorIeAddr + patch.offset.toNat) =
        patch.value
  beside : Writes world event → ∀ address, (∀ patch ∈ (step world event).takenSince,
      address ≠ (step world event).arm7.vendorIeAddr + patch.offset.toNat) →
    macReadByte (step world event).arm7.ram address = underPatches world event address
  idle : ¬ Writes world event → (∀ ram stack channel, event ≠ .setup ram stack channel) →
    (step world event).arm7.ram = world.arm7.ram

instance (world : World) (event : Event) : Decidable (Admitted world event) := by
  cases event <;> unfold Admitted <;> infer_instance

instance (world : World) (event : Event) : Decidable (Counted world event) := by
  cases event <;> unfold Counted <;> infer_instance

instance (world : World) (event : Event) : Decidable (Writes world event) := by
  cases event <;> unfold Writes <;> infer_instance

/-! The ring. -/

/-- The loop takes what waits, and remembers one patch after another. -/
theorem takePatches_drain (fuel : Nat) (ring : SlotRing Patch) (sticky : List Patch) :
    takePatches fuel ring sticky =
      ((ring.drain beaconPatchSlots fuel).2, (ring.drain beaconPatchSlots fuel).1.foldl stickPatch sticky) := by
  induction fuel generalizing ring sticky with
  | zero => rfl
  | succ fuel ih =>
      rw [takePatches, SlotRing.drain]
      split
      · rfl
      · rw [ih]
        rfl

section Ring
variable {shared : Shared}

theorem takenNow_eq (inside : shared.beaconPatch.Inside beaconPatchSlots) :
    takenNow shared = waiting shared :=
  (SlotRing.drain_contents inside (Nat.le_of_lt (Nat.mod_lt _ (by decide)))).1

/-- The loop comes to its end within as many turns as there are slots. -/
theorem takePatches_eq (inside : shared.beaconPatch.Inside beaconPatchSlots) (sticky : List Patch) :
    takePatches beaconPatchSlots shared.beaconPatch sticky =
      ({ shared.beaconPatch with read := shared.beaconPatch.write },
        (waiting shared).foldl stickPatch sticky) := by
  obtain ⟨items, after⟩ := SlotRing.drain_contents inside
    (Nat.le_of_lt (Nat.mod_lt _ (by decide)) : shared.beaconPatch.pending beaconPatchSlots ≤ beaconPatchSlots)
  rw [takePatches_drain, items, after, waiting]

end Ring

/-- What holds between the two CPUs whatever has been done. -/
structure Inv (world : World) : Prop where
  inside : world.shared.beaconPatch.Inside beaconPatchSlots
  queue : world.taken ++ waiting world.shared = world.accepted
  sticky : StickyTable.Holds Patch.offset world.arm7.stickyPatches world.takenSince
  /-- The ARM7 is as many generations behind as there are tables it has not seen. -/
  generation : world.shared.beaconFragmentGeneration =
    world.arm7.beaconFragmentGeneration + UInt8.ofNat world.unseen
  index : world.unseen = 0 →
    world.arm7.beaconFragmentIndex = world.written % world.shared.beaconFragmentCount
  fresh : world.turned = false → world.arm7.beaconFragmentIndex = 0
  restarted : 0 < world.unseen → world.written = 0

theorem Inv.start : Inv {} where
  inside := ⟨by decide, by decide⟩
  queue := rfl
  sticky := .nil
  generation := rfl
  index := fun _ => rfl
  fresh := fun _ => rfl
  restarted := fun _ => rfl

/-! Setup. -/

/-- The channel is in the frame only. -/
theorem setBeaconChannel_eq (channel : UInt8) (arm7 : Arm7) :
    ∃ ram, setBeaconChannel channel arm7 = { arm7 with ram } := by
  unfold setBeaconChannel
  split
  · exact ⟨arm7.ram, rfl⟩
  · exact ⟨_, rfl⟩

theorem beaconSetup_short {stack : Nat → UInt8} {channel : UInt8} {shared : Shared} {arm7 : Arm7}
    (short : frameLen arm7.ram ≤ elementsStart) :
    beaconSetup stack channel shared arm7 = { arm7 with txbufBeacon := false } := if_pos short

theorem beaconSetup_fresh (stack : Nat → UInt8) (channel : UInt8) (shared : Shared) {arm7 : Arm7}
    (long : ¬ frameLen arm7.ram ≤ elementsStart) :
    (beaconSetup stack channel shared arm7).beaconFragmentIndex = 0 ∧
      (beaconSetup stack channel shared arm7).beaconFragmentGeneration =
        shared.beaconFragmentGeneration ∧
      (beaconSetup stack channel shared arm7).stickyPatches = [] := by
  simp only [beaconSetup, if_neg long]
  obtain ⟨ram, same⟩ := setBeaconChannel_eq channel _
  rw [same]
  exact ⟨rfl, rfl, rfl⟩

theorem Inv.setup {world : World} (valid : Inv world) (ram : Ram) (stack : Nat → UInt8)
    (channel : UInt8) : Inv (setup ram stack channel world) := by
  unfold Beacon.setup
  split
  · rename_i short
    rw [@beaconSetup_short stack channel world.shared { world.arm7 with ram } short]
    exact ⟨valid.inside, valid.queue, valid.sticky, valid.generation, valid.index, valid.fresh,
      valid.restarted⟩
  · rename_i long
    obtain ⟨index, generation, sticky⟩ := beaconSetup_fresh stack channel world.shared
      (show ¬ frameLen ({ world.arm7 with ram } : Arm7).ram ≤ elementsStart from long)
    exact {
      inside := valid.inside
      queue := valid.queue
      sticky := by
        change StickyTable.Holds Patch.offset
          (beaconSetup stack channel world.shared { world.arm7 with ram }).stickyPatches []
        rw [sticky]
        exact .nil
      generation := by simpa using generation.symm
      index := fun _ => by simpa using index
      fresh := fun _ => index
      restarted := fun some => absurd some (Nat.lt_irrefl 0) }

/-! The ARM9. -/

theorem Inv.patchVendorByte {world : World} (valid : Inv world) (offset : Nat) (value : UInt8) :
    Inv (patchVendorByte offset value world) := by
  unfold Beacon.patchVendorByte beaconPatchVendorByte
  cases found : patchAccepted offset value world.shared with
  | none => exact valid
  | some ring =>
      have stored : world.shared.beaconPatch.put beaconPatchSlots ⟨UInt8.ofNat offset, value⟩ = some ring := by
        unfold patchAccepted at found
        split at found
        · cases found
        · exact found
      have contents := SlotRing.contents_put valid.inside stored
      exact {
        inside := valid.inside.put stored
        queue := by
          change world.taken ++ ring.contents beaconPatchSlots = world.accepted ++ [_]
          rw [contents, ← List.append_assoc]
          exact congrArg (· ++ [_]) valid.queue
        sticky := valid.sticky
        generation := valid.generation
        index := valid.index
        fresh := valid.fresh
        restarted := valid.restarted }

theorem setExtraDataFragments_refused {fragments : Option (Nat → UInt8)} {fragmentSize : Nat} {count : Int}
    {shared : Shared} (refused : tableAccepted fragments fragmentSize count = false) :
    beaconSetExtraDataFragments fragments fragmentSize count shared = shared := by
  unfold beaconSetExtraDataFragments
  split
  · rfl
  · split
    · rfl
    · cases fragments with
      | none => rfl
      | some src => simp_all [tableAccepted]

theorem setExtraDataFragments_accepted {fragments : Option (Nat → UInt8)} {fragmentSize : Nat} {count : Int}
    (shared : Shared) (accepted : tableAccepted fragments fragmentSize count = true) :
    (beaconSetExtraDataFragments fragments fragmentSize count shared).beaconPatch = shared.beaconPatch ∧
      (beaconSetExtraDataFragments fragments fragmentSize count shared).beaconFragmentGeneration =
        shared.beaconFragmentGeneration + 1 := by
  obtain ⟨some, count, size⟩ := of_decide_eq_true accepted
  obtain ⟨src, rfl⟩ := Option.isSome_iff_exists.mp some
  rw [beaconSetExtraDataFragments, if_neg count, if_neg size]
  exact ⟨rfl, rfl⟩

theorem Inv.setExtraDataFragments {world : World} (valid : Inv world)
    (fragments : Option (Nat → UInt8)) (fragmentSize : Nat) (count : Int) :
    Inv (setExtraDataFragments fragments fragmentSize count world) := by
  unfold Beacon.setExtraDataFragments
  cases accepted : tableAccepted fragments fragmentSize count with
  | false =>
      rw [setExtraDataFragments_refused accepted]
      exact valid
  | true =>
      obtain ⟨ring, generation⟩ := setExtraDataFragments_accepted world.shared accepted
      have contents : waiting (beaconSetExtraDataFragments fragments fragmentSize count world.shared) =
          waiting world.shared := by
        rw [waiting, ring, waiting]
      exact {
        inside := ring ▸ valid.inside
        queue := contents ▸ valid.queue
        sticky := valid.sticky
        generation := by
          refine generation.trans ?_
          rw [valid.generation, UInt8.add_assoc]
          congr 1
          exact (UInt8.ofNat_add world.unseen 1).symm
        index := fun none => absurd none (Nat.succ_ne_zero _)
        fresh := valid.fresh
        restarted := fun _ => rfl }

/-! Patches in the frame. -/

section Sticky
variable {sticky since : List Patch} (holds : StickyTable.Holds Patch.offset sticky since)
  (vendorIeAddr : Nat) (ram : Ram)
include holds

/-- Different offsets are different addresses. -/
theorem addresses_nodup : (sticky.map fun patch => vendorIeAddr + patch.offset.toNat).Nodup := by
  have apart : Function.Injective fun offset : UInt8 => vendorIeAddr + offset.toNat := by
    intro first second same
    exact UInt8.toNat_inj.mp (Nat.add_left_cancel same)
  have nodup := holds.nodup.map apart
  rwa [List.map_map] at nodup

theorem sticky_patched {patch : Patch}
    (lastly : StickyTable.last Patch.offset since patch.offset = some patch) :
    macReadByte (sticky.foldl (writeStickyPatch vendorIeAddr) ram) (vendorIeAddr + patch.offset.toNat) =
      patch.value :=
  StickyTable.write_own macReadByte (writeStickyPatch vendorIeAddr)
    (fun patch => vendorIeAddr + patch.offset.toNat) Patch.value
    (fun ram patch address => macReadByte_macWriteByte ram _ patch.value address) sticky ram
    (addresses_nodup holds vendorIeAddr) ((holds.mem patch).mpr lastly)

theorem sticky_beside {address : Nat}
    (apart : ∀ patch ∈ since, address ≠ vendorIeAddr + patch.offset.toNat) :
    macReadByte (sticky.foldl (writeStickyPatch vendorIeAddr) ram) address = macReadByte ram address :=
  StickyTable.write_beside macReadByte (writeStickyPatch vendorIeAddr)
    (fun patch => vendorIeAddr + patch.offset.toNat) Patch.value
    (fun ram patch address => macReadByte_macWriteByte ram _ patch.value address) sticky ram
    fun patch member => apart patch (StickyTable.last_mem ((holds.mem patch).mp member))

end Sticky

/-! The ARM7. -/

theorem beaconApplyPatches_eq {shared : Shared} (inside : shared.beaconPatch.Inside beaconPatchSlots)
    (arm7 : Arm7) :
    (beaconApplyPatches shared arm7).1 =
        { shared with beaconPatch := { shared.beaconPatch with read := shared.beaconPatch.write } } ∧
      (beaconApplyPatches shared arm7).2 =
        (let stuck := { arm7 with stickyPatches := (waiting shared).foldl stickPatch arm7.stickyPatches }
        if arm7.vendorIeAddr = 0 ∨ arm7.txbufBeacon = false then stuck
        else beaconWriteStickyPatches stuck) := by
  simp only [beaconApplyPatches, takePatches_eq inside]
  split <;> exact ⟨rfl, rfl⟩

/-- The ARM7 after it has written a fragment. -/
def withFragment (shared : Shared) (arm7 : Arm7) : Arm7 :=
  let index := fragmentIndex shared arm7
  { beaconWriteStickyPatches
      { arm7 with ram := macWriteBytes arm7.ram arm7.beaconExtraDataAddr (fragmentBytes shared index) } with
    beaconFragmentGeneration := shared.beaconFragmentGeneration
    beaconFragmentIndex := if index + 1 ≥ shared.beaconFragmentCount then 0 else index + 1 }

theorem rotateFragment_effective {world : World} (effective : rotateSkip world.shared world.arm7 = .ok) :
    rotateFragment world =
      { world with
        shared := { world.shared with
          beaconPreTbttCount := world.shared.beaconPreTbttCount + 1
          beaconRotateSkip := .ok
          beaconFragmentWrites := world.shared.beaconFragmentWrites + 1 }
        arm7 := withFragment world.shared world.arm7
        written := world.written + 1, turned := true, unseen := 0, recent := 0 } := by
  have same : rotateSkip { world.shared with
      beaconPreTbttCount := world.shared.beaconPreTbttCount + 1
      beaconRotateSkip := .ok } world.arm7 = .ok := effective
  simp only [rotateFragment, beaconRotateFragment, effective, same, ne_eq, not_true_eq_false, if_false,
    if_true]
  rfl

theorem rotateFragment_skipped {world : World} (skipped : rotateSkip world.shared world.arm7 ≠ .ok) :
    rotateFragment world =
      { world with
        shared := { world.shared with
          beaconPreTbttCount := world.shared.beaconPreTbttCount + 1
          beaconRotateSkip := rotateSkip world.shared world.arm7 }
        recent := 0 } := by
  have same : rotateSkip { world.shared with
      beaconPreTbttCount := world.shared.beaconPreTbttCount + 1
      beaconRotateSkip := rotateSkip world.shared world.arm7 } world.arm7 ≠ .ok := skipped
  simp only [rotateFragment, beaconRotateFragment, skipped, if_pos same, if_false]

/-- Counting up to a limit is counting modulo the limit. -/
theorem next_turn {written count : Nat} (some : 0 < count) :
    (if written % count + 1 ≥ count then 0 else written % count + 1) = (written + 1) % count := by
  have below := Nat.mod_lt written some
  split
  · have last : written % count + 1 = count := by omega
    rw [← Nat.mod_add_mod, last, Nat.mod_self]
  · have more : written % count + 1 < count := by omega
    rw [← Nat.mod_add_mod written count 1, Nat.mod_eq_of_lt more]

theorem rotateSkip_several {shared : Shared} {arm7 : Arm7} (effective : rotateSkip shared arm7 = .ok) :
    2 ≤ shared.beaconFragmentCount := by
  by_contra few
  have single : shared.beaconFragmentCount < 2 := by omega
  simp only [rotateSkip, single, true_or, if_true] at effective
  split at effective
  · cases effective
  · split at effective <;> cases effective

/-- The ring after everything was taken. -/
theorem waiting_taken {shared : Shared} (inside : shared.beaconPatch.Inside beaconPatchSlots) :
    SlotRing.Inside beaconPatchSlots { shared.beaconPatch with read := shared.beaconPatch.write } ∧
      SlotRing.contents beaconPatchSlots
        { shared.beaconPatch with read := shared.beaconPatch.write } = [] := by
  have all : SlotRing.Inside beaconPatchSlots
      { shared.beaconPatch with read := shared.beaconPatch.write } := ⟨inside.write, inside.write⟩
  exact ⟨all, SlotRing.contents_empty all rfl⟩

namespace Inv
variable {world : World}

theorem stuck (valid : Inv world)
    (few : offsets (world.takenSince ++ waiting world.shared) ≤ beaconMaxStickyPatches) :
    StickyTable.Holds Patch.offset ((waiting world.shared).foldl stickPatch world.arm7.stickyPatches)
      (world.takenSince ++ takenNow world.shared) := by
  rw [takenNow_eq valid.inside]
  exact valid.sticky.put_all (waiting world.shared) few

theorem applyPatches (valid : Inv world)
    (few : offsets (world.takenSince ++ waiting world.shared) ≤ beaconMaxStickyPatches) :
    Inv (applyPatches world) ∧ waiting (Beacon.applyPatches world).shared = [] := by
  obtain ⟨shared, arm7⟩ := beaconApplyPatches_eq valid.inside world.arm7
  obtain ⟨inside, none⟩ := waiting_taken valid.inside
  have stuck := valid.stuck few
  simp only [Beacon.applyPatches, shared, arm7]
  refine ⟨?_, none⟩
  have all : world.taken ++ takenNow world.shared = world.accepted := by
    rw [takenNow_eq valid.inside, valid.queue]
  have queue : world.taken ++ takenNow world.shared ++ SlotRing.contents beaconPatchSlots
      { world.shared.beaconPatch with read := world.shared.beaconPatch.write } = world.accepted := by
    rw [none, List.append_nil, all]
  split
  · exact ⟨inside, queue, stuck, valid.generation, valid.index, valid.fresh, valid.restarted⟩
  · exact ⟨inside, queue, stuck, valid.generation, valid.index, valid.fresh, valid.restarted⟩

/-- The ARM7 notices a new table, as long as the generations do not come round. -/
theorem fragmentIndex_eq (valid : Inv world) (few : world.turned = true → world.unseen < 256) :
    fragmentIndex world.shared world.arm7 = world.written % world.shared.beaconFragmentCount := by
  unfold fragmentIndex
  rcases Nat.eq_zero_or_pos world.unseen with none | some
  · have same : world.shared.beaconFragmentGeneration = world.arm7.beaconFragmentGeneration := by
      rw [valid.generation, none]
      exact UInt8.add_zero _
    rw [if_neg (not_not.mpr same), valid.index none]
  · rw [valid.restarted some, Nat.zero_mod]
    split
    · rfl
    · rename_i same
      cases turned : world.turned with
      | false => exact valid.fresh turned
      | true =>
          have around := few turned
          have equal := congrArg UInt8.toNat ((not_not.mp same).symm.trans valid.generation)
          rw [UInt8.toNat_add, UInt8.toNat_ofNat'] at equal
          have bound := world.arm7.beaconFragmentGeneration.toNat_lt
          omega

theorem rotateFragment (valid : Inv world)
    (few : rotateSkip world.shared world.arm7 = .ok → world.turned = true → world.unseen < 256) :
    Inv (rotateFragment world) := by
  by_cases effective : rotateSkip world.shared world.arm7 = .ok
  · rw [rotateFragment_effective effective]
    have index := valid.fragmentIndex_eq (few effective)
    have several := rotateSkip_several effective
    exact {
      inside := valid.inside
      queue := valid.queue
      sticky := valid.sticky
      generation := (UInt8.add_zero _).symm
      index := by
        intro _
        change (if _ then _ else _) = (world.written + 1) % world.shared.beaconFragmentCount
        rw [index]
        exact next_turn (Nat.lt_of_lt_of_le Nat.zero_lt_two several)
      fresh := fun none => absurd none Bool.noConfusion
      restarted := fun some => absurd some (Nat.lt_irrefl 0) }
  · rw [rotateFragment_skipped effective]
    exact ⟨valid.inside, valid.queue, valid.sticky, valid.generation, valid.index, valid.fresh,
      valid.restarted⟩

end Inv

theorem Inv.step {world : World} {event : Event} (valid : Inv world) (admitted : Admitted world event) :
    Inv (step world event) := by
  cases event with
  | setup ram stack channel => exact valid.setup ram stack channel
  | patchVendorByte offset value => exact valid.patchVendorByte offset value
  | setExtraDataFragments fragments fragmentSize count =>
      exact valid.setExtraDataFragments fragments fragmentSize count
  | applyPatches => exact (valid.applyPatches admitted).1
  | rotateFragment => exact valid.rotateFragment admitted

/-! What each step does to the frame. -/

/-- The ARM9 does not touch MAC RAM. -/
theorem arm9_idle (world : World) (offset : Nat) (value : UInt8) (fragments : Option (Nat → UInt8))
    (fragmentSize : Nat) (count : Int) :
    (patchVendorByte offset value world).arm7 = world.arm7 ∧
      (setExtraDataFragments fragments fragmentSize count world).arm7 = world.arm7 := by
  constructor
  · unfold patchVendorByte
    split <;> rfl
  · unfold setExtraDataFragments
    split <;> rfl

theorem writes_apply {world : World} :
    Writes world .applyPatches ↔ ¬ (world.arm7.vendorIeAddr = 0 ∨ world.arm7.txbufBeacon = false) := by
  simp [Writes]

section Written
variable {world : World} (valid : Inv world)
include valid

theorem applied_eq :
    (applyPatches world).takenSince = world.takenSince ++ takenNow world.shared ∧
      (applyPatches world).arm7.vendorIeAddr = world.arm7.vendorIeAddr ∧
      (applyPatches world).arm7.ram =
        if world.arm7.vendorIeAddr = 0 ∨ world.arm7.txbufBeacon = false then world.arm7.ram
        else ((waiting world.shared).foldl stickPatch world.arm7.stickyPatches).foldl
          (writeStickyPatch world.arm7.vendorIeAddr) world.arm7.ram := by
  obtain ⟨shared, arm7⟩ := beaconApplyPatches_eq valid.inside world.arm7
  refine ⟨rfl, ?_, ?_⟩ <;> simp only [applyPatches, arm7] <;> split <;> rfl

theorem applyPatches_good (admitted : Admitted world .applyPatches) : Good world .applyPatches := by
  obtain ⟨after, empty⟩ := valid.applyPatches admitted
  obtain ⟨since, vendor, ram⟩ := applied_eq valid
  have stuck := valid.stuck admitted
  refine ⟨after.queue, fun _ => empty, fun writes patch lastly => ?_, fun writes address apart => ?_,
    fun off _ => ?_⟩
  · have on := writes_apply.mp writes
    change macReadByte (applyPatches world).arm7.ram _ = _
    change StickyTable.last _ (applyPatches world).takenSince _ = _ at lastly
    change macReadByte (applyPatches world).arm7.ram ((applyPatches world).arm7.vendorIeAddr + _) = _
    rw [ram, vendor, if_neg on]
    rw [since] at lastly
    exact sticky_patched stuck _ _ lastly
  · have on := writes_apply.mp writes
    change ∀ patch ∈ (applyPatches world).takenSince, address ≠ (applyPatches world).arm7.vendorIeAddr + _
      at apart
    change macReadByte (applyPatches world).arm7.ram address = macReadByte world.arm7.ram address
    rw [since, vendor] at apart
    rw [ram, if_neg on]
    exact sticky_beside stuck _ _ apart
  · have none : world.arm7.vendorIeAddr = 0 ∨ world.arm7.txbufBeacon = false := by
      by_contra on
      exact off (writes_apply.mpr on)
    exact ram.trans (if_pos none)

theorem rotateFragment_good (admitted : Admitted world .rotateFragment) : Good world .rotateFragment := by
  have after := valid.rotateFragment admitted
  have queue : (Dswifi.Beacon.step world .rotateFragment).taken ++
      waiting (Dswifi.Beacon.step world .rotateFragment).shared =
        (Dswifi.Beacon.step world .rotateFragment).accepted := after.queue
  by_cases effective : rotateSkip world.shared world.arm7 = .ok
  · have same : Dswifi.Beacon.step world .rotateFragment = _ := rotateFragment_effective effective
    refine ⟨queue, fun other => Event.noConfusion other, fun _ patch lastly => ?_,
      fun _ address apart => ?_, fun off _ => absurd effective off⟩
    · rw [same] at lastly ⊢
      exact sticky_patched valid.sticky _ _ lastly
    · rw [same] at apart ⊢
      rw [underPatches, ← valid.fragmentIndex_eq (admitted effective), ← macReadByte_macWriteBytes]
      exact sticky_beside valid.sticky _ _ apart
  · have same : Dswifi.Beacon.step world .rotateFragment = _ := rotateFragment_skipped effective
    refine ⟨queue, fun other => Event.noConfusion other, fun writes => absurd writes effective,
      fun writes => absurd writes effective, fun _ _ => ?_⟩
    rw [same]

end Written

theorem Inv.good {world : World} {event : Event} (valid : Inv world) (admitted : Admitted world event) :
    Good world event := by
  have after := valid.step admitted
  cases event with
  | applyPatches => exact applyPatches_good valid admitted
  | rotateFragment => exact rotateFragment_good valid admitted
  | setup ram stack channel =>
      exact ⟨after.queue, fun other => Event.noConfusion other, False.elim, False.elim,
        fun _ other => absurd rfl (other ram stack channel)⟩
  | patchVendorByte offset value =>
      exact ⟨after.queue, fun other => Event.noConfusion other, False.elim, False.elim,
        fun _ _ => congrArg Arm7.ram (arm9_idle world offset value none 0 0).1⟩
  | setExtraDataFragments fragments fragmentSize count =>
      exact ⟨after.queue, fun other => Event.noConfusion other, False.elim, False.elim,
        fun _ _ => congrArg Arm7.ram (arm9_idle world 0 0 fragments fragmentSize count).2⟩

/-- Patches and fragments reach the beacon as they should in every run that does
not take too many patches or hand over too many tables. -/
theorem beacon_kept (events : List Event) (admitted : EachStep step Admitted {} events) :
    EachStep step Good {} events :=
  each_step_of_guard (fun _ _ valid admitted => Inv.step valid admitted)
    (fun _ _ valid admitted => Inv.good valid admitted) {} events Inv.start admitted

/-- A beacon with a name of one letter, so that the element behind it starts at an
odd address, and with two bytes of extra data. -/
def smallFrame : List UInt8 :=
  List.replicate 10 0 ++ [71, 0] ++ List.replicate 36 0 ++ [0, 1, 65] ++
    [221, 26, 0x00, 0x09, 0xBF, 0x00] ++ List.replicate 14 0 ++ [2] ++ List.replicate 5 0 ++ [1, 2]

def smallSetup : Event :=
  .setup (macWriteBytes (fun _ => 0) macBeaconStartOffset smallFrame) (fun _ => 0) 1

def smallTable (count : Nat) : Event :=
  .setExtraDataFragments (some fun i => UInt8.ofNat (10 * (i + 1))) 2 count

def smallRun : List Event :=
  [smallSetup, smallTable 3, .patchVendorByte 24 9, .applyPatches, .rotateFragment, .rotateFragment,
    .patchVendorByte 0x13 1, smallTable 2, .rotateFragment, .applyPatches, smallSetup, .rotateFragment]

theorem beacon_kept_small : EachStep step Good {} smallRun := beacon_kept smallRun (by decide +kernel)

/-- The last table comes 256 tables after the one before it that was looked at:
the rotation in between found nothing to rotate. -/
def roundTables : List Event :=
  [smallSetup, smallTable 2, .rotateFragment] ++ List.replicate 255 (smallTable 1) ++
    [.rotateFragment, smallTable 2]

/-- Seven patches wait while a new beacon is set up, and two come after it. -/
def leftPatches : List Event :=
  [smallSetup] ++ (List.range 7).map (fun offset => .patchVendorByte offset 7) ++
    [smallSetup, .applyPatches, .patchVendorByte 7 7, .patchVendorByte 8 7]

/-- Where tables are counted between rotations of any kind, a table may go on with
the second fragment; where patches are counted when they are accepted, one of them
may be dropped. -/
theorem counted_otherwise :
    (EachStep step Counted {} (roundTables ++ [.rotateFragment]) ∧
        ¬ EachStep step Good {} (roundTables ++ [.rotateFragment])) ∧
      EachStep step Counted {} (leftPatches ++ [.applyPatches]) ∧
        ¬ EachStep step Good {} (leftPatches ++ [.applyPatches]) := by
  refine ⟨⟨by decide +kernel, ?_⟩, by decide +kernel, ?_⟩
  · rw [each_step_append]
    rintro ⟨_, last, _⟩
    have first := last.beside (by decide +kernel)
      (run step {} roundTables).arm7.beaconExtraDataAddr (by decide +kernel)
    revert first
    decide +kernel
  · rw [each_step_append]
    rintro ⟨_, last, _⟩
    have kept := last.patched (by decide +kernel) ⟨8, 7⟩ (by decide +kernel)
    revert kept
    decide +kernel

end Dswifi.Beacon
