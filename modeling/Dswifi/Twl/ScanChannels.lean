import Dswifi.ByteMemory
import Dswifi.Runs

/-! The channels that the DSi scans (arm7/twl/ath/wmi.twl.c). The chip answers with the
list of its channels, and each tick of the scan takes the next one from the table. -/

namespace Dswifi.Twl

open ByteMemory Runs

def channelFreqsSize : Nat := 32

/-- `channelFreqs` is the memory from channel_freqs on, of which only the first 32 are the
table. -/
structure ChannelScan where
  deviceNumChannels : UInt8
  deviceCurChannelIdx : UInt8
  channelFreqs : Nat → UInt16
  wmiIsScanning : Bool

namespace ChannelScan

/-- The static variables before anything has run, with what is behind the table. -/
def initial (behind : Nat → UInt16) : ChannelScan where
  deviceNumChannels := 0
  deviceCurChannelIdx := 0
  channelFreqs := fun i => if i < channelFreqsSize then 0 else behind i
  wmiIsScanning := false

/-- The channel_entries of a reply. -/
def channelEntry (pktData : Memory) (i : Nat) : UInt16 :=
  (pktData (2 + 2 * i)).toUInt16 ||| (pktData (2 + 2 * i + 1)).toUInt16 <<< 8

def wmiHandleGetChannelList (pktData : Memory) (scan : ChannelScan) : ChannelScan :=
  let numEntries := pktData 1
  let scan := { scan with deviceNumChannels := numEntries }
  let numEntries := if numEntries > 32 then 32 else numEntries
  { scan with
    channelFreqs := fun i => if i < numEntries.toNat then channelEntry pktData i else scan.channelFreqs i }

def wmiHandleScanComplete (scan : ChannelScan) : ChannelScan := { scan with wmiIsScanning := false }

def wmiInit (scan : ChannelScan) : ChannelScan := { scan with wmiIsScanning := false }

def wmiScanModeStart (scan : ChannelScan) : ChannelScan := { scan with deviceCurChannelIdx := 0 }

/-- wmi_start_scan -/
def wmiStartScan (scan : ChannelScan) : ChannelScan := { scan with wmiIsScanning := true }

/-- The index after the one that is used now. -/
def nextChannelIdx (scan : ChannelScan) : UInt8 :=
  let next := scan.deviceCurChannelIdx + 1
  if next ≥ scan.deviceNumChannels then 0 else next

/-- wmi_scan_mode_tick, with the index it uses into channel_freqs. -/
def wmiScanModeTick (scan : ChannelScan) : Option UInt8 × ChannelScan :=
  if scan.deviceNumChannels = 0 then (none, scan)
  else if scan.wmiIsScanning then (none, scan)
  else
    let mhz := scan.channelFreqs scan.deviceCurChannelIdx.toNat
    let after := { scan with deviceCurChannelIdx := scan.nextChannelIdx }
    (some scan.deviceCurChannelIdx, if mhz = 0 then after else wmiStartScan after)

end ChannelScan

inductive ScanAction where
  | channelList (pktData : Memory)
  | scanComplete
  | init
  | start
  | tick

/-- How many channels a reply announces. -/
def ScanAction.announced : ScanAction → Option UInt8
  | .channelList pktData => some (pktData 1)
  | _ => none

namespace ChannelScan

def step (scan : ChannelScan) : ScanAction → ChannelScan
  | .channelList pktData => wmiHandleGetChannelList pktData scan
  | .scanComplete => wmiHandleScanComplete scan
  | .init => wmiInit scan
  | .start => wmiScanModeStart scan
  | .tick => (wmiScanModeTick scan).2

def usedIndex (scan : ChannelScan) : ScanAction → Option UInt8
  | .tick => (wmiScanModeTick scan).1
  | _ => none

def IndexInside (scan : ChannelScan) (action : ScanAction) : Prop :=
  ∀ index ∈ scan.usedIndex action, index.toNat < channelFreqsSize

/-- The index is checked against the number that was announced, so that number has to be
in bounds too. A shorter list may come at any time and leave the index above it. -/
structure Bounded (scan : ChannelScan) : Prop where
  channels : scan.deviceNumChannels.toNat ≤ channelFreqsSize
  index : scan.deviceCurChannelIdx.toNat < channelFreqsSize

theorem usedIndex_eq {scan : ChannelScan} {action : ScanAction} {index : UInt8}
    (used : index ∈ scan.usedIndex action) : index = scan.deviceCurChannelIdx := by
  cases action with
  | tick =>
      rw [usedIndex, wmiScanModeTick] at used
      split at used
      · cases used
      · split at used
        · cases used
        · exact (Option.mem_some_iff.mp used).symm
  | _ => cases used

theorem Bounded.indexInside {scan : ChannelScan} (bounded : Bounded scan) (action : ScanAction) :
    IndexInside scan action := by
  intro index used
  rw [usedIndex_eq used]
  exact bounded.index

theorem Bounded.next {scan : ChannelScan} (bounded : Bounded scan) :
    scan.nextChannelIdx.toNat < channelFreqsSize := by
  have channels := bounded.channels
  unfold nextChannelIdx
  dsimp only
  split
  · decide
  next below =>
    rw [UInt8.not_le, UInt8.lt_iff_toNat_lt] at below
    exact Nat.lt_of_lt_of_le below channels

theorem Bounded.tick {scan : ChannelScan} (bounded : Bounded scan) : Bounded (wmiScanModeTick scan).2 := by
  unfold wmiScanModeTick
  split
  · exact bounded
  · split
    · exact bounded
    · dsimp only
      split
      · exact ⟨bounded.channels, bounded.next⟩
      · exact ⟨bounded.channels, bounded.next⟩

/-- A reply that announces too many is what the invariant does not survive. -/
theorem Bounded.step {scan : ChannelScan} (bounded : Bounded scan) {action : ScanAction}
    (fits : ∀ count ∈ action.announced, count.toNat ≤ channelFreqsSize) : Bounded (step scan action) := by
  cases action with
  | channelList pktData => exact ⟨fits _ rfl, bounded.index⟩
  | scanComplete => exact ⟨bounded.channels, bounded.index⟩
  | init => exact ⟨bounded.channels, bounded.index⟩
  | start => exact ⟨bounded.channels, Nat.zero_lt_succ _⟩
  | tick => exact bounded.tick

theorem bounded_initial (behind : Nat → UInt16) : Bounded (initial behind) :=
  ⟨Nat.zero_le _, Nat.zero_lt_succ _⟩

/-! A scan that goes on for long enough uses an index for every channel that was announced. -/

/-- `n` ticks, each with the end of the scan it may have started. -/
def rounds (n : Nat) : List ScanAction := (List.replicate n [.tick, .scanComplete]).flatten

theorem announced_of_rounds {n : Nat} {action : ScanAction} (member : action ∈ rounds n ++ [.tick]) :
    action.announced = none := by
  have silent : action = .tick ∨ action = .scanComplete := by
    rw [rounds, List.mem_append, List.mem_flatten] at member
    rcases member with ⟨_, round, inside⟩ | last
    · rw [List.eq_of_mem_replicate round] at inside
      simpa using inside
    · exact .inl (List.mem_singleton.mp last)
  rcases silent with rfl | rfl
  · rfl
  · rfl

theorem usedIndex_tick {scan : ChannelScan} (idle : scan.wmiIsScanning = false) (channels : scan.deviceNumChannels ≠ 0) :
    scan.usedIndex .tick = some scan.deviceCurChannelIdx := by
  rw [usedIndex, wmiScanModeTick, if_neg channels, if_neg (by rw [idle]; exact Bool.false_ne_true)]

def atChannel (scan : ChannelScan) (index : Nat) : ChannelScan :=
  { scan with deviceCurChannelIdx := UInt8.ofNat index }

theorem run_round {scan : ChannelScan} (idle : scan.wmiIsScanning = false) (channels : scan.deviceNumChannels ≠ 0) :
    run step scan [.tick, .scanComplete] = { scan with deviceCurChannelIdx := scan.nextChannelIdx } := by
  have ends : ∀ after : ChannelScan, wmiHandleScanComplete (wmiStartScan after) = wmiHandleScanComplete after :=
    fun _ => rfl
  rw [run_cons, run_cons, run_nil, step, step, wmiScanModeTick, if_neg channels,
    if_neg (by rw [idle]; exact Bool.false_ne_true)]
  dsimp only
  rw [apply_ite wmiHandleScanComplete, ends, ite_self, wmiHandleScanComplete, idle]

theorem nextChannelIdx_atChannel (scan : ChannelScan) {n : Nat} (more : n + 1 < scan.deviceNumChannels.toNat) :
    (scan.atChannel n).nextChannelIdx = UInt8.ofNat (n + 1) := by
  have small : n + 1 < UInt8.size := more.trans scan.deviceNumChannels.toNat_lt
  have below : ¬ UInt8.ofNat (n + 1) ≥ scan.deviceNumChannels := by
    rwa [ge_iff_le, UInt8.not_le, UInt8.lt_iff_toNat_lt, UInt8.toNat_ofNat_of_lt' small]
  rw [UInt8.ofNat_add] at below ⊢
  exact if_neg below

theorem run_rounds {scan : ChannelScan} (idle : scan.wmiIsScanning = false) (first : scan.deviceCurChannelIdx = 0)
    {n : Nat} (more : n < scan.deviceNumChannels.toNat) : run step scan (rounds n) = scan.atChannel n := by
  induction n with
  | zero =>
      rw [atChannel, show UInt8.ofNat 0 = scan.deviceCurChannelIdx from first.symm]
      rfl
  | succ n ih =>
      have channels : (scan.atChannel n).deviceNumChannels ≠ 0 := UInt8.toNat_inj.ne.mp (Nat.ne_zero_of_lt more)
      have split : rounds (n + 1) = rounds n ++ [.tick, .scanComplete] := by
        rw [rounds, List.replicate_succ', List.flatten_concat]
        rfl
      rw [split, run_append, ih (by omega), @run_round (scan.atChannel n) idle channels,
        nextChannelIdx_atChannel scan more]
      rfl

/-- Whatever the channels are, the index gets behind the table. -/
theorem long_list_outside (behind : Nat → UInt16) {pktData : Memory} (many : channelFreqsSize < (pktData 1).toNat) :
    ¬ EachStep step IndexInside (initial behind)
      (.channelList pktData :: (rounds channelFreqsSize ++ [.tick])) := by
  rintro ⟨_, ticks⟩
  have channels : pktData 1 ≠ 0 := UInt8.toNat_inj.ne.mp (Nat.ne_zero_of_lt many)
  rw [each_step_append, run_rounds rfl rfl many] at ticks
  have inside := ticks.2.1 (UInt8.ofNat channelFreqsSize) (usedIndex_tick rfl channels)
  exact absurd inside (by decide)

/-- Only the copy of the list is cut to the table. What the replies announce has to fit too. -/
theorem index_inside_iff (counts : Set UInt8) :
    (∀ behind actions, (∀ action ∈ actions, ∀ count ∈ ScanAction.announced action, count ∈ counts) →
        EachStep step IndexInside (initial behind) actions) ↔
      ∀ count ∈ counts, count.toNat ≤ channelFreqsSize := by
  constructor
  · intro inside count announced
    by_contra many
    apply @long_list_outside (fun _ => 0) (fun _ => count) (Nat.lt_of_not_le many)
    apply inside
    intro action member other told
    rcases List.mem_cons.mp member with rfl | later
    · rwa [← Option.mem_some_iff.mp told]
    · rw [announced_of_rounds later] at told
      cases told
  · intro fits behind actions announced
    apply each_step_of_guard (fun _ _ bounded announced => bounded.step announced)
      (fun _ action bounded _ => bounded.indexInside action) _ _ (bounded_initial behind)
    apply each_step_of_actions
    intro action member _ count told
    exact fits count (announced action member count told)

/-- 33 channels, all of 2412 MHz. -/
def longList : Memory := fun i => if i = 1 then 33 else if i % 2 = 0 then 0x6C else 0x09

theorem long_list_not_inside :
    ¬ ∀ behind actions, EachStep step IndexInside (initial behind) actions := by
  intro inside
  exact @long_list_outside (fun _ => 0) longList (by decide)
    (inside (fun _ => 0) (.channelList longList :: (rounds channelFreqsSize ++ [.tick])))

end ChannelScan

end Dswifi.Twl
