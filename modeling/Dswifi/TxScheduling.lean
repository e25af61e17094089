import Dswifi.Runs
import Dswifi.TxScheduler

/-! No buffer of a slot is written to while the slot is busy, and the frames that the
ARM7 has accepted are started in their order, each once. Everything that concerns the
ring of the ARM9 leaves the queue of the ARM7 and its history alone. -/

namespace Dswifi.TxScheduler

open ByteMemory MacRam RingBuffer Runs
open TxQueue (MacBuffer macTxbuf macCmdbuf macBeacon replyBuffer)

def arm7Starts (scheduler : Scheduler) : List Start :=
  scheduler.started.filter fun start => start.sender = .arm7

/-- The transmission is the frame's, byte for byte. -/
def Carries (frame : Frame) (start : Start) : Prop :=
  start.slot = .loc3 ∧ start.content.take frame.datalen = frame.bytes

/-- The frame that is in the queue of the ARM7. -/
def Waits (scheduler : Scheduler) : Option Frame → Prop
  | none => scheduler.wifiTxQueueLen = 0
  | some frame =>
      scheduler.wifiTxQueueLen = frame.datalen ∧
        readBytes scheduler.wifiTxQueue 0 frame.datalen = frame.bytes

/-- The channel that Wifi_BeaconSetup writes is in the beacon. -/
def ChannelOutside (elements : Beacon.Elements) : Prop :=
  elements.beaconChannelAddr = 0 ∨ macBeacon.base ≤ elements.beaconChannelAddr

/-- The frames so far: those that were started and the one that waits. -/
structure Sends (scheduler : Scheduler) (sent : List Frame) (waiting : Option Frame) : Prop where
  accepted : scheduler.accepted = sent ++ waiting.toList
  carried : List.Forall₂ Carries sent (arm7Starts scheduler)
  waits : Waits scheduler waiting

structure Sound (scheduler : Scheduler) : Prop where
  clean : scheduler.overwritten = []
  channel : ChannelOutside scheduler.arm7.toElements
  sends : ∃ sent waiting, Sends scheduler sent waiting

/-! Writes to the MAC RAM. -/

/-- No busy slot has its buffer between the addresses. -/
def Free (scheduler : Scheduler) (low high : Nat) : Prop :=
  ∀ slot, busy scheduler slot = true → high ≤ slot.buffer.base ∨ slot.buffer.stop ≤ low

theorem Free.mono {scheduler : Scheduler} {low high low' high' : Nat} (free : Free scheduler low high)
    (above : low ≤ low') (below : high' ≤ high) : Free scheduler low' high' := by
  intro slot occupied
  have apart := free slot occupied
  omega

theorem free_loc3 {scheduler : Scheduler} (idle : scheduler.loc3Busy = false) (low : Nat) {high : Nat}
    (inside : high ≤ macTxbuf.stop) : Free scheduler low high := by
  intro slot occupied
  cases slot with
  | loc3 => exact absurd (idle.symm.trans occupied) (by decide)
  | cmd => exact .inl inside

theorem free_cmd {scheduler : Scheduler} (idle : scheduler.cmdBusy = false) {low : Nat} (high : Nat)
    (inside : macCmdbuf.base ≤ low) : Free scheduler low high := by
  intro slot occupied
  cases slot with
  | loc3 => exact .inr inside
  | cmd => exact absurd (idle.symm.trans occupied) (by decide)

theorem free_above (scheduler : Scheduler) {low : Nat} (high : Nat) (above : macBeacon.base ≤ low) :
    Free scheduler low high := by
  intro slot _
  refine .inr (Nat.le_trans ?_ above)
  cases slot <;> decide

theorem written_eq {scheduler : Scheduler} {low high : Nat} (free : Free scheduler low high) (ram : Ram) :
    written scheduler low high ram = { scheduler with arm7 := { scheduler.arm7 with ram } } := by
  have none : touched scheduler low high = [] := by
    refine List.filter_eq_nil_iff.mpr fun slot _ hit => ?_
    simp only [Bool.and_eq_true, decide_eq_true_eq] at hit
    have apart := free slot hit.1
    omega
  rw [written, none, List.append_nil]

/-! What has nothing to do with the frames of the ARM7. -/

structure Foreign (before after : Scheduler) : Prop where
  queue : after.wifiTxQueue = before.wifiTxQueue
  queueLen : after.wifiTxQueueLen = before.wifiTxQueueLen
  accepted : after.accepted = before.accepted
  started : arm7Starts after = arm7Starts before
  overwritten : after.overwritten = before.overwritten
  channel : ChannelOutside before.arm7.toElements → ChannelOutside after.arm7.toElements

theorem Foreign.refl (scheduler : Scheduler) : Foreign scheduler scheduler :=
  ⟨rfl, rfl, rfl, rfl, rfl, id⟩

theorem Foreign.trans {first second third : Scheduler} (one : Foreign first second)
    (two : Foreign second third) : Foreign first third where
  queue := two.queue.trans one.queue
  queueLen := two.queueLen.trans one.queueLen
  accepted := two.accepted.trans one.accepted
  started := two.started.trans one.started
  overwritten := two.overwritten.trans one.overwritten
  channel := two.channel ∘ one.channel

theorem Foreign.sound {before after : Scheduler} (foreign : Foreign before after) (sound : Sound before) :
    Sound after := by
  obtain ⟨sent, waiting, accepted, carried, waits⟩ := sound.sends
  refine ⟨foreign.overwritten.trans sound.clean, foreign.channel sound.channel, sent, waiting,
    foreign.accepted.trans accepted, foreign.started ▸ carried, ?_⟩
  cases waiting with
  | none => exact foreign.queueLen.trans waits
  | some frame => exact ⟨foreign.queueLen.trans waits.1, foreign.queue ▸ waits.2⟩

/-- The slots that are busy afterwards were so before. -/
structure Neutral (before after : Scheduler) : Prop extends Foreign before after where
  loc3Busy : after.loc3Busy = before.loc3Busy
  cmdBusy : after.cmdBusy = before.cmdBusy

theorem Neutral.refl (scheduler : Scheduler) : Neutral scheduler scheduler :=
  ⟨Foreign.refl scheduler, rfl, rfl⟩

theorem Neutral.trans {first second third : Scheduler} (one : Neutral first second)
    (two : Neutral second third) : Neutral first third :=
  ⟨one.toForeign.trans two.toForeign, two.loc3Busy.trans one.loc3Busy, two.cmdBusy.trans one.cmdBusy⟩

theorem written_neutral {scheduler : Scheduler} {low high : Nat} (free : Free scheduler low high)
    (ram : Ram) : Neutral scheduler (written scheduler low high ram) := by
  rw [written_eq free]
  exact ⟨⟨rfl, rfl, rfl, rfl, rfl, id⟩, rfl, rfl⟩

theorem macWrite_neutral {scheduler : Scheduler} (src : Memory) {base length : Nat}
    (free : Free scheduler base (base + (length + 1) / 2 * 2)) :
    Neutral scheduler (macWrite scheduler src base length) := by
  unfold macWrite
  split
  · exact Neutral.refl scheduler
  · exact written_neutral free _

theorem ring_neutral (scheduler : Scheduler) (ring : Buffer) :
    Neutral scheduler { scheduler with ring } :=
  ⟨⟨rfl, rfl, rfl, rfl, rfl, id⟩, rfl, rfl⟩

theorem copied_fits (ring : Buffer) (buffer : MacBuffer) :
    ∀ bytes ∈ (TxQueue.copyFirstData ring buffer).2, bytes.length ≤ buffer.stop - buffer.base := by
  intro bytes copied
  unfold TxQueue.copyFirstData at copied
  dsimp only at copied
  split at copied
  · next fits =>
      simp only [Option.mem_def, Option.some.injEq] at copied
      rw [← copied, readBytes_length]
      exact fits
  · simp only [Option.mem_def, reduceCtorEq] at copied

theorem copyToMac_neutral {scheduler : Scheduler} {base stop : Nat} (even : (stop - base) % 2 = 0)
    (room : base ≤ stop) (free : Free scheduler base stop) (copied : Buffer × Option (List UInt8))
    (fits : ∀ bytes ∈ copied.2, bytes.length ≤ stop - base) :
    Neutral scheduler (copyToMac scheduler base copied).1 := by
  obtain ⟨ring, found⟩ := copied
  cases found with
  | none => exact ring_neutral scheduler ring
  | some bytes =>
      have short := fits bytes rfl
      have inside : Free { scheduler with ring } base (base + (bytes.length + 1) / 2 * 2) :=
        Free.mono free (Nat.le_refl _) (by omega)
      exact (ring_neutral scheduler ring).trans (macWrite_neutral _ inside)

/-- A copy stays in its buffer. -/
theorem copyFirstData_neutral {scheduler : Scheduler} {buffer : MacBuffer}
    (even : (buffer.stop - buffer.base) % 2 = 0) (room : buffer.base ≤ buffer.stop)
    (free : Free scheduler buffer.base buffer.stop) :
    Neutral scheduler (txArm9QueueCopyFirstData scheduler buffer).1 :=
  copyToMac_neutral even room free _ (copied_fits _ _)

/-! Flushing the ring of the ARM9. -/

theorem startCmd_foreign (scheduler : Scheduler) : Foreign scheduler (startCmd scheduler) where
  queue := rfl
  queueLen := rfl
  accepted := rfl
  started := by simp [arm7Starts, startCmd]
  overwritten := rfl
  channel := id

theorem startLoc3_foreign (scheduler : Scheduler) : Foreign scheduler (startLoc3 scheduler .arm9) where
  queue := rfl
  queueLen := rfl
  accepted := rfl
  started := by simp [arm7Starts, startLoc3]
  overwritten := rfl
  channel := id

theorem Neutral.setMacMem_cmd {before scheduler : Scheduler} (neutral : Neutral before scheduler)
    (idle : before.cmdBusy = false) {address : Nat} (inside : macCmdbuf.base ≤ address) (value : UInt16) :
    Neutral before (setMacMem scheduler address value) :=
  neutral.trans (written_neutral (free_cmd (neutral.cmdBusy.trans idle) _ inside) _)

theorem Neutral.setMacMem_loc3 {before scheduler : Scheduler} (neutral : Neutral before scheduler)
    (idle : before.loc3Busy = false) {address : Nat} (inside : address + 2 ≤ macTxbuf.stop) (value : UInt16) :
    Neutral before (setMacMem scheduler address value) :=
  neutral.trans (written_neutral (free_loc3 (neutral.loc3Busy.trans idle) _ inside) _)

theorem registers_foreign (scheduler : Scheduler) (total reply count : UInt16) :
    Foreign scheduler
      { scheduler with wCmdTotaltime := total, wCmdReplytime := reply, wCmdCount := count } :=
  ⟨rfl, rfl, rfl, rfl, rfl, id⟩

theorem flushByCmd_foreign (surroundings : Surroundings) {scheduler : Scheduler}
    (idle : scheduler.cmdBusy = false) :
    Foreign scheduler (txArm9QueueFlushByCmd surroundings scheduler) := by
  unfold txArm9QueueFlushByCmd
  dsimp only
  refine Foreign.trans ?_ (startCmd_foreign _)
  refine Foreign.trans ?_ (registers_foreign _ _ _ _)
  refine Neutral.toForeign ?_
  refine Neutral.setMacMem_cmd ?_ idle (by decide) _
  refine Neutral.setMacMem_cmd ?_ idle (by decide) _
  refine Neutral.setMacMem_cmd ?_ idle (by decide) _
  exact Neutral.setMacMem_cmd (Neutral.refl scheduler) idle (by decide) _

theorem fillInRate_neutral (surroundings : Surroundings) {scheduler : Scheduler}
    (idle : scheduler.loc3Busy = false) : Neutral scheduler (fillInRate surroundings scheduler) := by
  unfold fillInRate
  split
  · exact Neutral.setMacMem_loc3 (Neutral.refl scheduler) idle (by decide) _
  · exact Neutral.refl scheduler

theorem fillInIv_neutral (surroundings : Surroundings) {scheduler : Scheduler}
    (idle : scheduler.loc3Busy = false) : Neutral scheduler (fillInIv surroundings scheduler) := by
  unfold fillInIv
  dsimp only
  split
  · refine Neutral.setMacMem_loc3 ?_ idle (by decide) _
    exact Neutral.setMacMem_loc3 (Neutral.refl scheduler) idle (by decide) _
  · exact Neutral.refl scheduler

theorem flushByLoc3_foreign (surroundings : Surroundings) {scheduler : Scheduler}
    (idle : scheduler.loc3Busy = false) :
    Foreign scheduler (txArm9QueueFlushByLoc3 surroundings scheduler) := by
  have rate := fillInRate_neutral surroundings idle
  have iv := fillInIv_neutral surroundings (rate.loc3Busy.trans idle)
  exact (rate.trans iv).toForeign.trans (startLoc3_foreign _)

theorem reply_foreign (scheduler : Scheduler) (limit reply : UInt16) :
    Foreign scheduler
      { keepaliveCountReset scheduler with wTxRetrylimit := limit, wTxbufReply1 := reply } :=
  ⟨rfl, rfl, rfl, rfl, rfl, id⟩

theorem flushByReply_foreign (surroundings : Surroundings) (scheduler : Scheduler) :
    Foreign scheduler (txArm9QueueFlushByReply surroundings scheduler) := by
  have copied : Neutral scheduler
      (txArm9QueueCopyFirstData scheduler (replyBuffer surroundings.wTxbufReply2)).1 := by
    unfold replyBuffer
    split
    · exact copyFirstData_neutral (by decide) (by decide) (free_above scheduler _ (by decide))
    · exact copyFirstData_neutral (by decide) (by decide) (free_above scheduler _ (by decide))
  unfold txArm9QueueFlushByReply
  dsimp only
  split
  · exact copied.toForeign
  · exact copied.toForeign.trans (reply_foreign _ _ _)

/-- The channel is looked for in the beacon only. -/
theorem readElements_channel (data : Nat → UInt8) (len fuel i : Nat) {elements : Beacon.Elements}
    (outside : ChannelOutside elements) :
    ChannelOutside (Beacon.readElements data len fuel i elements) := by
  induction fuel generalizing i elements with
  | zero => exact outside
  | succ fuel ih =>
      rw [Beacon.readElements]
      split
      · refine ih _ ?_
        unfold Beacon.readElement
        split
        · exact .inr (Nat.le_add_right _ _)
        · split
          · exact outside
          · exact outside
      · exact outside

theorem beaconSetup_channel (stack : Nat → UInt8) (channel : UInt8) (shared : Beacon.Shared)
    {arm7 : Beacon.Arm7} (outside : ChannelOutside arm7.toElements) :
    ChannelOutside (Beacon.beaconSetup stack channel shared arm7).toElements := by
  unfold Beacon.beaconSetup Beacon.setBeaconChannel
  dsimp only
  split
  · exact outside
  · split
    · exact readElements_channel _ _ _ _ outside
    · exact readElements_channel _ _ _ _ outside

theorem beaconSetup_foreign (surroundings : Surroundings) {scheduler : Scheduler}
    (outside : ChannelOutside scheduler.arm7.toElements) :
    Foreign scheduler (beaconSetup surroundings scheduler) := by
  have channel := beaconSetup_channel surroundings.stack surroundings.curChannel surroundings.beacon outside
  unfold beaconSetup
  dsimp only
  split
  · exact ⟨rfl, rfl, rfl, rfl, rfl, fun _ => channel⟩
  · next written =>
      have above : macBeacon.base ≤ halfwordOf (Beacon.beaconSetup surroundings.stack
          surroundings.curChannel surroundings.beacon scheduler.arm7).beaconChannelAddr := by
        have far := channel.resolve_left fun none => written (.inl none)
        simp only [macBeacon, halfwordOf] at far ⊢
        omega
      rw [written_eq (free_above _ _ above)]
      exact ⟨rfl, rfl, rfl, rfl, rfl, fun _ => channel⟩

theorem flushByBeacon_foreign (surroundings : Surroundings) {scheduler : Scheduler}
    (outside : ChannelOutside scheduler.arm7.toElements) :
    Foreign scheduler (flushByBeacon surroundings scheduler) := by
  have copied : Neutral scheduler (txArm9QueueCopyFirstData scheduler macBeacon).1 :=
    copyFirstData_neutral (by decide) (by decide) (free_above scheduler _ (by decide))
  unfold flushByBeacon
  dsimp only
  split
  · exact copied.toForeign
  · exact copied.toForeign.trans (beaconSetup_foreign surroundings (copied.channel outside))

theorem keepalive_neutral (scheduler : Scheduler) :
    Neutral scheduler (keepaliveCountReset scheduler) :=
  ⟨⟨rfl, rfl, rfl, rfl, rfl, id⟩, rfl, rfl⟩

theorem retrylimit_neutral (scheduler : Scheduler) (limit : UInt16) :
    Neutral scheduler { scheduler with wTxRetrylimit := limit } :=
  ⟨⟨rfl, rfl, rfl, rfl, rfl, id⟩, rfl, rfl⟩

theorem startSlot_foreign (surroundings : Surroundings) (isCmd : Bool) {scheduler : Scheduler}
    (loc3Idle : scheduler.loc3Busy = false) (cmdIdle : scheduler.cmdBusy = false) :
    Foreign scheduler (startSlot surroundings isCmd scheduler) := by
  have limited := retrylimit_neutral scheduler 0x0707
  cases isCmd with
  | false => exact flushByLoc3_foreign surroundings loc3Idle
  | true => exact limited.toForeign.trans (flushByCmd_foreign surroundings (limited.cmdBusy.trans cmdIdle))

theorem flushBySlot_foreign (surroundings : Surroundings) (isCmd : Bool) {scheduler : Scheduler}
    (loc3Idle : scheduler.loc3Busy = false) (cmdIdle : scheduler.cmdBusy = false) :
    Foreign scheduler (flushBySlot surroundings isCmd scheduler) := by
  have copied : Neutral scheduler
      (txArm9QueueCopyFirstData scheduler (if isCmd then macCmdbuf else macTxbuf)).1 := by
    cases isCmd with
    | false => exact copyFirstData_neutral (by decide) (by decide) (free_loc3 loc3Idle _ (Nat.le_refl _))
    | true => exact copyFirstData_neutral (by decide) (by decide) (free_cmd cmdIdle _ (Nat.le_refl _))
  have reset := copied.trans (keepalive_neutral _)
  unfold flushBySlot
  dsimp only
  by_cases nothing : (txArm9QueueCopyFirstData scheduler (if isCmd then macCmdbuf else macTxbuf)).2 = 0
  · rw [if_pos nothing]
    exact copied.toForeign
  · rw [if_neg nothing]
    exact reset.toForeign.trans (startSlot_foreign surroundings isCmd (reset.loc3Busy.trans loc3Idle)
      (reset.cmdBusy.trans cmdIdle))

theorem flushKind_foreign (surroundings : Surroundings) {scheduler : Scheduler}
    (outside : ChannelOutside scheduler.arm7.toElements) (loc3Idle : scheduler.loc3Busy = false)
    (cmdIdle : scheduler.cmdBusy = false) (kind : Kind) :
    Foreign scheduler (flushKind surroundings scheduler kind) := by
  cases kind with
  | reply => exact flushByReply_foreign surroundings scheduler
  | beacon => exact flushByBeacon_foreign surroundings outside
  | cmd => exact flushBySlot_foreign surroundings true loc3Idle cmdIdle
  | data => exact flushBySlot_foreign surroundings false loc3Idle cmdIdle
  | received => exact flushBySlot_foreign surroundings false loc3Idle cmdIdle

theorem flushPacket_foreign (surroundings : Surroundings) {scheduler : Scheduler}
    (outside : ChannelOutside scheduler.arm7.toElements) (loc3Idle : scheduler.loc3Busy = false)
    (cmdIdle : scheduler.cmdBusy = false) : Foreign scheduler (flushPacket surroundings scheduler) :=
  flushKind_foreign surroundings outside loc3Idle cmdIdle _

theorem txArm9QueueFlush_foreign (surroundings : Surroundings) {scheduler : Scheduler}
    (outside : ChannelOutside scheduler.arm7.toElements) (loc3Idle : scheduler.loc3Busy = false)
    (cmdIdle : scheduler.cmdBusy = false) :
    Foreign scheduler (txArm9QueueFlush surroundings scheduler) := by
  unfold txArm9QueueFlush
  dsimp only
  split
  · exact Foreign.refl scheduler
  · split
    · have wrapped := (ring_neutral scheduler { scheduler.ring with read := 0 }).toForeign
      split
      · exact wrapped
      · exact wrapped.trans (flushPacket_foreign surroundings outside loc3Idle cmdIdle)
    · exact flushPacket_foreign surroundings outside loc3Idle cmdIdle

/-! The frames of the ARM7. -/

theorem roundUp32_short {length : Nat} (short : length ≤ macTxbuf.stop) :
    length ≤ roundUp32 length ∧ roundUp32 length ≤ macTxbuf.stop ∧ roundUp32 length % 2 = 0 := by
  simp only [macTxbuf, roundUp32, u32] at short ⊢
  omega

theorem readBytes_take (mem : Memory) (pos : Nat) {length total : Nat} (fits : length ≤ total) :
    (readBytes mem pos total).take length = readBytes mem pos length := by
  rw [← Nat.add_sub_of_le fits, readBytes_append, List.take_left' (readBytes_length ..)]

/-- What was written at the start of the slot is what the slot starts with. -/
theorem content_macWriteHalfwords (ram : Ram) (data : Memory) {length size : Nat} (fits : length ≤ size)
    (inside : size ≤ macTxbuf.stop) :
    (content (macWriteHalfwords ram macTxbuf.base (readBytes data 0 size)) .loc3).take length =
      readBytes data 0 length := by
  have room : length ≤ Slot.loc3.buffer.stop - Slot.loc3.buffer.base := Nat.le_trans fits inside
  rw [content, readBytes_take _ _ room]
  have same : Agree (macReadByte (macWriteHalfwords ram macTxbuf.base (readBytes data 0 size))) data 0
      length := by
    intro i _ below
    have bound : i < size := Nat.lt_of_lt_of_le below fits
    have there : (readBytes data 0 size)[i - macTxbuf.base]? = some (data i) := by
      simp [readBytes, macTxbuf, bound]
    rw [macReadByte_macWriteHalfwords _ _ _ (by decide), overlaid,
      if_pos (show macTxbuf.base ≤ i from Nat.zero_le i), there, Option.getD_some]
  exact same.readBytes 0 length (Nat.le_refl _) (by omega)

theorem txRaw_eq {scheduler : Scheduler} (idle : scheduler.loc3Busy = false) (data : Memory)
    {datalen : Nat} (short : datalen ≤ macTxbuf.stop) :
    txRaw scheduler data datalen =
      startLoc3
        { scheduler with
          arm7 := { scheduler.arm7 with
            ram := macWriteHalfwords scheduler.arm7.ram macTxbuf.base
              (readBytes data 0 (roundUp32 datalen)) } }
        .arm7 := by
  obtain ⟨_, inside, even⟩ := roundUp32_short short
  have fits : ¬ macTxbuf.base + roundUp32 datalen > macSize := by
    simp only [macTxbuf, macSize] at inside ⊢
    omega
  have whole : (roundUp32 datalen + 1) / 2 * 2 = roundUp32 datalen := by omega
  have free : Free scheduler macTxbuf.base (macTxbuf.base + roundUp32 datalen) :=
    free_loc3 idle _ (by simpa only [macTxbuf, Nat.zero_add] using inside)
  rw [txRaw, macWrite, if_neg fits]
  dsimp only
  rw [whole, written_eq free]

theorem arm7Starts_startLoc3 (scheduler : Scheduler) :
    arm7Starts (startLoc3 scheduler .arm7) =
      arm7Starts scheduler ++ [⟨.loc3, .arm7, content scheduler.arm7.ram .loc3⟩] := by
  simp [arm7Starts, startLoc3]

/-- One more transmission carries one more frame. -/
theorem txRaw_carried {scheduler : Scheduler} (idle : scheduler.loc3Busy = false) {data : Memory}
    {frame : Frame} (same : readBytes data 0 frame.datalen = frame.bytes) {sent : List Frame}
    (carried : List.Forall₂ Carries sent (arm7Starts scheduler)) :
    List.Forall₂ Carries (sent ++ [frame]) (arm7Starts (txRaw scheduler data frame.datalen)) := by
  obtain ⟨longer, inside, _⟩ := roundUp32_short frame.short
  rw [txRaw_eq idle data frame.short, arm7Starts_startLoc3]
  refine List.rel_append carried (.cons ⟨rfl, ?_⟩ .nil)
  exact (content_macWriteHalfwords _ data longer inside).trans same

/-- A transmission leaves the queue and the history of the calls alone. -/
theorem txRaw_rest {scheduler : Scheduler} (idle : scheduler.loc3Busy = false) (data : Memory)
    {datalen : Nat} (short : datalen ≤ macTxbuf.stop) :
    (txRaw scheduler data datalen).overwritten = scheduler.overwritten ∧
      (txRaw scheduler data datalen).arm7.toElements = scheduler.arm7.toElements ∧
      (txRaw scheduler data datalen).accepted = scheduler.accepted ∧
      (txRaw scheduler data datalen).wifiTxQueueLen = scheduler.wifiTxQueueLen := by
  rw [txRaw_eq idle data short]
  exact ⟨rfl, rfl, rfl, rfl⟩

theorem Sends.empty {scheduler : Scheduler} {sent : List Frame} {waiting : Option Frame}
    (sends : Sends scheduler sent waiting) (empty : scheduler.wifiTxQueueLen = 0) : waiting = none := by
  cases waiting with
  | none => rfl
  | some frame =>
      have headed := frame.headed
      have length := sends.waits.1
      omega

/-- Flushing the queue starts the frame that waits. -/
theorem txArm7QueueFlush_sound {scheduler : Scheduler} (sound : Sound scheduler)
    (idle : scheduler.loc3Busy = false) (pending : scheduler.wifiTxQueueLen ≠ 0) :
    Sound (txArm7QueueFlush scheduler) ∧ ∃ sent, Sends (txArm7QueueFlush scheduler) sent none := by
  obtain ⟨sent, waiting, sends⟩ := sound.sends
  cases waiting with
  | none => exact absurd sends.waits pending
  | some frame =>
      obtain ⟨length, bytes⟩ := sends.waits
      have flushed : txArm7QueueFlush scheduler =
          { txRaw scheduler scheduler.wifiTxQueue frame.datalen with wifiTxQueueLen := 0 } := by
        rw [txArm7QueueFlush, length]
      obtain ⟨clean, elements, accepted, _⟩ := txRaw_rest idle scheduler.wifiTxQueue frame.short
      have all : Sends (txArm7QueueFlush scheduler) (sent ++ [frame]) none := by
        rw [flushed]
        refine ⟨?_, txRaw_carried idle bytes sends.carried, rfl⟩
        rw [Option.toList_none, List.append_nil]
        exact accepted.trans sends.accepted
      refine ⟨⟨?_, ?_, _, _, all⟩, _, all⟩
      · rw [flushed]
        exact clean.trans sound.clean
      · rw [flushed]
        exact elements ▸ sound.channel

/-- What the queue accepts waits, and what it does not accept changes nothing. -/
theorem setEnqueuedData_sound {scheduler : Scheduler} (sound : Sound scheduler) (frame : Frame)
    {sent : List Frame} (sends : Sends scheduler sent none) :
    Sound (recorded frame (txArm7QueueSetEnqueuedData scheduler frame)) := by
  unfold txArm7QueueSetEnqueuedData
  dsimp only
  split
  · exact sound
  · next room =>
      refine ⟨sound.clean, sound.channel, sent, some frame, ?_, sends.carried, ?_, ?_⟩
      · have before := sends.accepted
        rw [Option.toList_none, List.append_nil] at before
        change scheduler.accepted ++ [frame] = sent ++ [frame]
        rw [before]
      · change frame.datalen % 65536 = frame.datalen
        omega
      · have same : Agree
            (fun i => if i < 2 * ((frame.datalen + 1) / 2) then frame.data i else scheduler.wifiTxQueue i)
            frame.data 0 frame.datalen := fun i _ below => if_pos (by omega)
        exact same.readBytes 0 frame.datalen (Nat.le_refl _) (by omega)

theorem txArm7QueueAdd_sound {scheduler : Scheduler} (sound : Sound scheduler) (frame : Frame) :
    Sound (recorded frame (txArm7QueueAdd scheduler frame)) := by
  obtain ⟨sent, waiting, sends⟩ := sound.sends
  unfold txArm7QueueAdd
  simp only [txArm7QueueIsEmpty, beq_iff_eq, Bool.not_eq_eq_eq_not, Bool.not_true]
  -- an idle slot sends what waits first; a busy one leaves room for one frame
  by_cases idle : scheduler.loc3Busy = false
  · rw [if_pos idle]
    by_cases empty : scheduler.wifiTxQueueLen = 0
    · rw [if_pos empty]
      have none := sends.empty empty
      subst none
      obtain ⟨clean, elements, accepted, length⟩ := txRaw_rest idle frame.data frame.short
      refine ⟨clean.trans sound.clean, elements ▸ sound.channel, sent ++ [frame], .none, ?_,
        txRaw_carried idle rfl sends.carried, length.trans empty⟩
      have before := accepted.trans sends.accepted
      rw [Option.toList_none, List.append_nil] at before ⊢
      exact congrArg (· ++ [frame]) before
    · rw [if_neg empty]
      obtain ⟨flushed, sent, all⟩ := txArm7QueueFlush_sound sound idle empty
      exact setEnqueuedData_sound flushed frame all
  · rw [if_neg idle]
    by_cases empty : scheduler.wifiTxQueueLen = 0
    · rw [if_pos empty]
      have none := sends.empty empty
      subst none
      exact setEnqueuedData_sound sound frame sends
    · rw [if_neg empty]
      exact sound

/-! The steps. -/

theorem isEmpty_iff (scheduler : Scheduler) :
    txArm7QueueIsEmpty scheduler = true ↔ scheduler.wifiTxQueueLen = 0 := beq_iff_eq

theorem txArm7QueueFlush_accepted {scheduler : Scheduler} (sound : Sound scheduler)
    (idle : scheduler.loc3Busy = false) (pending : scheduler.wifiTxQueueLen ≠ 0) :
    (txArm7QueueFlush scheduler).accepted = scheduler.accepted := by
  obtain ⟨sent, waiting, sends⟩ := sound.sends
  cases waiting with
  | none => exact absurd sends.waits pending
  | some frame =>
      rw [txArm7QueueFlush, sends.waits.1]
      exact (txRaw_rest idle scheduler.wifiTxQueue frame.short).2.2.1

/-- A flush that finds both slots idle leaves no frame of the ARM7 waiting. -/
theorem txAllQueueFlush_idle (surroundings : Surroundings) {scheduler : Scheduler} (sound : Sound scheduler)
    (loc3Idle : scheduler.loc3Busy = false) (cmdIdle : scheduler.cmdBusy = false) :
    Sound (txAllQueueFlush surroundings scheduler) ∧
      List.Forall₂ Carries scheduler.accepted (arm7Starts (txAllQueueFlush surroundings scheduler)) := by
  unfold txAllQueueFlush
  rw [loc3Idle, cmdIdle, Bool.or_self, if_neg Bool.false_ne_true]
  -- the frame of the ARM7 goes first, and without one the ARM9 may use the slots
  by_cases empty : scheduler.wifiTxQueueLen = 0
  · rw [(isEmpty_iff scheduler).mpr empty, Bool.not_true, if_neg Bool.false_ne_true]
    have foreign := txArm9QueueFlush_foreign surroundings sound.channel loc3Idle cmdIdle
    obtain ⟨sent, waiting, sends⟩ := sound.sends
    have none := sends.empty empty
    subst none
    have all := sends.accepted
    rw [Option.toList_none, List.append_nil] at all
    rw [foreign.started, all]
    exact ⟨foreign.sound sound, sends.carried⟩
  · have busy : txArm7QueueIsEmpty scheduler = false :=
      Bool.eq_false_iff.mpr fun holds => empty ((isEmpty_iff scheduler).mp holds)
    rw [busy, Bool.not_false, if_pos rfl]
    obtain ⟨flushed, sent, sends⟩ := txArm7QueueFlush_sound sound loc3Idle empty
    have reset := (keepalive_neutral (txArm7QueueFlush scheduler)).toForeign
    have all := sends.accepted
    rw [Option.toList_none, List.append_nil, txArm7QueueFlush_accepted sound loc3Idle empty] at all
    rw [reset.started, all]
    exact ⟨reset.sound flushed, sends.carried⟩

theorem txAllQueueFlush_sound (surroundings : Surroundings) {scheduler : Scheduler}
    (sound : Sound scheduler) : Sound (txAllQueueFlush surroundings scheduler) := by
  by_cases idle : scheduler.loc3Busy = false ∧ scheduler.cmdBusy = false
  · exact (txAllQueueFlush_idle surroundings sound idle.1 idle.2).1
  · have occupied : (scheduler.loc3Busy || scheduler.cmdBusy) = true := by
      cases loc3 : scheduler.loc3Busy <;> cases cmd : scheduler.cmdBusy <;> simp_all
    rw [txAllQueueFlush, occupied, if_pos rfl]
    exact sound

theorem done_foreign (scheduler : Scheduler) (slot : Slot) (left : Ram) :
    Foreign scheduler (done scheduler slot left) := ⟨rfl, rfl, rfl, rfl, rfl, id⟩

theorem afterCmd_sound (surroundings : Surroundings) {scheduler : Scheduler} (sound : Sound scheduler)
    (cmdIdle : scheduler.cmdBusy = false) : Sound (afterCmd surroundings scheduler) := by
  unfold afterCmd
  split
  · exact sound
  · next going =>
      have loc3Idle : scheduler.loc3Busy = false := by
        simp only [Bool.or_eq_true, not_or, Bool.not_eq_true] at going
        exact going.1
      exact (txArm9QueueFlush_foreign surroundings sound.channel loc3Idle cmdIdle).sound sound

theorem retry_neutral {scheduler : Scheduler} (cmdIdle : scheduler.cmdBusy = false) (limit : UInt16) :
    Neutral scheduler
      (setMacMem { scheduler with wTxRetrylimit := limit } (macCmdbuf.base + hdrTxStatus) 0) :=
  Neutral.setMacMem_cmd (retrylimit_neutral scheduler limit) cmdIdle (by decide) _

theorem intrMultiplayCmdDone_sound (surroundings : Surroundings) {scheduler : Scheduler}
    (sound : Sound scheduler) (cmdIdle : scheduler.cmdBusy = false) :
    Sound (intrMultiplayCmdDone surroundings scheduler) := by
  unfold intrMultiplayCmdDone
  dsimp only
  split
  · split
    · have foreign : Foreign scheduler { scheduler with wTxbufCmd := 0, cmdBusy := false } :=
        ⟨rfl, rfl, rfl, rfl, rfl, id⟩
      exact foreign.sound sound
    · have again := retry_neutral cmdIdle (scheduler.wTxRetrylimit - 1)
      exact (again.toForeign.trans
        (flushByCmd_foreign surroundings (again.cmdBusy.trans cmdIdle))).sound sound
  · exact afterCmd_sound surroundings sound cmdIdle

theorem step_sound (scheduler : Scheduler) (event : Event) (sound : Sound scheduler) :
    Sound (step scheduler event) := by
  cases event with
  | txArm7QueueAdd frame => exact txArm7QueueAdd_sound sound frame
  | txAllQueueFlush surroundings => exact txAllQueueFlush_sound surroundings sound
  | arm9 mem write => exact (ring_neutral scheduler { scheduler.ring with mem, write }).toForeign.sound sound
  | txEnd left surroundings =>
      exact txAllQueueFlush_sound surroundings ((done_foreign scheduler .loc3 left).sound sound)
  | cmdDone left surroundings =>
      exact intrMultiplayCmdDone_sound surroundings ((done_foreign scheduler .cmd left).sound sound) rfl

theorem start_sound (ram : Ram) (wifiTxQueue : Memory) : Sound (start ram wifiTxQueue) where
  clean := rfl
  channel := .inl rfl
  sends := ⟨[], none, rfl, .nil, rfl⟩

/-! Which frames are accepted. -/

/-- There is room for a frame: the one that waits could be started. -/
def HasRoom (scheduler : Scheduler) : Prop :=
  scheduler.loc3Busy = false ∨ txArm7QueueIsEmpty scheduler = true

instance (scheduler : Scheduler) : Decidable (HasRoom scheduler) := inferInstanceAs (Decidable (_ ∨ _))

theorem setEnqueuedData_accepts (scheduler : Scheduler) {frame : Frame} (small : frame.datalen ≤ 1024) :
    (txArm7QueueSetEnqueuedData scheduler frame).1.accepted = scheduler.accepted ∧
      (txArm7QueueSetEnqueuedData scheduler frame).2 = true := by
  have fits : ¬(frame.datalen + 1) / 2 > 512 := by omega
  rw [txArm7QueueSetEnqueuedData, if_neg fits]
  exact ⟨rfl, rfl⟩

/-- A frame that is no longer than the queue is refused only when there is no room. -/
theorem txArm7QueueAdd_accepts {scheduler : Scheduler} (sound : Sound scheduler) {frame : Frame}
    (small : frame.datalen ≤ 1024) :
    (txArm7QueueAdd scheduler frame).1.accepted = scheduler.accepted ∧
      ((txArm7QueueAdd scheduler frame).2 = true ↔ HasRoom scheduler) := by
  unfold txArm7QueueAdd HasRoom
  cases busy : scheduler.loc3Busy with
  | false =>
      rw [Bool.not_false, if_pos rfl]
      simp only [true_or, iff_true]
      by_cases empty : txArm7QueueIsEmpty scheduler = true
      · rw [if_pos empty]
        exact ⟨(txRaw_rest busy frame.data frame.short).2.2.1, rfl⟩
      · rw [if_neg empty]
        have pending : scheduler.wifiTxQueueLen ≠ 0 := fun none => empty ((isEmpty_iff scheduler).mpr none)
        obtain ⟨same, enqueued⟩ := setEnqueuedData_accepts (txArm7QueueFlush scheduler) small
        exact ⟨same.trans (txArm7QueueFlush_accepted sound busy pending), enqueued⟩
  | true =>
      rw [Bool.not_true, if_neg Bool.false_ne_true]
      simp only [Bool.true_eq_false, false_or]
      by_cases empty : txArm7QueueIsEmpty scheduler = true
      · rw [if_pos empty]
        obtain ⟨same, enqueued⟩ := setEnqueuedData_accepts scheduler small
        exact ⟨same, iff_of_true enqueued empty⟩
      · rw [if_neg empty]
        exact ⟨rfl, iff_of_false Bool.false_ne_true empty⟩

/-- A frame that is offered is accepted exactly when there is room. -/
theorem step_add_accepted {scheduler : Scheduler} (sound : Sound scheduler) {frame : Frame}
    (small : frame.datalen ≤ 1024) :
    (step scheduler (.txArm7QueueAdd frame)).accepted =
      scheduler.accepted ++ if HasRoom scheduler then [frame] else [] := by
  obtain ⟨same, accepts⟩ := txArm7QueueAdd_accepts sound small
  rw [step]
  generalize txArm7QueueAdd scheduler frame = returned at same accepts
  obtain ⟨after, accepted⟩ := returned
  cases accepted with
  | true =>
      rw [if_pos (accepts.mp rfl), recorded]
      exact congrArg (· ++ [frame]) same
  | false =>
      rw [if_neg fun room => Bool.false_ne_true (accepts.mpr room), recorded, List.append_nil]
      exact same

theorem txAllQueueFlush_accepted (surroundings : Surroundings) {scheduler : Scheduler} (sound : Sound scheduler) :
    (txAllQueueFlush surroundings scheduler).accepted = scheduler.accepted := by
  unfold txAllQueueFlush
  split
  · rfl
  · rename_i idle
    simp only [Bool.or_eq_true, not_or, Bool.not_eq_true] at idle
    split
    · rename_i pending
      have some : scheduler.wifiTxQueueLen ≠ 0 := fun none => by
        rw [(isEmpty_iff scheduler).mpr none] at pending
        contradiction
      exact txArm7QueueFlush_accepted sound idle.1 some
    · exact (txArm9QueueFlush_foreign surroundings sound.channel idle.1 idle.2).accepted

theorem afterCmd_accepted (surroundings : Surroundings) {scheduler : Scheduler} (sound : Sound scheduler)
    (cmdIdle : scheduler.cmdBusy = false) : (afterCmd surroundings scheduler).accepted = scheduler.accepted := by
  unfold afterCmd
  split
  · rfl
  · rename_i going
    simp only [Bool.or_eq_true, not_or, Bool.not_eq_true] at going
    exact (txArm9QueueFlush_foreign surroundings sound.channel going.1 cmdIdle).accepted

theorem cmdDone_accepted (surroundings : Surroundings) {scheduler : Scheduler} (sound : Sound scheduler)
    (cmdIdle : scheduler.cmdBusy = false) :
    (intrMultiplayCmdDone surroundings scheduler).accepted = scheduler.accepted := by
  unfold intrMultiplayCmdDone
  dsimp only
  split
  · split
    · rfl
    · have again := retry_neutral cmdIdle (scheduler.wTxRetrylimit - 1)
      exact (again.toForeign.trans (flushByCmd_foreign surroundings (again.cmdBusy.trans cmdIdle))).accepted
  · exact afterCmd_accepted surroundings sound cmdIdle

/-- Nothing else adds to the frames that are accepted. -/
theorem step_other_accepted {scheduler : Scheduler} (sound : Sound scheduler) {event : Event}
    (other : ∀ frame, event ≠ .txArm7QueueAdd frame) : (step scheduler event).accepted = scheduler.accepted := by
  cases event with
  | txArm7QueueAdd frame => exact absurd rfl (other frame)
  | txAllQueueFlush surroundings => exact txAllQueueFlush_accepted surroundings sound
  | arm9 mem write => rfl
  | txEnd left surroundings =>
      exact txAllQueueFlush_accepted surroundings ((done_foreign scheduler .loc3 left).sound sound)
  | cmdDone left surroundings =>
      exact cmdDone_accepted surroundings ((done_foreign scheduler .cmd left).sound sound) rfl

/-- In every run no busy slot is written to, and the transmissions of the ARM7 carry the
frames it has accepted, one for each and in their order, all but the one that is in the
queue; when a flush finds both slots idle, that one is started as well. -/
theorem tx_scheduled (ram : Ram) (wifiTxQueue : Memory) (events : List Event) :
    let scheduler := run step (start ram wifiTxQueue) events
    scheduler.overwritten = [] ∧
      (∃ sent waiting, scheduler.accepted = sent ++ waiting.toList ∧
        List.Forall₂ Carries sent (arm7Starts scheduler) ∧
        (waiting = none ↔ txArm7QueueIsEmpty scheduler = true)) ∧
      ∀ surroundings, scheduler.loc3Busy = false → scheduler.cmdBusy = false →
        List.Forall₂ Carries scheduler.accepted
          (arm7Starts (step scheduler (.txAllQueueFlush surroundings))) := by
  intro scheduler
  have sound : Sound scheduler := run_invariant step_sound _ events (start_sound ram wifiTxQueue)
  obtain ⟨sent, waiting, sends⟩ := sound.sends
  refine ⟨sound.clean, ⟨sent, waiting, sends.accepted, sends.carried, ?_⟩, ?_⟩
  · rw [isEmpty_iff]
    constructor
    · rintro rfl
      exact sends.waits
    · exact sends.empty
  · intro surroundings loc3Idle cmdIdle
    exact (txAllQueueFlush_idle surroundings sound loc3Idle cmdIdle).2

end Dswifi.TxScheduler
