import Dswifi.Beacon
import Dswifi.TxQueue

/-! What the ARM7 sends and when (arm7/ntr/tx_queue.c): the frames of the ARM7, of
which one waits, and those of the ring of the ARM9. A frame of the ARM7 goes to the
slot LOC3, a packet of the ring to LOC3 or CMD, to the reply buffers or to the beacon.
Each call and each interrupt is one step. -/

namespace Dswifi.TxScheduler

open ByteMemory MacRam RingBuffer
open TxQueue (MacBuffer macTxbuf macCmdbuf macBeacon replyBuffer)

/-- The slots that a transmission is started in by hand, with their bits of W_TXBUSY. -/
inductive Slot where
  | loc3
  | cmd
  deriving DecidableEq, Repr

def Slot.buffer : Slot → MacBuffer
  | .loc3 => macTxbuf
  | .cmd => macCmdbuf

inductive Sender where
  | arm7
  | arm9
  deriving DecidableEq, Repr

/-- A transmission, with what its buffer holds when it is started. -/
structure Start where
  slot : Slot
  sender : Sender
  content : List UInt8
  deriving DecidableEq, Repr

/-- The arguments of Wifi_TxArm7QueueAdd: what is in memory from `data` on, and its
length. The callers pass whole frames, with their headers, and none is longer than a
beacon. -/
structure Frame where
  data : Memory
  datalen : Nat
  headed : 0 < datalen
  short : datalen ≤ macTxbuf.stop

def Frame.bytes (frame : Frame) : List UInt8 := readBytes frame.data 0 frame.datalen

/-- `accepted`, `started` and `overwritten` are history: the frames for which
Wifi_TxArm7QueueAdd returned 1, the transmissions, and the slots whose buffer was
written to while they were busy. The MAC RAM is in `arm7`. -/
structure Scheduler where
  ring : Buffer
  arm7 : Beacon.Arm7
  loc3Busy : Bool
  cmdBusy : Bool
  wifiTxQueue : Memory
  wifiTxQueueLen : Nat
  wTxRetrylimit : UInt16
  wTxbufLoc3 : UInt16
  wTxbufCmd : UInt16
  wTxbufReply1 : UInt16
  wCmdTotaltime : UInt16
  wCmdReplytime : UInt16
  wCmdCount : UInt16
  keepaliveTime : Nat
  accepted : List Frame
  started : List Start
  overwritten : List Slot

/-- What else a flush reads: the shared structure, the registers of the hardware, a
random number and the stack. -/
structure Surroundings where
  maxrate7 : UInt8
  curCmdDataSize : UInt16
  curReplyDataSize : UInt16
  numConnected : UInt8
  aidMask : UInt16
  curChannel : UInt8
  beacon : Beacon.Shared
  wTxbufReply2 : Nat
  random : UInt32
  stack : Nat → UInt8

def hdrTxStatus : Nat := 0
def hdrTxClientBits : Nat := 2
def hdrTxTransferRate : Nat := 8
def hdrTxSize : Nat := 12
def hdrDataFrameControl : Nat := 0
def hdrDataDuration : Nat := 2
def hdrDataMacSize : Nat := 24
def macSize : Nat := 0x2000
def txbufEnable : UInt16 := 0x8000
def fcToDs : UInt16 := 0x100
def fcFromDs : UInt16 := 0x200
def fcProtectedFrame : UInt16 := 0x4000
def fcTypeSubtypeMask : UInt16 := 0xFC
def typeDataCfPoll : UInt16 := 0x28

/-! The MAC. -/

def busy (scheduler : Scheduler) : Slot → Bool
  | .loc3 => scheduler.loc3Busy
  | .cmd => scheduler.cmdBusy

/-- The busy slots whose buffer has a byte between two addresses. -/
def touched (scheduler : Scheduler) (low high : Nat) : List Slot :=
  [Slot.loc3, Slot.cmd].filter fun slot =>
    busy scheduler slot && decide (low < slot.buffer.stop ∧ slot.buffer.base < high)

/-- A write to the MAC RAM from one address up to another. -/
def written (scheduler : Scheduler) (low high : Nat) (ram : Ram) : Scheduler :=
  { scheduler with
    arm7 := { scheduler.arm7 with ram }
    overwritten := scheduler.overwritten ++ touched scheduler low high }

/-- W_MACMEM on the left of an assignment. -/
def setMacMem (scheduler : Scheduler) (address : Nat) (value : UInt16) : Scheduler :=
  written scheduler address (address + 2) (writeHalfword scheduler.arm7.ram address value)

/-- The MAC RAM is written in halfwords. -/
def macWrite (scheduler : Scheduler) (src : Memory) (base length : Nat) : Scheduler :=
  if base + length > macSize then scheduler else
    let size := (length + 1) / 2 * 2
    written scheduler base (base + size)
      (macWriteHalfwords scheduler.arm7.ram base (readBytes src 0 size))

/-- What the buffer of a slot holds. -/
def content (ram : Ram) (slot : Slot) : List UInt8 :=
  readBytes (macReadByte ram) slot.buffer.base (slot.buffer.stop - slot.buffer.base)

def startLoc3 (scheduler : Scheduler) (sender : Sender) : Scheduler :=
  { scheduler with
    wTxRetrylimit := 0x0707
    wTxbufLoc3 := txbufEnable ||| UInt16.ofNat (macTxbuf.base / 2)
    loc3Busy := true
    started := scheduler.started ++ [⟨.loc3, sender, content scheduler.arm7.ram .loc3⟩] }

def startCmd (scheduler : Scheduler) : Scheduler :=
  { scheduler with
    wTxbufCmd := txbufEnable ||| UInt16.ofNat (macCmdbuf.base / 2)
    cmdBusy := true
    started := scheduler.started ++ [⟨.cmd, .arm9, content scheduler.arm7.ram .cmd⟩] }

/-! The queue of the ARM7. -/

def txRaw (scheduler : Scheduler) (data : Memory) (datalen : Nat) : Scheduler :=
  startLoc3 (macWrite scheduler data macTxbuf.base (roundUp32 datalen)) .arm7

def txArm7QueueFlush (scheduler : Scheduler) : Scheduler :=
  { txRaw scheduler scheduler.wifiTxQueue scheduler.wifiTxQueueLen with wifiTxQueueLen := 0 }

def txArm7QueueIsEmpty (scheduler : Scheduler) : Bool := scheduler.wifiTxQueueLen == 0

/-- The queue has 512 halfwords. Its length is a u16. -/
def txArm7QueueSetEnqueuedData (scheduler : Scheduler) (frame : Frame) : Scheduler × Bool :=
  let hwords := (frame.datalen + 1) / 2
  if hwords > 512 then (scheduler, false)
  else
    ({ scheduler with
      wifiTxQueue := fun i => if i < 2 * hwords then frame.data i else scheduler.wifiTxQueue i
      wifiTxQueueLen := frame.datalen % 65536 }, true)

def txArm7QueueAdd (scheduler : Scheduler) (frame : Frame) : Scheduler × Bool :=
  if !scheduler.loc3Busy then
    if txArm7QueueIsEmpty scheduler then (txRaw scheduler frame.data frame.datalen, true)
    else txArm7QueueSetEnqueuedData (txArm7QueueFlush scheduler) frame
  else
    if txArm7QueueIsEmpty scheduler then txArm7QueueSetEnqueuedData scheduler frame
    else (scheduler, false)

/-! The ring of the ARM9. -/

def keepaliveCountReset (scheduler : Scheduler) : Scheduler := { scheduler with keepaliveTime := 0 }

/-- The write to the MAC in the middle of Wifi_TxArm9QueueCopyFirstData. -/
def copyToMac (scheduler : Scheduler) (base : Nat) :
    Buffer × Option (List UInt8) → Scheduler × Nat
  | (ring, none) => ({ scheduler with ring }, 0)
  | (ring, some bytes) =>
    let source : Memory := fun i => scheduler.ring.mem (scheduler.ring.read + 4 + i)
    (macWrite { scheduler with ring } source base bytes.length, bytes.length)

/-- The result is 0 when nothing was copied. -/
def txArm9QueueCopyFirstData (scheduler : Scheduler) (buffer : MacBuffer) : Scheduler × Nat :=
  copyToMac scheduler buffer.base (TxQueue.copyFirstData scheduler.ring buffer)

def fillInRate (surroundings : Surroundings) (scheduler : Scheduler) : Scheduler :=
  if scheduler.arm7.ram (macTxbuf.base + hdrTxTransferRate) = 0 then
    setMacMem scheduler (macTxbuf.base + hdrTxTransferRate) surroundings.maxrate7.toUInt16
  else scheduler

/-- The IV of a frame that is encrypted with WEP. -/
def fillInIv (surroundings : Surroundings) (scheduler : Scheduler) : Scheduler :=
  let ieeeBase := macTxbuf.base + hdrTxSize
  if scheduler.arm7.ram (ieeeBase + hdrDataFrameControl) &&& fcProtectedFrame ≠ 0 then
    let ivBase := ieeeBase + hdrDataMacSize
    let value := surroundings.random
    setMacMem (setMacMem scheduler ivBase value.toUInt16) (ivBase + 2)
      ((value >>> 16) &&& 0xFF).toUInt16
  else scheduler

def txArm9QueueFlushByLoc3 (surroundings : Surroundings) (scheduler : Scheduler) : Scheduler :=
  startLoc3 (fillInIv surroundings (fillInRate surroundings scheduler)) .arm9

/-- The durations of a CMD frame and of the replies to it are worked out here. -/
def txArm9QueueFlushByCmd (surroundings : Surroundings) (scheduler : Scheduler) : Scheduler :=
  let txBase := macCmdbuf.base
  let ieeeBase := macCmdbuf.base + hdrTxSize
  let numClients := surroundings.numConnected.toUInt16
  let clientBytes := surroundings.curReplyDataSize - 24
  let clientBits := surroundings.aidMask &&& 0xFFFE
  let hostTime := surroundings.curCmdDataSize * 4 + 0x60
  let clientTime := clientBytes * 4 + 0xD2
  let allClientTime := 0xF0 + (clientTime + 0xA) * numClients
  let scheduler := setMacMem scheduler (txBase + hdrTxClientBits) clientBits
  let scheduler := setMacMem scheduler (ieeeBase + hdrDataDuration) allClientTime
  let scheduler := setMacMem scheduler (ieeeBase + hdrDataMacSize) clientTime
  let scheduler := setMacMem scheduler (ieeeBase + hdrDataMacSize + 2) clientBits
  let count := (0x388 + numClients.toNat * clientTime.toNat + hostTime.toNat + 0x32) / 8
  startCmd { scheduler with
    wCmdTotaltime := allClientTime
    wCmdReplytime := clientTime
    wCmdCount := 0x180 + UInt16.ofNat count }

def txArm9QueueFlushByReply (surroundings : Surroundings) (scheduler : Scheduler) : Scheduler :=
  let destination := replyBuffer surroundings.wTxbufReply2
  let copied := txArm9QueueCopyFirstData scheduler destination
  if copied.2 = 0 then copied.1 else
    { keepaliveCountReset copied.1 with
      wTxRetrylimit := 0x0707
      wTxbufReply1 := txbufEnable ||| UInt16.ofNat (destination.base / 2) }

/-- The only write of Wifi_BeaconSetup is that of the channel. -/
def beaconSetup (surroundings : Surroundings) (scheduler : Scheduler) : Scheduler :=
  let arm7 := Beacon.beaconSetup surroundings.stack surroundings.curChannel surroundings.beacon
    scheduler.arm7
  let address := halfwordOf arm7.beaconChannelAddr
  let scheduler := { scheduler with arm7 := { arm7 with ram := scheduler.arm7.ram } }
  if arm7.beaconChannelAddr = 0 ∨ arm7.txbufBeacon = false then { scheduler with arm7 }
  else written scheduler address (address + 2) arm7.ram

def flushByBeacon (surroundings : Surroundings) (scheduler : Scheduler) : Scheduler :=
  let copied := txArm9QueueCopyFirstData scheduler macBeacon
  if copied.2 = 0 then copied.1 else beaconSetup surroundings copied.1

/-- A CMD frame, or a regular one. -/
def startSlot (surroundings : Surroundings) (isCmd : Bool) (scheduler : Scheduler) : Scheduler :=
  if isCmd then txArm9QueueFlushByCmd surroundings { scheduler with wTxRetrylimit := 0x0707 }
  else txArm9QueueFlushByLoc3 surroundings scheduler

def flushBySlot (surroundings : Surroundings) (isCmd : Bool) (scheduler : Scheduler) : Scheduler :=
  let copied := txArm9QueueCopyFirstData scheduler (if isCmd then macCmdbuf else macTxbuf)
  if copied.2 = 0 then copied.1 else startSlot surroundings isCmd (keepaliveCountReset copied.1)

def flushKind (surroundings : Surroundings) (scheduler : Scheduler) : Kind → Scheduler
  | .reply => txArm9QueueFlushByReply surroundings scheduler
  | .beacon => flushByBeacon surroundings scheduler
  | .cmd => flushBySlot surroundings true scheduler
  | .data | .received => flushBySlot surroundings false scheduler

/-- The packet whose size word the read index is on. -/
def flushPacket (surroundings : Surroundings) (scheduler : Scheduler) : Scheduler :=
  flushKind surroundings scheduler (wordKind .tx (readU32 scheduler.ring.mem scheduler.ring.read))

def txArm9QueueFlush (surroundings : Surroundings) (scheduler : Scheduler) : Scheduler :=
  let status := readU32 scheduler.ring.mem scheduler.ring.read
  if status = 0 then scheduler
  else if status = sizeWrap then
    let scheduler := { scheduler with ring := { scheduler.ring with read := 0 } }
    if readU32 scheduler.ring.mem 0 = 0 then scheduler else flushPacket surroundings scheduler
  else flushPacket surroundings scheduler

def txAllQueueFlush (surroundings : Surroundings) (scheduler : Scheduler) : Scheduler :=
  if scheduler.loc3Busy || scheduler.cmdBusy then scheduler
  else if !txArm7QueueIsEmpty scheduler then keepaliveCountReset (txArm7QueueFlush scheduler)
  else txArm9QueueFlush surroundings scheduler

/-! The interrupts. -/

def intrTxEnd (surroundings : Surroundings) (scheduler : Scheduler) : Scheduler :=
  txAllQueueFlush surroundings scheduler

/-- The end of a CMD exchange, once it is not tried again. -/
def afterCmd (surroundings : Surroundings) (scheduler : Scheduler) : Scheduler :=
  if scheduler.loc3Busy || !txArm7QueueIsEmpty scheduler then scheduler
  else txArm9QueueFlush surroundings scheduler

def intrMultiplayCmdDone (surroundings : Surroundings) (scheduler : Scheduler) : Scheduler :=
  if scheduler.arm7.ram (macCmdbuf.base + hdrTxStatus) = 5 ∧ scheduler.wTxRetrylimit &&& 0xFF ≠ 0 then
    let fc := scheduler.arm7.ram (macCmdbuf.base + hdrTxSize + hdrDataFrameControl)
    if fc &&& (fcToDs ||| fcFromDs ||| fcTypeSubtypeMask) ≠ typeDataCfPoll ||| fcFromDs then
      { scheduler with wTxbufCmd := 0, cmdBusy := false }
    else
      txArm9QueueFlushByCmd surroundings
        (setMacMem { scheduler with wTxRetrylimit := scheduler.wTxRetrylimit - 1 }
          (macCmdbuf.base + hdrTxStatus) 0)
  else afterCmd surroundings scheduler

/-! Steps. -/

/-- Both interrupts come after the hardware is done with the buffer of a slot, in
which it leaves what it likes. -/
inductive Event where
  | txArm7QueueAdd (frame : Frame)
  | txAllQueueFlush (surroundings : Surroundings)
  | arm9 (mem : Memory) (write : Nat)
  | txEnd (left : Ram) (surroundings : Surroundings)
  | cmdDone (left : Ram) (surroundings : Surroundings)

/-- The hardware is done with a slot. -/
def done (scheduler : Scheduler) (slot : Slot) (left : Ram) : Scheduler :=
  { scheduler with
    arm7 := { scheduler.arm7 with
      ram := fun address =>
        if slot.buffer.base ≤ address ∧ address < slot.buffer.stop then left address
        else scheduler.arm7.ram address }
    loc3Busy := if slot = .loc3 then false else scheduler.loc3Busy
    cmdBusy := if slot = .cmd then false else scheduler.cmdBusy }

/-- What Wifi_TxArm7QueueAdd returns goes to the history. -/
def recorded (frame : Frame) : Scheduler × Bool → Scheduler
  | (scheduler, true) => { scheduler with accepted := scheduler.accepted ++ [frame] }
  | (scheduler, false) => scheduler

def step (scheduler : Scheduler) : Event → Scheduler
  | .txArm7QueueAdd frame => recorded frame (txArm7QueueAdd scheduler frame)
  | .txAllQueueFlush surroundings => txAllQueueFlush surroundings scheduler
  | .arm9 mem write => { scheduler with ring := { scheduler.ring with mem, write } }
  | .txEnd left surroundings => intrTxEnd surroundings (done scheduler .loc3 left)
  | .cmdDone left surroundings => intrMultiplayCmdDone surroundings (done scheduler .cmd left)

/-- Nothing queued, nothing on the air, and no beacon. -/
def start (ram : Ram) (wifiTxQueue : Memory) : Scheduler where
  ring := { mem := fun _ => 0, read := 0, write := 0 }
  arm7 := { ram }
  loc3Busy := false
  cmdBusy := false
  wifiTxQueue := wifiTxQueue
  wifiTxQueueLen := 0
  wTxRetrylimit := 0
  wTxbufLoc3 := 0
  wTxbufCmd := 0
  wTxbufReply1 := 0
  wCmdTotaltime := 0
  wCmdReplytime := 0
  wCmdCount := 0
  keepaliveTime := 0
  accepted := []
  started := []
  overwritten := []

end Dswifi.TxScheduler
