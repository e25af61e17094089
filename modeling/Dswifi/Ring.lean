import Dswifi.ByteMemory

/-! The two ring buffers of packets between the CPUs: the TX ring, filled by the
ARM9 (arm9/ipc.c, arm9/ntr/rx_tx_queue.c) and emptied by the ARM7
(arm7/ntr/tx_queue.c), and the RX ring, filled by the ARM7 (arm7/ipc.c,
arm7/ntr/rx_queue.c) and emptied by the ARM9 (arm9/wifi_arm9.c). Each CPU is a
machine of its own and any step of one may come between two of the other. -/

namespace Dswifi.RingBuffer

open ByteMemory

inductive Side where
  | tx
  | rx
  deriving DecidableEq, Repr

/-- WIFI_TXBUFFER_SIZE and WIFI_RXBUFFER_SIZE -/
def bufferSize : Side → Nat
  | .tx => 1024 * 24
  | .rx => 1024 * 12

/-- WIFI_SIZE_WRAP -/
def sizeWrap : Nat := 0xFFFFFFFF

/-- Arithmetic on u32. -/
def u32 (n : Nat) : Nat := n % 4294967296

/-- round_up_32() -/
def roundUp32 (value : Nat) : Nat := u32 (value + 3) / 4 * 4

/-- What the top bits of a size word say of a packet. The RX ring has no flags. -/
inductive Kind where
  | received
  | data
  | beacon
  | reply
  | cmd
  deriving DecidableEq, Repr

/-- WFLAG_SEND_AS_DATA and the others. -/
def Kind.flags : Kind → Nat
  | .received => 0
  | .data => 0x10000000
  | .beacon => 0x20000000
  | .reply => 0x40000000
  | .cmd => 0x80000000

/-- A packet handed to a ring, header and room for the FCS included. No object
of a 32-bit machine has 2^31 bytes, and no frame adds more than 64 to its data. -/
structure Packet (side : Side) where
  kind : Kind
  data : List UInt8
  sided : side = .rx ↔ kind = .received
  nonempty : 0 < data.length
  bounded : data.length < 2147483648 + 64

variable {side : Side}

def Packet.item (packet : Packet side) : Kind × List UInt8 := (packet.kind, packet.data)

/-- The size word of a packet: size and flags. -/
def sizeWord (packet : Packet side) : Nat := packet.data.length ||| packet.kind.flags

/-- WFLAG_SEND_SIZE_MASK is applied on the TX side only. -/
def wordSize (side : Side) (word : Nat) : Nat :=
  match side with
  | .tx => word &&& 0x0FFFFFFF
  | .rx => word

/-- The order of the tests is that of Wifi_TxArm9QueueFlush. -/
def wordKind (side : Side) (word : Nat) : Kind :=
  match side with
  | .rx => .received
  | .tx =>
    if word &&& Kind.reply.flags ≠ 0 then .reply
    else if word &&& Kind.beacon.flags ≠ 0 then .beacon
    else if word &&& Kind.cmd.flags ≠ 0 then .cmd
    else .data

/-- The part of Wifi_MainStruct that belongs to one ring. -/
structure Buffer where
  mem : Memory
  read : Nat
  write : Nat

/-- Size word, packet and the size word that follows it. -/
def totalSize (packet : Packet side) : Nat := u32 (4 + roundUp32 packet.data.length + 4)

/-- Wifi_TxBufferAllocBuffer and Wifi_RxBufferAllocBuffer, which differ in the
buffer only; `none` is the -1 of the source. -/
def bufferAllocBuffer (side : Side) (ring : Buffer) (total : Nat) : Buffer × Option Nat :=
  if ring.read ≤ ring.write then
    if u32 (ring.write + total) ≥ bufferSize side then
      if total ≥ ring.read then (ring, none)
      else
        -- the stop marker goes in before the wrap marker
        let stopped := writeU32 ring.mem 0 0
        ({ ring with mem := writeU32 stopped ring.write sizeWrap }, some 0)
    else (ring, some ring.write)
  else if u32 (ring.write + total) ≥ ring.read then (ring, none)
  else (ring, some ring.write)

/-- The write index after a packet whose size word is at `start`. -/
def nextIdx (start : Nat) (packet : Packet side) : Nat :=
  roundUp32 (u32 (start + 4 + packet.data.length))

/-- Where the producer is: `done` bytes of the packet are in place. -/
inductive Producer (side : Side) where
  | idle
  | filling (start : Nat) (packet : Packet side) (done : Nat)
  | terminated (start : Nat) (packet : Packet side)
  | published (start : Nat) (packet : Packet side)

/-- Where the consumer is: about to read the word at the read index, about to
read the one at the start of the buffer, or with a packet at hand. -/
inductive Consumer where
  | idle
  | followed
  | found (pos word : Nat)
  deriving DecidableEq, Repr

/-- The ring and both its users. `live` and `accepted` are history: the packets
in the ring, with the position of their size words, and all those whose
allocation succeeded. -/
structure System (side : Side) where
  ring : Buffer
  producer : Producer side
  consumer : Consumer
  live : List (Nat × Packet side)
  accepted : List (Packet side)

inductive Action (side : Side) where
  | alloc (packet : Packet side)
  | produce
  | pad (offset : Nat) (value : UInt8)
  | consume

def alloc (system : System side) (packet : Packet side) : System side :=
  match system.producer with
  | .idle =>
    match bufferAllocBuffer side system.ring (totalSize packet) with
    | (ring, none) => { system with ring }
    | (ring, some start) =>
      { system with ring, producer := .filling start packet 0,
                    accepted := system.accepted ++ [packet] }
  | _ => system

/-- The next thing the producer does with the packet it writes: one more byte,
the terminator, the write index, and the size word last. -/
def produce (system : System side) : System side :=
  let mem := system.ring.mem
  match system.producer with
  | .idle => system
  | .filling start packet done =>
    if inside : done < packet.data.length then
      { system with ring := { system.ring with mem := writeU8 mem (start + 4 + done) packet.data[done] }
                    producer := .filling start packet (done + 1) }
    else
      { system with ring := { system.ring with mem := writeU32 mem (nextIdx start packet) 0 }
                    producer := .terminated start packet }
  | .terminated start packet =>
    { system with ring := { system.ring with write := nextIdx start packet }
                  producer := .published start packet }
  | .published start packet =>
    { system with ring := { system.ring with mem := writeU32 mem start (sizeWord packet) }
                  producer := .idle
                  live := system.live ++ [(start, packet)] }

/-- The copy from the MAC moves halfwords, so it may write a byte past the
packet, in the padding. -/
def pad (system : System side) (offset : Nat) (value : UInt8) : System side :=
  match system.producer with
  | .filling start packet _ =>
    if packet.data.length ≤ offset ∧ offset < roundUp32 packet.data.length then
      { system with ring :=
          { system.ring with mem := writeU8 system.ring.mem (start + 4 + offset) value } }
    else system
  | _ => system

/-- After a wrap marker the TX side publishes the new read index at once, the RX
side with the next packet. -/
def consume (system : System side) : System side :=
  let mem := system.ring.mem
  match system.consumer with
  | .idle =>
    let word := readU32 mem system.ring.read
    if word = 0 then system
    else if word = sizeWrap then
      match side with
      | .tx => { system with ring := { system.ring with read := 0 }, consumer := .followed }
      | .rx => { system with consumer := .followed }
    else { system with consumer := .found system.ring.read word }
  | .followed =>
    let word := readU32 mem 0
    if word = 0 then { system with consumer := .idle }
    else { system with consumer := .found 0 word }
  | .found pos word =>
    { system with ring := { system.ring with read := pos + 4 + roundUp32 (wordSize side word) }
                  consumer := .idle
                  live := system.live.tail }

def step (system : System side) : Action side → System side
  | .alloc packet => alloc system packet
  | .produce => produce system
  | .pad offset value => pad system offset value
  | .consume => consume system

/-- The memory of the shared structure is cleared before it is used. -/
def start (side : Side) : System side :=
  { ring := { mem := fun _ => 0, read := 0, write := 0 }
    producer := .idle
    consumer := .idle
    live := []
    accepted := [] }

end Dswifi.RingBuffer
