import Dswifi.Circular
import Dswifi.RingRefinement

/-! The way of a received frame through the ARM7 (arm7/ntr/rx_queue.c, the reads of
arm7/ntr/mac.c): the hardware leaves it in a circular part of the MAC RAM, and the flush
of that queue hands data frames to the RX ring. The hardware, the flush and the ARM9
take their steps in any order. -/

namespace Dswifi.RxQueue

open ByteMemory Runs Fifo Circular
open RingBuffer (System Packet roundUp32)

/-- MAC_RXBUF_START_OFFSET and MAC_RXBUF_END_OFFSET, as W_RXBUF_BEGIN and W_RXBUF_END have them. -/
def rxbufBegin : Nat := 0x0C00
def rxbufEnd : Nat := 0x1F60

def rxbufSize : Nat := rxbufEnd - rxbufBegin

def hdrRxIeeeFrameSize : Nat := 8
def hdrRxSize : Nat := 12

/-! The reads of the MAC RAM. -/

/-- An address behind the end, once around. -/
def wrapped (address : Nat) : Nat := if address ≥ rxbufEnd then address - (rxbufEnd - rxbufBegin) else address

def macReadHWord (mem : Memory) (macBase macOffset : Nat) : Nat :=
  let address := wrapped (macBase + macOffset)
  (mem address).toNat + 256 * (mem (address + 1)).toNat

/-- So many reads of W_RXBUF_RD_DATA, which moves W_RXBUF_RD_ADDR on. -/
def rdData (mem : Memory) : Nat → Nat → List UInt8
  | 0, _ => []
  | more + 1, address =>
      mem address :: mem (address + 1) ::
        rdData mem more (if address + 2 = rxbufEnd then rxbufBegin else address + 2)

/-- All the halfwords that are copied: one byte more than an odd length. -/
def macRead (mem : Memory) (macBase macOffset length : Nat) : List UInt8 :=
  rdData mem ((length + 1) / 2) (wrapped (macBase + macOffset))

/-! What a frame is taken for. -/

inductive PacketFlag where
  | beacon
  | mgt
  | ctrl
  | data
  | ignored
  deriving DecidableEq, Repr

/-- FORM_MANAGEMENT, FORM_CONTROL and FORM_DATA -/
def formManagement (subtype : Nat) : Nat := subtype * 16
def formControl (subtype : Nat) : Nat := 4 + subtype * 16
def formData (subtype : Nat) : Nat := 8 + subtype * 16

/-- What Wifi_ProcessReceivedFrame returns. -/
def processReceivedFrame (control802 : Nat) : PacketFlag :=
  let type := control802 &&& 0xFC
  if type = formManagement 8 then .beacon
  else if type ∈ [0, 1, 2, 3, 4, 5, 9, 10, 11, 12].map formManagement then .mgt
  else if type ∈ [10, 11, 12, 13, 14, 15].map formControl then .ctrl
  else if type ∈ [0, 1, 2, 3, 4, 5, 6, 7].map formData then .data
  else .ignored

/-- A frame as the hardware leaves it: its own header, which has the length, and the
frame of 802.11, of which the frame control is the first halfword. It fits the queue. -/
structure Frame where
  header : List UInt8
  body : List UInt8
  headerSize : header.length = hdrRxSize
  frameSize : (header.getD 8 0).toNat + 256 * (header.getD 9 0).toNat = body.length
  control : 2 ≤ body.length
  fits : hdrRxSize + roundUp32 body.length < rxbufSize

def Frame.text (frame : Frame) : List UInt8 := frame.header ++ frame.body

def Frame.span (frame : Frame) : Nat := hdrRxSize + roundUp32 frame.body.length

def Frame.control802 (frame : Frame) : Nat := (frame.body.getD 0 0).toNat + 256 * (frame.body.getD 1 0).toNat

def Frame.forwarded (frame : Frame) (promisc : Bool) : Bool :=
  processReceivedFrame frame.control802 = .data || promisc

/-! The three parties. -/

/-- Where the flush is: at the head of its loop, or with a frame of so many bytes in the
queue that is copied to the ring. `extra` is the byte that is copied behind an odd length. -/
inductive Stage where
  | looking
  | adding (extra : UInt8) (fullPacketlen : Nat)
  deriving DecidableEq, Repr

/-- The cursors count halfwords. `received`, `held` and `looked` are history: the frames
the hardware had room for, those the flush has still to go past, and those it has looked
at, with the promiscuous mode of that time. -/
structure Driver where
  mem : Memory
  wrcsr : Nat
  readcsr : Nat
  promisc : Bool
  stage : Stage
  ring : System .rx
  rxQueuedLost : UInt32
  received : List Frame
  held : List Frame
  looked : List (Frame × Bool)

inductive Action where
  | receive (frame : Frame)
  | request (promisc : Bool)
  | flush
  | arm9

/-- The hardware writes a frame behind the last one, and drops it where it would reach
the read cursor. -/
def receive (driver : Driver) (frame : Frame) : Driver :=
  let base := driver.wrcsr * 2
  let used := (base + rxbufSize - driver.readcsr * 2) % rxbufSize
  if used + frame.span < rxbufSize then
    { driver with
      mem := store rxbufBegin rxbufSize driver.mem base frame.text
      wrcsr := place rxbufBegin rxbufSize base frame.span / 2
      received := driver.received ++ [frame]
      held := driver.held ++ [frame] }
  else driver

def packetOf (data : List UInt8) : Option (Packet .rx) :=
  if sized : 0 < data.length ∧ data.length < 2147483648 + 64 then
    some { kind := .received, data, sided := ⟨fun _ => rfl, fun _ => rfl⟩, nonempty := sized.1, bounded := sized.2 }
  else none

def Driver.packetlen (driver : Driver) : Nat := macReadHWord driver.mem (driver.readcsr * 2) hdrRxIeeeFrameSize

def Driver.copied (driver : Driver) : List UInt8 :=
  macRead driver.mem (driver.readcsr * 2 + hdrRxSize) 0 driver.packetlen

/-- What Wifi_RxQueueFlush hands on of the frame at the read cursor. -/
def Driver.wanted (driver : Driver) : Option (Packet .rx) :=
  let type := processReceivedFrame (macReadHWord driver.mem (driver.readcsr * 2) hdrRxSize)
  if type = .data ∨ driver.promisc = true then packetOf (driver.copied.take driver.packetlen) else none

/-- The head of the loop of Wifi_RxQueueFlush, up to the allocation of Wifi_RxArm9QueueAdd. -/
def look (driver : Driver) : Driver :=
  if driver.wrcsr = driver.readcsr then driver
  else
    let looked := { driver with
      looked := driver.looked ++ (driver.held.head?.map fun frame => (frame, driver.promisc)).toList
      stage := .adding (driver.copied.getD driver.packetlen 0) (hdrRxSize + roundUp32 driver.packetlen) }
    match driver.wanted with
    | none => looked
    | some packet =>
        let ring := RingBuffer.alloc driver.ring packet
        { looked with
          ring
          rxQueuedLost := driver.rxQueuedLost + match ring.producer with
            | .idle => 1
            | _ => 0 }

/-- The rest of Wifi_RxArm9QueueAdd: the last halfword of an odd length brings its extra byte. -/
def addActions (ring : System .rx) (extra : UInt8) : List (RingBuffer.Action .rx) :=
  match ring.producer with
  | .filling _ packet done =>
      if done + 1 = packet.data.length ∧ packet.data.length % 2 = 1 then
        [.produce, .pad packet.data.length extra]
      else [.produce]
  | _ => [.produce]

/-- The end of the loop, where W_RXBUF_READCSR moves on. -/
def advance (driver : Driver) (fullPacketlen : Nat) : Driver :=
  let base := driver.readcsr * 2 + fullPacketlen
  { driver with readcsr := wrapped base / 2, stage := .looking, held := driver.held.tail }

def flush (driver : Driver) : Driver :=
  match driver.stage with
  | .looking => look driver
  | .adding extra fullPacketlen =>
      match driver.ring.producer with
      | .idle => advance driver fullPacketlen
      | _ => { driver with ring := run RingBuffer.step driver.ring (addActions driver.ring extra) }

def step (driver : Driver) : Action → Driver
  | .receive frame => receive driver frame
  | .request promisc => { driver with promisc }
  | .flush => flush driver
  | .arm9 => { driver with ring := RingBuffer.consume driver.ring }

/-- The cursors start at the start of the queue. -/
def start : Driver :=
  { mem := fun _ => 0, wrcsr := rxbufBegin / 2, readcsr := rxbufBegin / 2, promisc := false, stage := .looking
    ring := RingBuffer.start .rx, rxQueuedLost := 0, received := [], held := [], looked := [] }

/-! The reads, at the places of the queue. -/

theorem rxbufSize_eq : rxbufSize = 4960 := rfl

section Reads
variable {mem : Memory} {base : Nat}

theorem wrapped_eq_place (inside : Inside rxbufBegin rxbufSize base) {i : Nat} (short : i ≤ rxbufSize) :
    wrapped (base + i) = place rxbufBegin rxbufSize base i := (place_eq_ite inside short).symm

/-- The end of the queue does not come between the bytes of a halfword. -/
theorem place_succ_of_even {i : Nat} (even : 2 ∣ base - rxbufBegin + i) :
    place rxbufBegin rxbufSize base i + 1 = place rxbufBegin rxbufSize base (i + 1) := by
  unfold place rxbufSize rxbufBegin rxbufEnd at *
  omega

theorem macReadHWord_eq (inside : Inside rxbufBegin rxbufSize base) (aligned : base % 4 = 0) {i : Nat}
    (short : i ≤ rxbufSize) (even : i % 2 = 0) :
    macReadHWord mem base i = (mem (place rxbufBegin rxbufSize base i)).toNat +
      256 * (mem (place rxbufBegin rxbufSize base (i + 1))).toNat := by
  have both : 2 ∣ base - rxbufBegin + i := by
    obtain ⟨above, _⟩ := inside
    unfold rxbufBegin at *
    omega
  rw [macReadHWord, wrapped_eq_place inside short, place_succ_of_even both]

theorem rxbufSize_pos : 0 < rxbufSize := by
  rw [rxbufSize_eq]
  omega

/-- One read of W_RXBUF_RD_DATA. -/
theorem read_two (even : 2 ∣ base - rxbufBegin) (inside : Inside rxbufBegin rxbufSize base) :
    Circular.read rxbufBegin rxbufSize mem base 2 = [mem base, mem (base + 1)] ∧
      (if base + 2 = rxbufEnd then rxbufBegin else base + 2) = place rxbufBegin rxbufSize base 2 := by
  have first := place_zero inside
  have second := @place_succ_of_even base 0 (by rwa [Nat.add_zero])
  rw [first] at second
  constructor
  · simp [Circular.read, List.range_succ, first, second]
  · have short : 2 ≤ rxbufSize := by
      rw [rxbufSize_eq]
      omega
    rw [place_eq_ite inside short]
    obtain ⟨above, below⟩ := inside
    unfold rxbufSize rxbufBegin rxbufEnd at *
    split <;> split <;> omega

/-- Places that are a multiple of `step` apart stay aligned to it, as the size of the queue is. -/
theorem place_aligned {step i : Nat} (divides : step ∣ rxbufSize) (start : step ∣ base - rxbufBegin) (more : step ∣ i) :
    step ∣ place rxbufBegin rxbufSize base i - rxbufBegin := by
  rw [place, Nat.add_sub_cancel_left]
  exact (Nat.dvd_mod_iff divides).mpr (Nat.dvd_add start more)

theorem rdData_eq (count : Nat) (even : 2 ∣ base - rxbufBegin) (inside : Inside rxbufBegin rxbufSize base) :
    rdData mem count base = Circular.read rxbufBegin rxbufSize mem base (2 * count) := by
  induction count generalizing base with
  | zero => rfl
  | succ count ih =>
      obtain ⟨two, next⟩ := @read_two mem _ even inside
      have later := place_aligned (i := 2) (Dvd.intro 2480 rfl) even (dvd_refl 2)
      have more : 2 * (count + 1) = 2 + 2 * count := by omega
      rw [more, read_append, two, ← ih later (place_inside rxbufSize_pos base 2), ← next]
      rfl

theorem macRead_take (inside : Inside rxbufBegin rxbufSize base) (aligned : base % 4 = 0) (length : Nat) :
    (macRead mem (base + hdrRxSize) 0 length).take length =
      Circular.read rxbufBegin rxbufSize mem (place rxbufBegin rxbufSize base hdrRxSize) length := by
  have even : 2 ∣ base - rxbufBegin := by
    obtain ⟨above, _⟩ := inside
    unfold rxbufBegin at *
    omega
  have later := place_aligned (i := hdrRxSize) (Dvd.intro 2480 rfl) even (Dvd.intro 6 rfl)
  have short : hdrRxSize ≤ rxbufSize := by
    rw [rxbufSize_eq, hdrRxSize]
    omega
  have first : wrapped (base + hdrRxSize + 0) = place rxbufBegin rxbufSize base hdrRxSize :=
    wrapped_eq_place inside short
  rw [macRead, first, rdData_eq _ later (place_inside rxbufSize_pos base _), read_take _ _ (by omega)]

end Reads

theorem Frame.length_lt (frame : Frame) : frame.body.length < 65536 := by
  have low := (frame.header.getD 8 0).toNat_lt
  have high := (frame.header.getD 9 0).toNat_lt
  have size := frame.frameSize
  omega

theorem Frame.span_facts (frame : Frame) :
    frame.text.length ≤ frame.span ∧ frame.span % 4 = 0 ∧ 12 < frame.span ∧ frame.span < rxbufSize := by
  have short := frame.length_lt
  have some := frame.control
  have fits := frame.fits
  have head := frame.headerSize
  simp only [Frame.text, Frame.span, List.length_append, head]
  unfold roundUp32 RingBuffer.u32 hdrRxSize at *
  omega

/-! The invariant. -/

/-- The frames that the flush still has to hand on: all of them, or all but the first. -/
def Driver.ahead (driver : Driver) : List Frame :=
  match driver.stage with
  | .looking => driver.held
  | .adding _ _ => driver.held.tail

/-- What was wanted of what has been looked at. -/
def Driver.forwarded (driver : Driver) : List (Frame × Bool) := driver.looked.filter fun seen => seen.1.forwarded seen.2

structure RxInv (driver : Driver) : Prop where
  inside : Inside rxbufBegin rxbufSize (driver.readcsr * 2)
  aligned : 4 ∣ driver.readcsr * 2 - rxbufBegin
  write : driver.wrcsr * 2 = place rxbufBegin rxbufSize (driver.readcsr * 2) (total Frame.span driver.held)
  room : total Frame.span driver.held < rxbufSize
  frames : Held Frame.text Frame.span rxbufBegin rxbufSize driver.mem (driver.readcsr * 2) driver.held
  stage : match driver.stage with
    | .looking => driver.ring.producer = .idle
    | .adding _ fullPacketlen => ∃ frame rest, driver.held = frame :: rest ∧ fullPacketlen = frame.span
  order : driver.received = driver.looked.map Prod.fst ++ driver.ahead
  ring : RingBuffer.RingInv driver.ring
  accepted : (driver.ring.accepted.map Packet.data).Sublist (driver.forwarded.map fun seen => seen.1.body)
  counted : ∃ lost, driver.ring.accepted.length + lost = driver.forwarded.length ∧
    driver.rxQueuedLost = UInt32.ofNat lost

theorem rxInv_start : RxInv start where
  inside := by
    constructor <;> simp [start, rxbufSize_eq] <;> decide
  aligned := by simp [start, rxbufBegin]
  write := by simp [start, place, rxbufBegin]
  room := rxbufSize_pos
  frames := trivial
  stage := rfl
  order := rfl
  ring := .start
  accepted := List.Sublist.refl _
  counted := ⟨0, rfl, rfl⟩

theorem room_of_span (frames : List Frame) : ∀ frame ∈ frames, frame.text.length ≤ frame.span :=
  fun frame _ => frame.span_facts.1

theorem total_aligned (frames : List Frame) : 4 ∣ total Frame.span frames := by
  induction frames with
  | nil => exact Nat.dvd_zero _
  | cons frame rest ih =>
      rw [total_cons]
      exact Nat.dvd_add (Nat.dvd_of_mod_eq_zero frame.span_facts.2.1) ih

/-- A place of the queue, as a cursor and back. -/
theorem cursor_twice {base i : Nat} (aligned : 4 ∣ base - rxbufBegin) (more : 4 ∣ i) :
    place rxbufBegin rxbufSize base i / 2 * 2 = place rxbufBegin rxbufSize base i := by
  have whole := place_aligned (Dvd.intro 1240 rfl) aligned more
  obtain ⟨above, _⟩ : Inside rxbufBegin rxbufSize (place rxbufBegin rxbufSize base i) := place_inside rxbufSize_pos base i
  unfold rxbufBegin at *
  omega

theorem RxInv.receive {driver : Driver} (inv : RxInv driver) (frame : Frame) : RxInv (receive driver frame) := by
  obtain ⟨inside, aligned, write, room, frames, stage, order, ring, accepted, counted⟩ := inv
  obtain ⟨long, whole, _, _⟩ := frame.span_facts
  have used := distance inside room
  rw [← write] at used
  rw [RxQueue.receive, used]
  by_cases fits : total Frame.span driver.held + frame.span < rxbufSize
  · rw [if_pos fits]
    have spans := Nat.dvd_of_mod_eq_zero whole
    have next : place rxbufBegin rxbufSize (driver.wrcsr * 2) frame.span / 2 * 2 =
        place rxbufBegin rxbufSize (driver.readcsr * 2) (total Frame.span driver.held + frame.span) := by
      rw [write, place_place, cursor_twice aligned (Nat.dvd_add (total_aligned _) spans)]
    refine ⟨inside, aligned, ?_, ?_, ?_, ?_, ?_, ring, accepted, counted⟩
    · rw [next, total_append]
      rfl
    · rw [total_append]
      exact fits
    · rw [write]
      exact frames.push inside (room_of_span _) frame (by omega)
    · cases stage_eq : driver.stage with
      | looking => simpa [stage_eq] using stage
      | adding extra full =>
          simp only [stage_eq] at stage
          obtain ⟨first, rest, held, same⟩ := stage
          exact ⟨first, rest ++ [frame], by rw [held]; rfl, same⟩
    · simp only [order, Driver.ahead]
      cases stage_eq : driver.stage with
      | looking => simp
      | adding extra full =>
          simp only [stage_eq] at stage
          obtain ⟨first, rest, held, same⟩ := stage
          simp [held]
  · rw [if_neg fits]
    exact ⟨inside, aligned, write, room, frames, stage, order, ring, accepted, counted⟩

/-- The cursors are the same exactly when nothing is in the queue. -/
theorem RxInv.empty_iff {driver : Driver} (inv : RxInv driver) : driver.wrcsr = driver.readcsr ↔ driver.held = [] := by
  have write := inv.write
  constructor
  · intro same
    rw [same] at write
    have zero := place_zero inv.inside
    have none := place_injective rxbufSize_pos inv.room (zero.trans write)
    cases held : driver.held with
    | nil => rfl
    | cons frame rest =>
        rw [held, total_cons] at none
        have some := frame.span_facts
        omega
  · intro held
    rw [held, total_nil, place_zero inv.inside] at write
    omega

section Head
variable {driver : Driver} {frame : Frame} {rest : List Frame}

/-- What the flush reads of the frame at the read cursor. -/
theorem RxInv.reads (inv : RxInv driver) (held : driver.held = frame :: rest) :
    driver.packetlen = frame.body.length ∧
      macReadHWord driver.mem (driver.readcsr * 2) hdrRxSize = frame.control802 ∧
      driver.copied.take driver.packetlen = frame.body := by
  have inside := inv.inside
  have four : driver.readcsr * 2 % 4 = 0 := by
    have aligned := inv.aligned
    obtain ⟨above, _⟩ := inside
    unfold rxbufBegin at *
    omega
  have here := inv.frames
  rw [held] at here
  have text := here.1
  have some := frame.control
  have head := frame.headerSize
  unfold hdrRxSize at head
  -- one byte of the frame, at its place
  have bytes : ∀ i, i < frame.text.length →
      driver.mem (place rxbufBegin rxbufSize (driver.readcsr * 2) i) = frame.text.getD i 0 := by
    intro i below
    have same := congrArg (fun bytes => bytes.getD i 0) text
    simpa [Circular.read, below] using same
  have long : frame.text.length = 12 + frame.body.length := by
    rw [Frame.text, List.length_append, head]
  have length : driver.packetlen = frame.body.length := by
    have sizes : hdrRxIeeeFrameSize ≤ rxbufSize := by rw [rxbufSize_eq, hdrRxIeeeFrameSize]; omega
    rw [Driver.packetlen, macReadHWord_eq inside four sizes rfl, bytes _ (by rw [long, hdrRxIeeeFrameSize]; omega),
      bytes _ (by rw [long, hdrRxIeeeFrameSize]; omega), ← frame.frameSize]
    simp [Frame.text, hdrRxIeeeFrameSize, List.getElem?_append_left, head]
  refine ⟨length, ?_, ?_⟩
  · have sizes : hdrRxSize ≤ rxbufSize := by rw [rxbufSize_eq, hdrRxSize]; omega
    rw [macReadHWord_eq inside four sizes rfl, bytes _ (by rw [long, hdrRxSize]; omega),
      bytes _ (by rw [long, hdrRxSize]; omega), Frame.control802]
    simp [Frame.text, hdrRxSize, List.getElem?_append_right, head]
  · rw [Driver.copied, length, macRead_take inside four]
    have split : Circular.read rxbufBegin rxbufSize driver.mem (driver.readcsr * 2) (hdrRxSize + frame.body.length) = _ :=
      read_append ..
    rw [hdrRxSize, ← long, text, Frame.text] at split
    exact (List.append_inj split (by rw [head, read_length])).2.symm

theorem RxInv.wanted (inv : RxInv driver) (held : driver.held = frame :: rest) :
    (frame.forwarded driver.promisc = true ∧ ∃ packet, driver.wanted = some packet ∧ packet.data = frame.body) ∨
      frame.forwarded driver.promisc = false ∧ driver.wanted = none := by
  obtain ⟨_, control, body⟩ := inv.reads held
  have short := frame.length_lt
  have some := frame.control
  have sized : 0 < frame.body.length ∧ frame.body.length < 2147483648 + 64 := by omega
  rw [Driver.wanted, control, body, packetOf, dif_pos sized, Frame.forwarded]
  by_cases taken : processReceivedFrame frame.control802 = .data ∨ driver.promisc = true
  · left
    simp [taken]
  · right
    obtain ⟨other, selective⟩ := not_or.mp taken
    simp [other, selective]

end Head

/-! The ring, of which the driver takes the steps. -/

def drives (driver : Driver) : Action → List (RingBuffer.Action .rx)
  | .receive _ | .request _ => []
  | .arm9 => [.consume]
  | .flush =>
    match driver.stage with
    | .looking => if driver.wrcsr = driver.readcsr then [] else (driver.wanted.map RingBuffer.Action.alloc).toList
    | .adding extra _ =>
      match driver.ring.producer with
      | .idle => []
      | _ => addActions driver.ring extra

theorem receive_ring (driver : Driver) (frame : Frame) : (receive driver frame).ring = driver.ring := by
  unfold receive
  dsimp only
  split <;> rfl

theorem step_ring (driver : Driver) (action : Action) :
    (step driver action).ring = run RingBuffer.step driver.ring (drives driver action) := by
  cases action with
  | receive frame => exact receive_ring driver frame
  | request promisc => rfl
  | arm9 => rfl
  | flush =>
      simp only [step, flush, drives]
      cases driver.stage with
      | looking =>
          simp only [look]
          by_cases empty : driver.wrcsr = driver.readcsr
          · rw [if_pos empty, if_pos empty]
            rfl
          · rw [if_neg empty, if_neg empty]
            cases driver.wanted <;> rfl
      | adding extra full => cases producer : driver.ring.producer <;> simp [advance]

theorem ring_inv_step {driver : Driver} (inv : RxInv driver) (action : Action) :
    RingBuffer.RingInv (step driver action).ring := by
  rw [step_ring]
  exact run_invariant (fun _ action valid => valid.step action) _ _ inv.ring

theorem pad_accepted (ring : System .rx) (offset : Nat) (value : UInt8) :
    (RingBuffer.pad ring offset value).accepted = ring.accepted := by
  unfold RingBuffer.pad
  split
  · split <;> rfl
  · rfl

theorem addActions_accepted (ring : System .rx) (extra : UInt8) :
    (run RingBuffer.step ring (addActions ring extra)).accepted = ring.accepted := by
  have produced := RingBuffer.produce_accepted ring
  unfold addActions
  split
  · split
    · rw [run_cons, run_cons, run_nil]
      exact (pad_accepted _ _ _).trans produced
    · exact produced
  · exact produced

/-- A packet is accepted and written from then on, or refused. -/
theorem alloc_cases (ring : System .rx) (packet : Packet .rx) (idle : ring.producer = .idle) :
    (RingBuffer.alloc ring packet).producer = .idle ∧ (RingBuffer.alloc ring packet).accepted = ring.accepted ∨
      (∃ start, (RingBuffer.alloc ring packet).producer = .filling start packet 0) ∧
        (RingBuffer.alloc ring packet).accepted = ring.accepted ++ [packet] := by
  unfold RingBuffer.alloc
  rw [idle]
  dsimp only
  split
  · left
    exact ⟨rfl, rfl⟩
  · right
    exact ⟨⟨_, rfl⟩, rfl⟩

theorem RxInv.look {driver : Driver} (inv : RxInv driver) (looking : driver.stage = .looking)
    (ring : RingBuffer.RingInv (look driver).ring) : RxInv (look driver) := by
  by_cases empty : driver.wrcsr = driver.readcsr
  · rw [RxQueue.look, if_pos empty]
    exact inv
  obtain ⟨frame, rest, held⟩ := List.exists_cons_of_ne_nil (mt inv.empty_iff.mpr empty)
  have reads := inv.reads held
  have wanted := inv.wanted held
  have idle := inv.stage
  simp only [looking] at idle
  have order := inv.order
  simp only [Driver.ahead, looking, held] at order
  have full : hdrRxSize + roundUp32 driver.packetlen = frame.span := by rw [reads.1, Frame.span]
  have seen : driver.looked ++ (driver.held.head?.map fun frame => (frame, driver.promisc)).toList =
      driver.looked ++ [(frame, driver.promisc)] := by rw [held]; rfl
  have next : driver.received = (driver.looked ++ [(frame, driver.promisc)]).map Prod.fst ++ driver.held.tail := by
    rw [order, held]
    simp
  have before := inv.accepted
  obtain ⟨lost, counted, statistic⟩ := inv.counted
  rw [RxQueue.look, if_neg empty, seen] at ring ⊢
  dsimp only at ring ⊢
  rw [full] at ring ⊢
  rcases wanted with ⟨forwarded, packet, found, body⟩ | ⟨ignored, none⟩
  · rw [found] at ring ⊢
    have more : (driver.looked ++ [(frame, driver.promisc)]).filter (fun seen => seen.1.forwarded seen.2) =
        driver.forwarded ++ [(frame, driver.promisc)] := by
      rw [List.filter_append, Driver.forwarded]
      simp [forwarded]
    refine ⟨inv.inside, inv.aligned, inv.write, inv.room, inv.frames, ⟨frame, rest, held, rfl⟩, next, ring, ?_, ?_⟩
    · simp only [Driver.forwarded] at before ⊢
      rw [more, List.map_append]
      rcases alloc_cases driver.ring packet idle with ⟨_, same⟩ | ⟨_, grown⟩
      · rw [same]
        exact before.trans (List.sublist_append_left _ _)
      · rw [grown, List.map_append]
        apply before.append
        rw [List.map_singleton, body]
        exact List.Sublist.refl _
    · simp only [Driver.forwarded] at counted ⊢
      rw [more, List.length_append]
      rcases alloc_cases driver.ring packet idle with ⟨stays, same⟩ | ⟨⟨start, filling⟩, grown⟩
      · rw [same, stays]
        refine ⟨lost + 1, ?_, ?_⟩
        · dsimp only [Driver.forwarded, List.length_singleton]
          omega
        · rw [statistic, UInt32.ofNat_add]
          rfl
      · rw [grown, filling, List.length_append]
        refine ⟨lost, ?_, ?_⟩
        · dsimp only [Driver.forwarded, List.length_singleton]
          omega
        · rw [statistic]
          exact UInt32.add_zero _
  · rw [none] at ring ⊢
    have same : (driver.looked ++ [(frame, driver.promisc)]).filter (fun seen => seen.1.forwarded seen.2) =
        driver.forwarded := by
      rw [List.filter_append, Driver.forwarded]
      simp [ignored]
    refine ⟨inv.inside, inv.aligned, inv.write, inv.room, inv.frames, ⟨frame, rest, held, rfl⟩, next, ring, ?_, ?_⟩
    · simpa only [Driver.forwarded, same] using before
    · refine ⟨lost, ?_, statistic⟩
      simpa only [Driver.forwarded, same] using counted

theorem RxInv.advance {driver : Driver} (inv : RxInv driver) {extra : UInt8} {full : Nat}
    (adding : driver.stage = .adding extra full) (idle : driver.ring.producer = .idle) :
    RxInv (advance driver full) := by
  have stage := inv.stage
  have order := inv.order
  have frames := inv.frames
  have write := inv.write
  have room := inv.room
  simp only [adding] at stage
  simp only [Driver.ahead, adding] at order
  obtain ⟨frame, rest, held, rfl⟩ := stage
  rw [held] at frames write room order
  rw [total_cons] at write room
  obtain ⟨_, whole, _, short⟩ := frame.span_facts
  have moved : wrapped (driver.readcsr * 2 + frame.span) / 2 * 2 =
      place rxbufBegin rxbufSize (driver.readcsr * 2) frame.span := by
    rw [wrapped_eq_place inv.inside short.le, cursor_twice inv.aligned (Nat.dvd_of_mod_eq_zero whole)]
  rw [RxQueue.advance, held]
  refine ⟨?_, ?_, ?_, ?_, ?_, idle, order, inv.ring, inv.accepted, inv.counted⟩
  · dsimp only
    rw [moved]
    exact place_inside rxbufSize_pos _ _
  · dsimp only
    rw [moved]
    exact place_aligned (Dvd.intro 1240 rfl) inv.aligned (Nat.dvd_of_mod_eq_zero whole)
  · dsimp only
    rw [moved, place_place]
    exact write
  · exact Nat.lt_of_le_of_lt (Nat.le_add_left _ _) room
  · dsimp only
    rw [moved]
    exact frames.2

theorem RxInv.step {driver : Driver} (inv : RxInv driver) (action : Action) : RxInv (step driver action) := by
  have ring := ring_inv_step inv action
  cases action with
  | receive frame => exact inv.receive frame
  | request promisc =>
      exact ⟨inv.inside, inv.aligned, inv.write, inv.room, inv.frames, inv.stage, inv.order, inv.ring, inv.accepted,
        inv.counted⟩
  | arm9 =>
      obtain ⟨accepted, producer⟩ := RingBuffer.consume_accepted driver.ring
      refine ⟨inv.inside, inv.aligned, inv.write, inv.room, inv.frames, ?_, inv.order, ring, ?_, ?_⟩
      · have stage := inv.stage
        simp only [RxQueue.step, producer] at stage ⊢
        exact stage
      · simp only [RxQueue.step, accepted]
        exact inv.accepted
      · simp only [RxQueue.step, accepted]
        exact inv.counted
  | flush =>
      simp only [RxQueue.step, flush] at ring ⊢
      cases stage : driver.stage with
      | looking =>
          simp only [stage] at ring
          exact inv.look stage ring
      | adding extra full =>
          simp only [stage] at ring
          have accepted := addActions_accepted driver.ring extra
          have copying : RingBuffer.RingInv (run RingBuffer.step driver.ring (addActions driver.ring extra)) →
              RxInv { driver with
                stage := .adding extra full
                ring := run RingBuffer.step driver.ring (addActions driver.ring extra) } := by
            intro valid
            have adding := inv.stage
            have order := inv.order
            simp only [Driver.ahead, stage] at adding order
            refine ⟨inv.inside, inv.aligned, inv.write, inv.room, inv.frames, adding, order, valid, ?_, ?_⟩
            · rw [accepted]
              exact inv.accepted
            · rw [accepted]
              exact inv.counted
          cases producer : driver.ring.producer with
          | idle => exact inv.advance stage producer
          | filling start packet done =>
              rw [producer] at ring
              exact copying ring
          | terminated start packet =>
              rw [producer] at ring
              exact copying ring
          | published start packet =>
              rw [producer] at ring
              exact copying ring

/-! What the ARM9 takes. -/

/-- The packets that the ARM9 has taken out of the ring, as it read them. -/
def taken (actions : List Action) : List (List UInt8) :=
  (dequeued (trace RingBuffer.step RingBuffer.labels (RingBuffer.start .rx)
    (driven step drives start actions))).map Prod.snd

/-- What was accepted has been taken, is in the ring or is being written, in this order. -/
theorem accepted_split (actions : List Action) :
    (run step start actions).ring.accepted.map Packet.data = taken actions ++
      ((RingBuffer.contents (run step start actions).ring).map Prod.snd ++
        (RingBuffer.writing (run step start actions).ring).map Packet.data) := by
  have inner : (run step start actions).ring = _ := run_driven Driver.ring step_ring start actions
  have kept : ∀ (system : System .rx) action, RingBuffer.RingInv system →
      RingBuffer.RingInv (RingBuffer.step system action) := fun _ action valid => valid.step action
  have queue : Accepts [] (trace RingBuffer.step RingBuffer.labels (RingBuffer.start .rx)
      (driven step drives start actions)) _ :=
    refines kept (fun _ action valid => RingBuffer.step_accepted valid action) (RingBuffer.start .rx) _ .start
  obtain ⟨more, entered, all⟩ := RingBuffer.run_accounted (RingBuffer.start .rx)
    (driven step drives start actions) [] rfl
  have order := queue.conserves
  rw [entered] at order
  have texts := congrArg (List.map Prod.snd) order
  have items : (more.map Packet.item).map Prod.snd = more.map Packet.data := by
    rw [List.map_map]
    rfl
  rw [List.nil_append, List.map_append, items] at texts
  rw [inner]
  change (run RingBuffer.step (RingBuffer.start .rx) _).accepted.map Packet.data = _
  rw [all, List.nil_append, List.map_append, texts, taken, List.append_assoc]
  rfl

theorem rxInv_run (actions : List Action) : RxInv (run step start actions) :=
  run_invariant (fun _ action inv => inv.step action) start actions rxInv_start

/-- In any order of the steps: the flush looks at the frames in the order in which they
were received, at each one once; those that are wanted are accepted byte for byte in
that order, except for those that are counted as lost; and the ARM9 takes what was
accepted, in that order and unchanged. The count is that of a u32. -/
theorem rx_delivery (actions : List Action) :
    let final := run step start actions
    final.looked.map Prod.fst <+: final.received ∧
      (final.ring.accepted.map Packet.data).Sublist (final.forwarded.map fun seen => seen.1.body) ∧
      (∃ lost, final.ring.accepted.length + lost = final.forwarded.length ∧ final.rxQueuedLost = UInt32.ofNat lost) ∧
      taken actions <+: final.ring.accepted.map Packet.data := by
  intro final
  have inv := rxInv_run actions
  constructor
  · rw [inv.order]
    exact List.prefix_append _ _
  constructor
  · exact inv.accepted
  constructor
  · exact inv.counted
  · rw [accepted_split]
    exact List.prefix_append _ _

/-! Nothing is stuck. -/

/-- The steps the flush may still take until the queue is empty. -/
def work (driver : Driver) : Nat :=
  total (fun frame => frame.body.length + 5) driver.ahead +
    match driver.stage with
    | .looking => 0
    | .adding _ _ => RingBuffer.writingSteps driver.ring + 1

theorem pad_producer (ring : System .rx) (offset : Nat) (value : UInt8) :
    (RingBuffer.pad ring offset value).producer = ring.producer := by
  unfold RingBuffer.pad
  split
  · split
    · rfl
    · rfl
  · rfl

theorem produce_less (ring : System .rx) (busy : ring.producer ≠ .idle) :
    RingBuffer.writingSteps (RingBuffer.produce ring) < RingBuffer.writingSteps ring := by
  cases stage : ring.producer with
  | idle => exact absurd stage busy
  | filling start packet done =>
      simp only [RingBuffer.produce, stage]
      split
      · simp only [RingBuffer.writingSteps, stage]
        omega
      · simp only [RingBuffer.writingSteps, stage]
        omega
  | terminated start packet => simp [RingBuffer.produce, RingBuffer.writingSteps, stage]
  | published start packet => simp [RingBuffer.produce, RingBuffer.writingSteps, stage]

theorem addActions_less (ring : System .rx) (extra : UInt8) (busy : ring.producer ≠ .idle) :
    RingBuffer.writingSteps (run RingBuffer.step ring (addActions ring extra)) < RingBuffer.writingSteps ring := by
  have less := produce_less ring busy
  unfold addActions
  split
  · split
    · rw [run_cons, run_cons, run_nil]
      simp only [RingBuffer.step, RingBuffer.writingSteps, pad_producer] at less ⊢
      exact less
    · exact less
  · exact less

theorem look_work {driver : Driver} (inv : RxInv driver) (looking : driver.stage = .looking) {frame : Frame}
    {rest : List Frame} (held : driver.held = frame :: rest) : work (look driver) < work driver := by
  have busy : ¬ driver.wrcsr = driver.readcsr := by
    rw [inv.empty_iff, held]
    exact List.cons_ne_nil _ _
  have idle := inv.stage
  simp only [looking] at idle
  have before : work driver = frame.body.length + 5 + total (fun frame => frame.body.length + 5) rest := by
    simp [work, Driver.ahead, looking, held]
  rw [before, look, if_neg busy]
  rcases inv.wanted held with ⟨_, packet, found, body⟩ | ⟨_, none⟩
  · rw [found]
    rcases alloc_cases driver.ring packet idle with ⟨stays, _⟩ | ⟨⟨start, filling⟩, _⟩
    · simp only [work, Driver.ahead, held, List.tail_cons, RingBuffer.writingSteps, stays]
      omega
    · simp only [work, Driver.ahead, held, List.tail_cons, RingBuffer.writingSteps, filling, body]
      omega
  · rw [none]
    simp only [work, Driver.ahead, held, List.tail_cons, RingBuffer.writingSteps, idle]
    omega

theorem flush_work {driver : Driver} (inv : RxInv driver) (busy : 0 < work driver) :
    work (flush driver) < work driver := by
  cases stage : driver.stage with
  | looking =>
      simp only [flush, stage]
      cases held : driver.held with
      | nil => simp [work, Driver.ahead, stage, held] at busy
      | cons frame rest => exact look_work inv stage held
  | adding extra full =>
      simp only [flush, stage]
      by_cases idle : driver.ring.producer = .idle
      · simp [idle, work, advance, Driver.ahead, stage]
      · have less := addActions_less driver.ring extra idle
        cases producer : driver.ring.producer with
        | idle => exact absurd producer idle
        | filling _ _ _ | terminated _ _ | published _ _ => simpa [work, Driver.ahead, stage] using less

theorem flush_received (driver : Driver) : (flush driver).received = driver.received := by
  unfold flush
  split
  · unfold look
    split
    · rfl
    · dsimp only
      split <;> rfl
  · split <;> rfl

theorem done_of_work {driver : Driver} (none : work driver = 0) : driver.stage = .looking ∧ driver.held = [] := by
  cases stage : driver.stage with
  | adding extra full => simp [work, stage] at none
  | looking =>
      cases held : driver.held with
      | nil => exact ⟨rfl, rfl⟩
      | cons frame rest => simp [work, Driver.ahead, stage, held] at none

theorem flush_finishes {driver : Driver} (inv : RxInv driver) (n : Nat) (enough : work driver ≤ n) :
    work (run step driver (List.replicate n .flush)) = 0 ∧
      (run step driver (List.replicate n .flush)).received = driver.received := by
  induction n generalizing driver with
  | zero => exact ⟨Nat.le_zero.mp enough, rfl⟩
  | succ n ih =>
      rw [List.replicate_succ, run_cons]
      have fewer : work (flush driver) ≤ n := by
        rcases Nat.eq_zero_or_pos (work driver) with none | busy
        · obtain ⟨stage, held⟩ := done_of_work none
          have same : flush driver = driver := by
            simp only [flush, stage, look, inv.empty_iff.mpr held, if_true]
          rw [same, none]
          exact Nat.zero_le n
        · have less := flush_work inv busy
          omega
      obtain ⟨done, same⟩ := ih (inv.step .flush) fewer
      exact ⟨done, same.trans (flush_received driver)⟩

theorem run_arm9 (driver : Driver) (n : Nat) : run step driver (List.replicate n .arm9) =
    { driver with ring := run RingBuffer.step driver.ring (List.replicate n .consume) } := by
  induction n generalizing driver with
  | zero => rfl
  | succ n ih =>
      rw [List.replicate_succ, List.replicate_succ, run_cons, run_cons, ih]
      rfl

/-- After any run the flush and the ARM9 can finish: then every received frame has been
looked at, and the ARM9 has taken all that was accepted, which is all that was wanted
unless something was lost. -/
theorem rx_drains (actions : List Action) :
    ∃ flushes takes,
      let later := actions ++ (List.replicate flushes .flush ++ List.replicate takes .arm9)
      let final := run step start later
      final.looked.map Prod.fst = (run step start actions).received ∧
        taken later = final.ring.accepted.map Packet.data ∧
        (final.ring.accepted.length = final.forwarded.length →
          taken later = final.forwarded.map fun seen => seen.1.body) := by
  let flushes := work (run step start actions)
  let flushed := run step start (actions ++ List.replicate flushes .flush)
  let takes := RingBuffer.readingSteps flushed.ring
  have inv : RxInv flushed := rxInv_run _
  obtain ⟨none, received⟩ := flush_finishes (rxInv_run actions) flushes le_rfl
  have done := done_of_work none
  rw [← run_append] at done received
  obtain ⟨stage, held⟩ := done
  obtain ⟨drained, producer, accepted⟩ := RingBuffer.consume_drains inv.ring takes le_rfl
  refine ⟨flushes, takes, ?_⟩
  dsimp only
  have split := accepted_split (actions ++ (List.replicate flushes .flush ++ List.replicate takes .arm9))
  have kept := (rxInv_run (actions ++ (List.replicate flushes .flush ++ List.replicate takes .arm9))).accepted
  have last : run step start (actions ++ (List.replicate flushes .flush ++ List.replicate takes .arm9)) =
      { flushed with ring := run RingBuffer.step flushed.ring (List.replicate takes .consume) } := by
    rw [← List.append_assoc, run_append, run_arm9]
  have idle : flushed.ring.producer = .idle := by
    have idle := inv.stage
    simp only [flushed, stage] at idle
    exact idle
  have all : taken (actions ++ (List.replicate flushes .flush ++ List.replicate takes .arm9)) =
      (run step start (actions ++ (List.replicate flushes .flush ++ List.replicate takes .arm9))).ring.accepted.map
        Packet.data := by
    rw [split, last]
    simp [RingBuffer.contents, drained, RingBuffer.writing, producer, idle]
  constructor
  · have order := inv.order
    simp only [Driver.ahead, flushed, stage, held, List.append_nil] at order
    rw [last, ← received, order]
  constructor
  · exact all
  · intro whole
    rw [all]
    apply kept.eq_of_length
    rw [List.length_map, List.length_map, whole]

end Dswifi.RxQueue
