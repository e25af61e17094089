import Dswifi.Fifo
import Dswifi.RingLayout

/-! Any interleaving of the two users of a ring is a run of a queue of packets.
A packet enters the queue with its size word, which the producer writes last,
and leaves it when the consumer moves past it. -/

namespace Dswifi.RingBuffer

open ByteMemory Runs Fifo

variable {side : Side}

/-- The position of the next size word. It is behind the write index while a
packet that follows a wrap marker is written. -/
def tail (system : System side) : Nat :=
  match system.producer with
  | .idle => system.ring.write
  | .filling start _ _ => start
  | .terminated start _ => start
  | .published start _ => start

/-- The bytes from there on that are the producer's. -/
def need (system : System side) : Nat :=
  match system.producer with
  | .idle => 4
  | .filling _ packet _ => span packet + 4
  | .terminated _ packet => span packet + 4
  | .published _ packet => span packet + 4

def writing (system : System side) : List (Packet side) :=
  match system.producer with
  | .idle => []
  | .filling _ packet _ => [packet]
  | .terminated _ packet => [packet]
  | .published _ packet => [packet]

def contents (system : System side) : List (Kind × List UInt8) :=
  system.live.map fun entry => entry.2.item

/-- What a step means to the queue. The packet taken is read from the memory. -/
def labels (system : System side) : Action side → List (Label (Kind × List UInt8))
  | .produce =>
    match system.producer with
    | .published _ packet => [.enqueue packet.item]
    | _ => []
  | .consume =>
    match system.consumer with
    | .found pos word =>
      [.dequeue (wordKind side word, readBytes system.ring.mem (pos + 4) (wordSize side word))]
    | _ => []
  | _ => []

def ProducerInv (mem : Memory) (write : Nat) : Producer side → Prop
  | .idle => True
  | .filling start packet done =>
      start % 4 = 0 ∧ done ≤ packet.data.length ∧
        readBytes mem (start + 4) done = packet.data.take done
  | .terminated start packet =>
      start % 4 = 0 ∧ readBytes mem (start + 4) packet.data.length = packet.data ∧
        readU32 mem (start + span packet) = 0
  | .published start packet =>
      start % 4 = 0 ∧ readBytes mem (start + 4) packet.data.length = packet.data ∧
        readU32 mem (start + span packet) = 0 ∧ write = start + span packet

/-- After a wrap marker the rest of the packets starts at the start of the
buffer, and the read index is either there or still ahead of the tail. -/
def ConsumerInv (system : System side) : Prop :=
  match system.consumer with
  | .idle => True
  | .followed => Chain system.ring.mem 0 system.live (tail system) ∧
      (system.ring.read = 0 ∨ tail system < system.ring.read)
  | .found pos word => ∃ packet rest, system.live = (pos, packet) :: rest ∧ word = sizeWord packet

structure RingInv (system : System side) : Prop where
  layout : ∃ marker,
    Layout side system.ring.mem system.ring.read (tail system) (need system) system.live marker
  stop : readU32 system.ring.mem (tail system) = 0
  read : system.ring.read % 4 = 0 ∧ system.ring.read + 4 ≤ bufferSize side
  write : system.ring.write % 4 = 0 ∧ system.ring.write + 4 ≤ bufferSize side
  producer : ProducerInv system.ring.mem system.ring.write system.producer
  consumer : ConsumerInv system

/-- A write of the producer to its own bytes behind the stop marker. -/
theorem RingInv.write_free {system : System side} (valid : RingInv system) (mem : Memory)
    (low : Agree system.ring.mem mem 0 (tail system + 4))
    (high : Agree system.ring.mem mem (tail system + need system) (bufferSize side)) :
    (∃ marker, Layout side mem system.ring.read (tail system) (need system) system.live marker) ∧
      readU32 mem (tail system) = 0 ∧
      (Chain system.ring.mem 0 system.live (tail system) →
        Chain mem 0 system.live (tail system)) := by
  obtain ⟨marker, layout⟩ := valid.layout
  refine ⟨⟨marker, layout.congr (low.mono le_rfl (by omega)) high⟩, ?_, ?_⟩
  · rw [← low.readU32 (tail system) (Nat.zero_le _) le_rfl, valid.stop]
  · intro chain
    exact chain.congr (low.mono le_rfl (by omega))

theorem RingInv.start : RingInv (start side) where
  layout := ⟨none, .straight rfl (bufferSize_facts side).1⟩
  stop := by simp [RingBuffer.start, tail, readU32]
  read := ⟨rfl, (bufferSize_facts side).1⟩
  write := ⟨rfl, (bufferSize_facts side).1⟩
  producer := trivial
  consumer := trivial

theorem RingInv.alloc {system : System side} (valid : RingInv system) (packet : Packet side) :
    RingInv (alloc system packet) := by
  obtain ⟨ring, producer, consumer, live, accepted⟩ := system
  cases producer with
  | filling _ _ _ => exact valid
  | terminated _ _ => exact valid
  | published _ _ => exact valid
  | idle =>
      obtain ⟨⟨marker, layout⟩, stop, read, write, _, reading⟩ := valid
      dsimp only [tail, need] at layout stop read write
      dsimp only [RingBuffer.alloc]
      rcases placed : bufferAllocBuffer side ring (totalSize packet) with ⟨next, _ | start⟩
      · have same := bufferAllocBuffer_none placed
        subst same
        exact ⟨⟨marker, layout⟩, stop, read, write, trivial, reading⟩
      · obtain ⟨sameRead, sameWrite, aligned, room, zero, where_from⟩ :=
          bufferAllocBuffer_some layout stop read write packet start placed
        refine ⟨⟨_, by rw [sameRead]; exact room⟩, zero, by rw [sameRead]; exact read,
          by rw [sameWrite]; exact write, ⟨aligned, Nat.zero_le _, by simp⟩, ?_⟩
        cases consumer with
        | idle => trivial
        | found pos word => exact reading
        | followed =>
            obtain ⟨chain, ahead⟩ := reading
            dsimp only [tail] at chain ahead
            -- a packet goes to the start of the buffer only where the read index is not there and
            -- not ahead of the tail, so no marker has been followed
            rcases where_from with ⟨mem, same⟩ | ⟨_, positive, before⟩
            · refine ⟨?_, ?_⟩
              · dsimp only [tail]
                rw [mem, same]
                exact chain
              · dsimp only [tail]
                rw [sameRead, same]
                exact ahead
            · omega

/-- A step of the producer that only writes to its own bytes, and leaves it at
the same packet. -/
theorem RingInv.refill {system : System side} (valid : RingInv system) (mem : Memory)
    (producer : Producer side) (sameTail : tail { system with producer } = tail system)
    (sameNeed : need { system with producer } = need system)
    (low : Agree system.ring.mem mem 0 (tail system + 4))
    (high : Agree system.ring.mem mem (tail system + need system) (bufferSize side))
    (filled : ProducerInv mem system.ring.write producer) :
    RingInv { system with ring := { system.ring with mem }, producer } := by
  obtain ⟨layout, stop, chain⟩ := valid.write_free mem low high
  have tail_eq : tail { system with ring := { system.ring with mem }, producer } = tail system := by
    rw [← sameTail]
    rfl
  have need_eq : need { system with ring := { system.ring with mem }, producer } = need system := by
    rw [← sameNeed]
    rfl
  refine ⟨by rw [tail_eq, need_eq]; exact layout, by rw [tail_eq]; exact stop, valid.read,
    valid.write, filled, ?_⟩
  have reading := valid.consumer
  unfold ConsumerInv at reading ⊢
  rw [tail_eq]
  cases stage : system.consumer with
  | idle => simp
  | followed =>
      simp only [stage] at reading ⊢
      exact ⟨chain reading.1, reading.2⟩
  | found pos word =>
      simp only [stage] at reading ⊢
      exact reading

/-- While a packet is written the tail is where it starts, and its bytes and the
stop marker behind them are the producer's. -/
theorem placed {system : System side} {start : Nat} {packet : Packet side}
    (stage : (∃ done, system.producer = .filling start packet done) ∨
      system.producer = .terminated start packet ∨ system.producer = .published start packet) :
    tail system = start ∧ need system = span packet + 4 := by
  rcases stage with ⟨done, stage⟩ | stage | stage
  · simp [tail, need, stage]
  · simp [tail, need, stage]
  · simp [tail, need, stage]

theorem RingInv.place {system : System side} (valid : RingInv system) {start : Nat} {packet : Packet side}
    (stage : (∃ done, system.producer = .filling start packet done) ∨
      system.producer = .terminated start packet ∨ system.producer = .published start packet) :
    ∃ marker, Layout side system.ring.mem system.ring.read start (span packet + 4) system.live marker ∧
      start + (span packet + 4) ≤ bufferSize side := by
  obtain ⟨tail_eq, need_eq⟩ := placed stage
  obtain ⟨marker, layout⟩ := valid.layout
  rw [tail_eq, need_eq] at layout
  exact ⟨marker, layout, layout.tail_bound valid.read.2⟩

/-- A byte of the packet, or the stop marker behind the last one. Both are the
producer's own bytes, so nothing changes for the consumer. -/
theorem RingInv.produce_filling {system : System side} (valid : RingInv system) {start done : Nat}
    {packet : Packet side} (stage : system.producer = .filling start packet done) :
    RingInv (produce system) := by
  obtain ⟨tail_eq, need_eq⟩ := placed (.inl ⟨done, stage⟩)
  obtain ⟨_, _, inside⟩ := valid.place (.inl ⟨done, stage⟩)
  have size := bufferSize_facts side
  have filled := valid.producer
  have shape := span_facts packet
  rw [stage] at filled
  obtain ⟨aligned, within, bytes⟩ := filled
  simp only [RingBuffer.produce, stage]
  split
  · rename_i more
    apply valid.refill
    · simp [tail, stage]
    · simp [need, stage]
    · exact agree_writeU8 _ _ _ _ _ (.inl (by omega))
    · exact agree_writeU8 _ _ _ _ _ (.inr (by omega))
    · exact ⟨aligned, more, readBytes_writeU8 _ _ _ _ more bytes⟩
  · rename_i full
    have all : done = packet.data.length := by omega
    rw [nextIdx_span start packet aligned (by omega)]
    apply valid.refill
    · simp [tail, stage]
    · simp [need, stage]
    · exact agree_writeU32 _ _ _ _ _ (.inl (by omega))
    · exact agree_writeU32 _ _ _ _ _ (.inr (by omega))
    · refine ⟨aligned, ?_, readU32_writeU32 _ _ _ (by decide)⟩
      -- the stop marker is behind the bytes of the packet, which are all there by now
      subst all
      have kept := (agree_writeU32 system.ring.mem (start + span packet) 0 (start + 4)
        (start + span packet) (.inl le_rfl)).readBytes (start + 4) packet.data.length le_rfl
        (by omega)
      rw [← kept, bytes, List.take_length]

/-- The write index moves; the tail stays, as the size word is still missing. -/
theorem RingInv.produce_terminated {system : System side} (valid : RingInv system) {start : Nat}
    {packet : Packet side} (stage : system.producer = .terminated start packet) :
    RingInv (produce system) := by
  obtain ⟨tail_eq, _⟩ := placed (.inr (.inl stage))
  obtain ⟨marker, layout, inside⟩ := valid.place (.inr (.inl stage))
  have size := bufferSize_facts side
  have filled := valid.producer
  have shape := span_facts packet
  rw [stage] at filled
  obtain ⟨aligned, bytes, zero⟩ := filled
  have stop := valid.stop
  have reading := valid.consumer
  rw [tail_eq] at stop
  have next := nextIdx_span start packet aligned (by omega)
  simp only [RingBuffer.produce, stage]
  refine ⟨⟨marker, layout⟩, stop, valid.read, ?_, ⟨aligned, bytes, zero, next⟩, ?_⟩
  · dsimp only
    rw [next]
    omega
  · unfold ConsumerInv at reading ⊢
    rw [tail_eq] at reading
    exact reading

/-- The size word is the last write: with it the packet is the newest of the chain, and
the stop marker behind it is the tail. -/
theorem RingInv.produce_published {system : System side} (valid : RingInv system) {start : Nat}
    {packet : Packet side} (stage : system.producer = .published start packet) :
    RingInv (produce system) := by
  obtain ⟨tail_eq, _⟩ := placed (.inr (.inr stage))
  obtain ⟨marker, layout, inside⟩ := valid.place (.inr (.inr stage))
  have size := bufferSize_facts side
  have filled := valid.producer
  have shape := span_facts packet
  rw [stage] at filled
  obtain ⟨aligned, bytes, zero, index⟩ := filled
  have reading := valid.consumer
  have length : packet.data.length < 268435456 := by omega
  have low := agree_writeU32 system.ring.mem start (sizeWord packet) 0 start (.inl le_rfl)
  have high := agree_writeU32 system.ring.mem start (sizeWord packet) (start + 4)
    (bufferSize side) (.inr le_rfl)
  have moved := layout.congr low (high.mono (by omega) le_rfl)
  have stored : Stored (writeU32 system.ring.mem start (sizeWord packet)) start packet :=
    ⟨readU32_writeU32 _ _ _ (sizeWord_lt packet length), by
      rw [← high.readBytes (start + 4) _ le_rfl (by omega), bytes]⟩
  simp only [RingBuffer.produce, stage]
  refine ⟨?_, ?_, valid.read, valid.write, trivial, ?_⟩
  · simp only [tail, need, index]
    exact ⟨marker, moved.extend stored le_rfl⟩
  · simp only [tail, index]
    rw [← high.readU32 (start + span packet) (by omega) (by omega), zero]
  · unfold ConsumerInv at reading ⊢
    rw [tail_eq] at reading
    -- the reader is behind the tail, wherever it is
    cases position : system.consumer with
    | idle => simp
    | followed =>
        simp only [position, tail, index] at reading ⊢
        have room := reading.2
        refine ⟨(reading.1.congr low).extend stored, ?_⟩
        rcases room with zero | ahead
        · exact .inl zero
        · -- a read index ahead of the tail is so until the packets wrap
          right
          cases layout with
          | straight chain room =>
              have above := chain.le
              omega
          | wrapped marker first second both before mark inside after room => omega
    | found pos word =>
        simp only [position] at reading ⊢
        obtain ⟨front, rest, same, word⟩ := reading
        exact ⟨front, rest ++ [(start, packet)], by rw [same]; rfl, word⟩

theorem RingInv.produce {system : System side} (valid : RingInv system) :
    RingInv (produce system) := by
  cases stage : system.producer with
  | idle => simpa [RingBuffer.produce, stage] using valid
  | filling start packet done => exact valid.produce_filling stage
  | terminated start packet => exact valid.produce_terminated stage
  | published start packet => exact valid.produce_published stage

theorem RingInv.pad {system : System side} (valid : RingInv system) (offset : Nat)
    (value : UInt8) : RingInv (pad system offset value) := by
  cases stage : system.producer with
  | idle | terminated _ _ | published _ _ => simpa [RingBuffer.pad, stage] using valid
  | filling start packet done =>
      have filled := valid.producer
      obtain ⟨tail_eq, need_eq⟩ := placed (.inl ⟨done, stage⟩)
      have padding := roundUp32_length packet
      rw [stage] at filled
      obtain ⟨aligned, within, bytes⟩ := filled
      simp only [RingBuffer.pad, stage]
      split
      · rename_i behind
        have kept := valid.refill
          (writeU8 system.ring.mem (start + 4 + offset) value) (.filling start packet done)
          (by simp [tail, stage]) (by simp [need, stage])
          (agree_writeU8 _ _ _ _ _ (.inl (by omega))) (agree_writeU8 _ _ _ _ _ (.inr (by omega)))
          ⟨aligned, within, by
            rw [← (agree_writeU8 system.ring.mem (start + 4 + offset) value (start + 4)
              (start + 4 + done) (.inl (by omega))).readBytes (start + 4) done le_rfl le_rfl, bytes]⟩
        exact kept
      · exact valid

/-- The packet the consumer found is the oldest one, and it is still as it was
written. -/
theorem RingInv.found {system : System side} (valid : RingInv system) {pos word : Nat}
    (stage : system.consumer = .found pos word) :
    ∃ packet rest, system.live = (pos, packet) :: rest ∧ packet.data.length < 268435455 ∧
      wordKind side word = packet.kind ∧ wordSize side word = packet.data.length ∧
      pos + 4 + roundUp32 (wordSize side word) = pos + span packet ∧
      readBytes system.ring.mem (pos + 4) packet.data.length = packet.data := by
  have reading := valid.consumer
  simp only [ConsumerInv, stage] at reading
  obtain ⟨packet, rest, front, rfl⟩ := reading
  obtain ⟨marker, layout⟩ := valid.layout
  have small : packet.data.length < 268435455 :=
    layout.small valid.read.2 (pos, packet) (by simp [front])
  refine ⟨packet, rest, front, small, wordKind_sizeWord packet (by omega),
    wordSize_sizeWord packet (by omega), next_read pos packet (by omega), ?_⟩
  rw [front] at layout
  exact layout.head.2

theorem RingInv.consume {system : System side} (valid : RingInv system) :
    RingInv (consume system) := by
  have reading := valid.consumer
  cases stage : system.consumer with
  | found pos word =>
      obtain ⟨packet, rest, front, small, _, _, next, _⟩ := valid.found stage
      obtain ⟨marker, layout⟩ := valid.layout
      rw [front] at layout
      have positive : 4 ≤ need system := by
        cases producing : system.producer <;> simp [need, producing]
      have popped := layout.pop valid.read.2 valid.read.1 positive
      simp only [RingBuffer.consume, stage, next, front]
      exact ⟨⟨_, popped.1⟩, valid.stop, ⟨popped.2.2, popped.2.1⟩, valid.write, valid.producer, trivial⟩
  | followed =>
      simp only [ConsumerInv, stage] at reading
      simp only [RingBuffer.consume, stage]
      rcases reading.1.word valid.stop with ⟨zero, _⟩ | ⟨packet, rest, front, word⟩
      · rw [if_pos zero]
        exact ⟨valid.layout, valid.stop, valid.read, valid.write, valid.producer, trivial⟩
      · split
        · exact ⟨valid.layout, valid.stop, valid.read, valid.write, valid.producer, trivial⟩
        · exact ⟨valid.layout, valid.stop, valid.read, valid.write, valid.producer, packet, rest,
            front, word⟩
  | idle =>
      simp only [RingBuffer.consume, stage]
      obtain ⟨marker, layout⟩ := valid.layout
      have size := (bufferSize_facts side).1
      have bound := layout.tail_bound valid.read.2
      have positive : 4 ≤ need system := by
        cases producing : system.producer <;> simp [need, producing]
      rcases layout.word valid.stop with
        ⟨zero, _⟩ | ⟨wrap, ahead, chain, _⟩ | ⟨packet, rest, front, word⟩
      · rw [if_pos zero]
        exact valid
      · rw [if_neg (by rw [wrap]; decide), if_pos wrap]
        -- the ARM7 moves the read index to the start at once, the ARM9 with the packet
        cases side with
        | tx =>
            exact ⟨⟨none, .straight chain bound⟩, valid.stop, ⟨rfl, size⟩, valid.write, valid.producer,
              chain, .inl rfl⟩
        | rx =>
            exact ⟨valid.layout, valid.stop, valid.read, valid.write, valid.producer,
              chain, .inr (show tail system < system.ring.read by omega)⟩
      · have small : packet.data.length < 268435455 :=
          layout.small valid.read.2 (system.ring.read, packet) (by simp [front])
        rw [if_neg (by rw [word]; exact (sizeWord_pos packet (by omega)).ne'),
          if_neg (by rw [word]; exact sizeWord_ne_wrap packet small)]
        exact ⟨valid.layout, valid.stop, valid.read, valid.write, valid.producer, packet, rest,
          front, word⟩

theorem RingInv.step {system : System side} (valid : RingInv system) (action : Action side) :
    RingInv (step system action) := by
  cases action with
  | alloc packet => exact valid.alloc packet
  | produce => exact valid.produce
  | pad offset value => exact valid.pad offset value
  | consume => exact valid.consume

/-! The queue. -/

theorem alloc_live (system : System side) (packet : Packet side) :
    (alloc system packet).live = system.live := by
  unfold alloc
  split
  · split <;> rfl
  · rfl

theorem pad_live (system : System side) (offset : Nat) (value : UInt8) :
    (pad system offset value).live = system.live := by
  unfold pad
  split
  · split <;> rfl
  · rfl

/-- Every step of the ring is a move of the queue. -/
theorem step_accepted {system : System side} (valid : RingInv system) (action : Action side) :
    Accepts (contents system) (labels system action) (contents (step system action)) := by
  cases action with
  | alloc packet =>
      simp only [labels, step, contents, alloc_live]
      exact .done _
  | pad offset value =>
      simp only [labels, step, contents, pad_live]
      exact .done _
  | produce =>
      simp only [labels, step, produce]
      cases stage : system.producer with
      | idle | terminated _ _ => exact .done _
      | filling start packet done =>
          dsimp only
          split <;> exact .done _
      -- the write index moves on: here the packet enters the queue
      | published start packet =>
          simp only [contents, List.map_append]
          exact .enqueue _ (.done _)
  | consume =>
      simp only [labels, step]
      cases stage : system.consumer with
      | idle =>
          have same : (consume system).live = system.live := by
            simp only [consume, stage]
            split
            · rfl
            · split
              · cases side <;> rfl
              · rfl
          simp only [contents, same]
          exact .done _
      | followed =>
          have same : (consume system).live = system.live := by
            simp only [consume, stage]
            split <;> rfl
          simp only [contents, same]
          exact .done _
      -- the read index moves on: here the oldest packet leaves the queue
      | found pos word =>
          obtain ⟨packet, rest, front, _, kind, size, _, bytes⟩ := valid.found stage
          simp only [contents, consume, stage, front, kind, size, bytes]
          exact .dequeue _ (.done _)

/-- What was accepted is what entered the queue and what is being written. -/
theorem step_accounted (system : System side) (action : Action side)
    (before : List (Packet side)) (accounted : system.accepted = before ++ writing system) :
    ∃ more, enqueued (labels system action) = more.map Packet.item ∧
      (step system action).accepted = (before ++ more) ++ writing (step system action) := by
  cases action with
  | alloc packet =>
      refine ⟨[], rfl, ?_⟩
      simp only [step, alloc, List.append_nil]
      cases stage : system.producer with
      | idle =>
          have accounted : system.accepted = before := by simpa [writing, stage] using accounted
          dsimp only
          split <;> simp [writing, accounted]
      | filling _ _ _ | terminated _ _ | published _ _ => exact accounted
  | pad offset value =>
      refine ⟨[], rfl, ?_⟩
      simp only [step, pad, List.append_nil]
      cases stage : system.producer with
      | filling _ _ _ =>
          dsimp only
          split <;> simpa [writing, stage] using accounted
      | idle | terminated _ _ | published _ _ => exact accounted
  | produce =>
      simp only [step, produce, labels]
      cases stage : system.producer with
      | idle => exact ⟨[], rfl, by simpa using accounted⟩
      | filling start packet done =>
          refine ⟨[], rfl, ?_⟩
          dsimp only
          split <;> simpa [writing, stage] using accounted
      | terminated start packet => exact ⟨[], rfl, by simpa [writing, stage] using accounted⟩
      | published start packet =>
          exact ⟨[packet], rfl, by simpa [writing, stage] using accounted⟩
  | consume =>
      refine ⟨[], ?_, ?_⟩
      · simp only [labels]
        cases system.consumer <;> rfl
      · have same : (consume system).accepted = system.accepted ∧
            writing (consume system) = writing system := by
          simp only [consume]
          cases system.consumer with
          | idle =>
              dsimp only
              split
              · exact ⟨rfl, rfl⟩
              · split
                · cases side <;> exact ⟨rfl, rfl⟩
                · exact ⟨rfl, rfl⟩
          | followed =>
              dsimp only
              split <;> exact ⟨rfl, rfl⟩
          | found _ _ => exact ⟨rfl, rfl⟩
        simp only [step, same.1, same.2, List.append_nil]
        exact accounted

theorem run_accounted (system : System side) (actions : List (Action side))
    (before : List (Packet side)) (accounted : system.accepted = before ++ writing system) :
    ∃ more, enqueued (trace step labels system actions) = more.map Packet.item ∧
      (run step system actions).accepted =
        (before ++ more) ++ writing (run step system actions) := by
  induction actions generalizing system before with
  | nil => exact ⟨[], rfl, by simpa using accounted⟩
  | cons action rest ih =>
      obtain ⟨more, entered, now⟩ := step_accounted system action before accounted
      obtain ⟨later, entered', after⟩ := ih (step system action) (before ++ more) now
      refine ⟨more ++ later, ?_, ?_⟩
      · simp [trace, enqueued_append, entered, entered']
      · simpa using after

/-! Every accepted packet arrives: the producer finishes the packet it writes
and the consumer catches up. -/

def writingSteps (system : System side) : Nat :=
  match system.producer with
  | .idle => 0
  | .filling _ packet done => packet.data.length - done + 3
  | .terminated _ _ => 2
  | .published _ _ => 1

/-- A packet takes three steps of the consumer at most, a wrap marker included. -/
def readingSteps (system : System side) : Nat :=
  3 * system.live.length - match system.consumer with
    | .idle => 0
    | .followed => 1
    | .found _ _ => 2

theorem produce_accepted (system : System side) :
    (produce system).accepted = system.accepted := by
  unfold produce
  dsimp only
  split
  · rfl
  · split <;> rfl
  · rfl
  · rfl

theorem consume_accepted (system : System side) :
    (consume system).accepted = system.accepted ∧ (consume system).producer = system.producer := by
  unfold consume
  dsimp only
  split
  · split
    · exact ⟨rfl, rfl⟩
    · split
      · cases side <;> exact ⟨rfl, rfl⟩
      · exact ⟨rfl, rfl⟩
  · split <;> exact ⟨rfl, rfl⟩
  · exact ⟨rfl, rfl⟩

theorem produce_finishes (system : System side) (n : Nat) (enough : writingSteps system ≤ n) :
    (run step system (List.replicate n .produce)).producer = .idle ∧
      (run step system (List.replicate n .produce)).accepted = system.accepted := by
  induction n generalizing system with
  | zero =>
      cases stage : system.producer with
      | idle => exact ⟨stage, rfl⟩
      | filling _ _ _ | terminated _ _ | published _ _ => simp [writingSteps, stage] at enough
  | succ n ih =>
      have fewer : writingSteps (produce system) ≤ n := by
        cases stage : system.producer with
        | idle => simp [produce, writingSteps, stage]
        | filling start packet done =>
            simp only [writingSteps, stage] at enough
            simp only [produce, stage]
            split <;> simp only [writingSteps] <;> omega
        | terminated start packet =>
            simp only [writingSteps, stage] at enough
            simp only [produce, stage, writingSteps]
            omega
        | published start packet => simp [produce, writingSteps, stage]
      obtain ⟨idle, accepted⟩ := ih (produce system) fewer
      rw [List.replicate_succ, run_cons]
      exact ⟨idle, accepted.trans (produce_accepted system)⟩

theorem consume_progress {system : System side} (valid : RingInv system) :
    (system.live = [] → (consume system).live = []) ∧
      (system.live ≠ [] → readingSteps (consume system) < readingSteps system) := by
  have reading := valid.consumer
  obtain ⟨marker, layout⟩ := valid.layout
  cases stage : system.consumer with
  | found pos word =>
      obtain ⟨packet, rest, front, _⟩ := valid.found stage
      refine ⟨fun empty => by rw [empty] at front; simp at front, fun _ => ?_⟩
      simp only [consume, stage, readingSteps, front, List.tail_cons, List.length_cons]
      omega
  | followed =>
      simp only [ConsumerInv, stage] at reading
      simp only [consume, stage]
      rcases reading.1.word valid.stop with ⟨zero, empty⟩ | ⟨packet, rest, front, word⟩
      · rw [if_pos zero]
        exact ⟨fun _ => empty, fun some => absurd empty some⟩
      · have small : packet.data.length < 268435455 :=
          layout.small valid.read.2 (0, packet) (by simp [front])
        rw [if_neg (by rw [word]; exact (sizeWord_pos packet (by omega)).ne')]
        refine ⟨id, fun _ => ?_⟩
        simp only [readingSteps, stage, front, List.length_cons]
        omega
  | idle =>
      simp only [consume, stage]
      rcases layout.word valid.stop with
        ⟨zero, empty, _⟩ | ⟨wrap, _⟩ | ⟨packet, rest, front, word⟩
      · rw [if_pos zero]
        exact ⟨id, fun some => absurd empty some⟩
      · rw [if_neg (by rw [wrap]; decide), if_pos wrap]
        -- following a marker takes a step and no packet
        have fewer : system.live ≠ [] → 3 * system.live.length - 1 < 3 * system.live.length - 0 := by
          intro some
          have := List.length_pos_iff.mpr some
          omega
        cases side <;> exact ⟨id, fun some => by simpa only [readingSteps, stage] using fewer some⟩
      · have small : packet.data.length < 268435455 :=
          layout.small valid.read.2 (system.ring.read, packet) (by simp [front])
        rw [if_neg (by rw [word]; exact (sizeWord_pos packet (by omega)).ne'),
          if_neg (by rw [word]; exact sizeWord_ne_wrap packet small)]
        refine ⟨id, fun _ => ?_⟩
        simp only [readingSteps, stage, front, List.length_cons]
        omega

theorem consume_drains {system : System side} (valid : RingInv system) (n : Nat)
    (enough : readingSteps system ≤ n) :
    (run step system (List.replicate n .consume)).live = [] ∧
      (run step system (List.replicate n .consume)).producer = system.producer ∧
      (run step system (List.replicate n .consume)).accepted = system.accepted := by
  induction n generalizing system with
  | zero =>
      refine ⟨List.length_eq_zero_iff.mp ?_, rfl, rfl⟩
      unfold readingSteps at enough
      rw [List.replicate_zero, run_nil]
      cases stage : system.consumer <;> simp only [stage] at enough <;> omega
  | succ n ih =>
      obtain ⟨stays, moves⟩ := consume_progress valid
      have fewer : readingSteps (consume system) ≤ n := by
        by_cases empty : system.live = []
        · simp [readingSteps, stays empty]
        · have := moves empty
          omega
      obtain ⟨drained, producer, accepted⟩ := ih valid.consume fewer
      have same := consume_accepted system
      rw [List.replicate_succ, run_cons]
      exact ⟨drained, producer.trans same.2, accepted.trans same.1⟩

/-! The promises of the ring. -/

/-- An allocation that succeeds returns bytes of no packet that is still in the ring. -/
def AllocApart (system : System side) : Action side → Prop
  | .alloc packet => ∀ start, system.producer = .idle →
      (bufferAllocBuffer side system.ring (totalSize packet)).2 = some start →
      ∀ entry ∈ system.live,
        entry.1 + span entry.2 ≤ start ∨ start + totalSize packet ≤ entry.1
  | _ => True

structure IndexInv (system : System side) : Prop where
  aligned : system.ring.read % 4 = 0 ∧ system.ring.write % 4 = 0
  bounded : system.ring.read ≤ bufferSize side - 4 ∧ system.ring.write ≤ bufferSize side - 4
  terminator : system.producer = .idle → readU32 system.ring.mem system.ring.write = 0

theorem allocApart_of_inv {system : System side} (valid : RingInv system) (action : Action side) :
    AllocApart system action := by
  cases action with
  | alloc packet =>
      intro start idle found entry member
      obtain ⟨marker, layout⟩ := valid.layout
      have stop := valid.stop
      simp only [tail, need, idle] at layout stop
      obtain ⟨_, _, _, room, _⟩ := bufferAllocBuffer_some layout stop valid.read valid.write packet
        start (Prod.ext rfl found)
      rw [totalSize_span]
      exact room.apart entry member
  | produce | pad _ _ | consume => trivial

theorem indexInv_of_inv {system : System side} (valid : RingInv system) : IndexInv system where
  aligned := ⟨valid.read.1, valid.write.1⟩
  bounded := ⟨Nat.le_sub_of_add_le valid.read.2, Nat.le_sub_of_add_le valid.write.2⟩
  terminator idle := by simpa [tail, idle] using valid.stop

/-- Any interleaving refines the queue: what is taken is what was accepted, in
order, once and byte for byte; what is not yet taken can always be taken; no
allocation hands out live bytes; and the indexes and the terminator are in order
after every step. -/
theorem ring_refines_queue (side : Side) (actions : List (Action side)) :
    let final := run step (start side) actions
    let taken := trace step labels (start side) actions
    Accepts [] taken (contents final) ∧
      final.accepted.map Packet.item = enqueued taken ++ (writing final).map Packet.item ∧
      dequeued taken <+: final.accepted.map Packet.item ∧
      (∃ produced consumed, dequeued (trace step labels (start side)
          (actions ++ (List.replicate produced .produce ++ List.replicate consumed .consume))) =
        final.accepted.map Packet.item) ∧
      EachStep step AllocApart (start side) actions ∧ Always step IndexInv (start side) actions := by
  intro final taken
  have kept : ∀ (system : System side) action, RingInv system → RingInv (step system action) :=
    fun _ action valid => valid.step action
  have queue : ∀ list, Accepts [] (trace step labels (start side) list)
      (contents (run step (start side) list)) := fun list =>
    refines kept (fun _ action valid => step_accepted valid action) (start side) list .start
  have accounted : ∀ list, (run step (start side) list).accepted.map Packet.item =
      enqueued (trace step labels (start side) list) ++
        (writing (run step (start side) list)).map Packet.item := by
    intro list
    obtain ⟨more, entered, all⟩ := run_accounted (start side) list [] rfl
    rw [all, entered]
    simp
  have valid : RingInv final := run_invariant kept (start side) actions .start
  refine ⟨queue actions, accounted actions, ?_, ?_, ?_, ?_⟩
  · have order := (queue actions).conserves
    rw [List.nil_append] at order
    rw [accounted actions, order, List.append_assoc]
    exact List.prefix_append _ _
  · -- first the producer finishes its packet, then the consumer takes all there is
    let finished := run step final (List.replicate (writingSteps final) .produce)
    obtain ⟨idle, same⟩ := produce_finishes final _ le_rfl
    have later : RingInv finished := run_invariant kept final _ valid
    obtain ⟨drained, producer, same'⟩ := consume_drains later _ le_rfl
    refine ⟨writingSteps final, readingSteps finished, ?_⟩
    have order := (queue (actions ++ (List.replicate (writingSteps final) .produce ++
      List.replicate (readingSteps finished) .consume))).conserves
    have all := accounted (actions ++ (List.replicate (writingSteps final) .produce ++
      List.replicate (readingSteps finished) .consume))
    rw [run_append, run_append] at order all
    rw [same', same, writing, producer, idle, List.map_nil, List.append_nil] at all
    rw [contents, drained, List.nil_append, List.map_nil, List.append_nil] at order
    rw [← order, ← all]
  · exact each_step_of_invariant kept (fun _ action valid => allocApart_of_inv valid action)
      (start side) actions .start
  · exact ⟨indexInv_of_inv .start, each_step_of_invariant kept
      (fun _ action valid => indexInv_of_inv (valid.step action)) (start side) actions .start⟩

end Dswifi.RingBuffer
