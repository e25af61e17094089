import Dswifi.Runs
import Dswifi.RingLayout
import Dswifi.TxQueue

/-! What becomes of the packets behind one that does not fit its MAC buffer. The
queue a reader has in mind is kept beside the ring: the frames that wait and the
frames that flushes should have copied, a frame that does not fit being dropped
whole. Ring and queue agree after every flush exactly as long as no flush meets
such a frame. -/

namespace Dswifi.TxQueue

open ByteMemory RingBuffer Runs

/-- The frames in the ring with the positions of their size words, those that
flushes should have copied, and where the last wrap marker was written. -/
structure Queue where
  waiting : List (Nat × Frame)
  expected : List Frame
  marker : Option Nat

structure State where
  tx : Tx
  queue : Queue

inductive Event where
  | send (station : Station) (call : Call)
  | flush (wTxbufReply2 : Nat)

/-- The bytes of MAC memory for a packet of each kind. -/
def room : Kind → Nat
  | .reply => 0x100
  | .beacon => 0x200
  | .cmd => 0x300
  | _ => 0x700

def Fits (frame : Frame) : Prop := frame.size ≤ room frame.kind

instance (frame : Frame) : Decidable (Fits frame) := inferInstanceAs (Decidable (_ ≤ _))

def Queue.flush (queue : Queue) : Queue :=
  match queue.waiting with
  | [] => queue
  | (pos, frame) :: rest =>
    { waiting := rest
      expected := if Fits frame then queue.expected ++ [frame] else queue.expected
      -- the packet at the start of the buffer is the one behind the wrap marker
      marker := if pos = 0 then none else queue.marker }

def Queue.placed (queue : Queue) (frame : Frame) (write start : Nat) : Queue :=
  { queue with
    waiting := queue.waiting ++ [(start, frame)]
    marker := if start = write then queue.marker else some write }

def send (state : State) (frame : Frame) : State :=
  match place state.tx.ring frame with
  | (ring, none) => { state with tx := { state.tx with ring } }
  | (ring, some start) =>
    { tx := { state.tx with ring }, queue := state.queue.placed frame state.tx.ring.write start }

def step (state : State) : Event → State
  | .send station call =>
    match call.frame station with
    | none => state
    | some frame => send state frame
  | .flush wTxbufReply2 =>
    { tx := TxQueue.flush state.tx wTxbufReply2, queue := state.queue.flush }

def start : State :=
  { tx := { ring := { mem := fun _ => 0, read := 0, write := 0 }, copied := [] }
    queue := { waiting := [], expected := [], marker := none } }

/-- The bytes are those of the frame, whatever the skipped ones hold. -/
def Holds (content : Content) (bytes : List UInt8) : Prop :=
  bytes.length = content.length ∧ ∀ (i : Nat) byte, content[i]? = some (some byte) → bytes[i]? = some byte

/-- A copy is the frame's: sent as its kind, in a buffer of it, byte for byte. -/
def Carries (frame : Frame) (copy : Copy) : Prop :=
  copy.kind = frame.kind ∧ (∃ register, copy.macbase = (destination register frame.kind).base) ∧
    Holds frame.content copy.bytes

/-- The read index is on the size word of a waiting packet, on the wrap marker
or on the terminator. -/
def OnMark (state : State) : Prop :=
  (∃ entry ∈ state.queue.waiting, entry.1 = state.tx.ring.read) ∨
    state.queue.marker = some state.tx.ring.read ∨ state.tx.ring.read = state.tx.ring.write

/-- After a flush the ring is where the queue is, and has copied what it should. -/
def DroppedWhole (state : State) : Event → Prop
  | .send _ _ => True
  | .flush wTxbufReply2 =>
    let next := step state (.flush wTxbufReply2)
    OnMark next ∧ List.Forall₂ Carries next.queue.expected next.tx.copied

/-- The packet a flush takes fits its buffer. -/
def HeadFits (state : State) : Event → Prop
  | .send _ _ => True
  | .flush _ => ∀ entry ∈ state.queue.waiting.head?, Fits entry.2

/-! Frames in memory. -/

theorem Frame.size_facts (frame : Frame) : 0 < frame.size ∧ frame.size < 2147483648 + 64 := by
  have some := frame.some_header
  have few := frame.few
  have data := frame.payload.bounded
  simp only [Frame.size, Frame.content, List.length_append, List.length_map, List.length_replicate]
  omega

def Frame.packet (frame : Frame) (data : List UInt8) (length : data.length = frame.size) :
    Packet .tx where
  kind := frame.kind
  data := data
  sided := iff_of_false (by decide) frame.sent
  nonempty := length ▸ frame.size_facts.1
  bounded := length ▸ frame.size_facts.2

theorem agree_writeContent (mem : Memory) (pos : Nat) (content : Content) (low high : Nat)
    (apart : high ≤ pos ∨ pos + content.length ≤ low) :
    Agree mem (writeContent mem pos content) low high := by
  intro i above below
  have distinct : ¬(pos ≤ i ∧ i < pos + content.length) := by omega
  simp [writeContent, distinct]

theorem holds_writeContent (mem : Memory) (pos : Nat) (content : Content) :
    Holds content (readBytes (writeContent mem pos content) pos content.length) := by
  refine ⟨readBytes_length _ _ _, ?_⟩
  intro i byte there
  have inside : i < content.length := (List.getElem?_eq_some_iff.mp there).1
  have value : writeContent mem pos content (pos + i) = byte := by
    rw [writeContent, if_pos (by omega), Nat.add_sub_cancel_left, there]
    rfl
  simp [readBytes, List.getElem?_range' inside, value]

/-- The packet of a frame whose content is in the memory. -/
def Frame.packetAt (frame : Frame) (mem : Memory) (start : Nat) : Packet .tx :=
  frame.packet (readBytes mem (start + 4) frame.size) (readBytes_length _ _ _)

/-- The content, the stop marker behind it and then the size word: the packet is
stored, and nothing else has changed. -/
theorem written_frame (mem : Memory) (start : Nat) (frame : Frame) (small : frame.size < 268435456)
    (limit : Nat) :
    let filled := writeContent mem (start + 4) frame.content
    let packet := frame.packetAt filled start
    let after := writeU32 (writeU32 filled (start + span packet) 0) start
      (frame.size ||| frame.kind.flags)
    Agree mem after 0 start ∧ Agree mem after (start + (span packet + 4)) limit ∧
      Stored after start packet ∧ readU32 after (start + span packet) = 0 := by
  intro filled packet after
  have shape := span_facts packet
  have length : packet.data.length = frame.size := readBytes_length _ _ _
  have word : frame.size ||| frame.kind.flags = sizeWord packet := by
    simp only [sizeWord, length]
    rfl
  -- the two words are beside the content, and the size word is beside the stop marker
  have kept : Agree filled after (start + 4) (start + span packet) :=
    (agree_writeU32 _ _ _ _ _ (.inl le_rfl)).trans (agree_writeU32 _ _ _ _ _ (.inr le_rfl))
  have stays := (agree_writeU32 (writeU32 filled (start + span packet) 0) start
    (frame.size ||| frame.kind.flags) (start + 4) (start + span packet + 4)
    (.inr le_rfl)).readU32 (start + span packet) (by omega) le_rfl
  refine ⟨?_, ?_, ⟨?_, ?_⟩, ?_⟩
  · exact ((agree_writeContent _ _ _ _ _ (.inl (by omega))).trans
      (agree_writeU32 _ _ _ _ _ (.inl (by omega)))).trans (agree_writeU32 _ _ _ _ _ (.inl le_rfl))
  · exact ((agree_writeContent _ _ _ _ _ (.inr (by rw [← Frame.size]; omega))).trans
      (agree_writeU32 _ _ _ _ _ (.inr (by omega)))).trans
      (agree_writeU32 _ _ _ _ _ (.inr (by omega)))
  · rw [← word]
    exact readU32_writeU32 _ _ _ (word ▸ sizeWord_lt packet (length ▸ small))
  · have bytes := kept.readBytes (start + 4) packet.data.length le_rfl (by omega)
    rw [length] at bytes ⊢
    exact bytes.symm
  · exact stays.symm.trans (readU32_writeU32 filled (start + span packet) 0 (by decide))

/-! The invariant. -/

def Represents (waiting : Nat × Frame) (live : Nat × Packet .tx) : Prop :=
  live.1 = waiting.1 ∧ live.2.kind = waiting.2.kind ∧ Holds waiting.2.content live.2.data

structure TxInv (state : State) (live : List (Nat × Packet .tx)) : Prop where
  layout : Layout .tx state.tx.ring.mem state.tx.ring.read state.tx.ring.write 4 live
    state.queue.marker
  stop : readU32 state.tx.ring.mem state.tx.ring.write = 0
  read : state.tx.ring.read % 4 = 0 ∧ state.tx.ring.read + 4 ≤ bufferSize .tx
  write : state.tx.ring.write % 4 = 0 ∧ state.tx.ring.write + 4 ≤ bufferSize .tx
  behind : state.queue.marker ≠ none → 0 < state.tx.ring.write
  waiting : List.Forall₂ Represents state.queue.waiting live
  copied : List.Forall₂ Carries state.queue.expected state.tx.copied

theorem TxInv.start : TxInv start [] where
  layout := .straight rfl (by decide)
  stop := by simp [TxQueue.start, readU32]
  read := by decide
  write := by decide
  behind := by simp [TxQueue.start]
  waiting := .nil
  copied := .nil

theorem TxInv.send {state : State} {live : List (Nat × Packet .tx)} (valid : TxInv state live)
    (frame : Frame) : ∃ live', TxInv (send state frame) live' := by
  let model := frame.packet (List.replicate frame.size 0) List.length_replicate
  have total : u32 (4 + roundUp32 frame.size + 4) = totalSize model := by
    simp [totalSize, model, Frame.packet]
  simp only [TxQueue.send, place, total]
  rcases placed : bufferAllocBuffer .tx state.tx.ring (totalSize model) with ⟨next, _ | start⟩
  · have same := bufferAllocBuffer_none placed
    subst same
    exact ⟨live, valid.layout, valid.stop, valid.read, valid.write, valid.behind, valid.waiting,
      valid.copied⟩
  · obtain ⟨sameRead, _, aligned, free, _, _⟩ :=
      bufferAllocBuffer_some valid.layout valid.stop valid.read valid.write model start placed
    have inside := free.tail_bound valid.read.2
    have limit : bufferSize .tx = 24576 := rfl
    have shape := span_facts model
    have size : model.data.length = frame.size := List.length_replicate
    have nextIdx := nextIdx_span start model aligned (by omega)
    simp only [RingBuffer.nextIdx, size] at nextIdx
    -- the packet has the length of the one that was allocated for
    have span_eq : span model =
        span (frame.packetAt (writeContent next.mem (start + 4) frame.content) start) := by
      simp [span, model, Frame.packetAt, Frame.packet]
    obtain ⟨below, above, stored, stop⟩ :=
      written_frame next.mem start frame (by omega) (bufferSize .tx)
    dsimp only
    rw [nextIdx]
    rw [span_eq] at free inside ⊢
    have grown := (free.congr below above).extend stored le_rfl
    refine ⟨live ++ [(start, frame.packetAt (writeContent next.mem (start + 4) frame.content) start)],
      ?_, stop, ?_, ?_, ?_, ?_, valid.copied⟩
    · rw [← sameRead] at grown
      exact grown
    · dsimp only
      rw [sameRead]
      exact valid.read
    · have multiple := span_facts
        (frame.packetAt (writeContent next.mem (start + 4) frame.content) start)
      dsimp only
      omega
    · intro _
      dsimp only
      omega
    · refine List.rel_append valid.waiting (.cons ⟨rfl, rfl, ?_⟩ .nil)
      exact holds_writeContent next.mem (start + 4) frame.content

/-! One flush. -/

theorem room_destination (wTxbufReply2 : Nat) (kind : Kind) :
    (destination wTxbufReply2 kind).stop - (destination wTxbufReply2 kind).base = room kind := by
  cases kind with
  | reply =>
      simp only [destination, replyBuffer]
      split <;> simp [macClientRx1, macClientRx2, room]
  | beacon => simp [destination, macBeacon, room]
  | cmd => simp [destination, macCmdbuf, room]
  | received | data => simp [destination, macTxbuf, room]

/-- What a flush does at the size word of a packet, whether or not it followed a
wrap marker to get there. -/
theorem copyFirstData_spec {mem : Memory} {pos : Nat} {packet : Packet .tx}
    (stored : Stored mem pos packet) (small : packet.data.length < 268435456)
    (wTxbufReply2 write : Nat) :
    copyFirstData { mem, read := pos, write } (destination wTxbufReply2 packet.kind) =
      if packet.data.length ≤ room packet.kind then
        ({ mem, read := pos + span packet, write }, some packet.data)
      else ({ mem, read := pos + 4, write }, none) := by
  have size : sizeWord packet &&& 0x0FFFFFFF = packet.data.length :=
    wordSize_sizeWord packet small
  have next : pos + 4 + roundUp32 packet.data.length = pos + span packet := by
    rw [← next_read pos packet small, wordSize_sizeWord packet small]
  rw [copyFirstData]
  dsimp only
  rw [stored.1, size, room_destination, next, stored.2]

theorem flush_packet {tx : Tx} {packet : Packet .tx} {pos : Nat}
    (found : readU32 tx.ring.mem tx.ring.read = sizeWord packet ∧ tx.ring.read = pos ∨
      readU32 tx.ring.mem tx.ring.read = sizeWrap ∧ pos = 0)
    (stored : Stored tx.ring.mem pos packet) (small : packet.data.length < 268435455)
    (wTxbufReply2 : Nat) :
    flush tx wTxbufReply2 =
      if packet.data.length ≤ room packet.kind then
        { ring := { tx.ring with read := pos + span packet }
          copied := tx.copied ++ [{ kind := packet.kind
                                    macbase := (destination wTxbufReply2 packet.kind).base
                                    bytes := packet.data }] }
      else { tx with ring := { tx.ring with read := pos + 4 } } := by
  have positive := sizeWord_pos packet (by omega)
  have plain := sizeWord_ne_wrap packet small
  have kind := wordKind_sizeWord packet (by omega)
  obtain ⟨⟨mem, read, write⟩, copied⟩ := tx
  have spec := copyFirstData_spec stored (by omega) wTxbufReply2 write
  dsimp only at found stored spec
  -- the packet is where the index says, or at the start of the buffer behind a wrap marker
  rcases found with ⟨word, same⟩ | ⟨word, same⟩
  · subst same
    simp only [flush, word, if_neg positive.ne', if_neg plain, kind, spec]
    by_cases fits : packet.data.length ≤ room packet.kind
    · rw [if_pos fits, if_pos fits]
    · rw [if_neg fits, if_neg fits]
  · subst same
    have marked : sizeWrap ≠ 0 := by decide
    simp only [flush, word, if_neg marked, if_true, stored.1, if_neg positive.ne', kind, spec]
    by_cases fits : packet.data.length ≤ room packet.kind
    · rw [if_pos fits, if_pos fits]
    · rw [if_neg fits, if_neg fits]

/-- A flush finds nothing to do, or the oldest packet. -/
theorem TxInv.found {state : State} {live : List (Nat × Packet .tx)} (valid : TxInv state live) :
    (readU32 state.tx.ring.mem state.tx.ring.read = 0 ∧ live = [] ∧
      state.tx.ring.read = state.tx.ring.write) ∨
    ∃ pos packet rest, live = (pos, packet) :: rest ∧
      (readU32 state.tx.ring.mem state.tx.ring.read = sizeWord packet ∧ state.tx.ring.read = pos ∨
        readU32 state.tx.ring.mem state.tx.ring.read = sizeWrap ∧ pos = 0) := by
  rcases valid.layout.word valid.stop with
    ⟨zero, empty, same⟩ | ⟨wrap, _, chain, mark⟩ | ⟨packet, rest, front, word⟩
  · exact .inl ⟨zero, empty, same⟩
  · right
    rcases chain.word valid.stop with ⟨_, empty⟩ | ⟨packet, rest, front, _⟩
    · -- a sender that wrote the marker went on to write its packet
      have positive := valid.behind (by simp [mark])
      subst empty
      have zero : 0 = state.tx.ring.write := chain
      omega
    · exact ⟨0, packet, rest, front, .inr ⟨wrap, rfl⟩⟩
  · exact .inr ⟨_, packet, rest, front, .inl ⟨word, rfl⟩⟩

/-- The read index is on a mark in every state of the invariant. -/
theorem TxInv.onMark {state : State} {live : List (Nat × Packet .tx)} (valid : TxInv state live) :
    OnMark state := by
  rcases valid.layout.word valid.stop with
    ⟨_, _, same⟩ | ⟨_, _, _, mark⟩ | ⟨packet, rest, front, _⟩
  · exact .inr (.inr same)
  · exact .inr (.inl mark)
  · have represented := valid.waiting
    rw [front] at represented
    cases waits : state.queue.waiting with
    | nil => rw [waits] at represented; cases represented
    | cons entry others =>
        rw [waits] at represented
        cases represented with
        | cons first _ => exact .inl ⟨entry, by simp [waits], first.1.symm⟩

theorem waiting_position {waiting : List (Nat × Frame)} {live : List (Nat × Packet .tx)}
    (represented : List.Forall₂ Represents waiting live) (entry : Nat × Frame)
    (member : entry ∈ waiting) : ∃ other ∈ live, other.1 = entry.1 := by
  induction represented with
  | nil => simp at member
  | cons first rest ih =>
      rcases List.mem_cons.mp member with same | later
      · subst same
        exact ⟨_, List.mem_cons_self, first.1⟩
      · obtain ⟨other, there, same⟩ := ih later
        exact ⟨other, List.mem_cons_of_mem _ there, same⟩

/-- The oldest frame that waits is the oldest packet of the ring. -/
theorem TxInv.head {state : State} {live : List (Nat × Packet .tx)} (valid : TxInv state live)
    {entry : Nat × Frame} {others : List (Nat × Frame)}
    (waits : state.queue.waiting = entry :: others) :
    ∃ packet rest, live = (entry.1, packet) :: rest ∧ packet.kind = entry.2.kind ∧
      Holds entry.2.content packet.data ∧ List.Forall₂ Represents others rest := by
  have represented := valid.waiting
  rw [waits] at represented
  cases represented with
  | @cons _ first _ rest same behind =>
      obtain ⟨pos, packet⟩ := first
      obtain ⟨position, kind, holds⟩ := same
      exact ⟨packet, rest, by rw [← position], kind, holds, behind⟩

theorem TxInv.flush_head {state : State} {entry : Nat × Frame} {packet : Packet .tx}
    {rest : List (Nat × Packet .tx)} (valid : TxInv state ((entry.1, packet) :: rest))
    (kind : packet.kind = entry.2.kind) (holds : Holds entry.2.content packet.data)
    (wTxbufReply2 : Nat) :
    TxQueue.flush state.tx wTxbufReply2 =
      if Fits entry.2 then
        { ring := { state.tx.ring with read := entry.1 + span packet }
          copied := state.tx.copied ++ [{ kind := packet.kind
                                          macbase := (destination wTxbufReply2 packet.kind).base
                                          bytes := packet.data }] }
      else { state.tx with ring := { state.tx.ring with read := entry.1 + 4 } } := by
  have small := valid.layout.small valid.read.2 (entry.1, packet) List.mem_cons_self
  have fits : packet.data.length ≤ room packet.kind ↔ Fits entry.2 := by
    rw [Fits, Frame.size, ← holds.1, kind]
  rcases valid.found with ⟨_, empty, _⟩ | ⟨pos, oldest, behind, same, found⟩
  · cases empty
  · obtain ⟨⟨rfl, rfl⟩, rfl⟩ : (entry.1 = pos ∧ packet = oldest) ∧ rest = behind := by
      simpa using same
    simpa only [fits] using flush_packet found valid.layout.head small wTxbufReply2

theorem TxInv.flush_idle {state : State} {live : List (Nat × Packet .tx)} (valid : TxInv state live)
    (waits : state.queue.waiting = []) (wTxbufReply2 : Nat) :
    step state (.flush wTxbufReply2) = state := by
  have represented := valid.waiting
  rw [waits] at represented
  cases represented
  have zero : readU32 state.tx.ring.mem state.tx.ring.read = 0 := by
    rcases valid.found with ⟨zero, _⟩ | ⟨_, _, _, same, _⟩
    · exact zero
    · cases same
  obtain ⟨tx, queue⟩ := state
  obtain ⟨waiting, expected, marker⟩ := queue
  dsimp only at waits zero
  subst waits
  simp [step, TxQueue.flush, zero, Queue.flush]

/-- A flush that meets a packet that fits keeps ring and queue together. -/
theorem TxInv.flush_fits {state : State} {live : List (Nat × Packet .tx)} (valid : TxInv state live)
    {entry : Nat × Frame} {others : List (Nat × Frame)}
    (waits : state.queue.waiting = entry :: others) (fit : Fits entry.2) (wTxbufReply2 : Nat) :
    ∃ live', TxInv (step state (.flush wTxbufReply2)) live' := by
  obtain ⟨packet, rest, rfl, kind, holds, behind⟩ := valid.head waits
  have effect := valid.flush_head kind holds wTxbufReply2
  obtain ⟨popped, bound, even⟩ := valid.layout.pop valid.read.2 valid.read.1 le_rfl
  refine ⟨rest, ?_⟩
  simp only [step, effect, if_pos fit, Queue.flush, waits]
  refine ⟨popped, valid.stop, ⟨even, bound⟩, valid.write, ?_, behind, ?_⟩
  · dsimp only
    split
    · simp
    · exact valid.behind
  · exact List.rel_append valid.copied (.cons ⟨kind, ⟨wTxbufReply2, by rw [kind]⟩, holds⟩ .nil)

/-- One that meets a packet that does not fit leaves the read index inside it. -/
theorem TxInv.flush_sticks {state : State} {live : List (Nat × Packet .tx)} (valid : TxInv state live)
    {entry : Nat × Frame} {others : List (Nat × Frame)}
    (waits : state.queue.waiting = entry :: others) (unfit : ¬ Fits entry.2) (wTxbufReply2 : Nat) :
    ¬ OnMark (step state (.flush wTxbufReply2)) := by
  obtain ⟨packet, rest, rfl, kind, holds, behind⟩ := valid.head waits
  have effect := valid.flush_head kind holds wTxbufReply2
  obtain ⟨packets, marks, tails⟩ := valid.layout.inside_head le_rfl
  simp only [step, effect, if_neg unfit, Queue.flush, waits, OnMark]
  rintro (⟨other, member, same⟩ | mark | write)
  · obtain ⟨there, inside, equal⟩ := waiting_position behind other member
    exact packets there inside (equal.trans same)
  · exact marks mark
  · exact tails write.symm

theorem TxInv.flush {state : State} {live : List (Nat × Packet .tx)} (valid : TxInv state live)
    (wTxbufReply2 : Nat) :
    (HeadFits state (.flush wTxbufReply2) →
      ∃ live', TxInv (step state (.flush wTxbufReply2)) live') ∧
    (¬ HeadFits state (.flush wTxbufReply2) → ¬ OnMark (step state (.flush wTxbufReply2))) := by
  cases waits : state.queue.waiting with
  | nil =>
      rw [valid.flush_idle waits]
      refine ⟨fun _ => ⟨live, valid⟩, fun fails => absurd ?_ fails⟩
      simp [HeadFits, waits]
  | cons entry others =>
      have head : HeadFits state (.flush wTxbufReply2) ↔ Fits entry.2 := by
        simp [HeadFits, waits]
      rw [head]
      exact ⟨fun fit => valid.flush_fits waits fit _, fun unfit => valid.flush_sticks waits unfit _⟩

/-- Refused packets are dropped whole, in every run, exactly as long as none is
refused. -/
theorem dropped_whole_iff (events : List Event) :
    EachStep step DroppedWhole start events ↔ EachStep step HeadFits start events := by
  have kept : ∀ state event, (∃ live, TxInv state live) → HeadFits state event →
      ∃ live, TxInv (step state event) live := by
    rintro state event ⟨live, valid⟩ guard
    cases event with
    | send station call =>
        simp only [step]
        cases call.frame station with
        | none => exact ⟨live, valid⟩
        | some frame => exact valid.send frame
    | flush wTxbufReply2 => exact (valid.flush wTxbufReply2).1 guard
  have exact_step : ∀ state event, (∃ live, TxInv state live) →
      (DroppedWhole state event ↔ HeadFits state event) := by
    rintro state event ⟨live, valid⟩
    cases event with
    | send station call => exact Iff.rfl
    | flush wTxbufReply2 =>
        constructor
        · rintro ⟨mark, _⟩
          by_contra unfit
          exact (valid.flush wTxbufReply2).2 unfit mark
        · intro guard
          obtain ⟨live', after⟩ := (valid.flush wTxbufReply2).1 guard
          exact ⟨after.onMark, after.copied⟩
  exact each_step_iff_guard kept exact_step start events ⟨[], TxInv.start⟩

theorem send_waiting (state : State) (frame : Frame) :
    ∃ more, (send state frame).queue.waiting = state.queue.waiting ++ more := by
  simp only [send]
  split
  · exact ⟨[], by simp⟩
  · exact ⟨[_], rfl⟩

theorem send_start (frame : Frame) (small : frame.size ≤ 24000) :
    (send start frame).queue.waiting = [(0, frame)] := by
  have fits : ¬ u32 (start.tx.ring.write + u32 (4 + roundUp32 frame.size + 4)) ≥ bufferSize .tx := by
    simp only [start, u32, roundUp32, bufferSize]
    omega
  have placed : bufferAllocBuffer .tx start.tx.ring (u32 (4 + roundUp32 frame.size + 4)) =
      (start.tx.ring, some 0) := by
    have empty : start.tx.ring.read ≤ start.tx.ring.write := le_rfl
    rw [bufferAllocBuffer, if_pos empty, if_neg fits]
    rfl
  simp only [send, place, placed]
  rfl

theorem Frame.size_eq (frame : Frame) :
    frame.size = frame.header.length + frame.payload.bytes.length + frame.trailer := by
  simp [Frame.size, Frame.content, Nat.add_assoc]

/-- The station of a client that replies with 300 bytes, which is 44 too many
with the headers and the FCS. -/
def replyingStation : Station where
  macAddr := (1, 2, 3)
  bssid := (4, 5, 6)
  curClientAID := 1
  wep := false
  multiplayerClientGetMacFromAID := fun _ => none

def longReply : Payload := ⟨List.replicate 300 0, List.length_replicate.trans_lt (by decide)⟩

/-- The long reply is refused and the ring is stuck inside it. -/
theorem long_reply_not_dropped_whole : ¬ EachStep step DroppedWhole start
    [.send replyingStation (.multiplayerClientReplyTxFrame longReply),
      .send replyingStation (.rawTxFrame 20 ⟨[1], by decide⟩), .flush 0] := by
  rintro ⟨_, _, ⟨mark, _⟩, _⟩
  have header : (multiplayerClientReplyTxFrame replyingStation longReply).header.length = 38 := rfl
  have data : longReply.bytes.length = 300 := List.length_replicate
  have size : (multiplayerClientReplyTxFrame replyingStation longReply).size = 342 := by
    have trailer : (multiplayerClientReplyTxFrame replyingStation longReply).trailer = 4 := rfl
    have payload : (multiplayerClientReplyTxFrame replyingStation longReply).payload = longReply := rfl
    rw [Frame.size_eq, header, payload, data, trailer]
  obtain ⟨live, first⟩ := TxInv.start.send (multiplayerClientReplyTxFrame replyingStation longReply)
  obtain ⟨live', second⟩ := first.send (rawTxFrame 20 ⟨[1], by decide⟩)
  refine (second.flush 0).2 (fun fits => ?_) mark
  obtain ⟨more, waiting⟩ := send_waiting
    (send start (multiplayerClientReplyTxFrame replyingStation longReply))
    (rawTxFrame 20 ⟨[1], by decide⟩)
  rw [send_start _ (by omega)] at waiting
  have fit : Fits (multiplayerClientReplyTxFrame replyingStation longReply) :=
    fits (0, multiplayerClientReplyTxFrame replyingStation longReply) (by rw [waiting]; rfl)
  rw [Fits, size] at fit
  exact absurd fit (by decide)

end Dswifi.TxQueue
