import Mathlib.Data.Nat.Bitwise
import Dswifi.Ring

/-! What the bytes of a ring mean: a chain of packets from the read index up to
the position of the next size word, in one piece or in two with a wrap marker
between them. -/

namespace Dswifi.RingBuffer

open ByteMemory

variable {side : Side}

/-! Size words. -/

theorem flags_multiple (kind : Kind) : ∃ high, high < 16 ∧ kind.flags = 268435456 * high := by
  cases kind with
  | received => exact ⟨0, by decide, rfl⟩
  | data => exact ⟨1, by decide, rfl⟩
  | beacon => exact ⟨2, by decide, rfl⟩
  | reply => exact ⟨4, by decide, rfl⟩
  | cmd => exact ⟨8, by decide, rfl⟩

theorem sizeWord_sum (packet : Packet side) (small : packet.data.length < 268435456) :
    sizeWord packet = packet.data.length + packet.kind.flags := by
  obtain ⟨high, _, flags⟩ := flags_multiple packet.kind
  have sum := Nat.two_pow_add_eq_or_of_lt (i := 28) small high
  rw [sizeWord, Nat.or_comm, flags, Nat.add_comm]
  exact sum.symm

theorem sizeWord_pos (packet : Packet side) (small : packet.data.length < 268435456) :
    0 < sizeWord packet := by
  have positive := packet.nonempty
  rw [sizeWord_sum packet small]
  omega

theorem sizeWord_lt (packet : Packet side) (small : packet.data.length < 268435456) :
    sizeWord packet < 4294967296 := by
  obtain ⟨high, bound, flags⟩ := flags_multiple packet.kind
  rw [sizeWord_sum packet small]
  omega

theorem sizeWord_ne_wrap (packet : Packet side) (small : packet.data.length < 268435455) :
    sizeWord packet ≠ sizeWrap := by
  obtain ⟨high, bound, flags⟩ := flags_multiple packet.kind
  rw [sizeWord_sum packet (by omega), sizeWrap]
  omega

theorem wordSize_sizeWord (packet : Packet side) (small : packet.data.length < 268435456) :
    wordSize side (sizeWord packet) = packet.data.length := by
  obtain ⟨high, bound, flags⟩ := flags_multiple packet.kind
  rw [sizeWord_sum packet small]
  cases side with
  | tx =>
      have mask := Nat.and_two_pow_sub_one_eq_mod (packet.data.length + packet.kind.flags) 28
      simp only [wordSize]
      norm_num at mask
      omega
  | rx =>
      have none := packet.sided.mp rfl
      simp [wordSize, none, Kind.flags]

theorem low_and_flag (n bit : Nat) (small : n < 2 ^ 28) (high : 28 ≤ bit) : n &&& 2 ^ bit = 0 := by
  have clear : n.testBit bit = false :=
    Nat.testBit_lt_two_pow (lt_of_lt_of_le small (Nat.pow_le_pow_right (by decide) high))
  simp [Nat.and_two_pow, clear]

theorem wordKind_sizeWord (packet : Packet side) (small : packet.data.length < 268435456) :
    wordKind side (sizeWord packet) = packet.kind := by
  cases side with
  | rx => exact (packet.sided.mp rfl).symm
  | tx =>
      have reply := low_and_flag packet.data.length 30 small (by decide)
      have beacon := low_and_flag packet.data.length 29 small (by decide)
      have cmd := low_and_flag packet.data.length 31 small (by decide)
      norm_num at reply beacon cmd
      simp only [wordKind, sizeWord, Nat.and_or_distrib_right]
      cases sort : packet.kind with
      | received => exact absurd (packet.sided.mpr sort) (by decide)
      | data | beacon | reply | cmd => simp [Kind.flags, reply, beacon, cmd]

/-! Positions. -/

theorem bufferSize_facts (side : Side) :
    4 ≤ bufferSize side ∧ bufferSize side ≤ 24576 ∧ bufferSize side % 4 = 0 := by
  cases side <;> decide

/-- Size word and packet, up to the next size word. -/
def span (packet : Packet side) : Nat := 4 + (packet.data.length + 3) / 4 * 4

theorem span_facts (packet : Packet side) :
    span packet % 4 = 0 ∧ 8 ≤ span packet ∧ 4 + packet.data.length ≤ span packet := by
  have positive := packet.nonempty
  unfold span
  omega

theorem roundUp32_length (packet : Packet side) :
    4 + roundUp32 packet.data.length = span packet := by
  have bound := packet.bounded
  unfold roundUp32 u32 span
  omega

theorem totalSize_span (packet : Packet side) : totalSize packet = span packet + 4 := by
  have bound := packet.bounded
  unfold totalSize roundUp32 u32 span
  omega

theorem nextIdx_span (start : Nat) (packet : Packet side) (aligned : start % 4 = 0)
    (small : start < 1073741824) : nextIdx start packet = start + span packet := by
  have bound := packet.bounded
  unfold nextIdx roundUp32 u32 span
  omega

theorem next_read (pos : Nat) (packet : Packet side) (small : packet.data.length < 268435456) :
    pos + 4 + roundUp32 (wordSize side (sizeWord packet)) = pos + span packet := by
  rw [wordSize_sizeWord packet small, ← roundUp32_length packet]
  omega

/-! Chains. -/

def Stored (mem : Memory) (pos : Nat) (packet : Packet side) : Prop :=
  readU32 mem pos = sizeWord packet ∧ readBytes mem (pos + 4) packet.data.length = packet.data

/-- `live` lies from `low` up to `high` without a gap. -/
def Chain (mem : Memory) : Nat → List (Nat × Packet side) → Nat → Prop
  | low, [], high => low = high
  | low, (pos, packet) :: rest, high =>
      pos = low ∧ Stored mem pos packet ∧ Chain mem (low + span packet) rest high

namespace Chain

theorem le {mem : Memory} {low high : Nat} {live : List (Nat × Packet side)}
    (chain : Chain mem low live high) : low ≤ high := by
  induction live generalizing low with
  | nil => exact le_of_eq chain
  | cons entry rest ih =>
      have after := ih chain.2.2
      omega

theorem aligned {mem : Memory} {low high : Nat} {live : List (Nat × Packet side)}
    (chain : Chain mem low live high) (even : low % 4 = 0) : high % 4 = 0 := by
  induction live generalizing low with
  | nil => exact chain ▸ even
  | cons entry rest ih =>
      have shape := span_facts entry.2
      exact ih chain.2.2 (by omega)

theorem inside {mem : Memory} {low high : Nat} {live : List (Nat × Packet side)}
    (chain : Chain mem low live high) (entry : Nat × Packet side) (member : entry ∈ live) :
    low ≤ entry.1 ∧ entry.1 + span entry.2 ≤ high := by
  induction live generalizing low with
  | nil => simp at member
  | cons head rest ih =>
      obtain ⟨first, _, after⟩ := chain
      have above := after.le
      rcases List.mem_cons.mp member with same | later
      · subst same
        omega
      · have bounds := ih after later
        omega

theorem congr {mem mem' : Memory} {low high : Nat} {live : List (Nat × Packet side)}
    (chain : Chain mem low live high) (same : Agree mem mem' low high) :
    Chain mem' low live high := by
  induction live generalizing low with
  | nil => exact chain
  | cons entry rest ih =>
      obtain ⟨first, ⟨word, bytes⟩, after⟩ := chain
      have shape := span_facts entry.2
      have above := after.le
      refine ⟨first, ⟨?_, ?_⟩, ih after (same.mono (by omega) le_rfl)⟩
      · rw [← same.readU32 entry.1 (by omega) (by omega), word]
      · rw [← same.readBytes (entry.1 + 4) _ (by omega) (by omega), bytes]

theorem extend {mem : Memory} {low high : Nat} {live : List (Nat × Packet side)}
    {packet : Packet side} (chain : Chain mem low live high) (stored : Stored mem high packet) :
    Chain mem low (live ++ [(high, packet)]) (high + span packet) := by
  induction live generalizing low with
  | nil =>
      have same : low = high := chain
      subst same
      exact ⟨rfl, stored, rfl⟩
  | cons entry rest ih => exact ⟨chain.1, chain.2.1, ih chain.2.2⟩

end Chain

/-- The two ways packets lie in a ring whose next size word goes to `tail`, with
`need` bytes free from there: in one piece, or in two with a wrap marker after
the first. The index says where the marker is. -/
inductive Layout (side : Side) (mem : Memory) (read tail need : Nat)
    (live : List (Nat × Packet side)) : Option Nat → Prop where
  | straight (chain : Chain mem read live tail) (room : tail + need ≤ bufferSize side) :
      Layout side mem read tail need live none
  | wrapped (marker : Nat) (first second : List (Nat × Packet side)) (both : live = first ++ second)
      (before : Chain mem read first marker) (mark : readU32 mem marker = sizeWrap)
      (inside : marker + 4 ≤ bufferSize side) (after : Chain mem 0 second tail)
      (room : tail + need ≤ read) : Layout side mem read tail need live (some marker)

namespace Layout

variable {mem mem' : Memory} {read tail need need' : Nat} {live : List (Nat × Packet side)}
  {marker : Option Nat}

theorem tail_bound (layout : Layout side mem read tail need live marker)
    (bound : read + 4 ≤ bufferSize side) : tail + need ≤ bufferSize side := by
  cases layout with
  | straight chain room => exact room
  | wrapped marker first second both before mark inside after room => omega

/-- A producer that keeps to the free bytes changes nothing. -/
theorem congr (layout : Layout side mem read tail need live marker)
    (low : Agree mem mem' 0 tail) (high : Agree mem mem' (tail + need) (bufferSize side)) :
    Layout side mem' read tail need live marker := by
  cases layout with
  | straight chain room => exact .straight (chain.congr (low.mono (Nat.zero_le _) le_rfl)) room
  | wrapped marker first second both before mark inside after room =>
      have above := before.le
      refine .wrapped marker first second both (before.congr (high.mono room (by omega))) ?_ inside
        (after.congr low) room
      rw [← high.readU32 marker (by omega) inside, mark]

/-- The packet written at the tail becomes part of the chain. -/
theorem extend (layout : Layout side mem read tail need live marker) {packet : Packet side}
    (stored : Stored mem tail packet) (enough : span packet + need' ≤ need) :
    Layout side mem read (tail + span packet) need' (live ++ [(tail, packet)]) marker := by
  cases layout with
  | straight chain room => exact .straight (chain.extend stored) (by omega)
  | wrapped marker first second both before mark inside after room =>
      exact .wrapped marker first (second ++ [(tail, packet)]) (by rw [both, List.append_assoc])
        before mark inside (after.extend stored) (by omega)

/-- No live packet touches the bytes free for the producer. -/
theorem apart (layout : Layout side mem read tail need live marker) (entry : Nat × Packet side)
    (member : entry ∈ live) : entry.1 + span entry.2 ≤ tail ∨ tail + need ≤ entry.1 := by
  cases layout with
  | straight chain room => exact .inl (chain.inside entry member).2
  | wrapped marker first second both before mark inside after room =>
      rw [both, List.mem_append] at member
      rcases member with one | two
      · have bounds := before.inside entry one
        exact .inr (by omega)
      · exact .inl (after.inside entry two).2

theorem small (layout : Layout side mem read tail need live marker)
    (bound : read + 4 ≤ bufferSize side) (entry : Nat × Packet side) (member : entry ∈ live) :
    entry.2.data.length < 268435455 := by
  have shape := span_facts entry.2
  have size := bufferSize_facts side
  cases layout with
  | straight chain room =>
      have bounds := chain.inside entry member
      omega
  | wrapped marker first second both before mark inside after room =>
      rw [both, List.mem_append] at member
      rcases member with one | two
      · have bounds := before.inside entry one
        omega
      · have bounds := after.inside entry two
        omega

/-- The word at the read index is a stop marker, a wrap marker or the size word
of the oldest packet. -/
theorem word (layout : Layout side mem read tail need live marker) (stop : readU32 mem tail = 0) :
    (readU32 mem read = 0 ∧ live = [] ∧ read = tail) ∨
      (readU32 mem read = sizeWrap ∧ tail + need ≤ read ∧ Chain mem 0 live tail ∧
        marker = some read) ∨
      ∃ packet rest, live = (read, packet) :: rest ∧ readU32 mem read = sizeWord packet := by
  cases layout with
  | straight chain room =>
      cases live with
      | nil =>
          have same : read = tail := chain
          exact .inl ⟨same ▸ stop, rfl, same⟩
      | cons entry rest =>
          obtain ⟨first, ⟨word, _⟩, _⟩ := chain
          refine .inr (.inr ⟨entry.2, rest, ?_, ?_⟩)
          · rw [← first]
          · rw [← first, word]
  | wrapped marker first second both before mark inside after room =>
      -- in front of the wrap marker nothing is left to read, or a packet is
      cases first with
      | nil =>
          have same : read = marker := before
          exact .inr (.inl ⟨same ▸ mark, room, both ▸ after, by rw [same]⟩)
      | cons entry rest =>
          obtain ⟨front, ⟨word, _⟩, _⟩ := before
          refine .inr (.inr ⟨entry.2, rest ++ second, ?_, ?_⟩)
          · rw [← front, both]
            rfl
          · rw [← front, word]

/-- The oldest packet is as it was written. -/
theorem head {entry : Nat × Packet side} {rest : List (Nat × Packet side)}
    (layout : Layout side mem read tail need (entry :: rest) marker) :
    Stored mem entry.1 entry.2 := by
  cases layout with
  | straight chain room => exact chain.2.1
  | wrapped marker first second both before mark inside after room =>
      cases first with
      | nil =>
          rw [List.nil_append] at both
          subst both
          exact after.2.1
      | cons head others =>
          obtain ⟨same, _⟩ := List.cons.inj both
          subst same
          exact before.2.1

/-- The oldest packet leaves the ring. One at the start of the buffer is the
first after the wrap marker, if there is a marker at all. -/
theorem pop {entry : Nat × Packet side} {rest : List (Nat × Packet side)}
    (layout : Layout side mem read tail need (entry :: rest) marker)
    (bound : read + 4 ≤ bufferSize side) (even : read % 4 = 0) (positive : 4 ≤ need) :
    Layout side mem (entry.1 + span entry.2) tail need rest
        (if entry.1 = 0 then none else marker) ∧
      entry.1 + span entry.2 + 4 ≤ bufferSize side ∧ (entry.1 + span entry.2) % 4 = 0 := by
  have shape := span_facts entry.2
  cases layout with
  | straight chain room =>
      obtain ⟨first, _, after⟩ := chain
      have above := after.le
      rw [first, ite_self]
      exact ⟨.straight after room, by omega, by omega⟩
  | wrapped marker first second both before mark inside after room =>
      -- with the last packet in front of the wrap marker the ring is straight again
      cases first with
      | nil =>
          rw [List.nil_append] at both
          subst both
          obtain ⟨zero, _, later⟩ := after
          have above := later.le
          rw [if_pos zero, zero]
          exact ⟨.straight later (by omega), by omega, by omega⟩
      | cons head others =>
          obtain ⟨same, split⟩ := List.cons.inj both
          subst same
          obtain ⟨front, _, later⟩ := before
          have above := later.le
          rw [if_neg (by omega), front]
          exact ⟨.wrapped marker others second split later mark inside after (by omega), by omega,
            by omega⟩

/-- The word after the size word of the oldest packet is no place where a reader
could go on. -/
theorem inside_head {entry : Nat × Packet side} {rest : List (Nat × Packet side)}
    (layout : Layout side mem read tail need (entry :: rest) marker) (positive : 4 ≤ need) :
    (∀ other ∈ rest, other.1 ≠ entry.1 + 4) ∧
      (if entry.1 = 0 then none else marker) ≠ some (entry.1 + 4) ∧ tail ≠ entry.1 + 4 := by
  have shape := span_facts entry.2
  cases layout with
  | straight chain room =>
      obtain ⟨first, _, after⟩ := chain
      have above := after.le
      refine ⟨?_, by simp, by omega⟩
      intro other member
      have bounds := after.inside other member
      omega
  | wrapped marker first second both before mark inside after room =>
      -- the oldest packet is the first behind the wrap marker, or one in front of it
      cases first with
      | nil =>
          rw [List.nil_append] at both
          subst both
          obtain ⟨zero, _, later⟩ := after
          have above := later.le
          refine ⟨?_, by simp [zero], by omega⟩
          intro other member
          have bounds := later.inside other member
          omega
      | cons head others =>
          obtain ⟨same, split⟩ := List.cons.inj both
          subst same
          obtain ⟨front, _, later⟩ := before
          have above := later.le
          refine ⟨?_, ?_, by omega⟩
          · intro other member
            have shape' := span_facts other.2
            rw [split] at member
            rcases List.mem_append.mp member with one | two
            · have bounds := later.inside other one
              omega
            · have bounds := after.inside other two
              omega
          · have ahead : entry.1 + 4 < marker := by omega
            split <;> simp
            omega

end Layout

/-- The first word of a chain, read at its start. -/
theorem Chain.word {mem : Memory} {low high : Nat} {live : List (Nat × Packet side)}
    (chain : Chain mem low live high) (stop : readU32 mem high = 0) :
    (readU32 mem low = 0 ∧ live = []) ∨
      ∃ packet rest, live = (low, packet) :: rest ∧ readU32 mem low = sizeWord packet := by
  cases live with
  | nil =>
      have same : low = high := chain
      exact .inl ⟨same ▸ stop, rfl⟩
  | cons entry rest =>
      obtain ⟨first, ⟨word, _⟩, _⟩ := chain
      refine .inr ⟨entry.2, rest, ?_, ?_⟩
      · rw [← first]
      · rw [← first, word]

/-! Allocation. -/

/-- The markers of a wrap: everything live becomes the first piece. -/
theorem Layout.wrap {mem : Memory} {read write total : Nat} {live : List (Nat × Packet side)}
    {marker : Option Nat} (layout : Layout side mem read write 4 live marker) (before : read ≤ write)
    (inside : write + 4 ≤ bufferSize side) (long : 4 ≤ total) (room : total < read) :
    Layout side (writeU32 (writeU32 mem 0 0) write sizeWrap) read 0 total live (some write) ∧
      readU32 (writeU32 (writeU32 mem 0 0) write sizeWrap) 0 = 0 := by
  have apart : Agree mem (writeU32 (writeU32 mem 0 0) write sizeWrap) read write :=
    (agree_writeU32 mem 0 0 _ _ (.inr (by omega))).trans
      (agree_writeU32 _ write sizeWrap _ _ (.inl le_rfl))
  have chain : Chain mem read live write := by
    -- packets that have wrapped already end below the read index
    cases layout with
    | straight chain room => exact chain
    | wrapped marker first second both before mark inside after room => omega
  have mark := readU32_writeU32 (writeU32 mem 0 0) write sizeWrap (by decide)
  have zero := readU32_writeU32 mem 0 0 (by decide)
  have kept := (agree_writeU32 (writeU32 mem 0 0) write sizeWrap 0 4 (.inl (by omega))).readU32 0
    le_rfl le_rfl
  refine ⟨.wrapped write live [] (by simp) (chain.congr apart) mark inside rfl (by omega), ?_⟩
  rw [← kept, zero]

/-- What an allocation that succeeds does: the free bytes it returns hold the
packet and the size word after it, and start with a stop marker. -/
theorem bufferAllocBuffer_some {ring next : Buffer} {live : List (Nat × Packet side)}
    {marker : Option Nat} (layout : Layout side ring.mem ring.read ring.write 4 live marker)
    (stop : readU32 ring.mem ring.write = 0)
    (read : ring.read % 4 = 0 ∧ ring.read + 4 ≤ bufferSize side)
    (write : ring.write % 4 = 0 ∧ ring.write + 4 ≤ bufferSize side)
    (packet : Packet side) (start : Nat)
    (placed : bufferAllocBuffer side ring (totalSize packet) = (next, some start)) :
    next.read = ring.read ∧ next.write = ring.write ∧ start % 4 = 0 ∧
      Layout side next.mem ring.read start (span packet + 4) live
        (if start = ring.write then marker else some ring.write) ∧
      readU32 next.mem start = 0 ∧
      (next.mem = ring.mem ∧ start = ring.write ∨ start = 0 ∧ 0 < ring.read ∧ ring.read ≤ ring.write) := by
  have shape := span_facts packet
  have size := bufferSize_facts side
  have bounded := packet.bounded
  have long : span packet < 2147483720 := by unfold span; omega
  have sum : u32 (ring.write + totalSize packet) = ring.write + (span packet + 4) := by
    rw [totalSize_span, u32]
    omega
  unfold bufferAllocBuffer at placed
  rw [sum, totalSize_span] at placed
  split at placed
  · rename_i before
    split at placed
    · split at placed
      · simp at placed
      · -- the packet does not fit behind the others and goes to the start
        rename_i room
        obtain ⟨rfl, rfl⟩ : _ = next ∧ 0 = start := by simpa using placed
        obtain ⟨wrapped, zero⟩ :=
          layout.wrap before write.2 (Nat.le_add_left 4 (span packet)) (Nat.lt_of_not_le room)
        refine ⟨rfl, rfl, rfl, ?_, zero, .inr ⟨rfl, by omega, before⟩⟩
        rw [if_neg (by omega)]
        exact wrapped
    · rename_i fits
      obtain ⟨rfl, rfl⟩ : ring = next ∧ ring.write = start := by simpa using placed
      refine ⟨rfl, rfl, write.1, ?_, stop, .inl ⟨rfl, rfl⟩⟩
      rw [if_pos rfl]
      cases layout with
      | straight chain room => exact .straight chain (by omega)
      | wrapped marker first second both before mark inside after room => omega
  · rename_i after
    split at placed
    · simp at placed
    · obtain ⟨rfl, rfl⟩ : ring = next ∧ ring.write = start := by simpa using placed
      refine ⟨rfl, rfl, write.1, ?_, stop, .inl ⟨rfl, rfl⟩⟩
      rw [if_pos rfl]
      cases layout with
      | straight chain room =>
          have above := chain.le
          omega
      | wrapped marker first second both before mark inside later room =>
          exact .wrapped marker first second both before mark inside later (by omega)

/-- A refused allocation writes nothing. -/
theorem bufferAllocBuffer_none {ring next : Buffer} {total : Nat}
    (refused : bufferAllocBuffer side ring total = (next, none)) : next = ring := by
  unfold bufferAllocBuffer at refused
  split at refused
  · split at refused
    · split at refused
      · simpa using refused.symm
      · simp at refused
    · simp at refused
  · split at refused
    · simpa using refused.symm
    · simp at refused

end Dswifi.RingBuffer
