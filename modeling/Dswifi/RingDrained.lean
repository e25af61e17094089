import Dswifi.RingRefinement

/-! A ring that has been drained takes any packet that is shorter than half of it: when
there is no room behind the indexes they are in the second half, and the packet fits in
front of them. -/

namespace Dswifi.RingBuffer

open Runs

variable {side : Side}

/-- Where an empty ring places the next packet. -/
theorem bufferAllocBuffer_empty {ring : Buffer} (empty : ring.read = ring.write)
    (inside : ring.write < bufferSize side) {total : Nat} (half : 2 * total < bufferSize side) :
    ∃ start, (bufferAllocBuffer side ring total).2 = some start ∧ start + total < bufferSize side := by
  have size := bufferSize_facts side
  have sum : u32 (ring.write + total) = ring.write + total := Nat.mod_eq_of_lt (by omega)
  rw [bufferAllocBuffer, if_pos empty.le, sum]
  by_cases behind : ring.write + total < bufferSize side
  · rw [if_neg (Nat.not_le.mpr behind)]
    exact ⟨ring.write, rfl, behind⟩
  · have front : total < ring.read := by omega
    rw [if_pos (Nat.le_of_not_lt behind), if_neg (Nat.not_le.mpr front)]
    exact ⟨0, rfl, by omega⟩

/-- As long as no packet has been written the indexes are where they start. Later the write
index is never 0 again. -/
def Fresh (system : System side) : Prop :=
  system.ring.write = 0 → system.ring.read = 0 ∧ system.live = []

theorem fresh_start : Fresh (start side) := fun _ => ⟨rfl, rfl⟩

theorem bufferAllocBuffer_indexes (ring : Buffer) (total : Nat) :
    (bufferAllocBuffer side ring total).1.read = ring.read ∧
      (bufferAllocBuffer side ring total).1.write = ring.write := by
  unfold bufferAllocBuffer
  split
  · split
    · split
      · exact ⟨rfl, rfl⟩
      · exact ⟨rfl, rfl⟩
    · exact ⟨rfl, rfl⟩
  · split
    · exact ⟨rfl, rfl⟩
    · exact ⟨rfl, rfl⟩

theorem alloc_indexes (system : System side) (packet : Packet side) :
    (alloc system packet).ring.read = system.ring.read ∧ (alloc system packet).ring.write = system.ring.write := by
  have kept := @bufferAllocBuffer_indexes side system.ring (totalSize packet)
  unfold alloc
  cases system.producer with
  | filling _ _ _ | terminated _ _ | published _ _ => exact ⟨rfl, rfl⟩
  | idle =>
      rcases placed : bufferAllocBuffer side system.ring (totalSize packet) with ⟨ring, _ | start⟩
      · rwa [placed] at kept
      · rwa [placed] at kept

theorem Fresh.alloc {system : System side} (fresh : Fresh system) (packet : Packet side) :
    Fresh (alloc system packet) := by
  obtain ⟨read, write⟩ := alloc_indexes system packet
  rw [Fresh, read, write, alloc_live]
  exact fresh

theorem Fresh.produce {system : System side} (fresh : Fresh system) (valid : RingInv system) :
    Fresh (produce system) := by
  have filled := valid.producer
  cases stage : system.producer with
  | idle => simpa [RingBuffer.produce, stage] using fresh
  | filling start packet done =>
      simp only [RingBuffer.produce, stage]
      split
      · exact fresh
      · exact fresh
  | terminated start packet =>
      -- the write index moves behind the packet
      obtain ⟨_, _, inside⟩ := valid.place (.inr (.inl stage))
      have size := bufferSize_facts side
      rw [stage] at filled
      intro zero
      simp only [RingBuffer.produce, stage] at zero
      rw [nextIdx_span start packet filled.1 (by omega)] at zero
      have shape := span_facts packet
      omega
  | published start packet =>
      rw [stage] at filled
      intro zero
      simp only [RingBuffer.produce, stage] at zero
      have shape := span_facts packet
      have behind := filled.2.2.2
      omega

theorem Fresh.pad {system : System side} (fresh : Fresh system) (offset : Nat) (value : UInt8) :
    Fresh (pad system offset value) := by
  unfold RingBuffer.pad
  split
  · split
    · exact fresh
    · exact fresh
  · exact fresh

theorem Fresh.consume {system : System side} (fresh : Fresh system) (valid : RingInv system) :
    Fresh (consume system) := by
  cases stage : system.consumer with
  | followed =>
      simp only [RingBuffer.consume, stage]
      split
      · exact fresh
      · exact fresh
  | found pos word =>
      -- there is a packet, so this is not the first time
      obtain ⟨packet, rest, front, _⟩ := valid.found stage
      simp only [RingBuffer.consume, stage]
      intro zero
      have empty := (fresh zero).2
      rw [front] at empty
      cases empty
  | idle =>
      simp only [RingBuffer.consume, stage]
      split
      · exact fresh
      · split
        · cases side with
          | tx => exact fun zero => ⟨rfl, (fresh zero).2⟩
          | rx => exact fresh
        · exact fresh

theorem Fresh.step {system : System side} (fresh : Fresh system) (valid : RingInv system) (action : Action side) :
    Fresh (step system action) := by
  cases action with
  | alloc packet => exact fresh.alloc packet
  | produce => exact fresh.produce valid
  | pad offset value => exact fresh.pad offset value
  | consume => exact fresh.consume valid

/-- What is left of the layout when nothing is. -/
theorem read_eq_write {system : System side} (valid : RingInv system) (fresh : Fresh system)
    (idle : system.producer = .idle) (drained : system.live = []) : system.ring.read = system.ring.write := by
  obtain ⟨marker, layout⟩ := valid.layout
  rw [tail, need, idle, drained] at layout
  dsimp only at layout
  cases layout with
  | straight chain room => exact chain
  | wrapped marker first second both before mark inside after room =>
      -- a wrapped ring with nothing behind its marker has its write index at 0
      obtain ⟨rfl, rfl⟩ := List.append_eq_nil_iff.mp both.symm
      have zero : 0 = system.ring.write := after
      have read := (fresh zero.symm).1
      omega

theorem alloc_accepts {system : System side} (idle : system.producer = .idle) (packet : Packet side) {start : Nat}
    (placed : (bufferAllocBuffer side system.ring (totalSize packet)).2 = some start) :
    (alloc system packet).accepted = system.accepted ++ [packet] := by
  have both : bufferAllocBuffer side system.ring (totalSize packet) =
      ((bufferAllocBuffer side system.ring (totalSize packet)).1, some start) := Prod.ext rfl placed
  rw [alloc, idle, both]

theorem drained_accepts {system : System side} (valid : RingInv system) (fresh : Fresh system)
    (idle : system.producer = .idle) (drained : system.live = []) {packet : Packet side}
    (half : 2 * totalSize packet < bufferSize side) :
    (alloc system packet).accepted = system.accepted ++ [packet] := by
  have inside := valid.write.2
  obtain ⟨start, placed, _⟩ :=
    bufferAllocBuffer_empty (read_eq_write valid fresh idle drained) (by omega) half
  exact alloc_accepts idle packet placed

theorem run_valid (side : Side) (actions : List (Action side)) :
    RingInv (run step (start side) actions) ∧ Fresh (run step (start side) actions) :=
  @run_invariant (System side) (Action side) step (fun system => RingInv system ∧ Fresh system)
    (fun _ action both => ⟨both.1.step action, both.2.step both.1 action⟩) (start side) actions ⟨.start, fresh_start⟩

/-- Whatever a ring holds, its two users can go on until it takes the packet. -/
theorem ring_never_wedges (side : Side) (actions : List (Action side)) (packet : Packet side)
    (half : 2 * totalSize packet < bufferSize side) :
    ∃ produced consumed,
      let final := run step (start side)
        (actions ++ (List.replicate produced .produce ++ List.replicate consumed .consume))
      (alloc final packet).accepted = final.accepted ++ [packet] := by
  let reached := run step (start side) actions
  obtain ⟨idle, _⟩ := produce_finishes reached _ le_rfl
  let finished := run step reached (List.replicate (writingSteps reached) .produce)
  have valid : RingInv finished :=
    run_invariant (fun _ action valid => valid.step action) reached _ (run_valid side actions).1
  obtain ⟨drained, producer, _⟩ := consume_drains valid _ le_rfl
  refine ⟨writingSteps reached, readingSteps finished, ?_⟩
  obtain ⟨last, fresh⟩ := run_valid side
    (actions ++ (List.replicate (writingSteps reached) .produce ++ List.replicate (readingSteps finished) .consume))
  apply drained_accepts last fresh
  · rw [run_append, run_append]
    exact producer.trans idle
  · rw [run_append, run_append]
    exact drained
  · exact half

/-- An empty ring takes any packet that is shorter than half of it, wherever its indexes
are, and a ring that a run has drained is empty. -/
theorem drained_ring_accepts (side : Side) :
    (∀ (ring : Buffer) (total : Nat), ring.read = ring.write → ring.write < bufferSize side →
      2 * total < bufferSize side →
        ∃ start, (bufferAllocBuffer side ring total).2 = some start ∧ start + total < bufferSize side) ∧
    ∀ (actions : List (Action side)) (packet : Packet side),
      let final := run step (start side) actions
      final.producer = .idle → final.live = [] → 2 * totalSize packet < bufferSize side →
        (alloc final packet).accepted = final.accepted ++ [packet] := by
  constructor
  · intro ring total empty inside half
    exact bufferAllocBuffer_empty empty inside half
  · intro actions packet final idle drained half
    obtain ⟨valid, fresh⟩ := run_valid side actions
    exact drained_accepts valid fresh idle drained half

end Dswifi.RingBuffer
