import Dswifi.DlPlay.BlockPass

/-! What the cursor of the stream passes over in a call of Wifi_DlPlaySendNextBlock. The
second loop steps over every block of the wanted list, as one that the first loop has sent;
when the transmit ring refuses one of them, the first loop stops, and the blocks that are
left on the list look sent. -/

namespace Dswifi.DlPlay

open MpHost

/-- The ring takes `taken` of the wanted blocks and refuses the next. -/
structure RefusedAt (pass : Pass) (world : World) (taken : Nat) : Prop where
  below : taken < (wantedBlocks world.host).length
  accepted : ∀ i < taken, pass.txAccepts (world.log.length + i) = true
  refused : pass.txAccepts (world.log.length + taken) = false

/-- The cursor moves past a block only when the ring took it in this call. -/
def SkipsNothing (world after : World) : Prop :=
  ∀ block, streamStart world.host ≤ block → block < after.host.block →
    block ∈ queuedBlocks (after.log.drop world.log.length)

/-- The stream meets no wanted block that the ring has not taken: when the ring refuses one,
each of the rest lies behind the cursor, or too far ahead for the frames that are left, or
after a block that the ring refuses too. -/
def MeetsNone (pass : Pass) (world : World) : Prop :=
  ∀ taken, RefusedAt pass world taken → ∀ block ∈ (wantedBlocks world.host).drop taken,
    streamStart world.host ≤ block → block < streamStart world.host + (world.host.perUpdate - taken) →
      ∃ other, streamStart world.host ≤ other ∧ other < block ∧
        ¬GetsPast pass (wantedBlocks world.host) (world.log.length + taken + 1) (streamStart world.host) other

section Cursor
variable {pass : Pass} {world after : World} {taken : Nat} {queued : List Nat}

/-- The first loop ends at the first frame that the ring refuses. -/
theorem BlockCall.refusedAt_iff (call : BlockCall pass world after taken queued) (count : Nat) :
    RefusedAt pass world count ↔ count = taken ∧ taken < (wantedBlocks world.host).length := by
  obtain ⟨_, first, _⟩ := call.first
  constructor
  · intro refusal
    have same : count = taken := by
      rcases Nat.lt_trichotomy count taken with early | same | late
      · exact absurd (first.answered count early) (Bool.eq_false_iff.mp refusal.refused)
      · exact same
      · exact absurd (refusal.accepted taken late) (Bool.eq_false_iff.mp (first.refused (late.trans refusal.below)))
    exact ⟨same, same ▸ refusal.below⟩
  · rintro ⟨rfl, short⟩
    exact ⟨short, first.answered, first.refused short⟩

/-- A wanted block that the ring has not taken is in no frame of the call. -/
theorem BlockCall.left_unsent (call : BlockCall pass world after taken queued) {block : Nat}
    (left : block ∈ (wantedBlocks world.host).drop taken) :
    block ∉ (wantedBlocks world.host).take taken ++ queued := by
  obtain ⟨_, _, _, second, _⟩ := call.first
  intro sent
  rcases List.mem_append.mp sent with early | stream
  · exact List.disjoint_take_drop (wantedBlocks_nodup world.host) le_rfl early left
  · exact (second.stream block stream).2.2 (List.mem_of_mem_drop left)

/-- How far the cursor goes, when the ring has refused a wanted block. -/
theorem BlockCall.passes_left (call : BlockCall pass world after taken queued) {block : Nat}
    (left : block ∈ (wantedBlocks world.host).drop taken) (above : streamStart world.host ≤ block) :
    block < after.host.block ↔ block < streamStart world.host + (world.host.perUpdate - taken) ∧
      ∀ other, streamStart world.host ≤ other → other < block →
        GetsPast pass (wantedBlocks world.host) (world.log.length + taken + 1) (streamStart world.host) other := by
  obtain ⟨middle, first, ends, second, cursor⟩ := call.first
  have wanted := List.mem_of_mem_drop left
  have short : taken < (wantedBlocks world.host).length := by
    have some := List.length_pos_of_mem left
    rw [List.length_drop] at some
    omega
  -- one frame more than the ring took: the refused one counts as an attempt
  have clock : middle.log.length = world.log.length + taken + 1 := by
    have length := first.queues.log_length
    rw [if_pos short] at length
    exact length
  have begun : middle.host.block = streamStart world.host := first.block
  have rom : middle.host.rom = world.host.rom := first.queues.settled.1
  have bound : block ≤ highestNext world.host + world.host.ahead :=
    (wantedBlocks_le wanted).trans (Nat.le_add_right _ _)
  have inside : block < world.host.rom.totalBlocks := (mem_wantedBlocks wanted).1
  rw [cursor, second.reached block (begun.symm ▸ above), begun, clock, rom]
  constructor
  · rintro ⟨near, _, _, passes⟩
    exact ⟨near, fun other low high => passes other low high.le⟩
  · rintro ⟨near, passes⟩
    refine ⟨near, bound, inside, fun other low high => ?_⟩
    rcases Nat.eq_or_lt_of_le high with same | less
    · exact .inl (same ▸ wanted)
    · exact passes other low less

theorem BlockCall.skips_nothing (call : BlockCall pass world after taken queued) :
    SkipsNothing world after ↔ MeetsNone pass world := by
  obtain ⟨notes, log, blocks, _⟩ := call.notes
  have sent : queuedBlocks (after.log.drop world.log.length) = (wantedBlocks world.host).take taken ++ queued := by
    rw [log, List.drop_left, blocks]
  rw [SkipsNothing, sent]
  constructor
  · intro skips count refusal block left above near
    obtain ⟨rfl, short⟩ := (call.refusedAt_iff count).mp refusal
    by_contra none
    refine call.left_unsent left (skips block above ((call.passes_left left above).mpr ⟨near, ?_⟩))
    intro other low high
    by_contra stops
    exact none ⟨other, low, high, stops⟩
  · intro meets block above below
    obtain ⟨middle, first, ends, second, cursor⟩ := call.first
    rcases second.passed block (first.block.symm ▸ above) (cursor ▸ below) with wanted | stream
    · rw [← List.take_append_drop taken (wantedBlocks world.host)] at wanted
      rcases List.mem_append.mp wanted with early | left
      · exact List.mem_append_left _ early
      · -- a block that was not taken: the stream has stopped before it
        have short : taken < (wantedBlocks world.host).length := by
          have some := List.length_pos_of_mem left
          rw [List.length_drop] at some
          omega
        obtain ⟨near, passes⟩ := (call.passes_left left above).mp below
        obtain ⟨other, low, high, stops⟩ :=
          meets taken ((call.refusedAt_iff taken).mpr ⟨rfl, short⟩) block left above near
        exact absurd (passes other low high) stops
    · exact List.mem_append_right _ stream

end Cursor

/-- The cursor passes over nothing unsent exactly when the stream meets no wanted block that
the ring has refused. -/
theorem cursor_skips_nothing_iff (hosting : Hosting) (small : hosting.imageSize < 2 ^ 30) {world : World}
    (program : world.host.rom = hosting.rom) (pass : Pass) (dest : Mask) (fileId : UInt8) :
    SkipsNothing world (sendNextBlock pass world dest fileId) ↔ MeetsNone pass world := by
  have streams : Streamable world.host.rom := by
    rw [program]
    exact streamable_hosting hosting small
  obtain ⟨taken, queued, call⟩ := @sendNextBlock_call pass dest fileId world streams
  exact call.skips_nothing

/-- A client further along than the cursor, and a ring with room. -/
theorem cursor_skips_nothing_plain :
    SkipsNothing (askingWorld 1) (sendNextBlock plainPass (askingWorld 1) 2 0) ↔
      MeetsNone plainPass (askingWorld 1) := by
  have small : smallHosting.imageSize < 2 ^ 30 := by decide
  have program : (askingWorld 1).host.rom = smallHosting.rom := by
    rw [askingWorld, World.setClient, start]
  exact cursor_skips_nothing_iff smallHosting small program plainPass 2 0

/-- The client wants the first block, the ring is full: the cursor goes past the block that
nobody was sent. -/
theorem refused_block_passed :
    ¬SkipsNothing (askingWorld 0)
      (sendNextBlock { plainPass with txAccepts := fun _ => false } (askingWorld 0) 2 0) := by
  intro skips
  have queued := skips 0 (by decide +kernel) (by decide +kernel)
  revert queued
  decide +kernel

end Dswifi.DlPlay
