import Dswifi.DlPlay.Polling
import Dswifi.DlPlay.RomBlocks

/-! One call of Wifi_DlPlaySendNextBlock: which blocks it hands to the transmit
ring, and how far the cursor of the stream goes. -/

namespace Dswifi.DlPlay

open MpHost ByteMemory

/-! What the clients ask for. -/

/-- The association ids in the order of this call. -/
def rotation (host : Host) : List Nat :=
  (List.range maxMultiplayerClients).map fun i =>
    1 + ((host.rotate + 1) % 256 + i) % maxMultiplayerClients

/-- The client takes the program. -/
def Sending (host : Host) (aid : Nat) : Prop := (host.clients aid).stage = .sendProceed

instance (host : Host) (aid : Nat) : Decidable (Sending host aid) :=
  inferInstanceAs (Decidable (_ = _))

/-- The next blocks of the clients that take the program, of some ids. -/
def nextBlocks (host : Host) (ids : List Nat) : List Nat :=
  (ids.filter fun aid => Sending host aid).map fun aid => (host.clients aid).nextBlock

/-- The highest block that a client wants next. -/
def highestNext (host : Host) : Nat := (nextBlocks host (rotation host)).foldl max 0

/-- The different blocks of the program that clients want next, as many as a pass sends. -/
def wantedBlocks (host : Host) : List Nat :=
  ((nextBlocks host (rotation host)).filter fun block => block < host.rom.totalBlocks).eraseDups.take
    host.perUpdate

theorem nextBlocks_append (host : Host) (ids : List Nat) (aid : Nat) :
    nextBlocks host (ids ++ [aid]) =
      nextBlocks host ids ++ if Sending host aid then [(host.clients aid).nextBlock] else [] := by
  rw [nextBlocks, List.filter_append, List.map_append]
  by_cases sending : Sending host aid <;> simp [nextBlocks, sending]

/-- One more block, if it is a new one and there is room. -/
theorem take_eraseDups_concat (blocks : List Nat) (block limit : Nat) :
    (blocks ++ [block]).eraseDups.take limit =
      if block ∉ blocks.eraseDups.take limit ∧ (blocks.eraseDups.take limit).length < limit then
        blocks.eraseDups.take limit ++ [block]
      else blocks.eraseDups.take limit := by
  rw [List.eraseDups_append]
  by_cases room : (blocks.eraseDups.take limit).length < limit
  · have whole : blocks.eraseDups.take limit = blocks.eraseDups := by
      rw [List.length_take] at room
      exact List.take_of_length_le (by omega)
    rw [whole] at room ⊢
    by_cases seen : block ∈ blocks
    · have none : [block].removeAll blocks = [] := by simp [List.removeAll, seen]
      rw [none, if_neg fun new => new.1 (List.mem_eraseDups.mpr seen)]
      simpa using whole
    · have new : [block].removeAll blocks = [block] := by simp [List.removeAll, seen]
      rw [new, if_pos ⟨fun there => seen (List.mem_eraseDups.mp there), room⟩]
      exact List.take_of_length_le (by rw [List.length_append]; exact room)
  · have full : limit ≤ blocks.eraseDups.length := by
      rw [List.length_take] at room
      omega
    rw [if_neg fun new => room new.2, List.take_append_of_le_length full]

/-- What the loop over the clients has gathered from some of them. -/
theorem asked_eq (host : Host) (ids : List Nat) :
    ids.foldl (askedFor host) (0, []) =
      ((nextBlocks host ids).foldl max 0,
        ((nextBlocks host ids).filter fun block => block < host.rom.totalBlocks).eraseDups.take
          host.perUpdate) := by
  -- the loop goes from the front, so the induction takes the last id off
  induction ids using List.reverseRecOn with
  | nil => simp [nextBlocks]
  | append_singleton ids aid ih =>
      rw [List.foldl_append, ih, nextBlocks_append, List.foldl_cons, List.foldl_nil, askedFor]
      by_cases sending : Sending host aid
      · have asks : ¬(host.clients aid).stage ≠ .sendProceed := not_not.mpr sending
        have highest : ((nextBlocks host ids ++ [(host.clients aid).nextBlock]).foldl max 0) =
            if (host.clients aid).nextBlock > (nextBlocks host ids).foldl max 0 then
              (host.clients aid).nextBlock
            else (nextBlocks host ids).foldl max 0 := by
          rw [List.foldl_append, List.foldl_cons, List.foldl_nil]
          split <;> omega
        simp only [if_neg asks, if_pos sending, highest, List.filter_append]
        by_cases out : (host.clients aid).nextBlock ≥ host.rom.totalBlocks
        · simp [out]
        · have inside : (host.clients aid).nextBlock < host.rom.totalBlocks := Nat.lt_of_not_le out
          rw [if_neg out, List.filter_cons_of_pos (by simpa using inside), List.filter_nil, take_eraseDups_concat]
          split <;> rfl
      · have idle : (host.clients aid).stage ≠ .sendProceed := sending
        simp only [if_pos idle, if_neg sending, List.append_nil]

theorem nodup_eraseDups (blocks : List Nat) : blocks.eraseDups.Nodup := by
  induction blocks using List.reverseRecOn with
  | nil => exact List.nodup_nil
  | append_singleton blocks block ih =>
      rw [List.eraseDups_append]
      by_cases seen : block ∈ blocks
      · simpa [List.removeAll, seen] using ih
      · have new : [block].removeAll blocks = [block] := by simp [List.removeAll, seen]
        rw [new, List.eraseDups_cons, List.filter_nil, List.eraseDups_nil, ← List.concat_eq_append]
        exact ih.concat fun there => seen (List.mem_eraseDups.mp there)

theorem wantedBlocks_nodup (host : Host) : (wantedBlocks host).Nodup :=
  (nodup_eraseDups _).sublist (List.take_sublist _ _)

theorem wantedBlocks_length (host : Host) : (wantedBlocks host).length ≤ host.perUpdate :=
  List.length_take_le _ _

theorem mem_nextBlocks {host : Host} {ids : List Nat} {block : Nat} :
    block ∈ nextBlocks host ids ↔ ∃ aid ∈ ids, Sending host aid ∧ (host.clients aid).nextBlock = block := by
  simp only [nextBlocks, List.mem_map, List.mem_filter, decide_eq_true_eq, and_assoc]

theorem mem_wantedBlocks {host : Host} {block : Nat} (wanted : block ∈ wantedBlocks host) :
    block < host.rom.totalBlocks ∧ block ∈ nextBlocks host (rotation host) := by
  have all := List.mem_eraseDups.mp (List.mem_of_mem_take wanted)
  have both := List.mem_filter.mp all
  exact ⟨of_decide_eq_true both.2, both.1⟩

theorem foldl_max_bounds (blocks : List Nat) (first : Nat) :
    first ≤ blocks.foldl max first ∧ ∀ block ∈ blocks, block ≤ blocks.foldl max first := by
  induction blocks generalizing first with
  | nil => simp
  | cons block rest ih =>
      obtain ⟨above, rest_le⟩ := ih (max first block)
      rw [List.foldl_cons, List.forall_mem_cons]
      exact ⟨by omega, by omega, rest_le⟩

theorem wantedBlocks_le {host : Host} {block : Nat} (wanted : block ∈ wantedBlocks host) :
    block ≤ highestNext host :=
  (foldl_max_bounds _ 0).2 block (mem_wantedBlocks wanted).2

/-! What the frames of a call are. -/

/-- The block that a frame of the stream carries. -/
def dataBlock (bytes : List UInt8) : Option Nat :=
  if byteAt bytes 2 = cmdOpData then some (u16At bytes 5) else none

/-- The block that the transmit ring has taken. -/
def queuedBlock : Note → Option Nat
  | .frame bytes true => dataBlock bytes
  | _ => none

def queuedBlocks (notes : List Note) : List Nat := notes.filterMap queuedBlock

/-- A frame that says nothing. -/
def isDummy : Note → Bool
  | .frame bytes _ => byteAt bytes 2 = 0
  | _ => false

/-- The ROM has every block that it says it has, and they fit into frames. -/
structure Streamable (rom : Rom) : Prop where
  blocks : ∀ block : Nat, block < rom.totalBlocks → ∃ data size, romGetBlock rom block = some (data, size)
  few : rom.totalBlocks ≤ 65536
  fits : rom.blockSize + blockOverhead ≤ payloadMax

theorem streamable_of_parsed {blockSize romSize : Nat} {image : Memory} {rom : Rom}
    (parsed : Parsed blockSize image romSize rom) (sizes : BlockSize blockSize)
    (small : romSize < 2 ^ 30) : Streamable rom := by
  refine ⟨fun block below => ?_, (parsed.few sizes small).le, ?_⟩
  · obtain ⟨data, size, found, _⟩ :=
      parsed.block sizes small (Int.natCast_nonneg block) (Int.ofNat_lt.mpr below)
    exact ⟨data, size, found⟩
  · have bounds := sizes.bounds
    simp only [parsed.cut, blockOverhead, payloadMax, cmdFrameSize, cmdDataSize]
    omega

section Call
variable {pass : Pass} {dest : Mask} {fileId : UInt8}

/-- A part of a call, in which the ring takes `queued` of `frames` frames. -/
structure Queues (world after : World) (queued : List Nat) (frames : Nat) : Prop where
  host : after.host = { world.host with block := after.host.block, packnum := after.host.packnum }
  notes : ∃ notes, after.log = world.log ++ notes ∧ notes.length = frames ∧
    queuedBlocks notes = queued ∧ notes.countP isDummy = 0

namespace Queues
variable {first second third : World} {queued more : List Nat} {frames count : Nat}

theorem refl (world : World) : Queues world world [] 0 := ⟨rfl, [], by simp, rfl, rfl, rfl⟩

theorem trans (before : Queues first second queued frames) (after : Queues second third more count) :
    Queues first third (queued ++ more) (frames + count) := by
  obtain ⟨host, notes, log, length, blocks, plain⟩ := before
  obtain ⟨host', notes', log', length', blocks', plain'⟩ := after
  refine ⟨by rw [host', host], notes ++ notes', by rw [log', log, List.append_assoc], ?_, ?_, ?_⟩
  · rw [List.length_append, length, length']
  · rw [queuedBlocks, List.filterMap_append]
    exact congrArg₂ (· ++ ·) blocks blocks'
  · rw [List.countP_append, plain, plain']

theorem settled (queues : Queues first second queued frames) : second.host.rom = first.host.rom ∧
    second.host.perUpdate = first.host.perUpdate ∧ second.host.ahead = first.host.ahead := by
  rw [queues.host]
  exact ⟨rfl, rfl, rfl⟩

theorem log_length (queues : Queues first second queued frames) :
    second.log.length = first.log.length + frames := by
  obtain ⟨_, notes, log, length, _⟩ := queues
  rw [log, List.length_append, length]

theorem advance (world : World) : Queues world world.advance [] 0 := ⟨rfl, [], by simp [World.advance], rfl, rfl, rfl⟩

end Queues

/-- The number of the block is written into its frame whole. -/
theorem dataBlock_cmdStart {world : World} {block : Nat} (small : block < 65536) (content : List UInt8)
    {frame : List UInt8}
    (laid : cmdStart world flagsNormal (blockPayload world.host block fileId content) dest = some frame) :
    dataBlock frame = some block := by
  simp only [cmdStart, Option.ite_none_left_eq_some, Option.some.injEq] at laid
  rw [← laid.2, dataBlock, if_pos (show byteAt _ 2 = cmdOpData from rfl)]
  have number : ∀ first rest, u16At (first :: flagsNormal :: cmdOpData :: fileId :: 0 ::
      (u16Bytes block ++ rest)) 5 = block := by
    intro first rest
    have middle := u16At_middle [first, flagsNormal, cmdOpData, fileId, 0] rest block
    rw [Nat.mod_eq_of_lt small, List.append_assoc] at middle
    exact middle
  simp only [blockPayload, List.append_assoc, List.cons_append, List.nil_append]
  exact congrArg some (number _ _)

/-- One block, as the ring answers. -/
theorem sendBlock_queues {world : World} (streams : Streamable world.host.rom) {block : Nat}
    (below : block < world.host.rom.totalBlocks) :
    let answer := pass.txAccepts world.log.length
    let sent := sendBlock pass world block dest fileId
    sent.2 = answer ∧ sent.1.host.block = world.host.block ∧
      Queues world sent.1 (if answer then [block] else []) 1 ∧
        ∃ bytes, sent.1.log = world.log ++ [.frame bytes answer] := by
  intro answer sent
  obtain ⟨data, size, found⟩ := streams.blocks block below
  have short : (blockPayload world.host block fileId
      (readBytes world.host.rom.rom data size)).length ≤ payloadMax := by
    have fits := streams.fits
    have cut := romGetBlock_size found
    simp only [blockOverhead] at fits
    simp only [blockPayload, u16Bytes, List.length_cons, List.length_append, readBytes_length,
      List.length_nil]
    omega
  obtain ⟨frame, laid⟩ := cmdStart_fits world flagsNormal dest short
  have content : dataBlock frame = some block :=
    dataBlock_cmdStart (lt_of_lt_of_le below streams.few) _ laid
  have result : sent = cmdSend pass (countPacket world) frame := by
    simp only [sent, sendBlock, found, laid]
  rw [result]
  refine ⟨rfl, rfl, ⟨rfl, [.frame frame answer], rfl, rfl, ?_, ?_⟩, frame, rfl⟩
  · cases answer <;> simp [queuedBlocks, queuedBlock, content]
  · have opcode : byteAt frame 2 = cmdOpData := by
      by_contra other
      rw [dataBlock, if_neg other] at content
      cases content
    rw [List.countP_singleton, isDummy, opcode]
    rfl

/-- The first loop: the ring takes the first of the wanted blocks, and refuses the next. -/
structure FirstLoop (pass : Pass) (wanted : List Nat) (world after : World) (taken : Nat) : Prop where
  le : taken ≤ wanted.length
  queues : Queues world after (wanted.take taken) (taken + if taken < wanted.length then 1 else 0)
  block : after.host.block = world.host.block
  answered : ∀ i < taken, pass.txAccepts (world.log.length + i) = true
  refused : taken < wanted.length → pass.txAccepts (world.log.length + taken) = false
  left : taken < wanted.length → ∃ bytes, .frame bytes false ∈ after.log.drop world.log.length

theorem sendWanted_queues {wanted : List Nat} {world : World} (streams : Streamable world.host.rom)
    (inside : ∀ block ∈ wanted, block < world.host.rom.totalBlocks) (sent : Nat) :
    ∃ taken, (sendWanted pass dest fileId wanted sent world).2 = sent + taken ∧
      FirstLoop pass wanted world (sendWanted pass dest fileId wanted sent world).1 taken := by
  induction wanted generalizing world sent with
  | nil => exact ⟨0, rfl, le_rfl, .refl world, rfl, nofun, nofun, nofun⟩
  | cons block rest ih =>
      obtain ⟨answer, cursor, queues, frame, log⟩ :=
        @sendBlock_queues pass dest fileId world streams block (inside block List.mem_cons_self)
      rw [sendWanted]
      generalize sendBlock pass world block dest fileId = one at answer cursor queues log ⊢
      obtain ⟨next, queued⟩ := one
      dsimp only at answer cursor queues log ⊢
      cases accepted : pass.txAccepts world.log.length with
      | false =>
          -- the loop ends here, with the refused frame on the log and the block still wanted
          rw [accepted] at answer queues log
          rw [answer]
          refine ⟨0, rfl, Nat.zero_le _, queues, cursor, nofun, fun _ => accepted, fun _ => ⟨frame, ?_⟩⟩
          have last : .frame frame false ∈ next.log.drop world.log.length := by
            rw [log, List.drop_left]
            exact List.mem_singleton_self _
          exact last
      | true =>
          rw [accepted] at answer queues
          rw [answer]
          -- the log is the clock of the ring: the rest of the loop starts one frame later
          have rom := queues.settled.1
          obtain ⟨taken, count, loop⟩ := ih (rom ▸ streams)
            (fun other member => rom ▸ inside other (List.mem_cons_of_mem _ member)) (sent + 1)
          have clock : ∀ i, world.log.length + (i + 1) = next.log.length + i := fun i => by
            rw [queues.log_length]
            omega
          have total : sent + 1 + taken = sent + (taken + 1) := by omega
          refine ⟨taken + 1, count.trans total, Nat.succ_le_succ loop.le, ?_, loop.block.trans cursor,
            fun i below => ?_, fun more => ?_, fun more => ?_⟩
          · have both := queues.trans loop.queues
            simp only [List.take_succ_cons, List.length_cons, Nat.add_lt_add_iff_right]
            have frames : taken + 1 + (if taken < rest.length then 1 else 0) =
                1 + (taken + if taken < rest.length then 1 else 0) := by omega
            rw [frames]
            exact both
          · cases i with
            | zero => exact accepted
            | succ i =>
                rw [clock]
                exact loop.answered i (Nat.lt_of_succ_lt_succ below)
          · rw [clock]
            exact loop.refused (Nat.lt_of_succ_lt_succ more)
          · obtain ⟨bytes, member⟩ := loop.left (Nat.lt_of_succ_lt_succ more)
            have one : Appends (fun _ => True) world next := ⟨_, log, fun _ _ => trivial⟩
            exact ⟨bytes, one.later member⟩

/-- How many blocks from `first` to before `block` are not wanted, and take a frame. -/
def streamed (wanted : List Nat) (first block : Nat) : Nat :=
  (List.range' first (block - first)).countP fun other => other ∉ wanted

theorem streamed_self (wanted : List Nat) (first : Nat) : streamed wanted first first = 0 := by
  simp [streamed]

theorem streamed_succ (wanted : List Nat) {first block : Nat} (later : first < block) :
    streamed wanted first block =
      (if first ∈ wanted then 0 else 1) + streamed wanted (first + 1) block := by
  rw [streamed, show block - first = block - (first + 1) + 1 by omega, List.range'_succ, List.countP_cons, streamed]
  by_cases there : first ∈ wanted <;> simp [there, Nat.add_comm]

/-- The stream gets past a block: it is a wanted one, which costs no frame, or the ring
takes its frame. `clock` frames were handed out before the stream began at `first`. -/
def GetsPast (pass : Pass) (wanted : List Nat) (clock first block : Nat) : Prop :=
  block ∈ wanted ∨ pass.txAccepts (clock + streamed wanted first block) = true

/-- The second loop, of at most `count` turns, up to the block `last`. -/
structure SecondLoop (pass : Pass) (wanted : List Nat) (last count : Nat) (world after : World)
    (queued : List Nat) : Prop where
  queues : ∃ frames, Queues world after queued frames
  few : queued.length ≤ count
  ordered : queued.Pairwise (· < ·)
  stream : ∀ block ∈ queued, world.host.block ≤ block ∧ block < after.host.block ∧ block ∉ wanted
  forward : world.host.block ≤ after.host.block
  passed : ∀ block, world.host.block ≤ block → block < after.host.block → block ∈ wanted ∨ block ∈ queued
  reached : ∀ block, world.host.block ≤ block → (block < after.host.block ↔
    block < world.host.block + count ∧ block ≤ last ∧ block < world.host.rom.totalBlocks ∧
      ∀ other, world.host.block ≤ other → other ≤ block →
        GetsPast pass wanted world.log.length world.host.block other)

namespace SecondLoop
variable {wanted queued : List Nat} {last count : Nat} {world after : World}

/-- The loop ends where the cursor is. -/
theorem stop {frames : Nat} (queues : Queues world after [] frames) (cursor : after.host.block = world.host.block)
    (ends : count = 0 ∨ last < world.host.block ∨ world.host.rom.totalBlocks ≤ world.host.block ∨
      ¬GetsPast pass wanted world.log.length world.host.block world.host.block) :
    SecondLoop pass wanted last count world after [] := by
  refine ⟨⟨frames, queues⟩, Nat.zero_le _, List.Pairwise.nil, nofun, cursor.ge, fun block above below => ?_,
    fun block above => ⟨fun below => ?_, fun ⟨near, bound, inside, passes⟩ => ?_⟩⟩
  · exact absurd (cursor ▸ below) (not_lt.mpr above)
  · exact absurd (cursor ▸ below) (not_lt.mpr above)
  · rcases ends with none | beyond | out | refused
    · omega
    · omega
    · omega
    · exact absurd (passes world.host.block le_rfl above) refused

/-- A wanted block is stepped over. -/
theorem skip (loop : SecondLoop pass wanted last count world.advance after queued)
    (wants : world.host.block ∈ wanted) (bound : world.host.block ≤ last)
    (inside : world.host.block < world.host.rom.totalBlocks) :
    SecondLoop pass wanted last (count + 1) world after queued := by
  have clock : ∀ block, world.host.block < block →
      streamed wanted world.host.block block = streamed wanted world.advance.host.block block := by
    intro block later
    rw [streamed_succ wanted later, if_pos wants, Nat.zero_add]
    rfl
  have begun : world.advance.host.block = world.host.block + 1 := rfl
  have forward := loop.forward
  obtain ⟨frames, queues⟩ := loop.queues
  refine ⟨⟨0 + frames, (Queues.advance world).trans queues⟩, Nat.le_succ_of_le loop.few, loop.ordered,
    fun block member => ?_, by omega, fun block above below => ?_, fun block above => ?_⟩
  · obtain ⟨above, below, other⟩ := loop.stream block member
    exact ⟨by omega, below, other⟩
  · rcases Nat.eq_or_lt_of_le above with same | later
    · exact .inl (same ▸ wants)
    · exact loop.passed block later below
  · rcases Nat.eq_or_lt_of_le above with same | later
    · subst same
      refine ⟨fun _ => ⟨by omega, bound, inside, fun other low high => ?_⟩, fun _ => by omega⟩
      exact .inl (Nat.le_antisymm low high ▸ wants)
    · rw [loop.reached block later]
      refine and_congr (by omega) (and_congr_right fun _ => and_congr_right fun _ => ?_)
      constructor
      · intro all other low high
        rcases Nat.eq_or_lt_of_le low with same | behind
        · exact .inl (same ▸ wants)
        · have passes := all other behind high
          rwa [GetsPast, ← clock other behind] at passes
      · intro all other low high
        have passes := all other (by omega) high
        rwa [GetsPast, clock other (by omega)] at passes

/-- The ring takes the block at the cursor. -/
theorem take {next : World} (queues : Queues world next [world.host.block] 1)
    (cursor : next.host.block = world.host.block)
    (loop : SecondLoop pass wanted last count next.advance after queued)
    (accepted : pass.txAccepts world.log.length = true) (other : world.host.block ∉ wanted)
    (bound : world.host.block ≤ last) (inside : world.host.block < world.host.rom.totalBlocks) :
    SecondLoop pass wanted last (count + 1) world after (world.host.block :: queued) := by
  have begun : next.advance.host.block = world.host.block + 1 := congrArg (· + 1) cursor
  have rom : next.advance.host.rom = world.host.rom := queues.settled.1
  have length : next.advance.log.length = world.log.length + 1 := queues.log_length
  -- the log has grown by one frame and the stream by one block, so the ring is asked at the same points
  have clock : ∀ block, world.host.block < block → world.log.length + streamed wanted world.host.block block =
      next.advance.log.length + streamed wanted next.advance.host.block block := by
    intro block later
    rw [streamed_succ wanted later, if_neg other, length, begun, Nat.add_assoc]
  have here : GetsPast pass wanted world.log.length world.host.block world.host.block :=
    .inr (by rwa [streamed_self])
  have forward := loop.forward
  obtain ⟨frames, more⟩ := loop.queues
  refine ⟨⟨1 + (0 + frames), queues.trans ((Queues.advance next).trans more)⟩, Nat.succ_le_succ loop.few,
    List.pairwise_cons.mpr ⟨fun block member => ?_, loop.ordered⟩, fun block member => ?_, by omega,
    fun block above below => ?_, fun block above => ?_⟩
  · have above := (loop.stream block member).1
    omega
  · rcases List.mem_cons.mp member with same | later
    · subst same
      exact ⟨le_rfl, by omega, other⟩
    · obtain ⟨above, below, apart⟩ := loop.stream block later
      exact ⟨by omega, below, apart⟩
  · rcases Nat.eq_or_lt_of_le above with same | later
    · exact .inr (List.mem_cons.mpr (.inl same.symm))
    · exact (loop.passed block (by omega) below).imp_right (List.mem_cons_of_mem _)
  · rcases Nat.eq_or_lt_of_le above with same | later
    · subst same
      refine ⟨fun _ => ⟨by omega, bound, inside, fun block low high => ?_⟩, fun _ => by omega⟩
      exact Nat.le_antisymm low high ▸ here
    · rw [loop.reached block (by omega), rom]
      refine and_congr (by omega) (and_congr_right fun _ => and_congr_right fun _ => ?_)
      constructor
      · intro all block low high
        rcases Nat.eq_or_lt_of_le low with same | behind
        · exact same ▸ here
        · have passes := all block (by omega) high
          rwa [GetsPast, ← clock block behind] at passes
      · intro all block low high
        have passes := all block (by omega) high
        rwa [GetsPast, clock block (by omega)] at passes

end SecondLoop

theorem sendStream_queues {wanted : List Nat} {next count : Nat} {world : World}
    (streams : Streamable world.host.rom) (sent : Nat) :
    ∃ queued, (sendStream pass dest fileId next wanted count sent world).2 = sent + queued.length ∧
      SecondLoop pass wanted (next + world.host.ahead) count world
        (sendStream pass dest fileId next wanted count sent world).1 queued := by
  induction count generalizing world sent with
  | zero => exact ⟨[], rfl, .stop (.refl world) rfl (.inl rfl)⟩
  | succ count ih =>
      rw [sendStream]
      by_cases behind : world.host.block > next + world.host.ahead
      · rw [if_pos behind]
        exact ⟨[], rfl, .stop (.refl world) rfl (.inr (.inl behind))⟩
      · rw [if_neg behind]
        by_cases out : world.host.block ≥ world.host.rom.totalBlocks
        · rw [if_pos out]
          exact ⟨[], rfl, .stop (.refl world) rfl (.inr (.inr (.inl out)))⟩
        · rw [if_neg out]
          have bound := Nat.le_of_not_lt behind
          have inside := Nat.lt_of_not_le out
          by_cases wants : world.host.block ∈ wanted
          · -- it went out with the wanted blocks
            rw [if_pos wants]
            obtain ⟨queued, total, loop⟩ := @ih world.advance streams sent
            exact ⟨queued, total, loop.skip wants bound inside⟩
          · rw [if_neg wants]
            obtain ⟨answer, cursor, queues, _⟩ :=
              @sendBlock_queues pass dest fileId world streams world.host.block inside
            generalize sendBlock pass world world.host.block dest fileId = one at answer cursor queues ⊢
            obtain ⟨sentWorld, queued⟩ := one
            dsimp only at answer cursor queues ⊢
            cases accepted : pass.txAccepts world.log.length with
            | false =>
                -- the cursor stays at a block that was refused
                rw [accepted] at answer queues
                rw [answer]
                refine ⟨[], rfl, .stop queues cursor (.inr (.inr (.inr fun passes => ?_)))⟩
                rcases passes with wanted | accepts
                · exact wants wanted
                · rw [streamed_self, Nat.add_zero, accepted] at accepts
                  cases accepts
            | true =>
                rw [accepted] at answer queues
                rw [answer]
                obtain ⟨rom, _, ahead⟩ := queues.settled
                obtain ⟨queued, total, loop⟩ := @ih sentWorld.advance (rom ▸ streams) (sent + 1)
                have window : sentWorld.advance.host.ahead = world.host.ahead := ahead
                rw [window] at loop
                refine ⟨_, ?_, loop.take queues cursor accepted wants bound inside⟩
                rw [List.length_cons, Nat.add_comm queued.length, ← Nat.add_assoc]
                exact total

/-! The call. -/

/-- Where the stream goes on from: where it was, or after a request, when that is outside
the window, at the highest block that a client wants. -/
def streamStart (host : Host) : Nat := (turnStream host (highestNext host)).block

/-- The host when the frames are handed out. -/
def World.turned (world : World) : World :=
  { world with host := turnStream world.host (highestNext world.host) }

theorem wantedBlocks_turned (world : World) : ∀ block ∈ wantedBlocks world.host,
    block < world.turned.host.rom.totalBlocks :=
  fun _ wanted => (mem_wantedBlocks wanted).1

/-- One call: of the wanted blocks the ring takes the first `taken`, and then the blocks
`queued` of the stream. -/
structure BlockCall (pass : Pass) (world after : World) (taken : Nat) (queued : List Nat) : Prop where
  first : ∃ middle, FirstLoop pass (wantedBlocks world.host) world.turned middle taken ∧ ∃ ends,
    SecondLoop pass (wantedBlocks world.host) (highestNext world.host + world.host.ahead)
      (world.host.perUpdate - taken) middle ends queued ∧ after.host.block = ends.host.block
  notes : ∃ notes, after.log = world.log ++ notes ∧
    queuedBlocks notes = (wantedBlocks world.host).take taken ++ queued ∧
      notes.countP isDummy = if queuedBlocks notes = [] then 1 else 0
  all : (∀ bytes queued, .frame bytes queued ∈ after.log.drop world.log.length → queued = true) →
    taken = (wantedBlocks world.host).length

theorem sendDummy_note (pass : Pass) (world : World) :
    ∃ bytes answer, sendDummy pass world = world.note (.frame bytes answer) ∧ byteAt bytes 2 = 0 := by
  obtain ⟨frame, laid⟩ := cmdStart_fits world flagsNormal 0xFFFF
    (show (shortPayload 0).length ≤ payloadMax by decide)
  refine ⟨frame, pass.txAccepts world.log.length, ?_, ?_⟩
  · rw [sendDummy, cmdStartSend, laid]
    rfl
  · have opcode := frameOf_cmdStart laid true
    exact opcode.2

/-- The dummy carries no block. -/
theorem queuedBlocks_dummy (notes : List Note) {bytes : List UInt8} {answer : Bool}
    (opcode : byteAt bytes 2 = 0) : queuedBlocks (notes ++ [.frame bytes answer]) = queuedBlocks notes := by
  have other : dataBlock bytes = none := by
    rw [dataBlock, opcode]
    rfl
  have unread : queuedBlocks [.frame bytes answer] = [] := by
    cases answer <;> simp [queuedBlocks, queuedBlock, other]
  rw [queuedBlocks, List.filterMap_append]
  exact (congrArg (queuedBlocks notes ++ ·) unread).trans (List.append_nil _)

/-- The two loops of a call, behind the turn of its rotation. -/
theorem sendNextBlock_loops (world : World) : sendNextBlock pass world dest fileId =
    let wanted := sendWanted pass dest fileId (wantedBlocks world.host) 0 world.turned
    let ends := sendStream pass dest fileId (highestNext world.host) (wantedBlocks world.host)
      (wanted.1.host.perUpdate - wanted.2) wanted.2 wanted.1
    if ends.2 = 0 then sendDummy pass ends.1 else ends.1 := by
  have asked : ((List.range maxMultiplayerClients).map fun i =>
      1 + ((world.host.rotate + 1) % 256 + i) % maxMultiplayerClients).foldl (askedFor world.host) (0, []) =
      (highestNext world.host, wantedBlocks world.host) := asked_eq world.host (rotation world.host)
  rw [sendNextBlock]
  dsimp only
  rw [asked]
  rfl

theorem sendNextBlock_call {world : World} (streams : Streamable world.host.rom) :
    ∃ taken queued, BlockCall pass world (sendNextBlock pass world dest fileId) taken queued := by
  obtain ⟨taken, sent, first⟩ :=
    @sendWanted_queues pass dest fileId (wantedBlocks world.host) world.turned streams
      (wantedBlocks_turned world) 0
  rw [Nat.zero_add] at sent
  obtain ⟨rom, perUpdate, ahead⟩ := first.queues.settled
  obtain ⟨queued, total, second⟩ :=
    @sendStream_queues pass dest fileId (wantedBlocks world.host) (highestNext world.host)
      (world.host.perUpdate - taken) _ (rom ▸ streams) taken
  have window : (sendWanted pass dest fileId (wantedBlocks world.host) 0 world.turned).1.host.ahead =
      world.host.ahead := ahead
  rw [window] at second
  have limit : (sendWanted pass dest fileId (wantedBlocks world.host) 0 world.turned).1.host.perUpdate =
      world.host.perUpdate := perUpdate
  rw [sendNextBlock_loops]
  dsimp only
  rw [sent, limit]
  generalize sendStream pass dest fileId (highestNext world.host) (wantedBlocks world.host)
    (world.host.perUpdate - taken) taken
      (sendWanted pass dest fileId (wantedBlocks world.host) 0 world.turned).1 = ends at total second ⊢
  generalize (sendWanted pass dest fileId (wantedBlocks world.host) 0 world.turned).1 = middle at first second
  obtain ⟨frames, streamed⟩ := second.queues
  have both := first.queues.trans streamed
  obtain ⟨notes, log, _, blocks, plain⟩ := both.notes
  have log : ends.1.log = world.log ++ notes := log
  -- a wanted block is left over only where a frame was refused
  have all : ∀ {next : World}, Appends (fun _ => True) ends.1 next →
      (∀ bytes queued, .frame bytes queued ∈ next.log.drop world.log.length → queued = true) →
        taken = (wantedBlocks world.host).length := by
    intro next last accepted
    by_contra other
    obtain ⟨bytes, refused⟩ := first.left (Nat.lt_of_le_of_ne first.le other)
    obtain ⟨rest, more, _⟩ := streamed.notes
    have later : Appends (fun _ => True) middle ends.1 := ⟨rest, more, fun _ _ => trivial⟩
    exact absurd (accepted bytes false ((later.trans last).earlier refused)) (by decide)
  have silent : ends.2 = 0 ↔ queuedBlocks notes = [] := by
    rw [total, blocks, List.append_eq_nil_iff, ← List.length_eq_zero_iff, ← List.length_eq_zero_iff,
      List.length_take, Nat.min_eq_left first.le]
    omega
  refine ⟨taken, queued, ?_⟩
  split
  · -- nothing was taken: the dummy is the only frame beside the refused ones
    rename_i none
    obtain ⟨bytes, answer, dummy, opcode⟩ := sendDummy_note pass ends.1
    have same := @queuedBlocks_dummy notes bytes answer opcode
    rw [dummy]
    refine ⟨⟨middle, first, ends.1, second, rfl⟩, ⟨notes ++ [.frame bytes answer], ?_, same.trans blocks, ?_⟩,
      all (.note ends.1 trivial)⟩
    · rw [World.note, log, List.append_assoc]
    · rw [same, if_pos (silent.mp none), List.countP_append, plain, List.countP_singleton, isDummy, opcode]
      rfl
  · rename_i some
    refine ⟨⟨middle, first, ends.1, second, rfl⟩, ⟨notes, log, blocks, ?_⟩, all (.refl ends.1)⟩
    rw [if_neg fun none => some (silent.mpr none), plain]

end Call

/-! What holds of every call. -/

theorem mem_rotation (host : Host) (aid : Nat) : aid ∈ rotation host ↔ aid ∈ aids := by
  rw [mem_aids, rotation, List.mem_map]
  simp only [List.mem_range, maxMultiplayerClients]
  constructor
  · rintro ⟨i, _, rfl⟩
    omega
  · rintro ⟨low, high⟩
    refine ⟨(aid - 1 + (15 - (host.rotate + 1) % 256 % 15)) % 15, Nat.mod_lt _ (by decide), ?_⟩
    omega

theorem streamable_hosting (hosting : Hosting) (small : hosting.imageSize < 2 ^ 30) : Streamable hosting.rom :=
  streamable_of_parsed (romParse_parsed hosting.parsed) (pickFrameSize_blockSize _ _) small

section Bounds
variable {pass : Pass} {world after : World} {taken : Nat} {queued : List Nat}

/-- The blocks that the ring takes in a call. -/
structure BlocksOf (host : Host) (blocks : List Nat) : Prop where
  few : blocks.length ≤ host.perUpdate
  distinct : blocks.Nodup
  asked : ∀ block ∈ blocks, block < host.rom.totalBlocks ∧
    ((∃ aid ∈ aids, Sending host aid ∧ (host.clients aid).nextBlock = block) ∨
      block ≤ highestNext host + host.ahead)

theorem BlockCall.blocks (call : BlockCall pass world after taken queued) :
    BlocksOf world.host ((wantedBlocks world.host).take taken ++ queued) := by
  obtain ⟨middle, first, ends, second, _⟩ := call.first
  have rom : middle.host.rom = world.host.rom := first.queues.settled.1
  have length := wantedBlocks_length world.host
  have taken_le := first.le
  refine ⟨?_, ?_, fun block member => ?_⟩
  · have few := second.few
    rw [List.length_append, List.length_take]
    omega
  · refine List.nodup_append.mpr ⟨(wantedBlocks_nodup world.host).sublist (List.take_sublist _ _),
      second.ordered.imp fun less => less.ne, fun block wanted other stream same => ?_⟩
    exact (second.stream other stream).2.2 (same ▸ List.mem_of_mem_take wanted)
  · rcases List.mem_append.mp member with wanted | stream
    · obtain ⟨inside, next⟩ := mem_wantedBlocks (List.mem_of_mem_take wanted)
      obtain ⟨aid, known, sending, same⟩ := mem_nextBlocks.mp next
      exact ⟨inside, .inl ⟨aid, (mem_rotation world.host aid).mp known, sending, same⟩⟩
    · obtain ⟨above, below, _⟩ := second.stream block stream
      obtain ⟨_, bound, inside, _⟩ := (second.reached block above).mp below
      exact ⟨rom ▸ inside, .inr bound⟩

end Bounds

theorem setPace_perUpdate (world : World) (perUpdate ahead : Int) :
    1 ≤ (setPace world perUpdate ahead).host.perUpdate ∧
      (setPace world perUpdate ahead).host.perUpdate ≤ blocksPerUpdateMax := by
  simp only [setPace, blocksPerUpdateMax]
  omega

/-- Whatever the clients ask for and however the pace is set: the list of wanted blocks has
room at all times; the ring takes as many blocks as a pass may send, all different, of
the program, and wanted or in the window; and a call that the ring takes no block of
hands out one dummy. -/
theorem block_pass_bounds (hosting : Hosting) (small : hosting.imageSize < 2 ^ 30) {world : World}
    (program : world.host.rom = hosting.rom) (perUpdate ahead : Int) (pass : Pass) (dest : Mask)
    (fileId : UInt8) :
    let paced := setPace world perUpdate ahead
    (∀ ids : List Nat, (ids.foldl (askedFor paced.host) (0, [])).2.length ≤ blocksPerUpdateMax) ∧
      ∃ notes, (sendNextBlock pass paced dest fileId).log = paced.log ++ notes ∧
        BlocksOf paced.host (queuedBlocks notes) ∧
        notes.countP isDummy = if queuedBlocks notes = [] then 1 else 0 := by
  intro paced
  have room := (setPace_perUpdate world perUpdate ahead).2
  have streams : Streamable paced.host.rom := by
    rw [show paced.host.rom = world.host.rom from rfl, program]
    exact streamable_hosting hosting small
  refine ⟨fun ids => ?_, ?_⟩
  · rw [asked_eq]
    exact (List.length_take_le _ _).trans room
  · obtain ⟨taken, queued, call⟩ := @sendNextBlock_call pass dest fileId paced streams
    obtain ⟨notes, log, blocks, dummies⟩ := call.notes
    exact ⟨notes, log, blocks ▸ call.blocks, dummies⟩

/-- One client, in the middle of the transfer. -/
def askingWorld (nextBlock : Nat) : World :=
  (start smallHosting).setClient 1 { stage := .sendProceed, nextBlock }

/-- Two blocks in a pass, of which one is wanted. -/
theorem block_pass_bounds_two : ∃ notes, (sendNextBlock plainPass (setPace (askingWorld 1) 2 5) 2 0).log =
      (setPace (askingWorld 1) 2 5).log ++ notes ∧
    BlocksOf (setPace (askingWorld 1) 2 5).host (queuedBlocks notes) ∧
      notes.countP isDummy = if queuedBlocks notes = [] then 1 else 0 := by
  have small : smallHosting.imageSize < 2 ^ 30 := by decide
  have program : (askingWorld 1).host.rom = smallHosting.rom := by
    rw [askingWorld, World.setClient, start]
  exact (block_pass_bounds smallHosting small program 2 5 plainPass 2 0).2

end Dswifi.DlPlay
