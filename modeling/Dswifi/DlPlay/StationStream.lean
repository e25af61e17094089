import Dswifi.Pieces
import Dswifi.DlPlay.Framing

/-! The content that an accepted request stands for, as the frames a console is
sent: the chunks of its own file in order, then the end marker. The log of a host
tells which of them were queued; how far the host thinks it has come is the cursor
in the record of the console. -/

namespace Dswifi.DlPlay

open MpHost

/-! What a console is sent. -/

/-- A request that was accepted, and the payloads of the content frames queued to
its console since. `announced` says that its length was queued before the first of
them, and `number` counts the requests of the console before it. -/
structure Transfer where
  number : Nat
  port : Nat
  size : Nat
  handle : UInt32
  announced : Bool := false
  queued : List (List UInt8) := []
  deriving DecidableEq

namespace Transfer

def queue (payload : List UInt8) (transfer : Transfer) : Transfer :=
  { transfer with queued := transfer.queued ++ [payload] }

def hear (heard : Bool) (transfer : Transfer) : Transfer :=
  { transfer with announced := transfer.announced || (heard && transfer.queued.isEmpty) }

def chunk (transfer : Transfer) : Nat :=
  if transfer.port = portStationMenu then stationChunkPort14 else stationChunkPort15

def count (transfer : Transfer) : Nat := Pieces.count transfer.size transfer.chunk

/-- The payload that carries one chunk of the file. -/
def piece (file : Nat → UInt8) (transfer : Transfer) (k : Nat) : List UInt8 :=
  stationChunkPayload k (Pieces.size transfer.size transfer.chunk k) fun i =>
    file (k * transfer.chunk + i)

/-- All that the console should be sent. -/
def whole (file : Nat → UInt8) (transfer : Transfer) : List (List UInt8) :=
  (List.range transfer.count).map (transfer.piece file) ++ [stationEndPayload]

/-- No chunk needs the index of the end marker. -/
def Numbered (transfer : Transfer) : Prop := transfer.size ≤ stationIndexEnd * transfer.chunk

end Transfer

/-- A frame of the content ports that is addressed to `aid`. -/
def IsContent (aid : Nat) (bytes : List UInt8) : Prop :=
  (byteAt bytes 1 = stationHeader portStationMenu ∨ byteAt bytes 1 = stationHeader portStationFile) ∧
    (footer bytes).getLsbD aid = true

instance (aid : Nat) (bytes : List UInt8) : Decidable (IsContent aid bytes) := by
  unfold IsContent
  infer_instance

/-- A frame of the port that lengths are announced on, addressed to `aid`. -/
def IsLength (aid : Nat) (bytes : List UInt8) : Prop :=
  byteAt bytes 1 = stationHeader portStationName ∧ (footer bytes).getLsbD aid = true

instance (aid : Nat) (bytes : List UInt8) : Decidable (IsLength aid bytes) := by
  unfold IsLength
  infer_instance

/-- What a receiver takes for the payload. -/
def framePayload (bytes : List UInt8) : List UInt8 := (bytes.drop 2).take (announced bytes)

def acceptTransfer (transfer : Option Transfer) (port size : Nat) (handle : UInt32) : Transfer :=
  { number := (transfer.map fun before => before.number + 1).getD 0, port, size, handle }

/-- One entry of the log, as far as it is about the content of `aid`. -/
def follow (aid : Nat) (transfer : Option Transfer) : Note → Option Transfer
  | .stationAccepted served port size handle =>
    if served = aid then some (acceptTransfer transfer port size handle) else transfer
  | .frame bytes true =>
    if IsContent aid bytes then transfer.map (.queue (framePayload bytes))
    else if IsLength aid bytes then
      transfer.map fun current => current.hear (framePayload bytes = u32Bytes current.size)
    else transfer
  | _ => transfer

/-- The last request of `aid` that was accepted. -/
def transferOf (aid : Nat) (log : List Note) : Option Transfer := log.foldl (follow aid) none

theorem transferOf_append (aid : Nat) (log items : List Note) :
    transferOf aid (log ++ items) = items.foldl (follow aid) (transferOf aid log) :=
  List.foldl_append

/-! How far the host has come. -/

/-- Where the transfer in a record stands. -/
structure Cursor where
  state : StationState
  handle : UInt32
  size : Nat
  port : Nat
  chunk : Nat
  index : Nat
  ended : Bool
  wait : Nat
  deriving DecidableEq, Repr

def StationClient.cursor (station : StationClient) : Cursor :=
  { state := station.state, handle := station.handle, size := station.size, port := station.port
    chunk := station.chunk, index := station.index, ended := station.ended, wait := station.wait }

namespace Cursor

def tick (cursor : Cursor) : Cursor := { cursor with wait := cursor.wait + 1 }

def offset (cursor : Cursor) : Nat := cursor.index * cursor.chunk

/-- The cursor of a request that has just been accepted. -/
def first (transfer : Transfer) : Cursor :=
  { state := .sendDelay, handle := transfer.handle, size := transfer.size, port := transfer.port
    chunk := transfer.chunk, index := 0, ended := false, wait := 0 }

end Cursor

/-- What serving a console can do to its transfer: `asked` says that a request of
it waits to be accepted, and `taken` that the ring takes the length of what it
asked for. -/
inductive ServeTurn (pass : Pass) (taken : Prop) (asked : Bool) (transfer : Option Transfer) (cursor : Cursor) :
    Option Transfer → Cursor → Prop where
  | accepted (asking : asked = true) (port size : Nat) (handle : UInt32) (nonempty : 0 < size)
      (heard : Bool) (told : taken → heard = true) :
      ServeTurn pass taken asked transfer cursor
        (some ((acceptTransfer transfer port size handle).hear heard))
        (Cursor.first (acceptTransfer transfer port size handle)).tick
  | announces (state : cursor.state = .sendDelay) (early : cursor.wait < stationSendDelay)
      (told : Transfer → Bool) :
      ServeTurn pass taken asked transfer cursor (transfer.map fun current => current.hear (told current))
        cursor.tick
  | waits (resting : cursor.state ≠ .data)
      (early : cursor.state = .sendDelay → cursor.wait < stationSendDelay) :
      ServeTurn pass taken asked transfer cursor transfer cursor.tick
  | begins (state : cursor.state = .sendDelay) :
      ServeTurn pass taken asked transfer cursor transfer { cursor with state := .data, wait := 0 }
  | refused (state : cursor.state = .data) (going : cursor.ended = false) (position : Nat)
      (full : pass.txAccepts position = false) :
      ServeTurn pass taken asked transfer cursor transfer cursor.tick
  | chunk (state : cursor.state = .data) (going : cursor.ended = false)
      (inside : cursor.offset < cursor.size) (position : Nat) (content : Nat → UInt8)
      (read : pass.stationRead position cursor.handle cursor.offset
        (Pieces.size cursor.size cursor.chunk cursor.index) = some content) :
      ServeTurn pass taken asked transfer cursor
        (transfer.map (.queue (stationChunkPayload cursor.index
          (Pieces.size cursor.size cursor.chunk cursor.index) content)))
        { cursor.tick with index := (cursor.index + 1) % 65536 }
  | failed (state : cursor.state = .data) (going : cursor.ended = false)
      (inside : cursor.offset < cursor.size) (position : Nat)
      (unread : pass.stationRead position cursor.handle cursor.offset
        (Pieces.size cursor.size cursor.chunk cursor.index) = none) :
      ServeTurn pass taken asked transfer cursor transfer { cursor.tick with ended := true }
  | ending (state : cursor.state = .data) (going : cursor.ended = false)
      (beyond : cursor.size ≤ cursor.offset) :
      ServeTurn pass taken asked transfer cursor (transfer.map (.queue stationEndPayload))
        { cursor.tick with ended := true }
  | finished (state : cursor.state = .data) (marked : cursor.ended = true) :
      ServeTurn pass taken asked transfer cursor transfer { cursor with state := .done, wait := 0 }

/-- The application reads the file that it opened for this request. -/
def Reads (pass : Pass) (file : Nat → UInt8) (transfer : Transfer) : Prop :=
  ∀ position offset size, offset + size ≤ transfer.size →
    ∃ content, pass.stationRead position transfer.handle offset size = some content ∧
      ∀ i, i < size → content i = file (offset + i)

/-! The invariant. -/

/-- The first `n` chunks were queued, and the end marker if `ended`. The number of
a chunk is a u16. -/
structure Delivered (file : Nat → UInt8) (transfer : Transfer) (n : Nat) (ended : Bool) : Prop where
  queued : transfer.queued = (List.range n).map (fun k => transfer.piece file (k % 65536)) ++
    if ended then [stationEndPayload] else []
  inside : transfer.Numbered → n ≤ transfer.count ∧ (ended = true → n = transfer.count)

/-- The cursor of a transfer of which `n` chunks were queued. -/
structure Points (transfer : Transfer) (n : Nat) (ended : Bool) (cursor : Cursor) : Prop where
  handle : cursor.handle = transfer.handle
  size : cursor.size = transfer.size
  chunk : cursor.chunk = transfer.chunk
  index : cursor.index = n % 65536
  ended : cursor.ended = ended

structure Streaming (files : Nat → Nat → UInt8) (transfer : Option Transfer) (cursor : Cursor) :
    Prop where
  idle : cursor.state = .idle → cursor.ended = false
  done : cursor.state = .done → cursor.ended = true
  known : cursor.state ≠ .idle → transfer.isSome = true
  place : ∀ current, transfer = some current → 0 < current.size ∧ ∃ n ended,
    Delivered (files current.number) current n ended ∧
      (cursor.state ≠ .idle → Points current n ended cursor)

namespace Transfer

theorem chunk_pos (transfer : Transfer) : 0 < transfer.chunk := by
  rw [chunk]
  split <;> decide

theorem inside_iff (transfer : Transfer) (k : Nat) :
    k * transfer.chunk < transfer.size ↔ k < transfer.count :=
  (Pieces.lt_count_iff transfer.chunk_pos).symm

theorem Numbered.count_le {transfer : Transfer} (numbered : transfer.Numbered) :
    transfer.count ≤ stationIndexEnd := by
  by_contra more
  have inside := (transfer.inside_iff stationIndexEnd).mpr (Nat.lt_of_not_le more)
  exact absurd numbered (Nat.not_le_of_lt inside)

/-- Chunks that were read from the right file carry what they should. -/
theorem piece_read {pass : Pass} {file : Nat → UInt8} {transfer : Transfer}
    (reads : Reads pass file transfer) {k position : Nat} (inside : k < transfer.count)
    {content : Nat → UInt8} (read : pass.stationRead position transfer.handle (k * transfer.chunk)
      (Pieces.size transfer.size transfer.chunk k) = some content) :
    stationChunkPayload k (Pieces.size transfer.size transfer.chunk k) content =
      transfer.piece file k := by
  obtain ⟨same, found, right⟩ := reads position (k * transfer.chunk) _
    (Pieces.size_inside transfer.chunk_pos inside)
  obtain rfl := Option.some.inj (found.symm.trans read)
  have bytes : (List.range (Pieces.size transfer.size transfer.chunk k)).map same =
      (List.range (Pieces.size transfer.size transfer.chunk k)).map fun i =>
        file (k * transfer.chunk + i) := by
    refine List.map_congr_left fun i member => right i ?_
    simpa using member
  rw [piece, stationChunkPayload, bytes, stationChunkPayload]

end Transfer

namespace Delivered
variable {file : Nat → UInt8} {transfer : Transfer} {n : Nat} {ended : Bool}

theorem none (file : Nat → UInt8) {transfer : Transfer} (fresh : transfer.queued = []) :
    Delivered file transfer 0 false :=
  ⟨by simp [fresh], fun _ => ⟨Nat.zero_le _, nofun⟩⟩

theorem length (delivered : Delivered file transfer n ended) :
    transfer.queued.length = n + if ended then 1 else 0 := by
  rw [delivered.queued]
  cases ended <;> simp

/-- Within the numbers, the index of the next chunk is how many there were. -/
theorem index (delivered : Delivered file transfer n ended) (numbered : transfer.Numbered) :
    n % 65536 = n := by
  have bound := numbered.count_le
  have inside := (delivered.inside numbered).1
  rw [stationIndexEnd] at bound
  exact Nat.mod_eq_of_lt (by omega)

theorem next (delivered : Delivered file transfer n false) {payload : List UInt8}
    (same : payload = transfer.piece file (n % 65536)) (inside : n % 65536 < transfer.count) :
    Delivered file (transfer.queue payload) (n + 1) false := by
  refine ⟨?_, fun numbered => ⟨?_, nofun⟩⟩
  · have grown : (transfer.queue payload).queued = transfer.queued ++ [payload] := rfl
    rw [grown, delivered.queued, same, List.range_succ, List.map_append]
    simp only [Bool.false_eq_true, if_false, List.append_nil]
    rfl
  · rw [delivered.index numbered] at inside
    exact inside

theorem ending (delivered : Delivered file transfer n false)
    (beyond : ¬ n % 65536 < transfer.count) :
    Delivered file (transfer.queue stationEndPayload) n true := by
  have exact : transfer.Numbered → n = transfer.count := fun numbered => by
    have inside := (delivered.inside numbered).1
    rw [delivered.index numbered] at beyond
    omega
  refine ⟨?_, fun numbered => ⟨(delivered.inside numbered).1, fun _ => exact numbered⟩⟩
  have grown : (transfer.queue stationEndPayload).queued = transfer.queued ++ [stationEndPayload] :=
    rfl
  rw [grown, delivered.queued]
  simp only [Bool.false_eq_true, if_false, List.append_nil, if_true]
  rfl

/-- Within the numbers, the chunks are those of the file. -/
theorem pieces (delivered : Delivered file transfer n ended) (numbered : transfer.Numbered) :
    transfer.queued = (List.range n).map (transfer.piece file) ++
      if ended then [stationEndPayload] else [] := by
  rw [delivered.queued]
  congr 1
  refine List.map_congr_left fun k member => ?_
  have below := List.mem_range.mp member
  have bound := numbered.count_le
  have inside := (delivered.inside numbered).1
  rw [stationIndexEnd] at bound
  rw [Nat.mod_eq_of_lt (by omega)]

end Delivered

namespace Streaming
variable {files : Nat → Nat → UInt8} {transfer : Option Transfer} {cursor : Cursor}

/-- The transfer a busy cursor stands in. -/
theorem busy (streaming : Streaming files transfer cursor) (state : cursor.state ≠ .idle) :
    ∃ current n, transfer = some current ∧ 0 < current.size ∧
      Delivered (files current.number) current n cursor.ended ∧
      Points current n cursor.ended cursor := by
  obtain ⟨current, same⟩ := Option.isSome_iff_exists.mp (streaming.known state)
  obtain ⟨nonempty, n, ended, delivered, points⟩ := streaming.place current same
  have points := points state
  obtain rfl := points.ended
  exact ⟨current, n, same, nonempty, delivered, points⟩

/-- A cursor that has moved on within the same transfer. -/
theorem of_busy {cursor : Cursor} {current : Transfer} {n : Nat} (nonempty : 0 < current.size)
    (delivered : Delivered (files current.number) current n cursor.ended)
    (points : Points current n cursor.ended cursor) (idle : cursor.state ≠ .idle)
    (done : cursor.state = .done → cursor.ended = true) :
    Streaming files (some current) cursor := by
  refine ⟨fun state => absurd state idle, done, fun _ => rfl, fun other same => ?_⟩
  obtain rfl := Option.some.inj same
  exact ⟨nonempty, n, cursor.ended, delivered, fun _ => points⟩

/-- Only what a frame takes from a cursor counts. -/
theorem resting {next : Cursor} (streaming : Streaming files transfer cursor)
    (state : cursor.state ≠ .idle → next.state ≠ .idle) (still : cursor.state = .idle → next.state = .idle)
    (done : next.state = .done → next.ended = true) (ended : next.ended = cursor.ended)
    (same : next.handle = cursor.handle ∧ next.size = cursor.size ∧ next.chunk = cursor.chunk ∧
      next.index = cursor.index) : Streaming files transfer next := by
  refine ⟨fun idle => ?_, done, fun busy => ?_, fun current found => ?_⟩
  · by_cases before : cursor.state = .idle
    · exact ended.trans (streaming.idle before)
    · exact absurd idle (state before)
  · exact streaming.known fun before => busy (still before)
  · obtain ⟨nonempty, n, closed, delivered, points⟩ := streaming.place current found
    refine ⟨nonempty, n, closed, delivered, fun busy => ?_⟩
    have points := points fun before => busy (still before)
    exact ⟨same.1.trans points.handle, same.2.1.trans points.size, same.2.2.1.trans points.chunk,
      same.2.2.2.trans points.index, ended.trans points.ended⟩

theorem tick (streaming : Streaming files transfer cursor) :
    Streaming files transfer cursor.tick :=
  streaming.resting id id streaming.done rfl ⟨rfl, rfl, rfl, rfl⟩

/-- An announcement is no content. -/
theorem hear (streaming : Streaming files transfer cursor) (told : Transfer → Bool) :
    Streaming files (transfer.map fun current => current.hear (told current)) cursor := by
  refine ⟨streaming.idle, streaming.done, fun busy => ?_, fun current found => ?_⟩
  · rw [Option.isSome_map]
    exact streaming.known busy
  · obtain ⟨before, same, rfl⟩ := Option.map_eq_some_iff.mp found
    obtain ⟨nonempty, n, ended, delivered, points⟩ := streaming.place before same
    exact ⟨nonempty, n, ended, ⟨delivered.queued, delivered.inside⟩, fun busy =>
      ⟨(points busy).handle, (points busy).size, (points busy).chunk, (points busy).index,
        (points busy).ended⟩⟩

/-- The piece under the cursor lies in the file. -/
theorem readable {pass : Pass} (streaming : Streaming files transfer cursor)
    (state : cursor.state ≠ .idle) (inside : cursor.offset < cursor.size)
    (reads : ∀ current, transfer = some current → Reads pass (files current.number) current)
    (position : Nat) : pass.stationRead position cursor.handle cursor.offset
      (Pieces.size cursor.size cursor.chunk cursor.index) ≠ none := by
  obtain ⟨current, n, found, _, _, points⟩ := streaming.busy state
  rw [Cursor.offset, points.size, points.chunk, points.index] at inside
  obtain ⟨content, read, _⟩ := reads current found position _ _
    (Pieces.size_inside current.chunk_pos ((current.inside_iff _).mp inside))
  rw [Cursor.offset, points.handle, points.size, points.chunk, points.index, read]
  exact nofun

/-- The record of a console that left is blank; what it was sent stays in the log. -/
theorem blank (streaming : Streaming files transfer cursor) :
    Streaming files transfer ({} : StationClient).cursor := by
  refine ⟨fun _ => rfl, nofun, fun busy => absurd rfl busy, fun current found => ?_⟩
  obtain ⟨nonempty, n, closed, delivered, _⟩ := streaming.place current found
  exact ⟨nonempty, n, closed, delivered, fun busy => absurd rfl busy⟩

end Streaming

/-! Serving. -/

theorem ServeTurn.streaming {pass : Pass} {taken : Prop} {asked : Bool} {files : Nat → Nat → UInt8}
    {transfer next : Option Transfer} {cursor after : Cursor}
    (turn : ServeTurn pass taken asked transfer cursor next after)
    (streaming : Streaming files transfer cursor)
    (reads : cursor.state = .data → cursor.ended = false → ∀ current, transfer = some current →
      Reads pass (files current.number) current) : Streaming files next after := by
  cases turn with
  | accepted asking port size handle nonempty heard told =>
      exact .of_busy nonempty (.none _ rfl) ⟨rfl, rfl, rfl, rfl, rfl⟩ nofun nofun
  | announces state early told => exact (streaming.hear told).tick
  | waits resting early => exact streaming.tick
  | begins state =>
      exact streaming.resting (fun _ => nofun) (fun idle => nomatch state.symm.trans idle) nofun rfl
        ⟨rfl, rfl, rfl, rfl⟩
  | refused state going position full => exact streaming.tick
  | chunk state going inside position content read =>
      obtain ⟨current, n, rfl, nonempty, delivered, points⟩ := streaming.busy (by simp [state])
      rw [Cursor.offset, points.size, points.chunk, points.index] at inside
      rw [Cursor.offset, points.handle, points.size, points.chunk, points.index] at read
      rw [points.size, points.chunk, points.index]
      rw [going] at delivered
      have below := (current.inside_iff _).mp inside
      -- the index counts modulo 65536, but there are fewer chunks
      have right := Transfer.piece_read (reads state going current rfl) below read
      refine .of_busy nonempty ?_ ⟨points.handle, points.size, points.chunk, Nat.mod_add_mod n 65536 1,
        rfl⟩ (fun idle => nomatch state.symm.trans idle) fun done => nomatch state.symm.trans done
      change Delivered (files current.number) _ (n + 1) cursor.ended
      rw [going]
      exact delivered.next right below
  | failed state going inside position unread =>
      exact absurd unread (streaming.readable (by simp [state]) inside (reads state going) position)
  | ending state going beyond =>
      obtain ⟨current, n, rfl, nonempty, delivered, points⟩ := streaming.busy (by simp [state])
      rw [Cursor.offset, points.size, points.chunk, points.index] at beyond
      rw [going] at delivered
      have above : ¬ n % 65536 < current.count := fun below =>
        absurd ((current.inside_iff _).mpr below) (Nat.not_lt_of_le beyond)
      have busy : cursor.tick.state ≠ .idle := fun idle => nomatch state.symm.trans idle
      exact .of_busy nonempty (delivered.ending above)
        ⟨points.handle, points.size, points.chunk, points.index, rfl⟩ busy fun _ => rfl
  | finished state marked =>
      exact streaming.resting (fun _ => nofun) (fun idle => nomatch state.symm.trans idle)
        (fun _ => marked) rfl ⟨rfl, rfl, rfl, rfl⟩

/-! What it comes to. -/

/-- The turns that a transfer still needs, if every frame is taken. -/
def toGo (transfer : Transfer) (cursor : Cursor) : Nat :=
  match cursor.state with
  | .idle | .done => 0
  | .data => transfer.count + 2 - transfer.queued.length
  | .sendDelay =>
    transfer.count + 2 - transfer.queued.length + 1 + (stationSendDelay - cursor.wait)

/-- The console was sent a first part of its file, and all of it once the transfer
is over. -/
structure Streamed (file : Nat → UInt8) (transfer : Transfer) (cursor : Cursor) : Prop where
  inOrder : transfer.queued <+: transfer.whole file
  /-- No chunk carries the index of the end marker. -/
  marked : ∀ payload ∈ transfer.queued, stationEndPayload <+: payload → payload = stationEndPayload
  finished : cursor.ended = true → transfer.queued = transfer.whole file
  settled : transfer.queued = transfer.whole file → cursor.state = .idle ∨ cursor.ended = true

theorem u16Bytes_end {k : Nat} (small : k < stationIndexEnd) {rest : List UInt8} :
    ¬ stationEndPayload <+: u16Bytes k ++ rest := by
  rintro ⟨_, same⟩
  rw [stationIndexEnd] at small
  simp only [stationEndPayload, u16Bytes, stationIndexEnd, List.cons_append, List.nil_append,
    List.cons.injEq] at same
  have low := congrArg UInt8.toNat same.1
  have high := congrArg UInt8.toNat same.2.1
  simp only [UInt8.toNat_ofNat'] at low high
  omega

theorem Streaming.streamed {files : Nat → Nat → UInt8} {current : Transfer} {cursor : Cursor}
    (streaming : Streaming files (some current) cursor) (numbered : current.Numbered) :
    Streamed (files current.number) current cursor := by
  obtain ⟨nonempty, n, ended, delivered, points⟩ := streaming.place current rfl
  have pieces := delivered.pieces numbered
  obtain ⟨within, complete⟩ := delivered.inside numbered
  have bound := numbered.count_le
  have busy : cursor.ended = true → ended = true ∧ n = current.count := fun marked => by
    have state : cursor.state ≠ .idle := fun idle => by simp [streaming.idle idle] at marked
    have ends : ended = true := (points state).ended.symm.trans marked
    exact ⟨ends, complete ends⟩
  refine ⟨?_, fun payload member marker => ?_, fun marked => ?_, fun all => ?_⟩
  · rw [pieces, Transfer.whole]
    cases ended with
    | true =>
        rw [complete rfl]
        exact List.prefix_rfl
    | false =>
        -- what has been queued is the front of the file, cut between two chunks
        obtain ⟨more, split⟩ : ∃ more, current.count = n + more := ⟨_, (Nat.add_sub_of_le within).symm⟩
        rw [split, List.range_add, List.map_append, List.append_assoc]
        exact (List.prefix_append_right_inj _).mpr List.nil_prefix
  · rw [pieces, List.mem_append] at member
    rcases member with chunk | ending
    · obtain ⟨k, below, rfl⟩ := List.mem_map.mp chunk
      have small : k < stationIndexEnd := by
        have := List.mem_range.mp below
        omega
      rw [Transfer.piece, stationChunkPayload, List.append_assoc] at marker
      exact absurd marker (u16Bytes_end small)
    · cases ended with
      | true => simpa using ending
      | false => simp at ending
  · obtain ⟨rfl, rfl⟩ := busy marked
    exact pieces
  · by_cases idle : cursor.state = .idle
    · exact .inl idle
    · refine .inr ((points idle).ended.trans ?_)
      cases ended with
      | true => rfl
      | false =>
          have length := delivered.length
          rw [all, Transfer.whole] at length
          simp at length
          omega

/-- A turn in which every frame is taken brings the transfer closer to its end. -/
theorem ServeTurn.toGo_lt {pass : Pass} {heard : Prop} {files : Nat → Nat → UInt8} {current after : Transfer}
    {cursor next : Cursor} (turn : ServeTurn pass heard false (some current) cursor (some after) next)
    (streaming : Streaming files (some current) cursor) (numbered : current.Numbered)
    (reads : cursor.state = .data → cursor.ended = false → Reads pass (files current.number) current)
    (taken : ∀ position, pass.txAccepts position = true)
    (going : cursor.state = .sendDelay ∨ cursor.state = .data) :
    toGo after next < toGo current cursor := by
  obtain ⟨_, n, ended, delivered, points⟩ := streaming.place current rfl
  have points := points (by rcases going with state | state <;> simp [state])
  obtain rfl := points.ended
  have inside := (delivered.inside numbered).1
  have length := delivered.length
  have grown : ∀ payload, (current.queue payload).queued.length = current.queued.length + 1 :=
    fun payload => by simp [Transfer.queue]
  have count : ∀ payload, (current.queue payload).count = current.count := fun _ => rfl
  -- a message that is not the last fills one more place of the transfer
  have queues : ∀ payload (other : Cursor), cursor.state = .data → cursor.ended = false → other.state = .data →
      toGo (current.queue payload) other < toGo current cursor := by
    intro payload other state going stays
    rw [going] at length
    simp only [Bool.false_eq_true, if_false] at length
    simp only [toGo, state, stays, grown, count]
    omega
  have silent : ∀ heard, (current.hear heard).queued = current.queued := fun _ => rfl
  have counts : ∀ heard, (current.hear heard).count = current.count := fun _ => rfl
  generalize same : some after = target at turn
  -- the turns that make no progress are those that the assumptions exclude
  cases turn with
  | accepted asking => cases asking
  | announces state early told =>
      obtain rfl := Option.some.inj same
      simp only [toGo, Cursor.tick, state, silent, counts]
      omega
  | waits resting early =>
      obtain rfl := Option.some.inj same
      have state := going.resolve_right resting
      have early := early state
      simp only [toGo, Cursor.tick, state]
      omega
  | begins state =>
      obtain rfl := Option.some.inj same
      simp only [toGo, state]
      omega
  | refused state going position full => exact nomatch (taken position).symm.trans full
  | chunk state going inside position content read =>
      obtain rfl := Option.some.inj same
      exact queues _ _ state going state
  | failed state going inside position unread =>
      refine absurd unread (streaming.readable (by simp [state]) inside (fun other found => ?_) position)
      obtain rfl := Option.some.inj found
      exact reads state going
  | ending state going beyond =>
      obtain rfl := Option.some.inj same
      exact queues _ _ state going state
  | finished state marked =>
      obtain rfl := Option.some.inj same
      simp only [toGo, state]
      rw [marked] at length
      simp only [if_true] at length
      omega

end Dswifi.DlPlay
