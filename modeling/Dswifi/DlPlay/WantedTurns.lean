import Dswifi.DlPlay.BootSafety
import Dswifi.DlPlay.BulkTurns

/-! Whose block goes out first. A call of Wifi_DlPlaySendNextBlock hands out no more of the
wanted blocks than the pace allows, and the first is that of the client its counter stands
at. -/

namespace Dswifi.DlPlay

open Runs MpHost

/-- The client takes the program, and there is a block that it wants next. -/
def Wants (host : Host) (aid : Nat) : Prop :=
  Sending host aid ∧ (host.clients aid).nextBlock < host.rom.totalBlocks

instance (host : Host) (aid : Nat) : Decidable (Wants host aid) := inferInstanceAs (Decidable (_ ∧ _))

/-- Whether the ring has taken a frame. -/
def ringTakes : Note → Bool
  | .frame _ queued => queued
  | _ => true

/-- The ring takes every frame of the call. -/
def StreamCall.Accepted (call : StreamCall) : Prop := ∀ note ∈ call.notes, ringTakes note = true

instance (call : StreamCall) : Decidable call.Accepted := inferInstanceAs (Decidable (∀ note ∈ _, _))

/-! The counter. -/

/-- At most `k` calls go by before one that begins with the client. -/
def BeginsWithin (rotate aid k : Nat) : Prop :=
  ∃ i ≤ k, 1 + (rotate + 1 + i) % 256 % maxMultiplayerClients = aid

theorem begins_all {aid : Nat} (known : aid ∈ aids) (rotate : Nat) : BeginsWithin rotate aid 15 := by
  obtain ⟨low, high⟩ := (mem_aids aid).mp known
  simp only [BeginsWithin, maxMultiplayerClients] at *
  by_cases early : (rotate + 1) % 256 ≤ 241
  · -- a whole round before the counter comes to 256
    exact ⟨(aid - 1 + 15 - (rotate + 1) % 256 % 15) % 15, by omega, by omega⟩
  · -- 255 is the last number of a round, so the short round is that of 240 to 255
    by_cases before : (rotate + 1) % 256 - 240 ≤ aid - 1
    · exact ⟨aid - 1 - ((rotate + 1) % 256 - 240), by omega, by omega⟩
    · exact ⟨256 - (rotate + 1) % 256 + (aid - 1), by omega, by omega⟩

theorem begins_next {rotate aid k : Nat} (soon : BeginsWithin rotate aid k) :
    1 + (rotate + 1) % 256 % maxMultiplayerClients = aid ∨
      ∃ less, less < k ∧ BeginsWithin ((rotate + 1) % 256) aid less := by
  obtain ⟨i, small, begins⟩ := soon
  cases i with
  | zero => exact .inl begins
  | succ i =>
      refine .inr ⟨i, small, i, le_rfl, ?_⟩
      rw [← begins]
      congr 2
      omega

/-! The first wanted block. -/

theorem rotation_cons (host : Host) : ∃ rest,
    rotation host = (1 + (host.rotate + 1) % 256 % maxMultiplayerClients) :: rest :=
  ⟨_, rfl⟩

theorem first_wanted {host : Host} {aid : Nat} (one : 1 ≤ host.perUpdate) (wants : Wants host aid)
    (begins : 1 + (host.rotate + 1) % 256 % maxMultiplayerClients = aid) :
    (host.clients aid).nextBlock ∈ wantedBlocks host := by
  obtain ⟨sending, inside⟩ := wants
  obtain ⟨rest, order⟩ := rotation_cons host
  rw [begins] at order
  have next : nextBlocks host (rotation host) = (host.clients aid).nextBlock :: nextBlocks host rest := by
    rw [order, nextBlocks, List.filter_cons_of_pos (by simpa using sending)]
    rfl
  obtain ⟨count, room⟩ := Nat.exists_eq_succ_of_ne_zero (Nat.one_le_iff_ne_zero.mp one)
  rw [wantedBlocks, next, List.filter_cons_of_pos (by simpa using inside), List.eraseDups_cons, room,
    List.take_succ_cons]
  exact List.mem_cons_self

/-- What a call does for the client it begins with. -/
theorem first_queued {call : StreamCall} {aid : Nat} (streams : Streamable call.before.host.rom)
    (one : 1 ≤ call.before.host.perUpdate) (accepted : call.Accepted) (wants : Wants call.before.host aid)
    (begins : 1 + (call.before.host.rotate + 1) % 256 % maxMultiplayerClients = aid) :
    (call.before.host.clients aid).nextBlock ∈ queuedBlocks call.notes := by
  obtain ⟨taken, queued, done⟩ := @sendNextBlock_call call.pass call.dest call.fileId _ streams
  have all : taken = (wantedBlocks call.before.host).length :=
    done.all fun bytes queued member => accepted (.frame bytes queued) member
  obtain ⟨notes, log, blocks, _⟩ := done.notes
  have sent : call.notes = notes := by rw [StreamCall.notes, StreamCall.after, log, List.drop_left]
  rw [sent, blocks, all, List.take_length]
  exact List.mem_append_left _ (first_wanted one wants begins)

/-! The runs. -/

/-- What the calls of a run rest on. -/
structure StreamInv (hosting : Hosting) (world : World) : Prop where
  rom : world.host.rom = hosting.rom
  perUpdate : 1 ≤ world.host.perUpdate

theorem StreamInv.step {hosting : Hosting} {world : World} (valid : StreamInv hosting world) (event : Event) :
    StreamInv hosting (step world event) :=
  ⟨(rounds_step world event).rom.trans valid.rom, (rounds_step world event).perUpdate valid.perUpdate⟩

theorem StreamInv.start (hosting : Hosting) : StreamInv hosting (start hosting) :=
  ⟨rfl, show 1 ≤ blocksPerUpdate by decide⟩

/-- The host, with another value of the 8-bit counter. -/
def World.counting (world : World) (rotate : UInt8) : World :=
  { world with host := { world.host with rotate := rotate.toNat } }

theorem StreamInv.counting {hosting : Hosting} {world : World} (valid : StreamInv hosting world)
    (rotate : UInt8) : StreamInv hosting (world.counting rotate) := ⟨valid.rom, valid.perUpdate⟩

/-- Whatever value the counter has: among sixteen calls whose frames the ring takes there is
one for each client that wants a block at all of them, which queues the block that the
client wants then. -/
theorem wanted_block_queued (hosting : Hosting) (small : hosting.imageSize < 2 ^ 30) (before : List Event)
    (rotate : UInt8) {aid : Nat} (known : aid ∈ aids) (events : List Event)
    (served : EachStep step (fun world event => ∀ call ∈ streamCall world event,
      call.Accepted ∧ Wants call.before.host aid) ((run step (start hosting) before).counting rotate) events)
    (calls : 16 ≤ countSteps step (fun world event => (streamCall world event).isSome)
      ((run step (start hosting) before).counting rotate) events) :
    SomeStep step (fun world event => ∃ call ∈ streamCall world event,
        (call.before.host.clients aid).nextBlock ∈ queuedBlocks call.notes)
      ((run step (start hosting) before).counting rotate) events := by
  have kept : ∀ world event, StreamInv hosting world → StreamInv hosting (step world event) :=
    fun _ event valid => valid.step event
  have reached : StreamInv hosting (run step (start hosting) before) :=
    run_invariant kept _ before (.start hosting)
  have initial := reached.counting rotate
  refine some_step_of_due (fun k world => BeginsWithin world.host.rotate aid k)
    (fun world event valid _ => kept world event valid) ?_ ?_ 15 _ _ initial served (begins_all known _) calls
  · intro k world event valid now soon counts
    obtain ⟨call, found⟩ := Option.isSome_iff_exists.mp counts
    obtain ⟨_, rom, perUpdate, counter⟩ := streamCall_step found
    obtain ⟨accepted, wants⟩ := now call found
    -- the client is the first of the rotation, or one call closer to being the first
    rcases begins_next soon with begins | ⟨less, below, sooner⟩
    · have streams : Streamable call.before.host.rom := by
        rw [rom, valid.rom]
        exact streamable_hosting hosting small
      exact .inl ⟨call, found, first_queued streams (perUpdate ▸ valid.perUpdate) accepted wants (counter ▸ begins)⟩
    · refine .inr ⟨less, below, ?_⟩
      rw [(rounds_step world event).rotate, if_pos counts]
      exact sooner
  · intro k world event valid now soon other
    rw [(rounds_step world event).rotate, if_neg (by simp [other])]
    exact soon

/-- One block in a pass, and a console that wants the third. -/
def asksThird : List Event :=
  .setPace 1 1 :: arrivesEvents (1, 2, 3) ++ (takesProgram (1, 2, 3)).take 7 ++ [saysEvent (1, 2, 3) 9 [2, 0, 2, 0]]

/-- Sixteen calls, in which the counter comes from 255 to 0. -/
theorem wanted_block_queued_wrap : SomeStep step (fun world event => ∃ call ∈ streamCall world event,
      (call.before.host.clients 1).nextBlock ∈ queuedBlocks call.notes)
    ((run step (start smallHosting) asksThird).counting 250) (List.replicate 16 (passEvent plainPass)) :=
  wanted_block_queued smallHosting (by decide) asksThird 250 (by decide) _ (by decide +kernel) (by decide +kernel)

end Dswifi.DlPlay
