import Mathlib.Data.PNat.Defs
import Dswifi.Fifo
import Dswifi.SlotRing

/-! The mailboxes lwIP's threads send each other messages through. A mailbox is
named by a handle that the callers keep in a variable of theirs; the blocking
calls are loops of attempts, and between two of them other threads run. -/

namespace Dswifi.Lwip

open Runs Fifo

universe u
variable {Msg : Type u}

def mboxNumber : Nat := 10
def mboxMagic : UInt32 := 0xB10C4500
def sysMboxEmpty : UInt32 := 0xFFFFFFFF
def sysArchTimeout : UInt32 := 0xFFFFFFFF

inductive Err where
  | ok
  | mem
  | val
  deriving DecidableEq, Repr

/-- A mailbox has at least one entry: with none the source would store its
first message outside of the array. -/
structure SysMbox (Msg : Type u) where
  size : Nat
  inPtr : Nat
  outPtr : Nat
  arr : Nat → Msg
  inside_in : inPtr < size
  inside_out : outPtr < size

namespace SysMbox

def next (mbox : SysMbox Msg) (ptr : Nat) : Nat := if ptr + 1 = mbox.size then 0 else ptr + 1

theorem next_lt {mbox : SysMbox Msg} {ptr : Nat} (inside : ptr < mbox.size) :
    mbox.next ptr < mbox.size := by
  unfold next
  split <;> omega

/-- The mailbox with the message in it, when an entry is free. -/
def store (mbox : SysMbox Msg) (msg : Msg) : Option (SysMbox Msg) :=
  if mbox.next mbox.inPtr = mbox.outPtr then none else
    some { mbox with
      arr := Function.update mbox.arr mbox.inPtr msg
      inPtr := mbox.next mbox.inPtr
      inside_in := next_lt mbox.inside_in }

/-- The oldest message and the mailbox without it. -/
def take (mbox : SysMbox Msg) : Option (Msg × SysMbox Msg) :=
  if mbox.inPtr = mbox.outPtr then none else
    some (mbox.arr mbox.outPtr,
      { mbox with outPtr := mbox.next mbox.outPtr, inside_out := next_lt mbox.inside_out })

def ring (mbox : SysMbox Msg) : SlotRing Msg :=
  { slot := mbox.arr, write := mbox.inPtr, read := mbox.outPtr }

/-- The messages in a mailbox, oldest first. -/
def queued (mbox : SysMbox Msg) : List Msg := mbox.ring.contents mbox.size

theorem ring_inside (mbox : SysMbox Msg) : mbox.ring.Inside mbox.size :=
  ⟨mbox.inside_in, mbox.inside_out⟩

theorem next_mod {mbox : SysMbox Msg} {ptr : Nat} (inside : ptr < mbox.size) :
    mbox.next ptr = (ptr + 1) % mbox.size :=
  (SlotRing.next_eq inside).symm

theorem store_put (mbox : SysMbox Msg) (msg : Msg) :
    (mbox.store msg).map ring = mbox.ring.put mbox.size msg := by
  have advance := next_mod mbox.inside_in
  by_cases full : mbox.next mbox.inPtr = mbox.outPtr
  · simp [store, SlotRing.put, ring, ← advance, full]
  · simp [store, SlotRing.put, ring, ← advance, full]

theorem store_size {mbox after : SysMbox Msg} {msg : Msg} (stored : mbox.store msg = some after) :
    after.size = mbox.size := by
  unfold store at stored
  split at stored
  · cases stored
  · cases stored
    rfl

theorem store_queued {mbox after : SysMbox Msg} {msg : Msg} (stored : mbox.store msg = some after) :
    after.queued = mbox.queued ++ [msg] := by
  have put := mbox.store_put msg
  rw [stored] at put
  rw [queued, store_size stored]
  exact SlotRing.contents_put mbox.ring_inside put.symm

theorem take_queued {mbox after : SysMbox Msg} {msg : Msg} (taken : mbox.take = some (msg, after)) :
    after.size = mbox.size ∧ mbox.queued = msg :: after.queued := by
  unfold take at taken
  split at taken
  · cases taken
  · rename_i filled
    cases taken
    refine ⟨rfl, ?_⟩
    rw [queued, SlotRing.contents_drop mbox.ring_inside (Ne.symm filled)]
    simp only [queued, ring, SlotRing.drop, next_mod mbox.inside_out]

theorem queued_length (mbox : SysMbox Msg) : mbox.queued.length = mbox.ring.pending mbox.size := by
  simp [queued, SlotRing.contents]

/-- One entry is never used. -/
theorem queued_room (mbox : SysMbox Msg) : mbox.queued.length ≤ mbox.size - 1 := by
  have below : mbox.ring.pending mbox.size < mbox.size :=
    Nat.mod_lt _ (Nat.zero_lt_of_lt mbox.inside_in)
  rw [queued_length]
  omega

theorem queued_count (mbox : SysMbox Msg) :
    mbox.queued.length =
      if mbox.outPtr ≤ mbox.inPtr then mbox.inPtr - mbox.outPtr
      else mbox.inPtr + mbox.size - mbox.outPtr :=
  mbox.queued_length.trans (SlotRing.pending_eq mbox.ring_inside)

/-- A mailbox is full when only the unused entry is left. -/
theorem store_none_iff (mbox : SysMbox Msg) (msg : Msg) :
    mbox.store msg = none ↔ mbox.queued.length = mbox.size - 1 := by
  have refused : mbox.store msg = none ↔ mbox.next mbox.inPtr = mbox.outPtr := by simp [store]
  have write := mbox.inside_in
  have read := mbox.inside_out
  rw [refused, queued_count, next]
  by_cases ahead : mbox.outPtr ≤ mbox.inPtr
  · rw [if_pos ahead]
    split <;> omega
  · rw [if_neg ahead]
    split <;> omega

theorem take_none_iff (mbox : SysMbox Msg) : mbox.take = none ↔ mbox.queued = [] := by
  constructor
  · intro none
    unfold take at none
    split at none
    · exact SlotRing.contents_empty mbox.ring_inside (Eq.symm ‹_›)
    · cases none
  · intro empty
    cases taken : mbox.take with
    | none => rfl
    | some found =>
        obtain ⟨_, queue⟩ := @take_queued _ mbox found.2 found.1 taken
        simp [empty] at queue

end SysMbox

/-- A call a thread is inside: it sleeps between two attempts. `out` is the
variable the message goes to, and none when the caller drops it. -/
inductive Call (Msg : Type u) where
  | post (mbox : Nat) (msg : Msg)
  | fetch (mbox : Nat) (out : Option Nat) (timeout startTime : UInt32)

/-- `handles` are the variables that hold handles and `received` those that
messages are fetched into. -/
structure Sys (Msg : Type u) where
  mboxes : Nat → Option (SysMbox Msg) := fun _ => none
  handles : Nat → UInt32 := fun _ => 0
  received : Nat → Option Msg := fun _ => none
  calls : Nat → Option (Call Msg) := fun _ => none
  msCounter : UInt32 := 0

namespace Sys

def mboxIndex (value : UInt32) : Nat := (value &&& 0xFF).toNat

def mboxNamed (value : UInt32) : Bool := value &&& 0xFFFFFF00 = mboxMagic

/-- The test lets the index right past the table through; no handle that was
given out has it. -/
def getMbox (value : UInt32) (sys : Sys Msg) : Option (SysMbox Msg) :=
  if !mboxNamed value then none else
    if mboxIndex value > mboxNumber then none else sys.mboxes (mboxIndex value)

def chosen (sys : Sys Msg) : Option Nat :=
  (List.range mboxNumber).find? fun i => (sys.mboxes i).isNone

/-- `memory` is what malloc finds, and none when there is none left. -/
def mboxNew (mbox : Option Nat) (size : ℕ+) (memory : Option (Nat → Msg)) (sys : Sys Msg) : Err × Sys Msg :=
  match mbox with
  | none => (.mem, sys)
  | some mbox =>
    match sys.chosen with
    | none => (.mem, sys)
    | some index =>
      match memory with
      | none => (.mem, { sys with handles := Function.update sys.handles mbox 0 })
      | some arr =>
        (.ok, { sys with
          mboxes := Function.update sys.mboxes index
            (some { size, inPtr := 0, outPtr := 0, arr, inside_in := size.pos, inside_out := size.pos })
          handles := Function.update sys.handles mbox (mboxMagic ||| UInt32.ofNat index) })

def mboxTrypost (mbox : Nat) (msg : Msg) (sys : Sys Msg) : Err × Sys Msg :=
  match sys.getMbox (sys.handles mbox) with
  | none => (.val, sys)
  | some m =>
    match m.store msg with
    | none => (.mem, sys)
    | some after =>
      (.ok, { sys with mboxes := Function.update sys.mboxes (mboxIndex (sys.handles mbox)) (some after) })

def mboxTryfetch (mbox : Nat) (out : Option Nat) (sys : Sys Msg) : UInt32 × Sys Msg :=
  match sys.getMbox (sys.handles mbox) with
  | none => (sysMboxEmpty, sys)
  | some m =>
    match m.take with
    | none => (sysMboxEmpty, sys)
    | some (msg, after) =>
      (0, { sys with
        mboxes := Function.update sys.mboxes (mboxIndex (sys.handles mbox)) (some after)
        received :=
          match out with
          | none => sys.received
          | some out => Function.update sys.received out (some msg) })

def mboxFree (mbox : Nat) (sys : Sys Msg) : Sys Msg :=
  let index := mboxIndex (sys.handles mbox)
  if !mboxNamed (sys.handles mbox) then sys else
    if index > mboxNumber then sys else
      match sys.mboxes index with
      | none => sys
      | some _ =>
        { sys with
          mboxes := Function.update sys.mboxes index none
          handles := Function.update sys.handles mbox 0 }

def returned (thread : Nat) (sys : Sys Msg) : Sys Msg :=
  { sys with calls := Function.update sys.calls thread none }

def enter (thread : Nat) (call : Call Msg) (sys : Sys Msg) : Sys Msg :=
  { sys with calls := Function.update sys.calls thread (some call) }

/-- The pass of the loop of `sys_mbox_post`: it goes on while the mailbox is full. -/
def postPass (thread mbox : Nat) (msg : Msg) (sys : Sys Msg) : Sys Msg :=
  match sys.mboxTrypost mbox msg with
  | (.mem, after) => after
  | (_, after) => after.returned thread

/-- The pass of the loop of `sys_arch_mbox_fetch`. -/
def fetchPass (thread mbox : Nat) (out : Option Nat) (timeout startTime : UInt32) (sys : Sys Msg) : Sys Msg :=
  let (ret, after) := sys.mboxTryfetch mbox out
  if ret ≠ sysMboxEmpty then after.returned thread else
    if timeout > 0 ∧ after.msCounter - startTime ≥ timeout then after.returned thread else after

end Sys

/-- What happens next: a thread makes a call, the loop of the call a thread is
inside makes a pass, or the timer of a millisecond ticks. -/
inductive Act (Msg : Type u) where
  | new (mbox : Option Nat) (size : ℕ+) (memory : Option (Nat → Msg))
  | free (mbox : Nat)
  | copy (mbox other : Nat)
  | trypost (mbox : Nat) (msg : Msg)
  | tryfetch (mbox : Nat) (out : Option Nat)
  | post (thread mbox : Nat) (msg : Msg)
  | fetch (thread mbox : Nat) (out : Option Nat) (timeout : UInt32)
  | attempt (thread : Nat)
  | tick

namespace Sys

def step (sys : Sys Msg) : Act Msg → Sys Msg
  | .new mbox size memory => (sys.mboxNew mbox size memory).2
  | .free mbox => sys.mboxFree mbox
  | .copy mbox other => { sys with handles := Function.update sys.handles mbox (sys.handles other) }
  | .trypost mbox msg => (sys.mboxTrypost mbox msg).2
  | .tryfetch mbox out => (sys.mboxTryfetch mbox out).2
  | .post thread mbox msg => sys.enter thread (.post mbox msg)
  | .fetch thread mbox out timeout => sys.enter thread (.fetch mbox out timeout sys.msCounter)
  | .attempt thread =>
    match sys.calls thread with
    | none => sys
    | some (.post mbox msg) => sys.postPass thread mbox msg
    | some (.fetch mbox out timeout startTime) => sys.fetchPass thread mbox out timeout startTime
  | .tick => { sys with msCounter := sys.msCounter + 1 }

/-- What a thread stores or fetches, as the queue of the mailbox of a slot sees it. -/
def stores (index mbox : Nat) (msg : Msg) (sys : Sys Msg) : List (Label Msg) :=
  if mboxIndex (sys.handles mbox) = index ∧ (sys.mboxTrypost mbox msg).1 = .ok then [.enqueue msg] else []

def takes (index mbox : Nat) (out : Option Nat) (sys : Sys Msg) : List (Label Msg) :=
  match sys.getMbox (sys.handles mbox) with
  | none => []
  | some m =>
    if mboxIndex (sys.handles mbox) = index ∧ (sys.mboxTryfetch mbox out).1 = 0
    then [.dequeue (m.arr m.outPtr)] else []

def labels (index : Nat) (sys : Sys Msg) : Act Msg → List (Label Msg)
  | .trypost mbox msg => sys.stores index mbox msg
  | .tryfetch mbox out => sys.takes index mbox out
  | .attempt thread =>
    match sys.calls thread with
    | some (.post mbox msg) => sys.stores index mbox msg
    | some (.fetch mbox out _ _) => sys.takes index mbox out
    | none => []
  | _ => []

/-- Whether a step puts a new mailbox into a slot. -/
def creates (index : Nat) (sys : Sys Msg) : Act Msg → Bool
  | .new (some _) _ (some _) => sys.chosen = some index
  | _ => false

section Attempts
variable {sys : Sys Msg} {mbox index : Nat} {msg : Msg} {out : Option Nat} {m : SysMbox Msg}

theorem getMbox_some {value : UInt32} (found : sys.getMbox value = some m) :
    sys.mboxes (mboxIndex value) = some m := by
  unfold getMbox at found
  split at found
  · cases found
  · split at found
    · cases found
    · exact found

theorem trypost_invalid (invalid : sys.getMbox (sys.handles mbox) = none) :
    sys.mboxTrypost mbox msg = (.val, sys) := by
  simp [mboxTrypost, invalid]

theorem trypost_full (named : sys.getMbox (sys.handles mbox) = some m) (full : m.store msg = none) :
    sys.mboxTrypost mbox msg = (.mem, sys) := by
  simp [mboxTrypost, named, full]

theorem trypost_stored {after : SysMbox Msg} (named : sys.getMbox (sys.handles mbox) = some m)
    (stored : m.store msg = some after) :
    sys.mboxTrypost mbox msg =
      (.ok, { sys with mboxes := Function.update sys.mboxes (mboxIndex (sys.handles mbox)) (some after) }) := by
  simp [mboxTrypost, named, stored]

theorem tryfetch_invalid (invalid : sys.getMbox (sys.handles mbox) = none) :
    sys.mboxTryfetch mbox out = (sysMboxEmpty, sys) := by
  simp [mboxTryfetch, invalid]

theorem tryfetch_empty (named : sys.getMbox (sys.handles mbox) = some m) (empty : m.take = none) :
    sys.mboxTryfetch mbox out = (sysMboxEmpty, sys) := by
  simp [mboxTryfetch, named, empty]

theorem tryfetch_taken {after : SysMbox Msg} (out : Option Nat) (named : sys.getMbox (sys.handles mbox) = some m)
    (taken : m.take = some (msg, after)) :
    (sys.mboxTryfetch mbox out).1 = 0 ∧
      (sys.mboxTryfetch mbox out).2.mboxes =
        Function.update sys.mboxes (mboxIndex (sys.handles mbox)) (some after) ∧
      ∀ place, out = some place → (sys.mboxTryfetch mbox out).2.received place = some msg := by
  simp only [mboxTryfetch, named, taken, true_and]
  rintro place rfl
  exact Function.update_self _ _ _

theorem take_oldest {after : SysMbox Msg} (taken : m.take = some (msg, after)) : m.arr m.outPtr = msg := by
  unfold SysMbox.take at taken
  split at taken
  · cases taken
  · exact (Prod.mk.inj (Option.some.inj taken)).1

theorem slot_after {mboxes : Nat → Option (SysMbox Msg)} {slot : Nat} {next after : SysMbox Msg}
    (later : Function.update mboxes slot (some next) index = some after) :
    slot = index ∧ after = next ∨ slot ≠ index ∧ mboxes index = some after := by
  by_cases here : slot = index
  · subst slot
    rw [Function.update_self] at later
    exact .inl ⟨rfl, (Option.some.inj later).symm⟩
  · rw [Function.update_of_ne (Ne.symm here)] at later
    exact .inr ⟨here, later⟩

/-- An attempt to post moves the queue of every slot as its labels say. -/
theorem trypost_moves {after : SysMbox Msg}
    (later : (sys.mboxTrypost mbox msg).2.mboxes index = some after) :
    ∃ before, sys.mboxes index = some before ∧
      Accepts before.queued (sys.stores index mbox msg) after.queued := by
  cases named : sys.getMbox (sys.handles mbox) with
  | none =>
      rw [stores]
      rw [trypost_invalid named] at later ⊢
      exact ⟨after, later, by simpa using .done _⟩
  | some m =>
      cases stored : m.store msg with
      | none =>
          rw [stores]
          rw [trypost_full named stored] at later ⊢
          exact ⟨after, later, by simpa using .done _⟩
      | some next =>
          rw [stores]
          rw [trypost_stored named stored] at later ⊢
          dsimp only at later
          rcases slot_after later with ⟨rfl, rfl⟩ | ⟨apart, same⟩
          · refine ⟨m, getMbox_some named, ?_⟩
            simpa [SysMbox.store_queued stored] using .enqueue msg (.done _)
          · exact ⟨after, same, by simpa [apart] using .done _⟩

theorem tryfetch_moves {after : SysMbox Msg}
    (later : (sys.mboxTryfetch mbox out).2.mboxes index = some after) :
    ∃ before, sys.mboxes index = some before ∧
      Accepts before.queued (sys.takes index mbox out) after.queued := by
  cases named : sys.getMbox (sys.handles mbox) with
  | none =>
      rw [tryfetch_invalid named] at later
      exact ⟨after, later, by simpa [takes, named] using .done _⟩
  | some m =>
      cases taken : m.take with
      | none =>
          rw [tryfetch_empty named taken] at later
          refine ⟨after, later, ?_⟩
          simpa [takes, named, tryfetch_empty named taken, sysMboxEmpty] using .done _
      | some found =>
          obtain ⟨msg, next⟩ := found
          obtain ⟨done, moved, _⟩ := tryfetch_taken out named taken
          rw [moved] at later
          rcases slot_after later with ⟨rfl, rfl⟩ | ⟨apart, same⟩
          · refine ⟨m, getMbox_some named, ?_⟩
            rw [(SysMbox.take_queued taken).2]
            simpa [takes, named, done, take_oldest taken] using .dequeue msg (.done _)
          · exact ⟨after, same, by simpa [takes, named, apart] using .done _⟩

end Attempts

section Steps
variable {sys : Sys Msg} {index : Nat} {after : SysMbox Msg}

theorem postPass_mboxes (thread mbox : Nat) (msg : Msg) :
    (sys.postPass thread mbox msg).mboxes = (sys.mboxTrypost mbox msg).2.mboxes := by
  unfold postPass
  split
  · rename_i full
    rw [full]
  · rename_i ended
    rw [ended]
    rfl

theorem fetchPass_mboxes (thread mbox : Nat) (out : Option Nat) (timeout startTime : UInt32) :
    (sys.fetchPass thread mbox out timeout startTime).mboxes = (sys.mboxTryfetch mbox out).2.mboxes := by
  simp only [fetchPass]
  split
  · rfl
  · split <;> rfl

theorem new_moves (mbox : Option Nat) (size : ℕ+) (memory : Option (Nat → Msg))
    (later : (sys.mboxNew mbox size memory).2.mboxes index = some after) :
    if sys.creates index (.new mbox size memory) then after.queued = [] else sys.mboxes index = some after := by
  cases mbox with
  | none => simpa [creates, mboxNew] using later
  | some mbox =>
      cases slot : sys.chosen with
      | none =>
          have kept : sys.mboxes index = some after := by simpa [mboxNew, slot] using later
          cases memory <;> simpa [creates, slot] using kept
      | some free =>
          cases memory with
          | none =>
              simp only [mboxNew, slot] at later
              exact later
          | some arr =>
              simp only [mboxNew, slot] at later
              -- only the slot that was free changes hands
              by_cases here : free = index
              · subst free
                rw [Function.update_self] at later
                obtain rfl := Option.some.inj later
                simp only [creates, slot, decide_true, if_true]
                exact SlotRing.contents_empty (SysMbox.ring_inside _) rfl
              · rw [Function.update_of_ne (Ne.symm here)] at later
                simpa [creates, slot, here] using later

theorem free_moves (mbox : Nat) (later : (sys.mboxFree mbox).mboxes index = some after) :
    sys.mboxes index = some after := by
  simp only [mboxFree] at later
  split at later
  · exact later
  · split at later
    · exact later
    · split at later
      · exact later
      · dsimp only at later
        by_cases here : index = mboxIndex (sys.handles mbox)
        · rw [here, Function.update_self] at later
          cases later
        · rwa [Function.update_of_ne here] at later

/-- What one step does to the mailbox of a slot: it is new and empty, or it was
there and its queue moves as the labels of the step say. -/
theorem step_moves (action : Act Msg) (later : (sys.step action).mboxes index = some after) :
    if sys.creates index action then after.queued = [] else
      ∃ before, sys.mboxes index = some before ∧
        Accepts before.queued (sys.labels index action) after.queued := by
  have still (kept : sys.mboxes index = some after) : ∃ before, sys.mboxes index = some before ∧
      Accepts before.queued [] after.queued := ⟨after, kept, .done _⟩
  cases action with
  | new mbox size memory =>
      have moved := new_moves mbox size memory later
      split at moved
      · rwa [if_pos ‹_›]
      · rw [if_neg ‹_›]
        exact still moved
  | free mbox => exact still (free_moves mbox later)
  | copy mbox other => exact still later
  | trypost mbox msg => exact trypost_moves later
  | tryfetch mbox out => exact tryfetch_moves later
  | post thread mbox msg => exact still later
  | fetch thread mbox out timeout => exact still later
  | tick => exact still later
  | attempt thread =>
      simp only [step] at later
      simp only [creates, labels, Bool.false_eq_true, if_false]
      split at later
      · simpa [*] using still later
      · rw [postPass_mboxes] at later
        simpa [*] using trypost_moves later
      · rw [fetchPass_mboxes] at later
        simpa [*] using tryfetch_moves later

end Steps

section Handles
variable {sys : Sys Msg}

/-- No handle in use has an index outside of the table. -/
def Issued (sys : Sys Msg) : Prop :=
  ∀ place, mboxNamed (sys.handles place) → mboxIndex (sys.handles place) < mboxNumber

theorem issued_update {place : Nat} {value : UInt32} (issued : sys.Issued)
    (valid : mboxNamed value → mboxIndex value < mboxNumber) (other : Nat) :
    mboxNamed (Function.update sys.handles place value other) →
      mboxIndex (Function.update sys.handles place value other) < mboxNumber := by
  by_cases same : other = place
  · subst other
    rwa [Function.update_self]
  · rw [Function.update_of_ne same]
    exact issued other

theorem handle_index : ∀ index < mboxNumber, mboxIndex (mboxMagic ||| UInt32.ofNat index) = index := by
  decide

theorem null_handle : mboxNamed 0 = false := by decide

theorem chosen_lt {index : Nat} (slot : sys.chosen = some index) : index < mboxNumber :=
  List.mem_range.mp (List.mem_of_find?_eq_some slot)

theorem new_issued (mbox : Option Nat) (size : ℕ+) (memory : Option (Nat → Msg)) (issued : sys.Issued) :
    (sys.mboxNew mbox size memory).2.Issued := by
  cases mbox with
  | none => exact issued
  | some mbox =>
      cases slot : sys.chosen with
      | none => simpa [mboxNew, slot] using issued
      | some index =>
          cases memory with
          | none =>
              simp only [mboxNew, slot]
              exact issued_update issued (by simp [null_handle])
          | some arr =>
              simp only [mboxNew, slot]
              refine issued_update issued fun _ => ?_
              rw [handle_index index (chosen_lt slot)]
              exact chosen_lt slot

theorem free_handles (mbox : Nat) : (sys.mboxFree mbox).handles = sys.handles ∨
    (sys.mboxFree mbox).handles = Function.update sys.handles mbox 0 := by
  simp only [mboxFree]
  split
  · exact .inl rfl
  · split
    · exact .inl rfl
    · split
      · exact .inl rfl
      · exact .inr rfl

theorem trypost_handles (mbox : Nat) (msg : Msg) : (sys.mboxTrypost mbox msg).2.handles = sys.handles := by
  simp only [mboxTrypost]
  split
  · rfl
  · split <;> rfl

theorem tryfetch_handles (mbox : Nat) (out : Option Nat) :
    (sys.mboxTryfetch mbox out).2.handles = sys.handles := by
  simp only [mboxTryfetch]
  split
  · rfl
  · split <;> rfl

theorem postPass_handles (thread mbox : Nat) (msg : Msg) :
    (sys.postPass thread mbox msg).handles = sys.handles := by
  have kept := @trypost_handles _ sys mbox msg
  simp only [postPass]
  split <;> simp_all [returned]

theorem fetchPass_handles (thread mbox : Nat) (out : Option Nat) (timeout startTime : UInt32) :
    (sys.fetchPass thread mbox out timeout startTime).handles = sys.handles := by
  have kept := @tryfetch_handles _ sys mbox out
  simp only [fetchPass]
  split
  · exact kept
  · split <;> exact kept

theorem Issued.step (sys : Sys Msg) (action : Act Msg) (issued : sys.Issued) : (sys.step action).Issued := by
  cases action with
  | new mbox size memory => exact new_issued mbox size memory issued
  | free mbox =>
      intro place
      rcases @free_handles _ sys mbox with same | cleared
      · rw [Sys.step, same]
        exact issued place
      · rw [Sys.step, cleared]
        exact issued_update issued (by simp [null_handle]) place
  | copy mbox other => exact issued_update issued (issued other)
  | trypost mbox msg =>
      intro place
      rw [Sys.step, trypost_handles]
      exact issued place
  | tryfetch mbox out =>
      intro place
      rw [Sys.step, tryfetch_handles]
      exact issued place
  | post thread mbox msg => exact issued
  | fetch thread mbox out timeout => exact issued
  | tick => exact issued
  | attempt thread =>
      intro place
      simp only [Sys.step]
      split
      · exact issued place
      · rw [postPass_handles]
        exact issued place
      · rw [fetchPass_handles]
        exact issued place

/-- The index right past the table, which the test of a handle lets through, is
never looked up. -/
theorem issued_run (actions : List (Act Msg)) : (run Sys.step {} actions).Issued :=
  run_invariant Issued.step _ _ (fun _ named => by simp [null_handle] at named)

end Handles

end Sys

/-- The system with, for each slot, what was stored and fetched since the
mailbox in it was made. -/
structure Watched (Msg : Type u) where
  sys : Sys Msg := {}
  log : Nat → List (Label Msg) := fun _ => []

namespace Watched

def step (watched : Watched Msg) (action : Act Msg) : Watched Msg where
  sys := watched.sys.step action
  log index :=
    if watched.sys.creates index action then [] else
      watched.log index ++ watched.sys.labels index action

/-- The log of a mailbox is accepted by a queue, which then holds what it holds. -/
def Orderly (watched : Watched Msg) : Prop :=
  ∀ index mbox, watched.sys.mboxes index = some mbox → Accepts [] (watched.log index) mbox.queued

theorem Orderly.step (watched : Watched Msg) (action : Act Msg) (orderly : watched.Orderly) :
    (watched.step action).Orderly := by
  intro index after later
  have moved := Sys.step_moves action later
  simp only [Watched.step]
  by_cases created : watched.sys.creates index action
  · rw [if_pos created] at moved ⊢
    rw [moved]
    exact .done _
  · rw [if_neg created] at moved ⊢
    obtain ⟨before, there, accepted⟩ := moved
    exact (orderly index before there).append accepted

theorem orderly_run (actions : List (Act Msg)) : (run Watched.step {} actions).Orderly :=
  run_invariant Orderly.step _ _ (fun _ _ none => by cases none)

end Watched

/-- A full mailbox refuses a message and an empty one has none to give; both
are left as they were. -/
structure Sys.Attempts (sys : Sys Msg) : Prop where
  refused : ∀ mbox msg m, sys.getMbox (sys.handles mbox) = some m →
    ((sys.mboxTrypost mbox msg).1 = .ok ∨ (sys.mboxTrypost mbox msg).1 = .mem) ∧
      ((sys.mboxTrypost mbox msg).1 = .mem ↔ m.queued.length = m.size - 1)
  unchanged : ∀ mbox msg, (sys.mboxTrypost mbox msg).1 ≠ .ok → (sys.mboxTrypost mbox msg).2 = sys
  empty : ∀ mbox out m, sys.getMbox (sys.handles mbox) = some m →
    ((sys.mboxTryfetch mbox out).1 = sysMboxEmpty ↔ m.queued = [])
  untouched : ∀ mbox out, (sys.mboxTryfetch mbox out).1 = sysMboxEmpty → (sys.mboxTryfetch mbox out).2 = sys
  oldest : ∀ mbox place m, sys.getMbox (sys.handles mbox) = some m → m.queued ≠ [] →
    (sys.mboxTryfetch mbox (some place)).2.received place = m.queued.head?

theorem Sys.attempts (sys : Sys Msg) : sys.Attempts where
  refused mbox msg m named := by
    rw [← SysMbox.store_none_iff m msg]
    cases stored : m.store msg with
    | none => simp [Sys.trypost_full named stored]
    | some after => simp [Sys.trypost_stored named stored]
  unchanged mbox msg failed := by
    cases named : sys.getMbox (sys.handles mbox) with
    | none => rw [Sys.trypost_invalid named]
    | some m =>
        cases stored : m.store msg with
        | none => rw [Sys.trypost_full named stored]
        | some after => simp [Sys.trypost_stored named stored] at failed
  empty mbox out m named := by
    rw [← SysMbox.take_none_iff]
    cases taken : m.take with
    | none => simp [Sys.tryfetch_empty named taken]
    | some found => simp [(Sys.tryfetch_taken out named taken).1, sysMboxEmpty]
  untouched mbox out failed := by
    cases named : sys.getMbox (sys.handles mbox) with
    | none => rw [Sys.tryfetch_invalid named]
    | some m =>
        cases taken : m.take with
        | none => rw [Sys.tryfetch_empty named taken]
        | some found =>
            rw [(Sys.tryfetch_taken out named taken).1] at failed
            cases failed
  oldest mbox place m named filled := by
    cases taken : m.take with
    | none => exact absurd ((SysMbox.take_none_iff m).mp taken) filled
    | some found =>
        rw [(SysMbox.take_queued taken).2]
        exact (Sys.tryfetch_taken (some place) named taken).2.2 place rfl

/-- In every run, for every mailbox there is: what was stored in it is what was
fetched from it, in order, and then what is in it, which leaves one entry free. -/
theorem mailbox_fifo (actions : List (Act Msg)) :
    let watched := run Watched.step {} actions
    (∀ index mbox, watched.sys.mboxes index = some mbox →
      enqueued (watched.log index) = dequeued (watched.log index) ++ mbox.queued ∧
        mbox.queued.length ≤ mbox.size - 1) ∧
      watched.sys.Attempts := by
  intro watched
  refine ⟨fun index mbox there => ⟨?_, mbox.queued_room⟩, watched.sys.attempts⟩
  simpa using (Watched.orderly_run actions index mbox there).conserves

end Dswifi.Lwip
