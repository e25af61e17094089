import Mathlib.Logic.Function.Basic
import Dswifi.Runs

/-! The lock word that both CPUs take before they touch a shared table:
`SLasm_Acquire` and `SLasm_Release`, one memory access at a time. A step is the
next access of one of the CPUs, so a run is an interleaving of two instruction
streams. Between two accesses a routine only compares registers. -/

namespace Dswifi.Spinlock
open Runs

inductive Cpu where
  | arm7
  | arm9
  deriving DecidableEq, Repr

def Cpu.other : Cpu → Cpu
  | .arm7 => .arm9
  | .arm9 => .arm7

@[simp] theorem Cpu.other_other (cpu : Cpu) : cpu.other.other = cpu := by cases cpu <;> rfl

@[simp] theorem Cpu.other_ne (cpu : Cpu) : cpu.other ≠ cpu := by cases cpu <;> nofun

@[simp] theorem Cpu.ne_other (cpu : Cpu) : cpu ≠ cpu.other := by cases cpu <;> nofun

theorem Cpu.eq_or_other (cpu each : Cpu) : each = cpu ∨ each = cpu.other := by
  cases cpu <;> cases each <;> simp [Cpu.other]

/-- What the lock word holds: `SPINLOCK_OWNER_NOBODY`, `_ARM7` and `_ARM9`. -/
inductive Owner where
  | nobody
  | of (cpu : Cpu)
  deriving DecidableEq, Repr

/-- `SPINLOCK_OK`, `SPINLOCK_INUSE` and `SPINLOCK_ERROR`. -/
inductive Status where
  | ok
  | inUse
  | error
  deriving DecidableEq, Repr

/-- The access a CPU makes next. `idle` is the `ldr` of an acquire and `holding`
the `ldr` of a release; `acquireRevert` still has the word the first `swp` took. -/
inductive Pc where
  | idle
  | acquireSwap
  | acquireRevert (taken : Owner)
  | holding
  | releaseSwap
  deriving DecidableEq, Repr

structure Lock where
  word : Owner
  pc : Cpu → Pc

def Lock.free : Lock := ⟨.nobody, fun _ => .idle⟩

/-- What one access does: the word it leaves, the access that follows it, and
what the routine returns if that access was its last. -/
def access (word : Owner) (cpu : Cpu) : Pc → Owner × Pc × Option Status
  | .idle => if word ≠ .nobody then (word, .idle, some .inUse) else (word, .acquireSwap, none)
  | .acquireSwap =>
      if word = .nobody ∨ word = .of cpu then (.of cpu, .holding, some .ok)
      else (.of cpu, .acquireRevert word, none)
  | .acquireRevert taken => (taken, .idle, some .inUse)
  | .holding => if word ≠ .of cpu then (word, .idle, some .error) else (word, .releaseSwap, none)
  | .releaseSwap => (.nobody, .idle, some (if word = .of cpu then .ok else .error))

def step (lock : Lock) (cpu : Cpu) : Lock :=
  let next := access lock.word cpu (lock.pc cpu)
  ⟨next.1, Function.update lock.pc cpu next.2.1⟩

def returns (lock : Lock) (cpu : Cpu) : Option Status := (access lock.word cpu (lock.pc cpu)).2.2

/-- From the acquire that returned `SPINLOCK_OK` to the last access of the release. -/
def Pc.Inside : Pc → Prop
  | .holding | .releaseSwap => True
  | _ => False

instance : DecidablePred Pc.Inside := fun pc => by cases pc <;> unfold Pc.Inside <;> infer_instance

@[simp] theorem idle_outside : ¬ Pc.idle.Inside := id
@[simp] theorem swap_outside : ¬ Pc.acquireSwap.Inside := id
@[simp] theorem revert_outside (taken : Owner) : ¬ (Pc.acquireRevert taken).Inside := id
@[simp] theorem holding_inside : Pc.holding.Inside := trivial
@[simp] theorem release_inside : Pc.releaseSwap.Inside := trivial

@[simp] theorem step_pc_self (lock : Lock) (cpu : Cpu) :
    (step lock cpu).pc cpu = (access lock.word cpu (lock.pc cpu)).2.1 := by simp [step]

@[simp] theorem step_pc_other (lock : Lock) (cpu : Cpu) :
    (step lock cpu).pc cpu.other = lock.pc cpu.other := by simp [step]

@[simp] theorem step_word (lock : Lock) (cpu : Cpu) :
    (step lock cpu).word = (access lock.word cpu (lock.pc cpu)).1 := rfl

theorem word_cases (word : Owner) (cpu : Cpu) :
    word = .nobody ∨ word = .of cpu ∨ word = .of cpu.other := by
  cases word with
  | nobody => exact .inl rfl
  | of owner => cases cpu.eq_or_other owner <;> simp_all

/-- What the lock word, one CPU's place and the other CPU's place say together. -/
structure Holds (cpu : Cpu) (word : Owner) (mine theirs : Pc) : Prop where
  -- a CPU inside is named by the word, or the other one is about to put its name back
  inside : mine.Inside → ¬ theirs.Inside ∧
    (word = .of cpu ∨ word = .of cpu.other ∧ theirs = .acquireRevert (.of cpu))
  revert : ∀ taken, mine = .acquireRevert taken →
    taken = .of cpu.other ∧ ∀ other, theirs ≠ .acquireRevert other
  -- the word found free has been taken since, and by a CPU that still is inside
  swaps : mine = .acquireSwap → word = .of cpu.other → theirs.Inside

def Inv (lock : Lock) : Prop := ∀ cpu, Holds cpu lock.word (lock.pc cpu) (lock.pc cpu.other)

theorem inv_free : Inv Lock.free := fun _ => ⟨nofun, nofun, nofun⟩

variable {cpu : Cpu} {word : Owner} {mine theirs : Pc}

theorem access_mine (own : Holds cpu word mine theirs) (their : Holds cpu.other word theirs mine) :
    Holds cpu (access word cpu mine).1 (access word cpu mine).2.1 theirs := by
  cases mine with
  | idle =>
      by_cases free : word = .nobody
      · subst free
        constructor <;> simp [access]
      · simpa [access, free] using own
  | acquireSwap =>
      by_cases taken : word = .nobody ∨ word = .of cpu
      · have out : ¬ theirs.Inside := by
          intro inside
          have named := (their.inside inside).2
          rcases taken with taken | taken <;> simp [taken] at named
        constructor <;> simp [access, taken, out]
      · have named : word = .of cpu.other := by
          rcases word_cases word cpu with free | mine | named
          · exact absurd (.inl free) taken
          · exact absurd (.inr mine) taken
          · exact named
        subst named
        have inside : theirs.Inside := own.swaps rfl rfl
        have first : ∀ other, theirs ≠ .acquireRevert other := by
          rintro other rfl
          exact inside
        constructor <;> simp [access, first]
  | acquireRevert taken => constructor <;> simp [access]
  | holding =>
      by_cases named : word = .of cpu
      · constructor <;> simp [access, named, (own.inside trivial).1]
      · constructor <;> simp [access, named]
  | releaseSwap => constructor <;> simp [access]

theorem access_theirs (own : Holds cpu word mine theirs) (their : Holds cpu.other word theirs mine) :
    Holds cpu.other (access word cpu mine).1 theirs (access word cpu mine).2.1 := by
  cases mine with
  | idle =>
      by_cases free : word = .nobody
      · subst free
        constructor
        · intro inside
          simpa using (their.inside inside).2
        · intro taken same
          have := their.revert taken same
          simp_all [access]
        · simp [access]
      · simpa [access, free] using their
  | acquireSwap =>
      by_cases taken : word = .nobody ∨ word = .of cpu
      · constructor
        · intro inside
          have named := (their.inside inside).2
          rcases taken with taken | taken <;> simp [taken] at named
        · intro old same
          have := their.revert old same
          simp_all [access]
        · simp [access, taken]
      · have named : word = .of cpu.other := by
          rcases word_cases word cpu with free | mine | named
          · exact absurd (.inl free) taken
          · exact absurd (.inr mine) taken
          · exact named
        subst named
        have inside : theirs.Inside := own.swaps rfl rfl
        constructor
        · intro
          simp [access]
        · rintro old rfl
          exact absurd inside (revert_outside old)
        · rintro rfl
          exact absurd inside swap_outside
  | acquireRevert taken =>
      obtain ⟨named, alone⟩ := own.revert taken rfl
      subst named
      constructor
      · intro inside
        simp [access]
      · intro old same
        exact absurd same (alone old)
      · simp [access]
  | holding =>
      have out := (own.inside trivial).1
      constructor
      · intro inside
        exact absurd inside out
      · intro old same
        have := their.revert old same
        by_cases named : word = .of cpu <;> simp_all [access]
      · by_cases named : word = .of cpu <;> simp [access, named]
  | releaseSwap =>
      have out := (own.inside trivial).1
      constructor
      · intro inside
        exact absurd inside out
      · intro old same
        have := their.revert old same
        simp_all [access]
      · simp [access]

theorem inv_step (lock : Lock) (cpu : Cpu) (inv : Inv lock) : Inv (step lock cpu) := by
  have own := inv cpu
  have their := inv cpu.other
  rw [Cpu.other_other] at their
  intro each
  rcases cpu.eq_or_other each with same | same <;> subst same
  · simpa using access_mine own their
  · simpa using access_theirs own their

theorem inv_run (schedule : List Cpu) : Inv (run step .free schedule) :=
  run_invariant inv_step .free schedule inv_free

/-- Whatever the order of the accesses, the two CPUs are never inside together. -/
theorem mutual_exclusion (schedule : List Cpu) (cpu : Cpu) :
    ¬ (((run step .free schedule).pc cpu).Inside ∧ ((run step .free schedule).pc cpu.other).Inside) := by
  intro both
  exact ((inv_run schedule cpu).inside both.1).1 both.2

/-! The header says that a release which finds the word set wrongly waits until
the other CPU has put it back. The routine returns `SPINLOCK_ERROR` instead. -/

/-- No access of a release is made between the two swaps of the other CPU's acquire. -/
def Apart (lock : Lock) (cpu : Cpu) : Prop :=
  (lock.pc cpu).Inside → ∀ taken, lock.pc cpu.other ≠ .acquireRevert taken

/-- As long as the releases stay apart, the word is what the places say it is. -/
structure Orderly (cpu : Cpu) (word : Owner) (mine theirs : Pc) : Prop where
  reverts : ∀ taken, mine = .acquireRevert taken → word = .of cpu ∧ theirs.Inside
  named : word = .of cpu → mine.Inside ∨ ∃ taken, mine = .acquireRevert taken

def OrderlyInv (lock : Lock) : Prop :=
  Inv lock ∧ ∀ cpu, Orderly cpu lock.word (lock.pc cpu) (lock.pc cpu.other)

theorem orderly_free : OrderlyInv Lock.free := ⟨inv_free, fun _ => ⟨nofun, nofun⟩⟩

theorem returns_error_iff (lock : Lock) (cpu : Cpu) :
    returns lock cpu = some .error ↔ (lock.pc cpu).Inside ∧ lock.word ≠ .of cpu := by
  unfold returns
  cases lock.pc cpu with
  | idle => by_cases free : lock.word = .nobody <;> simp [access, free]
  | acquireSwap => by_cases taken : lock.word = .nobody ∨ lock.word = .of cpu <;> simp [access, taken]
  | acquireRevert taken => simp [access]
  | holding => by_cases named : lock.word = .of cpu <;> simp [access, named]
  | releaseSwap => by_cases named : lock.word = .of cpu <;> simp [access, named]

/-- With the word orderly, a release fails exactly between the other CPU's two swaps. -/
theorem release_exact (lock : Lock) (cpu : Cpu) (inv : OrderlyInv lock) :
    returns lock cpu ≠ some .error ↔ Apart lock cpu := by
  rw [Ne, returns_error_iff]
  constructor
  · intro fine inside taken reverting
    have named := (inv.2 cpu.other).reverts taken reverting
    exact fine ⟨inside, by simp [named.1]⟩
  · rintro apart ⟨inside, wrong⟩
    rcases ((inv.1 cpu).inside inside).2 with right | ⟨_, reverting⟩
    · exact wrong right
    · exact apart inside _ reverting

theorem orderly_mine (held : Holds cpu word mine theirs) (own : Orderly cpu word mine theirs)
    (apart : mine.Inside → ∀ taken, theirs ≠ .acquireRevert taken) :
    Orderly cpu (access word cpu mine).1 (access word cpu mine).2.1 theirs := by
  cases mine with
  | idle =>
      by_cases free : word = .nobody
      · subst free
        constructor <;> simp [access]
      · simpa [access, free] using own
  | acquireSwap =>
      by_cases taken : word = .nobody ∨ word = .of cpu
      · constructor <;> simp [access, taken]
      · have inside : theirs.Inside := by
          rcases word_cases word cpu with free | mine | named
          · exact absurd (.inl free) taken
          · exact absurd (.inr mine) taken
          · exact held.swaps rfl named
        constructor <;> simp [access, taken, inside]
  | acquireRevert taken =>
      have named := (held.revert taken rfl).1
      subst named
      constructor <;> simp [access]
  | holding =>
      have named : word = .of cpu := by
        rcases (held.inside trivial).2 with right | ⟨_, reverting⟩
        · exact right
        · exact absurd reverting (apart trivial _)
      constructor <;> simp [access, named]
  | releaseSwap => constructor <;> simp [access]

theorem orderly_theirs (held : Holds cpu word mine theirs) (own : Orderly cpu word mine theirs)
    (their : Orderly cpu.other word theirs mine) (apart : mine.Inside → ∀ taken, theirs ≠ .acquireRevert taken) :
    Orderly cpu.other (access word cpu mine).1 theirs (access word cpu mine).2.1 := by
  cases mine with
  | idle =>
      by_cases free : word = .nobody
      · subst free
        constructor
        · intro taken same
          exact absurd (their.reverts taken same).1 nofun
        · simp [access]
      · simpa [access, free] using their
  | acquireSwap =>
      constructor
      · intro taken same
        exact absurd (their.reverts taken same).2 swap_outside
      · by_cases taken : word = .nobody ∨ word = .of cpu <;> simp [access, taken]
  | acquireRevert taken =>
      have inside := (own.reverts taken rfl).2
      constructor
      · rintro old rfl
        exact absurd inside (revert_outside old)
      · intro
        exact .inl inside
  | holding =>
      have named : word = .of cpu := by
        rcases (held.inside trivial).2 with right | ⟨_, reverting⟩
        · exact right
        · exact absurd reverting (apart trivial _)
      constructor
      · intro taken same
        exact absurd same (apart trivial taken)
      · simp [access, named]
  | releaseSwap =>
      constructor
      · intro taken same
        exact absurd same (apart trivial taken)
      · simp [access]

theorem orderly_step (lock : Lock) (cpu : Cpu) (inv : OrderlyInv lock) (apart : Apart lock cpu) :
    OrderlyInv (step lock cpu) := by
  obtain ⟨holds, orderly⟩ := inv
  apply And.intro (inv_step lock cpu holds)
  have own := orderly cpu
  have their := orderly cpu.other
  rw [Cpu.other_other] at their
  intro each
  rcases cpu.eq_or_other each with same | same <;> subst same
  · simpa using orderly_mine (holds each) own apart
  · simpa using orderly_theirs (holds cpu) own their apart

/-- The releases of a run all return `SPINLOCK_OK` exactly when none of their
accesses is made between two swaps of the other CPU; then the word is free
again whenever both CPUs are out. -/
theorem releases_succeed_iff (schedule : List Cpu) :
    (EachStep step (fun lock cpu => returns lock cpu ≠ some .error) .free schedule ↔
      EachStep step Apart .free schedule) ∧
    (EachStep step Apart .free schedule →
      (∀ cpu, ¬ ((run step .free schedule).pc cpu).Inside) → (run step .free schedule).word = .nobody) := by
  constructor
  · exact each_step_iff_guard orderly_step release_exact .free schedule orderly_free
  · intro apart out
    have inv := (run_invariant_of_guard orderly_step .free schedule orderly_free apart).2
    cases named : (run step .free schedule).word with
    | nobody => rfl
    | of cpu =>
        rcases (inv cpu).named named with inside | ⟨taken, reverting⟩
        · exact absurd inside (out cpu)
        · exact absurd ((inv cpu).reverts taken reverting).2 (out cpu.other)

/-- The word names a CPU, and no CPU is left that could take it away. -/
def Lost (lock : Lock) : Prop :=
  lock.word ≠ .nobody ∧ ∀ cpu, ¬ (lock.pc cpu).Inside ∧ lock.pc cpu ≠ .acquireSwap

theorem lost_step (lock : Lock) (cpu : Cpu) (lost : Inv lock ∧ Lost lock) :
    Inv (step lock cpu) ∧ Lost (step lock cpu) := by
  obtain ⟨inv, named, out⟩ := lost
  apply And.intro (inv_step lock cpu inv)
  have other : ¬ ((step lock cpu).pc cpu.other).Inside ∧ (step lock cpu).pc cpu.other ≠ .acquireSwap := by
    rw [step_pc_other]
    exact out cpu.other
  have here : (step lock cpu).word ≠ .nobody ∧
      ¬ ((step lock cpu).pc cpu).Inside ∧ (step lock cpu).pc cpu ≠ .acquireSwap := by
    rw [step_word, step_pc_self]
    cases place : lock.pc cpu with
    | idle => simp [access, named]
    | acquireRevert taken => simp [access, ((inv cpu).revert taken place).1]
    | acquireSwap => exact absurd place (out cpu).2
    | holding => exact absurd (place ▸ holding_inside) (out cpu).1
    | releaseSwap => exact absurd (place ▸ release_inside) (out cpu).1
  apply And.intro here.1
  intro each
  rcases cpu.eq_or_other each with same | same <;> subst same
  · exact here.2
  · exact other

/-- Unless the word is lost, at most two accesses lead a CPU inside. -/
theorem enters_of_not_lost (lock : Lock) (inv : Inv lock) (kept : ¬ Lost lock) :
    ∃ later cpu, ((run step lock later).pc cpu).Inside := by
  by_cases inside : ∃ cpu, (lock.pc cpu).Inside
  · obtain ⟨cpu, inside⟩ := inside
    exact ⟨[], cpu, inside⟩
  push Not at inside
  by_cases swaps : ∃ cpu, lock.pc cpu = .acquireSwap
  · obtain ⟨cpu, swaps⟩ := swaps
    have free : lock.word = .nobody ∨ lock.word = .of cpu := by
      rcases word_cases lock.word cpu with free | mine | named
      · exact .inl free
      · exact .inr mine
      · exact absurd ((inv cpu).swaps swaps named) (inside cpu.other)
    exact ⟨[cpu], cpu, by simp [swaps, access, free]⟩
  push Not at swaps
  have free : lock.word = .nobody := by
    by_contra named
    exact kept ⟨named, fun cpu => ⟨inside cpu, swaps cpu⟩⟩
  -- one of the CPUs is about to load the word
  have waits : ∃ cpu, lock.pc cpu = .idle := by
    cases place : lock.pc .arm7 with
    | idle => exact ⟨.arm7, place⟩
    | acquireRevert taken =>
        have alone := ((inv .arm7).revert taken place).2
        cases their : lock.pc .arm9 with
        | idle => exact ⟨.arm9, their⟩
        | acquireRevert other => exact absurd their (alone other)
        | acquireSwap => exact absurd their (swaps .arm9)
        | holding => exact absurd (their ▸ holding_inside) (inside .arm9)
        | releaseSwap => exact absurd (their ▸ release_inside) (inside .arm9)
    | acquireSwap => exact absurd place (swaps .arm7)
    | holding => exact absurd (place ▸ holding_inside) (inside .arm7)
    | releaseSwap => exact absurd (place ▸ release_inside) (inside .arm7)
  obtain ⟨cpu, idle⟩ := waits
  exact ⟨[cpu, cpu], cpu, by simp [idle, access, free]⟩

/-- Exactly a lost word is never taken again by either CPU, however the two go
on; and a release whose load fails has lost it. -/
theorem lost_iff (schedule : List Cpu) :
    (Lost (run step .free schedule) ↔
      ∀ later cpu, ¬ ((run step .free (schedule ++ later)).pc cpu).Inside) ∧
    ∀ cpu, (run step .free schedule).pc cpu = .holding →
      returns (run step .free schedule) cpu = some .error → Lost (run step .free (schedule ++ [cpu])) := by
  have inv := inv_run schedule
  simp only [run_append, run_cons, run_nil]
  constructor
  · constructor
    · intro lost later cpu
      exact ((run_invariant lost_step _ later ⟨inv, lost⟩).2.2 cpu).1
    · intro never
      by_contra kept
      obtain ⟨later, cpu, inside⟩ := enters_of_not_lost _ inv kept
      exact never later cpu inside
  · intro cpu holding failed
    rw [returns_error_iff] at failed
    have reverting := ((inv cpu).inside failed.1).2.resolve_left failed.2
    constructor
    · simp [holding, access, reverting.1]
    · intro each
      rcases cpu.eq_or_other each with same | same <;> subst same
      · simp [holding, access, failed.2]
      · simp [reverting.2]

/-! The table behind the lock. Both CPUs change it between an acquire that
returned `SPINLOCK_OK` and the release, apart from `Wifi_MPHost_KickByAID`,
which only turns the interrupts of its own CPU off. -/
section Guarded
universe u
variable {Table : Type u}

structure Guarded (Table : Type u) where
  lock : Lock
  table : Table

inductive Event (Table : Type u) where
  | instruction (cpu : Cpu)
  | locked (cpu : Cpu) (change : Table → Table)
  | kick (change : Table → Table)

def Guarded.step (state : Guarded Table) : Event Table → Guarded Table
  | .instruction cpu => { state with lock := Spinlock.step state.lock cpu }
  | .locked _ change | .kick change => { state with table := change state.table }

/-- Where the two programs make their locked changes. -/
def InSection (state : Guarded Table) : Event Table → Prop
  | .locked cpu _ => state.lock.pc cpu = .holding
  | _ => True

/-- The change an event makes, as seen from the section of `cpu`. -/
def Event.seen (cpu : Cpu) : Event Table → Option (Table → Table)
  | .instruction _ => none
  | .locked actor change => if actor = cpu then some change else none
  | .kick change => some change

theorem guarded_inv (state : Guarded Table) (event : Event Table) (inv : Inv state.lock) :
    Inv (state.step event).lock := by
  cases event with
  | instruction cpu => exact inv_step state.lock cpu inv
  | locked cpu change => exact inv
  | kick change => exact inv

/-- While one CPU is inside, an event changes the table as that CPU sees it. -/
theorem section_step {state : Guarded Table} {event : Event Table} (inv : Inv state.lock)
    (placed : InSection state event) (inside : (state.lock.pc cpu).Inside) :
    (state.step event).table = ((event.seen cpu).getD id) state.table := by
  cases event with
  | instruction actor => rfl
  | kick change => rfl
  | locked actor change =>
      by_cases own : actor = cpu
      · simp [Guarded.step, Event.seen, own]
      · have theirs : actor = cpu.other := (cpu.eq_or_other actor).resolve_left own
        subst theirs
        have held : state.lock.pc cpu.other = .holding := placed
        exact absurd (held ▸ holding_inside) ((inv cpu).inside inside).1

/-- From an acquire to its release a CPU works on the table alone: the other CPU's
locked changes all fall before or after, and only a kick comes in between. -/
theorem sections_atomic (before during : List (Event Table)) (cpu : Cpu) (table : Table)
    (placed : EachStep Guarded.step InSection ⟨.free, table⟩ (before ++ during))
    (inside : EachStep Guarded.step (fun state _ => (state.lock.pc cpu).Inside)
      (run Guarded.step ⟨.free, table⟩ before) during) :
    (run Guarded.step ⟨.free, table⟩ (before ++ during)).table =
      (during.filterMap (Event.seen cpu)).foldl (fun table change => change table)
        (run Guarded.step ⟨.free, table⟩ before).table := by
  rw [run_append]
  have inv : Inv (run Guarded.step ⟨.free, table⟩ before).lock :=
    run_invariant guarded_inv _ before inv_free
  have later := ((each_step_append Guarded.step InSection _ before during).mp placed).2
  clear placed
  generalize run Guarded.step ⟨.free, table⟩ before = state at inv later inside
  induction during generalizing state with
  | nil => rfl
  | cons event rest ih =>
      have now := section_step inv later.1 inside.1
      rw [run_cons, ih _ (guarded_inv state event inv) later.2 inside.2, now]
      cases seen : event.seen cpu <;> simp [seen]

/-- A kick of the ARM7 falls into a section of the ARM9, a locked change of the ARM7 does not. -/
theorem sections_atomic_kick :
    (run Guarded.step ⟨.free, 3⟩ ([.instruction .arm9, .instruction .arm9] ++
      [.locked .arm9 (· + 1), .instruction .arm7, .kick (· * 2)] : List (Event Nat))).table = 8 :=
  sections_atomic [.instruction .arm9, .instruction .arm9]
    [.locked .arm9 (· + 1), .instruction .arm7, .kick (· * 2)] .arm9 3
    ⟨trivial, trivial, rfl, trivial, trivial, trivial⟩ ⟨trivial, trivial, trivial, trivial⟩

end Guarded

end Dswifi.Spinlock
