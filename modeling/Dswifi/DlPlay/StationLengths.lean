import Dswifi.DlPlay.StationTransfers

/-! A request is answered by the length of its content, then by the content. The
counter that leads from the one to the other moves on whether or not the ring took
the announcement. -/

namespace Dswifi.DlPlay

open Runs MpHost

/-- No console has been sent content whose length was not announced before. -/
def LengthFirst (world : World) (event : Event) : Prop :=
  ∀ aid, aid ∈ aids → ∀ current, (step world event).transfer aid = some current →
    current.queued ≠ [] → current.announced = true

/-- The ring takes the length that a pass announces to a console whose request it finds. -/
def TakesAnswers (world : World) : Event → Prop
  | .update ready beaconOk pass => ∀ aid, aid ∈ aids →
      (world.host.clients aid).station.pending = true →
        Takes (IsLength aid) pass world (update ready beaconOk pass world)
  | _ => True

def Announced (transfer : Option Transfer) : Prop :=
  ∀ current, transfer = some current → current.announced = true

theorem Announced.map {transfer : Option Transfer} (before : Announced transfer)
    (change : Transfer → Transfer) (kept : ∀ current : Transfer, current.announced = true →
      (change current).announced = true) : Announced (transfer.map change) := by
  intro current found
  obtain ⟨old, same, rfl⟩ := Option.map_eq_some_iff.mp found
  exact kept old (before old same)

theorem ServeTurn.announced {pass : Pass} {taken : Prop} {asked : Bool}
    {transfer next : Option Transfer} {cursor after : Cursor}
    (turn : ServeTurn pass taken asked transfer cursor next after) (before : Announced transfer)
    (answers : asked = true → taken) : Announced next := by
  cases turn with
  | accepted asking port size handle nonempty heard told =>
      intro current found
      obtain rfl := Option.some.inj found
      obtain rfl := told (answers asking)
      rfl
  | announces state early told =>
      exact before.map _ fun current announced => by simp [Transfer.hear, announced]
  | chunk | ending => exact before.map _ fun _ => id
  | waits | begins | refused | failed | finished => exact before

structure AnnouncedInv (world : World) : Prop where
  host : HostInv world
  announced : ∀ aid, aid ∈ aids → Announced (world.transfer aid)

theorem AnnouncedInv.step {world : World} (valid : AnnouncedInv world) (event : Event)
    (taken : TakesAnswers world event) : AnnouncedInv (step world event) := by
  refine ⟨valid.host.step event, fun aid member => ?_⟩
  have before := valid.announced aid member
  have moved := station_step valid.host event aid
  generalize reached : DlPlay.step world event = next at moved ⊢
  cases moved with
  | quiet _ kept log =>
      rw [transfer_silent log]
      exact before
  | left _ blank log told =>
      rw [transfer_same log]
      exact before
  | served ready beaconOk pass middle here _ first station last =>
      subst reached
      exact (served_turn here first station last).announced before (taken aid member)

theorem AnnouncedInv.start (hosting : Hosting) : AnnouncedInv (start hosting) :=
  ⟨.start hosting, fun _ _ => nofun⟩

theorem AnnouncedInv.length_step {world : World} (valid : AnnouncedInv world) (event : Event)
    (taken : TakesAnswers world event) : LengthFirst world event :=
  fun aid member current found _ => (valid.step event taken).announced aid member current found

/-- A length that the ring takes goes out before the content. -/
theorem length_first (hosting : Hosting) (events : List Event)
    (taken : EachStep step TakesAnswers (start hosting) events) :
    EachStep step LengthFirst (start hosting) events :=
  each_step_of_guard (fun _ event valid taken => AnnouncedInv.step valid event taken)
    (fun _ event valid taken => valid.length_step event taken) _ _ (.start hosting) taken

theorem length_first_menu : EachStep step LengthFirst (start smallHosting) menuEvents := by
  refine length_first smallHosting menuEvents (each_step_of_actions menuEvents
    (fun event member world => ?_) _)
  cases event with
  | update ready beaconOk other =>
      obtain rfl := asksMenu_passes member
      exact fun _ _ _ _ _ _ _ _ _ => rfl
  | _ => trivial

/-- The ring is full in the one pass that answers. -/
def lostLength : List Event :=
  asksMenu (1, 2, 3) (contentPass 40 menuFile) ++
    [passEvent { contentPass 40 menuFile with txAccepts := fun _ => false }] ++
    List.replicate 2 (passEvent (contentPass 40 menuFile))

theorem length_lost : ¬ EachStep step LengthFirst (start smallHosting)
    (lostLength ++ [passEvent (contentPass 40 menuFile)]) := by
  intro first
  have last := ((each_step_append _ _ _ _ _).mp first).2.1
  have current : ((step (run step (start smallHosting) lostLength)
      (passEvent (contentPass 40 menuFile))).transfer 1).map
        (fun current => (current.queued.isEmpty, current.announced)) = some (false, false) := by
    decide +kernel
  obtain ⟨transfer, found, same⟩ := Option.map_eq_some_iff.mp current
  obtain ⟨some, silent⟩ := Prod.mk.inj same
  have announced := last 1 (by decide) transfer found (by
    rintro none
    rw [none] at some
    cases some)
  rw [silent] at announced
  cases announced

end Dswifi.DlPlay
