import Dswifi.DlPlay.StationVisits

/-! The content of every request, over whole runs: whatever other consoles are
served in between and whichever frames the ring refuses, a console is sent the
chunks of its own file in order, each once, and then the end marker. -/

namespace Dswifi.DlPlay

open Runs MpHost

/-- The contents of the files, by console and number of the request. -/
abbrev Files := Nat → Nat → Nat → UInt8

/-- The reads of a pass succeed, each in the file opened for its request. -/
def ReadsWell (files : Files) (world : World) : Event → Prop
  | .update _ _ pass => ∀ aid, aid ∈ aids → (world.cursor aid).state = .data →
      (world.cursor aid).ended = false → ∀ current, world.transfer aid = some current →
        Reads pass (files aid current.number) current
  | _ => True

/-- A console that is served brings its transfer closer to the end, if it asks for
nothing else and the ring takes what the pass hands over. -/
def Progresses (world : World) (event : Event) (aid : Nat) : Prop :=
  match event with
  | .update _ _ pass => .stationServe aid ∈ recorded world event →
      (world.host.clients aid).station.pending = false →
      (∀ position, pass.txAccepts position = true) →
      (world.cursor aid).state = .sendDelay ∨ (world.cursor aid).state = .data →
      ∀ before after, world.transfer aid = some before → (step world event).transfer aid = some after →
        before.Numbered → toGo after ((step world event).cursor aid) < toGo before (world.cursor aid)
  | _ => True

/-- What every console has been sent of its transfers, of those that `limit` speaks
of. -/
def ContentSent (limit : Transfer → Prop) (files : Files) (world : World) (event : Event) : Prop :=
  ∀ aid, aid ∈ aids → (∀ current, (step world event).transfer aid = some current → limit current →
    Streamed (files aid current.number) current ((step world event).cursor aid)) ∧
      Progresses world event aid

theorem transfer_same {aid : Nat} {world next : World}
    (log : Appends (fun item => Silent aid item ∨ item = .resetOneClient aid) world next) :
    next.transfer aid = world.transfer aid := by
  obtain ⟨items, same, silent⟩ := log
  rw [World.transfer, same, transferOf_append, World.transfer]
  generalize transferOf aid world.log = transfer
  clear same
  induction items with
  | nil => rfl
  | cons item rest ih =>
      have one : follow aid transfer item = transfer :=
        (silent item List.mem_cons_self).elim (fun silent => follow_silent silent transfer)
          fun reset => by rw [reset]; rfl
      rw [List.foldl_cons, one]
      exact ih fun other member => silent other (List.mem_cons_of_mem _ member)

theorem transfer_silent {aid : Nat} {world next : World} (log : Appends (Silent aid) world next) :
    next.transfer aid = world.transfer aid := transfer_same (log.mono fun _ => .inl)

/-- A pass that serves `aid` makes one turn of its transfer. -/
theorem served_turn {pass : Pass} {world before next : World} {aid : Nat}
    (here : world.here aid = true) (first : Besides aid world before)
    (valid : StationInv (before.host.clients aid).station)
    (last : Besides aid (stationServe pass before aid).1 next) :
    ServeTurn pass (Takes (IsLength aid) pass world next) (world.host.clients aid).station.pending
      (world.transfer aid) (world.cursor aid) (next.transfer aid) (next.cursor aid) := by
  have here : before.here aid = true := by rw [World.here, first.mask]; exact here
  have turn := stationServe_turn pass
    (fun taken : Takes (IsLength aid) pass world next => taken.within first.log last.log) valid here
  have cursor : before.cursor aid = world.cursor aid := congrArg StationClient.cursor first.station
  have after : (stationServe pass before aid).1.cursor aid = next.cursor aid :=
    congrArg StationClient.cursor last.station.symm
  rw [← transfer_silent last.log, after, transfer_silent first.log, cursor, first.station] at turn
  exact turn

structure TransferInv (files : Files) (world : World) : Prop where
  host : HostInv world
  streaming : ∀ aid, aid ∈ aids → Streaming (files aid) (world.transfer aid) (world.cursor aid)

theorem streaming_start (files : Nat → Nat → UInt8) :
    Streaming files none ({} : StationClient).cursor :=
  ⟨fun _ => rfl, nofun, fun busy => absurd rfl busy, nofun⟩

namespace TransferInv
variable {files : Files} {world : World}

theorem start (files : Files) (hosting : Hosting) : TransferInv files (start hosting) :=
  ⟨.start hosting, fun aid _ => streaming_start (files aid)⟩

theorem streaming_step (valid : TransferInv files world) (event : Event)
    (reads : ReadsWell files world event) {aid : Nat} (member : aid ∈ aids) :
    Streaming (files aid) ((step world event).transfer aid) ((step world event).cursor aid) := by
  have before := valid.streaming aid member
  have moved := station_step valid.host event aid
  generalize step world event = next at moved ⊢
  cases moved with
  | quiet _ kept log =>
      rw [transfer_silent log, World.cursor, kept.1]
      exact before
  | left _ blank log told =>
      rw [transfer_same log, World.cursor, blank]
      exact before.blank
  | served ready beaconOk pass middle here _ first station last =>
      exact (served_turn here first station last).streaming before fun data going current found =>
        reads aid member data going current found

theorem step (valid : TransferInv files world) (event : Event)
    (reads : ReadsWell files world event) : TransferInv files (step world event) :=
  ⟨valid.host.step event, fun _ member => valid.streaming_step event reads member⟩

theorem progresses (valid : TransferInv files world) (event : Event)
    (reads : ReadsWell files world event) {aid : Nat} (member : aid ∈ aids) :
    Progresses world event aid := by
  have streaming := valid.streaming aid member
  have moved := station_step valid.host event aid
  cases event with
  | update ready beaconOk pass =>
      intro handed asked taken going before after same found numbered
      have loud : ¬ Appends (fun item => Silent aid item ∨ item = .resetOneClient aid) world
          (DlPlay.step world (.update ready beaconOk pass)) :=
        fun log => (log.drop _ handed).elim (fun silent => silent rfl) nofun
      generalize DlPlay.step world (.update ready beaconOk pass) = next at moved found loud ⊢
      cases moved with
      | quiet _ kept log => exact absurd (log.mono fun _ => .inl) loud
      | left _ blank log told => exact absurd log loud
      | served _ _ _ middle here _ first station last =>
          have turn := served_turn here first station last
          rw [asked, same, found] at turn
          rw [same] at streaming
          exact turn.toGo_lt streaming numbered (fun data unended => reads aid member data unended before same) taken
            going
  | _ => trivial

theorem sent (valid : TransferInv files world) (event : Event)
    (reads : ReadsWell files world event) : ContentSent Transfer.Numbered files world event := by
  refine fun aid member => ⟨fun current found numbered => ?_, valid.progresses event reads member⟩
  have streaming := valid.streaming_step event reads member
  rw [found] at streaming
  exact streaming.streamed numbered

theorem run (files : Files) (hosting : Hosting) (events : List Event)
    (reads : EachStep DlPlay.step (ReadsWell files) (DlPlay.start hosting) events) :
    TransferInv files (Runs.run DlPlay.step (DlPlay.start hosting) events) :=
  @run_invariant_of_guard _ _ DlPlay.step (TransferInv files) (ReadsWell files)
    (fun _ event valid reads => valid.step event reads) _ _ (.start files hosting) reads

end TransferInv

/-- A file of at most 65535 chunks reaches its console. -/
theorem content_sent (hosting : Hosting) (files : Files) (events : List Event)
    (reads : EachStep step (ReadsWell files) (start hosting) events) :
    EachStep step (ContentSent Transfer.Numbered files) (start hosting) events :=
  each_step_of_guard (fun _ event valid reads => TransferInv.step valid event reads)
    (fun _ event valid reads => valid.sent event reads) _ _ (.start files hosting) reads

/-! A menu of two chunks. -/

def menuFile (i : Nat) : UInt8 := UInt8.ofNat (i + 1)

/-- A pass of an application that knows one file of this size. -/
def contentPass (size : UInt32) (file : Nat → UInt8) : Pass where
  txAccepts _ := true
  stationOpen _ _ := some (size, 7)
  stationRead _ _ offset _ := some fun i => file (offset + i)

theorem contentPass_reads (size : UInt32) (file : Nat → UInt8) (transfer : Transfer) :
    Reads (contentPass size file) file transfer :=
  fun _ _ _ _ => ⟨_, rfl, fun _ _ => rfl⟩

/-- A console that asks for a menu, by the name of eight zeros. -/
def asksMenu (macaddr : Mac) (pass : Pass) : List Event :=
  joinsEvents macaddr ++ [passEvent pass] ++ stationRequest macaddr ++ [saysEvent macaddr 8 []] ++
    [.packet .reply macaddr 13 ([0, 0, 0, 0, 0, 0, 0, 0] ++ [1, 0])]

def menuEvents : List Event :=
  asksMenu (1, 2, 3) (contentPass 40 menuFile) ++
    List.replicate 7 (passEvent (contentPass 40 menuFile))

theorem reads_of_passes {pass : Pass} {file : Nat → UInt8}
    (reads : ∀ transfer, Reads pass file transfer) (events : List Event)
    (same : ∀ ready beaconOk other, .update ready beaconOk other ∈ events → other = pass)
    (world : World) : EachStep step (ReadsWell fun _ _ => file) world events := by
  refine each_step_of_actions events (fun event member world => ?_) world
  cases event with
  | update ready beaconOk other =>
      obtain rfl := same ready beaconOk other member
      exact fun _ _ _ _ current _ => reads current
  | _ => trivial

/-- All the passes of these events are of this kind. -/
theorem asksMenu_passes {macaddr : Mac} {pass other : Pass} {count : Nat} {ready beaconOk : Bool}
    (member : .update ready beaconOk other ∈
      asksMenu macaddr pass ++ List.replicate count (passEvent pass)) : other = pass := by
  simp only [asksMenu, joinsEvents, stationRequest, saysEvent, passEvent, List.mem_append,
    List.mem_cons, List.mem_replicate, Event.update.injEq, reduceCtorEq, List.not_mem_nil, false_or,
    or_false] at member
  exact member.elim (·.2.2) (·.2.2.2)

theorem content_sent_menu :
    EachStep step (ContentSent Transfer.Numbered fun _ _ => menuFile) (start smallHosting) menuEvents ∧
      ((run step (start smallHosting) menuEvents).transfer 1).map
        (fun transfer => (transfer.queued.map List.length, transfer.queued.getLast?)) =
          some ([32, 12, 2], some stationEndPayload) := by
  exact ⟨content_sent smallHosting _ menuEvents (reads_of_passes (contentPass_reads 40 menuFile) _
    (fun _ _ _ member => asksMenu_passes member) _), by decide +kernel⟩

end Dswifi.DlPlay
