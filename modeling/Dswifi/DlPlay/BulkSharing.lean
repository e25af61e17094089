import Dswifi.DlPlay.FileIds
import Dswifi.DlPlay.StationTurns
import Dswifi.DlPlay.WantedTurns

/-! The senders of the rotation share the passes. The turn of one moves the start of the
rotation behind it, so each of the others comes closer; only when everybody has left the
rotation begins anew. -/

namespace Dswifi.DlPlay

open Runs Rotation MpHost

/-- The application has the next chunk of the content, and the ring takes its frame. -/
structure ChunkTaken (pass : Pass) (world : World) (aid : Nat) : Prop where
  read : (world.cursor aid).offset < (world.cursor aid).size →
    (pass.stationRead (world.log.length + 1) (world.host.clients aid).station.handle (world.cursor aid).offset
      (chunkSize (world.host.clients aid).station (world.cursor aid).offset)).isSome = true
  accepted : pass.txAccepts (world.log.length + 1) = true

instance (pass : Pass) (world : World) (aid : Nat) : Decidable (ChunkTaken pass world aid) :=
  decidable_of_iff (_ ∧ _) ⟨fun both => ⟨both.1, both.2⟩, fun taken => ⟨taken.read, taken.accepted⟩⟩

/-- A station client is in its data state, and when the rotation comes to it a frame of the
content goes out. -/
structure StatePass.HasContent (state : StatePass) (aid : Nat) : Prop where
  member : (state.gathering.bmp .station).getLsbD aid = true
  data : (state.gathering.world.host.clients aid).station.state = .data
  going : (state.gathering.world.host.clients aid).station.ended = false
  taken : ∀ asked ∈ comesTo state.ask aid state.slots state.gathering.world, ChunkTaken state.pass asked aid

instance (state : StatePass) (aid : Nat) : Decidable (state.HasContent aid) :=
  decidable_of_iff (_ ∧ _ ∧ _ ∧ ∀ asked ∈ comesTo state.ask aid state.slots state.gathering.world,
      ChunkTaken state.pass asked aid)
    ⟨fun ⟨member, data, going, taken⟩ => ⟨member, data, going, taken⟩,
      fun content => ⟨content.member, content.data, content.going, content.taken⟩⟩

/-- The sender of a slot has something to send in a pass: the stream a client that takes the
program, and the application a message and a client to read it. -/
def StatePass.HasSomething (state : StatePass) (slot : Nat) : Prop :=
  if slot = bulkBlocks then state.gathering.bmp .send ≠ 0
  else if slot = bulkApp then state.gathering.bmp .app ≠ 0 ∧ state.gathering.world.host.appOutPending = true
  else state.HasContent slot

instance (state : StatePass) (slot : Nat) : Decidable (state.HasSomething slot) :=
  inferInstanceAs (Decidable (if slot = bulkBlocks then state.gathering.bmp .send ≠ 0
    else if slot = bulkApp then state.gathering.bmp .app ≠ 0 ∧ state.gathering.world.host.appOutPending = true
    else state.HasContent slot))

/-! A station client in its data state. -/

section Station
variable {pass : Pass} {world : World} {aid : Nat}

theorem stationSendEnd_takes (valid : portStationName ≤ (world.host.clients aid).station.port ∧
      (world.host.clients aid).station.port ≤ portStationFile)
    (accepted : pass.txAccepts world.log.length = true) : (stationSendEnd pass world aid).2 = true := by
  obtain ⟨started, begun⟩ := stationCmdStart_fits aid world valid.2 (show stationIndexSize % 2 = 0 by decide)
    (show stationIndexSize + 6 ≤ cmdFrameSize by decide)
  have queued : ∀ frame, (cmdSend pass started frame).2 = true := fun _ => by
    rw [cmdSend, (stationCmdStart_frame begun).2.2]
    exact accepted
  simp only [stationSendEnd, begun, queued, Bool.not_true, Bool.false_eq_true, if_false]

theorem stationSendData_takes (station : StationPort (world.host.clients aid).station.port
      (world.host.clients aid).station.chunk)
    (read : (pass.stationRead world.log.length (world.host.clients aid).station.handle (world.cursor aid).offset
      (chunkSize (world.host.clients aid).station (world.cursor aid).offset)).isSome = true)
    (accepted : pass.txAccepts world.log.length = true) :
    (stationSendData pass world aid (world.cursor aid).offset).2 = true := by
  have size : chunkSize (world.host.clients aid).station (world.cursor aid).offset ≤
      (world.host.clients aid).station.chunk := by
    unfold chunkSize
    dsimp only
    split <;> omega
  obtain ⟨started, begun⟩ := stationCmdStart_fits aid world station.range.2
    (show (stationIndexSize + (chunkSize (world.host.clients aid).station (world.cursor aid).offset + 1) / 2 * 2) % 2 =
      0 by rw [stationIndexSize]; omega) ((chunk_short station size).trans (by decide))
  have queued : ∀ frame, (cmdSend pass started frame).2 = true := fun _ => by
    rw [cmdSend, (stationCmdStart_frame begun).2.2]
    exact accepted
  obtain ⟨content, given⟩ := Option.isSome_iff_exists.mp read
  simp only [stationSendData, begun, (stationCmdStart_frame begun).2.2, given, queued, Bool.not_true,
    Bool.false_eq_true, if_false]

theorem stationSendChunk_takes (station : StationPort (world.host.clients aid).station.port
      (world.host.clients aid).station.chunk)
    (read : (world.cursor aid).offset < (world.cursor aid).size →
      (pass.stationRead world.log.length (world.host.clients aid).station.handle (world.cursor aid).offset
        (chunkSize (world.host.clients aid).station (world.cursor aid).offset)).isSome = true)
    (accepted : pass.txAccepts world.log.length = true) : (stationSendChunk pass world aid).2 = true := by
  unfold stationSendChunk
  dsimp only
  split
  · exact stationSendEnd_takes station.range accepted
  · rename_i inside
    exact stationSendData_takes station (read (Nat.lt_of_not_le inside)) accepted

/-- A client that has content to send takes the turn when it is asked. When it has asked for
something else meanwhile, it is told the length of that. -/
theorem stationServe_takes (valid : StationInv (world.host.clients aid).station)
    (data : (world.host.clients aid).station.state = .data)
    (going : (world.host.clients aid).station.ended = false) (taken : ChunkTaken pass world aid) :
    (stationServe pass world aid).2 = true := by
  have port := valid.port (by rw [data]; decide)
  rw [stationServe_eq]
  have counted : (countTurn (takeAsked pass world aid) aid).host.clients aid =
      { (takeAsked pass world aid).host.clients aid with
        station := { ((takeAsked pass world aid).host.clients aid).station with
          wait := ((takeAsked pass world aid).host.clients aid).station.wait + 1 } } := changeStation_client _ _ _
  have log : (countTurn (takeAsked pass world aid) aid).log = (takeAsked pass world aid).log := rfl
  generalize countTurn (takeAsked pass world aid) aid = next at counted log ⊢
  -- a new request starts with its length, and that turn is always taken
  rcases takeAsked_cases pass world aid with ⟨delay, first⟩ | ⟨noted, pending, same⟩
  · rw [serveState_first]
    · rw [World.cursor, counted]
      exact delay
    · rw [World.cursor, counted]
      exact congrArg (· + 1) first
  · rw [same] at counted
    rw [noted] at log
    have length : next.log.length = world.log.length + 1 := by rw [log, List.length_append]; rfl
    have state : (next.host.clients aid).station.state = .data := by rw [counted]; exact data
    have sending : (next.host.clients aid).station.ended = false := by rw [counted]; exact going
    have chunk : (serveState pass next aid).2 = (stationSendChunk pass next aid).2 := by
      rw [← stationSendChunks_one pass aid next sending]
      simp only [serveState, state, sending, Bool.false_eq_true, if_false]
    rw [chunk]
    refine stationSendChunk_takes ?_ ?_ (length ▸ taken.accepted)
    · rw [counted]
      exact port
    · rw [length, World.cursor, counted]
      exact taken.read

end Station

/-! A sender that is ready. -/

section Ready
variable {state : StatePass} {slot : Nat}

/-- Asking another slot leaves a station client's record as it is. -/
theorem comesTo_station (valid : ∀ aid, StationInv (state.gathering.world.host.clients aid).station)
    {asked : World} (comes : comesTo state.ask slot state.slots state.gathering.world = some asked) :
    StationInv (asked.host.clients slot).station ∧
      asked.host.clients slot = state.gathering.world.host.clients slot := by
  refine (@comesTo_invariant _ state.ask (fun next => (∀ aid, StationInv (next.host.clients aid).station) ∧
    next.host.clients slot = state.gathering.world.host.clients slot) _ _ slot ?_ _ comes ⟨valid, rfl⟩).imp_left
      fun all => all slot
  rintro next other apart ⟨valid, same⟩ declines
  rcases (askSlot_declines declines).2 with still | served
  · rw [StatePass.ask, still]
    exact ⟨valid, same⟩
  · have serves := serves_stationServe state.pass next other (valid other)
    rw [StatePass.ask, served]
    exact ⟨serves.all_valid valid, (serves.others slot (Ne.symm apart)).trans same⟩

theorem comesTo_pending {asked : World}
    (comes : comesTo state.ask slot state.slots state.gathering.world = some asked) :
    asked.host.appOutPending = state.gathering.world.host.appOutPending := by
  have rounds : asked.host.rounds = state.gathering.world.host.rounds :=
    @comesTo_invariant _ state.ask (fun next => next.host.rounds = state.gathering.world.host.rounds) _ _ slot
      (fun _ _ _ same declines => (askSlot_declines declines).1.trans same) _ comes rfl
  exact congrArg Rounds.appOutPending rounds

/-- A sender that has something to send takes the turn when it is asked. -/
theorem StatePass.HasSomething.ready (valid : ∀ aid, StationInv (state.gathering.world.host.clients aid).station)
    (some : state.HasSomething slot) : Ready state.ask slot state.slots state.gathering.world := by
  intro asked comes
  unfold HasSomething at some
  rw [ask, askSlot]
  split at some
  · rename_i stream
    rw [if_pos stream, if_neg some]
  · rename_i elsewhere
    rw [if_neg elsewhere]
    split at some
    · rename_i app
      have waits : ¬(state.gathering.bmp .app = 0 ∨ !asked.host.appOutPending) := by
        rw [comesTo_pending comes, some.2]
        exact fun none => none.elim some.1 (by decide)
      rw [if_pos app, if_neg waits]
    · rename_i station
      obtain ⟨record, same⟩ := comesTo_station valid comes
      have takes := stationServe_takes record (same ▸ some.data) (same ▸ some.going) (some.taken asked comes)
      rw [if_neg station, if_pos some.member]
      dsimp only
      rw [if_pos takes]

end Ready

/-! When everybody has left. -/

/-- The client has not been taken up, or it came back with a program. -/
def Apart (stage : Stage) : Prop := stage = .none ∨ stage = .app

instance : DecidablePred Apart := fun stage => inferInstanceAs (Decidable (stage = .none ∨ stage = .app))

/-- Nobody takes anything from the host. -/
def Fresh (world : World) : Prop := ∀ aid ∈ aids, Apart (world.host.clients aid).stage

theorem Apart.reply {bootMode : BootMode} {gather : Bool} {portByte : UInt8} {reply : List UInt8}
    {client after : Client} (apart : Apart client.stage)
    (turn : ReplyTurn bootMode gather portByte reply client after) : Apart after.stage := by
  have other : ∀ {stage : Stage}, client.stage = stage → Apart stage := fun same => same ▸ apart
  cases turn with
  | ignored idle => exact apart
  | named names => exact apart
  | piece opcode missing inside => exact apart
  | completed opcode completes =>
      have same : (withPiece client reply).stage = client.stage := rfl
      rw [completeRequest_stage, same]
      split
      · rename_i stage
        exact absurd (other stage) (by decide)
      · exact apart
  | toStation stage station => exact absurd (other stage) (by decide)
  | offered stage => exact absurd (other stage) (by decide)
  | started stage free program => exact absurd (other stage) (by decide)
  | progress opcode kept =>
      rw [takeProgress_stage]
      exact apart
  | pulled opcode free stage => exact absurd (other stage) (by decide)
  | finished opcode stage => exact absurd (other stage) (by decide)
  | booted opcode stage told => exact absurd (other stage) (by decide)
  | returned opcode => exact .inr rfl
  | accepted idle => exact apart

section Left
variable {world : World} {event : Event} {state : StatePass}

theorem passRecord_away {bootMode : BootMode} {gather : Bool} {client after : Client}
    (record : PassRecord bootMode gather client false after) : after.stage = .none := by
  cases record with
  | absent idle => exact idle
  | cleared => rfl

/-- A pass that finds nobody leaves every record in stage NONE. -/
theorem fresh_empty {ready beaconOk : Bool} {pass : Pass} (valid : HostInv world)
    (running : beaconRunning ready beaconOk world.host = true) (empty : associatedMask world.mp = 0) :
    Fresh (step world (.update ready beaconOk pass)) := by
  have done : PassDone world (step world (.update ready beaconOk pass)) := update_done running valid.stations
  intro aid member
  have record := done.record aid member
  rw [associated_empty empty] at record
  exact .inl (passRecord_away record)

theorem fresh_forgets (valid : HostInv world) (forgets : Forgets world event) : Fresh (step world event) := by
  cases event with
  | update ready beaconOk pass => exact fresh_empty valid forgets.1 forgets.2.1
  | _ => exact forgets.elim

/-- Between two passes for the clients that are here nobody is taken up. -/
theorem Fresh.step (fresh : Fresh world) (valid : HostInv world) (other : statePass world event = none) :
    Fresh (step world event) := by
  intro aid member
  have before := fresh aid member
  have record := record_step valid event member
  generalize after : (DlPlay.step world event).host.clients aid = client at record
  cases record with
  | same event quiet => exact before
  | pass ready beaconOk pass running record =>
      have empty : associatedMask world.mp = 0 := by
        by_contra here
        rw [statePass, if_pos ⟨running, here⟩] at other
        cases other
      rw [associated_empty empty] at record
      exact .inl (passRecord_away record)
  | reply type macaddr portByte reply hears turn =>
      have heard : Apart (heard (world.host.clients aid)).stage := before
      exact heard.reply turn
  | boot event asked stage =>
      rw [stage] at before
      exact absurd before (by decide)

/-- A client that has not been taken up, or came back, takes nothing in a pass. -/
theorem Fresh.joins (fresh : Fresh world) {aid : Nat} (member : aid ∈ aids) :
    (clientTurn world aid).2 ≠ .join .send ∧ (clientTurn world aid).2 ≠ .join .station := by
  have before := fresh aid member
  constructor
  · intro joined
    rcases (joins_send joined).2.1.2 with sends | ⟨waits, _⟩
    · rw [sends] at before
      exact absurd before (by decide)
    · rw [waits] at before
      exact absurd before (by decide)
  · intro joined
    unfold clientTurn at joined
    have turn := turnOf_turn world.host (arrive (world.here aid) (world.host.clients aid))
    rw [joined] at turn
    have stage := turn.station.2
    cases here : world.here aid with
    | false =>
        rw [here, arrive_away_stage] at stage
        cases stage
    | true =>
        rw [here] at stage
        rcases arrive_here (world.host.clients aid) with ⟨_, arrived⟩ | ⟨_, present⟩
        · rw [arrived] at stage
          cases stage
        · rw [present] at stage
          rw [stage] at before
          exact absurd before (by decide)

theorem statePass_groups (found : statePass world event = some state) : GroupsOf world state.gathering := by
  rw [(statePass_step found).2]
  exact groups_begun world

theorem Fresh.groups (fresh : Fresh world) (found : statePass world event = some state) :
    state.gathering.bmp .send = 0 ∧ ∀ aid, (state.gathering.bmp .station).getLsbD aid = false := by
  have groups := statePass_groups found
  have nobody : ∀ group, (∀ aid ∈ aids, (clientTurn world aid).2 ≠ .join group) →
      ∀ aid, (state.gathering.bmp group).getLsbD aid = false := by
    intro group apart aid
    rw [Bool.eq_false_iff]
    intro set
    obtain ⟨member, joined⟩ := (groups.bmp aid group).mp set
    exact apart aid member joined
  refine ⟨BitVec.eq_of_getLsbD_eq fun aid _ => ?_, nobody .station fun other member => (fresh.joins member).2⟩
  rw [nobody .send (fun other member => (fresh.joins member).1) aid]
  simp

/-- After everybody has left, only the application can have the turn of the first pass. -/
theorem Fresh.sender (fresh : Fresh world) (found : statePass world event = some state) {next : World} {slot : Nat}
    (takes : (state.ask next slot).2 = true) : slot = bulkApp := by
  obtain ⟨stream, stations⟩ := fresh.groups found
  by_contra other
  rw [StatePass.ask, askSlot] at takes
  by_cases blocks : slot = bulkBlocks
  · rw [if_pos blocks, if_pos stream] at takes
    cases takes
  · rw [if_neg blocks, if_neg other, if_neg (by simp [stations])] at takes
    cases takes

theorem Fresh.something (fresh : Fresh world) (found : statePass world event = some state) {slot : Nat}
    (something : state.HasSomething slot) : slot = bulkApp := by
  obtain ⟨stream, stations⟩ := fresh.groups found
  by_contra other
  unfold StatePass.HasSomething at something
  by_cases blocks : slot = bulkBlocks
  · rw [if_pos blocks] at something
    exact something stream
  · rw [if_neg blocks, if_neg other] at something
    exact absurd something.member (by simp [stations])

end Left

/-! The runs. -/

section Shared
variable {world : World} {event : Event} {state : StatePass} {slot : Nat}

/-- Whether the event is a pass that comes to the rotation. -/
def reachesRotation (world : World) (event : Event) : Bool :=
  (statePass world event).any fun state => decide (Rotates state.gathering)

/-- The sender has the turn. -/
def HasTurn (slot : Nat) (world : World) (event : Event) : Prop :=
  ∃ asked, turnIn world event = some (slot, asked)

theorem reachesRotation_iff : reachesRotation world event = true ↔
    ∃ state, statePass world event = some state ∧ Rotates state.gathering := by
  rw [reachesRotation, Option.any_eq_true]
  simp only [decide_eq_true_eq]

/-- A pass in which a sender is ready gives it the turn, or brings it closer. -/
theorem turn_or_closer (valid : HostInv world) (found : statePass world event = some state)
    (rotates : Rotates state.gathering) (something : state.HasSomething slot) {k : Nat}
    (near : Within bulkSlots world.host.bulkTurn slot k) : ∃ other asked,
      turnIn world event = some (other, asked) ∧ (state.ask asked other).2 = true ∧
        (other = slot ∨ ∃ less, less < k ∧ Within bulkSlots (step world event).host.bulkTurn slot less) := by
  have gathered : ∀ aid, StationInv (state.gathering.world.host.clients aid).station := by
    rw [(statePass_step found).2]
    exact (gathered world.begun).valid valid.stations
  have turns : state.gathering.world.host.bulkTurn = world.host.bulkTurn :=
    congrArg Rounds.bulkTurn (statePass_rounds found)
  have ready := something.ready gathered
  have slots : state.slots = order bulkSlots world.host.bulkTurn := by
    rw [StatePass.slots, turns]
    rfl
  rw [slots] at ready
  obtain ⟨other, asked, turn, closer⟩ := taken_within near ready
  have here : turnIn world event = some (other, asked) := by
    rw [turnIn, found, Option.bind_some, StatePass.turn, if_pos rotates, slots, turn]
  -- the host forgets where the rotation was only when nobody is here
  have stays : ¬Forgets world event := by
    intro forgets
    cases event with
    | update ready beaconOk pass =>
        rw [statePass, if_neg fun both => both.2 forgets.2.1] at found
        cases found
    | _ => exact forgets
  have next : (step world event).host.bulkTurn = other := by
    rw [(rounds_step world event).bulkTurn stays, here]
    rfl
  refine ⟨other, asked, here, (taken_rounds turn).2, ?_⟩
  rw [next]
  exact closer

/-- An event that is no pass of the rotation leaves its start alone, until everybody has left. -/
theorem within_stays (other : reachesRotation world event = false) (stays : ¬Forgets world event) {k : Nat}
    (near : Within bulkSlots world.host.bulkTurn slot k) :
    Within bulkSlots (step world event).host.bulkTurn slot k := by
  have nobody : turnIn world event = none := by
    rw [turnIn]
    cases found : statePass world event with
    | none => rfl
    | some state =>
        have turned : ¬Rotates state.gathering := fun rotates => by
          rw [reachesRotation_iff.mpr ⟨state, found, rotates⟩] at other
          cases other
        rw [Option.bind_some, StatePass.turn, if_neg turned]
  rw [(rounds_step world event).bulkTurn stays, nobody]
  exact near

theorem HostInv.takeTurn (valid : HostInv world) (turn : Nat) : HostInv (world.takeTurn turn) :=
  ⟨valid.table, valid.stations⟩

end Shared

/-- Wherever the rotation starts: among seventeen passes that come to it, each sender that has
something to send in all of them is given the turn. The passes may follow one another, as long
as every pass for the clients that are here comes to the rotation; and others may come
between, as long as the host does not forget everybody. -/
theorem bulk_turns_shared (hosting : Hosting) (before : List Event) (turn : Nat) {slot : Nat}
    (sender : slot < bulkSlots) (events : List Event)
    (together : EachStep step (fun world event => ∀ state ∈ statePass world event, Rotates state.gathering)
        ((run step (start hosting) before).takeTurn turn) events ∨
      EachStep step (fun world event => ¬Forgets world event)
        ((run step (start hosting) before).takeTurn turn) events)
    (ready : EachStep step (fun world event => ∀ state ∈ statePass world event,
        Rotates state.gathering → state.HasSomething slot)
      ((run step (start hosting) before).takeTurn turn) events)
    (passes : 17 ≤ countSteps step reachesRotation ((run step (start hosting) before).takeTurn turn) events) :
    SomeStep step (HasTurn slot) ((run step (start hosting) before).takeTurn turn) events := by
  have kept : ∀ world event, HostInv world → HostInv (step world event) := fun _ event valid => valid.step event
  have reached : HostInv (run step (start hosting) before) := run_invariant kept _ before (.start hosting)
  have first := within_all sender ((run step (start hosting) before).takeTurn turn).host.bulkTurn
  rcases together with row | stays
  · -- when everybody has left, the next pass that comes to the rotation has one sender only
    refine some_step_of_due
      (fun k world => Within bulkSlots world.host.bulkTurn slot k ∨ Fresh world)
      (fun world event valid _ => kept world event valid) ?_ ?_ (bulkSlots - 1) _ events (reached.takeTurn turn)
      (each_step_and row ready) (.inl first) passes
    · rintro k world event valid ⟨_, something⟩ soon counts
      obtain ⟨state, found, rotates⟩ := reachesRotation_iff.mp counts
      have something := something state found rotates
      rcases soon with near | fresh
      · obtain ⟨other, asked, has, _, same | ⟨less, below, closer⟩⟩ :=
          turn_or_closer valid found rotates something near
        · exact .inl ⟨asked, same ▸ has⟩
        · exact .inr ⟨less, below, .inl closer⟩
      · obtain ⟨other, asked, has, takes, _⟩ := turn_or_closer valid found rotates something
          (within_all sender world.host.bulkTurn)
        have same : other = slot := (fresh.sender found takes).trans (fresh.something found something).symm
        exact .inl ⟨asked, same ▸ has⟩
    · rintro k world event valid ⟨rotates, _⟩ soon other
      have nobody : statePass world event = none := by
        cases found : statePass world event with
        | none => rfl
        | some state =>
            rw [reachesRotation_iff.mpr ⟨state, found, rotates state found⟩] at other
            cases other
      rcases soon with near | fresh
      · by_cases forgets : Forgets world event
        · exact .inr (fresh_forgets valid forgets)
        · exact .inl (within_stays other forgets near)
      · exact .inr (fresh.step valid nobody)
  · refine some_step_of_due (fun k world => Within bulkSlots world.host.bulkTurn slot k)
      (fun world event valid _ => kept world event valid) ?_ ?_ (bulkSlots - 1) _ events (reached.takeTurn turn)
      (each_step_and stays ready) first passes
    · rintro k world event valid ⟨_, something⟩ near counts
      obtain ⟨state, found, rotates⟩ := reachesRotation_iff.mp counts
      obtain ⟨other, asked, has, _, same | ⟨less, below, closer⟩⟩ :=
        turn_or_closer valid found rotates (something state found rotates) near
      · exact .inl ⟨asked, same ▸ has⟩
      · exact .inr ⟨less, below, closer⟩
    · rintro k world event valid ⟨stays, _⟩ near other
      exact within_stays other stays near

/-- A console has come back with its program, and there is a message for it. -/
def messageWaits : List Event := arrivesEvents (1, 2, 3) ++ [saysEvent (1, 2, 3) 0x40 [], .appSend [1]]

/-- Seventeen passes in a row, in which the ring has no room. -/
theorem bulk_turns_shared_app : SomeStep step (HasTurn bulkApp)
    ((run step (start smallHosting) messageWaits).takeTurn 40)
    (List.replicate 17 (passEvent { plainPass with txAccepts := fun _ => false })) :=
  bulk_turns_shared smallHosting messageWaits 40 (by decide) _ (.inl (by decide +kernel)) (by decide +kernel)
    (by decide +kernel)

end Dswifi.DlPlay
