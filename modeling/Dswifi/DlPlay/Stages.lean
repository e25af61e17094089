import Dswifi.DlPlay.Records

/-! The stages a client goes through. The stage is written by the pass, by the
replies and by the calls of the application, but only along the edges of one
machine. -/

namespace Dswifi.DlPlay

open Runs MpHost

/-- The edges a client follows by itself. -/
inductive StageEdge : Stage → Stage → Prop where
  | connect : StageEdge .none .connected
  | accept : StageEdge .connected .reqAccepted
  | toStation : StageEdge .reqAccepted .station
  | toWait : StageEdge .reqAccepted .waitToSend
  | proceed : StageEdge .waitToSend .sendProceed
  | complete : StageEdge .sendProceed .sendComplete
  | boot : StageEdge .sendComplete .bootRequest
  | finish : StageEdge .bootRequest .sessionEnd

theorem StageEdge.target {stage : Stage} : ¬ StageEdge stage .none := by
  intro edge
  cases edge

/-- An application reply that reaches the record of `aid`. -/
def AppReply (world : World) (aid : Nat) : Event → Prop
  | .packet type macaddr portByte reply =>
      Hears world type macaddr aid ∧ Says .app portByte reply
  | _ => False

/-- Whether Wifi_DlPlayBootClient was called for `aid` since its record was last
reset. -/
def bootNote (aid : Nat) (called : Bool) : Note → Bool
  | .bootClient target => called || decide (target = aid)
  | .resetOneClient other => called && decide (other ≠ aid)
  | _ => called

def bootCalled (aid : Nat) (log : List Note) : Bool := log.foldl (bootNote aid) false

structure ClientMoves (world : World) (event : Event) (aid : Nat) (before after : Stage) : Prop where
  edge : after = before ∨ StageEdge before after ∨ after = .none ∨
    after = .app ∧ AppReply world aid event
  gather : world.host.gather = true → before = .waitToSend → after ≠ .sendProceed
  manual : world.host.bootMode = .manual → before ≠ .bootRequest → after = .bootRequest →
    bootCalled aid (step world event).log = true

def StageMachine (world : World) (event : Event) : Prop :=
  ∀ aid, aid ∈ aids → ClientMoves world event aid (world.host.clients aid).stage
    ((step world event).host.clients aid).stage

structure StageInv (world : World) : Prop where
  host : HostInv world
  called : ∀ aid, aid ∈ aids → (world.host.clients aid).bootRequested = true →
    (world.host.clients aid).stage ≠ .none ∧ bootCalled aid world.log = true

/-! The log. -/

theorem bootCalled_append {aid : Nat} {log items : List Note} (called : bootCalled aid log = true)
    (kept : ∀ item ∈ items, item ≠ .resetOneClient aid) : bootCalled aid (log ++ items) = true := by
  rw [bootCalled, List.foldl_append]
  rw [bootCalled] at called
  generalize log.foldl (bootNote aid) false = before at called
  induction items generalizing before with
  | nil => exact called
  | cons item rest ih =>
      apply ih fun item member => kept item (List.mem_cons_of_mem _ member)
      have own := kept item List.mem_cons_self
      cases item with
      | bootClient target => simp [bootNote, called]
      | resetOneClient other =>
          have distinct : other ≠ aid := fun same => own (same ▸ rfl)
          simp [bootNote, called, distinct]
      | _ => exact called

theorem bootCalled_mem {aid : Nat} {log items : List Note} (called : .bootClient aid ∈ items)
    (kept : ∀ item ∈ items, item ≠ .resetOneClient aid) : bootCalled aid (log ++ items) = true := by
  obtain ⟨front, back, rfl⟩ := List.append_of_mem called
  have now : bootCalled aid (log ++ front ++ [.bootClient aid]) = true := by
    simp [bootCalled, bootNote]
  have later : bootCalled aid (log ++ front ++ [.bootClient aid] ++ back) = true :=
    bootCalled_append now fun item member => kept item (by simp [member])
  simpa using later

/-! One turn, and one reply. -/

theorem StageTurn.edge {gather : Bool} {client after : Client} {outcome : Outcome}
    (turn : StageTurn gather client after outcome) :
    after.stage = client.stage ∨ StageEdge client.stage after.stage := by
  cases turn with
  | ended stage => exact .inr (by rw [stage]; exact .finish)
  | asked stage => exact .inl rfl
  | admitted stage late => exact .inr (by rw [stage]; exact .accept)
  | offered stage late => exact .inr (by rw [stage]; exact .toWait)
  | released stage free late => exact .inr (by rw [stage]; exact .proceed)
  | stays outcome quiet kept station early => exact .inl rfl

theorem Turn.edge {bootMode : BootMode} {gather : Bool} {client after : Client} {outcome : Outcome}
    (turn : Turn bootMode gather client after outcome) :
    after.stage = client.stage ∨ StageEdge client.stage after.stage := by
  cases turn with
  | idle stage => exact .inl rfl
  | silent stage long => exact .inl rfl
  | stalled stage stuck => exact .inl rfl
  | served stage heard going turn => exact turn.edge

/-- A client that has just arrived is not moved on by a timeout in the same pass. -/
theorem Turn.arrived {bootMode : BootMode} {gather : Bool} {client after : Client} {outcome : Outcome}
    (turn : Turn bootMode gather client after outcome) (stage : client.stage = .connected)
    (fresh : client.waitCount = 0) : after.stage = .connected := by
  cases turn with
  | idle idle => exact stage
  | silent _ long => exact stage
  | stalled _ stuck => exact stage
  | served _ heard going turn =>
      cases turn with
      | ended other => exact nomatch stage.symm.trans other
      | asked other => exact nomatch stage.symm.trans other
      | admitted _ late =>
          simp only [countPass, fresh, requestFrames] at late
          omega
      | offered other late => exact nomatch stage.symm.trans other
      | released other free late => exact nomatch stage.symm.trans other
      | stays outcome quiet kept station early => exact stage

theorem Turn.gathers {bootMode : BootMode} {client after : Client} {outcome : Outcome}
    (turn : Turn bootMode true client after outcome) (stage : client.stage = .waitToSend) :
    after.stage ≠ .sendProceed := by
  have waits : ∀ other : Client, other.stage = client.stage → other.stage ≠ .sendProceed :=
    fun other same moved => nomatch (stage.symm.trans same.symm).trans moved
  cases turn with
  | idle idle => exact waits _ rfl
  | silent _ long => exact waits _ rfl
  | stalled _ stuck => exact waits _ rfl
  | served _ heard going turn =>
      cases turn with
      | released _ free late => cases free
      | ended other => exact nofun
      | asked other => exact waits _ rfl
      | admitted other late => exact nofun
      | offered other late => exact nofun
      | stays outcome quiet kept station early => exact waits _ rfl

/-- A turn starts no program. -/
theorem Turn.boots {bootMode : BootMode} {gather : Bool} {client after : Client} {outcome : Outcome}
    (turn : Turn bootMode gather client after outcome) (moved : after.stage = .bootRequest) :
    client.stage = .bootRequest := by
  rcases turn.edge with same | edge
  · exact same.symm.trans moved
  · cases turn with
    | served _ heard going turn =>
        cases turn with
        | asked stage => exact stage
        | stays outcome quiet kept station early => exact moved
        | _ => cases moved
    | _ => exact moved

theorem completeRequest_stage (client : Client) :
    (completeRequest client).stage =
      if client.stage = .connected then .reqAccepted else client.stage := by
  have same : ∀ client : Client, (decodeRequest client).stage = client.stage := fun _ => rfl
  simp only [completeRequest]
  split
  · simp only [same]
    split <;> rfl
  · split <;> rfl

theorem completeRequest_edge (client : Client) :
    (completeRequest client).stage = client.stage ∨
      StageEdge client.stage (completeRequest client).stage := by
  rw [completeRequest_stage]
  split
  · rename_i stage
    exact .inr (by rw [stage]; exact .accept)
  · exact .inl rfl

section Reply
variable {bootMode : BootMode} {gather : Bool} {portByte : UInt8} {reply : List UInt8}
  {client after : Client}

theorem ReplyTurn.edge (turn : ReplyTurn bootMode gather portByte reply client after) :
    after.stage = client.stage ∨ StageEdge client.stage after.stage ∨
      after.stage = .app ∧ Says .app portByte reply := by
  cases turn with
  | ignored idle => exact .inl rfl
  | named names => exact .inl rfl
  | piece opcode missing inside => exact .inl rfl
  | completed opcode completes =>
      exact (completeRequest_edge (withPiece client reply)).imp_right .inl
  | toStation stage station => exact .inr (.inl (by rw [stage]; exact .toStation))
  | offered stage => exact .inr (.inl (by rw [stage]; exact .toWait))
  | started stage free program => exact .inr (.inl (by rw [stage]; exact .proceed))
  | progress opcode kept => exact .inl (takeProgress_stage client reply)
  | pulled opcode free stage => exact .inr (.inl (by rw [stage]; exact .proceed))
  | finished opcode stage => exact .inr (.inl (by rw [stage]; exact .complete))
  | booted opcode stage told => exact .inr (.inl (by rw [stage]; exact .boot))
  | returned opcode => exact .inr (.inr ⟨rfl, opcode⟩)
  | accepted idle => exact .inl rfl

/-- A reply moves a client on from WAIT_TO_SEND only while the host does not gather. -/
theorem ReplyTurn.gathers (turn : ReplyTurn bootMode true portByte reply client after)
    (stage : client.stage = .waitToSend) : after.stage ≠ .sendProceed := by
  intro moved
  have stays : client.stage ≠ .sendProceed := fun other => nomatch stage.symm.trans other
  cases turn with
  | started _ free program => cases free
  | pulled opcode free stage => cases free
  | progress opcode kept => exact stays ((takeProgress_stage client reply).symm.trans moved)
  | completed opcode completes =>
      rw [completeRequest_stage] at moved
      split at moved
      · cases moved
      · exact stays moved
  | ignored idle => exact stays moved
  | named names => exact stays moved
  | piece opcode missing inside => exact stays moved
  | accepted idle => exact stays moved
  | _ => cases moved

/-- A reply starts the program of a client the host, or the application, said to start. -/
theorem ReplyTurn.boots (turn : ReplyTurn bootMode gather portByte reply client after)
    (other : client.stage ≠ .bootRequest) (moved : after.stage = .bootRequest) :
    bootMode = .automatic ∨ client.bootRequested = true := by
  cases turn with
  | booted opcode stage told => exact told
  | progress opcode kept => exact absurd ((takeProgress_stage client reply).symm.trans moved) other
  | completed opcode completes =>
      rw [completeRequest_stage] at moved
      split at moved
      · cases moved
      · exact absurd moved other
  | ignored idle => exact absurd moved other
  | named names => exact absurd moved other
  | piece opcode missing inside => exact absurd moved other
  | accepted idle => exact absurd moved other
  | _ => cases moved

theorem takeProgress_bootRequested (client : Client) (reply : List UInt8) :
    (takeProgress client reply).bootRequested = client.bootRequested := by
  unfold takeProgress
  split <;> rfl

theorem completeRequest_bootRequested (client : Client) :
    (completeRequest client).bootRequested = client.bootRequested := by
  simp only [completeRequest]
  split <;> split <;> rfl

/-- No reply asks for a client to be started, or resets its record. -/
theorem ReplyTurn.bootRequested (turn : ReplyTurn bootMode gather portByte reply client after) :
    after.bootRequested = client.bootRequested ∧ (client.stage ≠ .none → after.stage ≠ .none) := by
  constructor
  · cases turn with
    | progress opcode kept => exact takeProgress_bootRequested client reply
    | pulled opcode free stage => exact takeProgress_bootRequested client reply
    | completed opcode completes => exact completeRequest_bootRequested _
    | _ => rfl
  · intro present gone
    rcases turn.edge with same | edge | ⟨app, _⟩
    · exact present (same.symm.trans gone)
    · exact StageEdge.target (gone ▸ edge)
    · exact nomatch gone.symm.trans app

end Reply

theorem StageTurn.bootRequested {gather : Bool} {client after : Client} {outcome : Outcome}
    (turn : StageTurn gather client after outcome) : after.bootRequested = client.bootRequested := by
  cases turn <;> rfl

theorem Turn.bootRequested {bootMode : BootMode} {gather : Bool} {client after : Client}
    {outcome : Outcome} (turn : Turn bootMode gather client after outcome) :
    after.bootRequested = client.bootRequested ∧ (client.stage ≠ .none → after.stage ≠ .none) := by
  constructor
  · cases turn with
    | served stage heard going turn => exact turn.bootRequested
    | _ => rfl
  · intro present gone
    rcases turn.edge with same | edge
    · exact present (same.symm.trans gone)
    · exact StageEdge.target (gone ▸ edge)

/-! One step. -/

theorem OnlyStation.bootRequested {before after : Client} (only : OnlyStation before after) :
    after.bootRequested = before.bootRequested := by
  obtain ⟨_, _, rfl, _⟩ := only
  rfl

/-- A client that is here, after a pass. -/
theorem PassRecord.edge {bootMode : BootMode} {gather : Bool} {client after : Client} {here : Bool}
    (record : PassRecord bootMode gather client here after) :
    after.stage = client.stage ∨ StageEdge client.stage after.stage ∨ after.stage = .none := by
  cases record with
  | absent idle => exact .inl rfl
  | cleared => exact .inr (.inr rfl)
  | served only same =>
      rw [only.stage]
      have turn := clientPass_turn bootMode gather (arrive true client)
      by_cases idle : client.stage = .none
      · have arrived : arrive true client = setClientStage client .connected := by simp [arrive, idle]
        rw [arrived] at turn ⊢
        rw [turn.arrived rfl rfl, idle]
        exact .inr (.inl .connect)
      · have present : arrive true client = client := by simp [arrive, idle]
        rw [present] at turn ⊢
        exact turn.edge.imp_right .inl

theorem PassRecord.gathers {bootMode : BootMode} {client after : Client} {here : Bool}
    (record : PassRecord bootMode true client here after) (stage : client.stage = .waitToSend) :
    after.stage ≠ .sendProceed := by
  cases record with
  | absent idle => exact fun moved => nomatch stage.symm.trans moved
  | cleared => exact nofun
  | served only same =>
      have present : arrive true client = client := by simp [arrive, stage]
      rw [only.stage, present]
      exact (clientPass_turn bootMode true client).gathers stage

theorem PassRecord.boots {bootMode : BootMode} {gather : Bool} {client after : Client} {here : Bool}
    (record : PassRecord bootMode gather client here after) (moved : after.stage = .bootRequest) :
    client.stage = .bootRequest := by
  cases record with
  | absent idle => exact moved
  | cleared => cases moved
  | served only same =>
      rw [only.stage] at moved
      have before := (clientPass_turn bootMode gather (arrive true client)).boots moved
      by_cases idle : client.stage = .none
      · simp [arrive, idle, setClientStage] at before
      · simpa [arrive, idle] using before

/-- A record a pass does not reset is not asked for anything. -/
theorem PassRecord.bootRequested {bootMode : BootMode} {gather : Bool} {client after : Client}
    {here : Bool} (record : PassRecord bootMode gather client here after)
    (before : client.bootRequested = true → client.stage ≠ .none)
    (asked : after.bootRequested = true) :
    here = true ∧ client.bootRequested = true ∧ after.stage ≠ .none := by
  cases record with
  | absent idle => exact absurd idle (before asked)
  | cleared => cases asked
  | served only same =>
      have turn := (clientPass_turn bootMode gather (arrive true client)).bootRequested
      rw [only.bootRequested, turn.1] at asked
      rw [only.stage]
      by_cases idle : client.stage = .none
      · have arrived : (arrive true client).bootRequested = client.bootRequested := by
          simp [arrive, idle, setClientStage]
        exact absurd idle (before (arrived ▸ asked))
      · have present : arrive true client = client := by simp [arrive, idle]
        rw [present] at turn asked ⊢
        exact ⟨rfl, asked, turn.2 idle⟩

/-- The calls recorded so far stay recorded while the record is not reset. -/
theorem bootCalled_step {world : World} (valid : HostInv world) (event : Event) {aid : Nat}
    (called : bootCalled aid world.log = true)
    (here : ∀ ready beaconOk pass, event = .update ready beaconOk pass →
      beaconRunning ready beaconOk world.host = true →
        (associatedMask world.mp).getLsbD aid = true) :
    bootCalled aid (step world event).log = true := by
  by_cases running : ∃ ready beaconOk pass, event = .update ready beaconOk pass ∧
      beaconRunning ready beaconOk world.host = true
  · obtain ⟨ready, beaconOk, pass, rfl, running⟩ := running
    have associated := here ready beaconOk pass rfl running
    obtain ⟨items, log, fits⟩ := log_step valid (.update ready beaconOk pass)
    rw [log]
    refine bootCalled_append called fun item member reset => ?_
    have away : (associatedMask world.mp).getLsbD aid = false := by
      have kind := fits item member
      rw [reset] at kind
      exact kind
    rw [away] at associated
    cases associated
  · cases event with
    | update ready beaconOk pass =>
        rw [step, (update_idle fun yes => running ⟨ready, beaconOk, pass, rfl, yes⟩).2.2.1]
        exact called
    | _ =>
        obtain ⟨items, log, fits⟩ := log_step valid _
        rw [log]
        refine bootCalled_append called fun item member reset => ?_
        have kind := fits item member
        rw [reset] at kind
        simp [StepNote] at kind

theorem bootCalled_asked {world : World} {event : Event} {aid : Nat} (member : aid ∈ aids)
    (asked : event = .bootClient aid ∨ event = .bootAll) :
    bootCalled aid (step world event).log = true := by
  rcases asked with rfl | rfl
  · rw [step, (bootClient_frame world aid).2.2]
    exact bootCalled_mem (by simp) (by simp)
  · rw [step, bootAll, (bootEach_frame aids world).2.2]
    refine bootCalled_mem (List.mem_map.mpr ⟨aid, member, rfl⟩) fun item inside => ?_
    obtain ⟨_, _, rfl⟩ := List.mem_map.mp inside
    intro same
    cases same

theorem StageInv.step {world : World} (valid : StageInv world) (event : Event) :
    StageInv (step world event) := by
  refine ⟨valid.host.step event, fun aid member => ?_⟩
  have before := valid.called aid member
  generalize after : (DlPlay.step world event).host.clients aid = client
  have record := record_step valid.host event member
  rw [after] at record
  cases record with
  | same event quiet =>
      intro asked
      refine ⟨(before asked).1, bootCalled_step valid.host event (before asked).2 ?_⟩
      exact fun ready beaconOk pass same running => absurd running (quiet ready beaconOk pass same)
  | pass ready beaconOk pass running record =>
      intro asked
      obtain ⟨here, requested, present⟩ := record.bootRequested (fun set => (before set).1) asked
      exact ⟨present, bootCalled_step valid.host _ (before requested).2 fun _ _ _ _ _ => here⟩
  | reply type macaddr portByte reply hears turn =>
      intro asked
      obtain ⟨same, present⟩ := turn.bootRequested
      have requested : (world.host.clients aid).bootRequested = true := same.symm.trans asked
      exact ⟨present (before requested).1, bootCalled_step valid.host _ (before requested).2 nofun⟩
  | boot event asked stage =>
      exact fun _ => ⟨nofun, bootCalled_asked member asked⟩

theorem StageInv.start (hosting : Hosting) : StageInv (start hosting) :=
  ⟨.start hosting, fun _ _ asked => nomatch asked⟩

theorem stage_step {world : World} (valid : StageInv world) (event : Event) :
    StageMachine world event := by
  intro aid member
  have next := valid.step event
  have record := record_step valid.host event member
  generalize after : (step world event).host.clients aid = client at record
  cases record with
  | same event quiet => exact ⟨.inl rfl, fun _ stage moved => (nomatch stage.symm.trans moved),
      fun _ other moved => absurd moved other⟩
  | pass ready beaconOk pass running record =>
      refine ⟨record.edge.imp_right (.imp_right .inl), fun gather stage => ?_, fun _ other moved => ?_⟩
      · rw [gather] at record
        exact record.gathers stage
      · exact absurd (record.boots moved) other
  | reply type macaddr portByte reply hears turn =>
      refine ⟨?_, fun gather stage => ?_, fun manual other moved => ?_⟩
      · rcases turn.edge with same | edge | ⟨app, opcode⟩
        · exact .inl same
        · exact .inr (.inl edge)
        · exact .inr (.inr (.inr ⟨app, hears, opcode⟩))
      · rw [gather] at turn
        exact turn.gathers stage
      · rcases turn.boots other moved with automatic | requested
        · exact nomatch manual.symm.trans automatic
        · have asked : client.bootRequested = true := turn.bootRequested.1.trans requested
          exact (next.called aid member (after ▸ asked)).2
  | boot event asked stage =>
      refine ⟨.inr (.inl ?_), fun _ waits => (nomatch stage.symm.trans waits), fun _ _ _ => ?_⟩
      · rw [stage]
        exact .boot
      · exact bootCalled_asked member asked

/-- In every run each client's stage moves only along the machine: while the host
gathers nobody starts to be sent the program, and in manual mode nobody is told
to start it without a call for it since the record was reset. -/
theorem stages_follow_machine (hosting : Hosting) (events : List Event) :
    EachStep step StageMachine (start hosting) events :=
  each_step_of_invariant (fun _ event valid => valid.step event)
    (fun _ event valid => stage_step valid event) _ _ (.start hosting)

end Dswifi.DlPlay
