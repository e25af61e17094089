import Dswifi.DlPlay.StationTurns

/-! What a step does to the transfer of one console: a pass serves the console once,
or not at all, and whatever else goes out is none of its frames. -/

namespace Dswifi.DlPlay

open Runs MpHost

/-- What the log says about the transfers of `aid`, and about its record. -/
def About (aid : Nat) : Note → Prop
  | .frame bytes _ => (∃ port, portStationName ≤ port ∧ port ≤ portStationFile ∧
      byteAt bytes 1 = stationHeader port) ∧ (footer bytes).getLsbD aid = true
  | .stationServe served | .stationAccepted served _ _ _ | .stationChunk served _ _
  | .resetOneClient served => served = aid
  | _ => False

def Silent (aid : Nat) (item : Note) : Prop := ¬ About aid item

theorem follow_silent {aid : Nat} {item : Note} (silent : Silent aid item) (transfer : Option Transfer) :
    follow aid transfer item = transfer := by
  cases item with
  | stationAccepted served port size handle => exact if_neg silent
  | frame bytes queued =>
      cases queued with
      | false => rfl
      | true =>
          have content : ¬ IsContent aid bytes := fun content => silent ⟨content.1.elim
            (fun menu => ⟨portStationMenu, by decide, by decide, menu⟩)
            (fun file => ⟨portStationFile, by decide, by decide, file⟩), content.2⟩
          have length : ¬ IsLength aid bytes := fun length =>
            silent ⟨⟨portStationName, by decide, by decide, length.1⟩, length.2⟩
          rw [follow, if_neg content, if_neg length]
  | _ => rfl

/-- A step that has nothing to do with the transfer of `aid`. -/
structure Besides (aid : Nat) (world next : World) : Prop where
  station : (next.host.clients aid).station = (world.host.clients aid).station
  mask : associatedMask next.mp = associatedMask world.mp
  log : Appends (Silent aid) world next

namespace Besides
variable {aid : Nat} {first second third : World}

theorem refl (world : World) : Besides aid world world := ⟨rfl, rfl, .refl world⟩

theorem trans (before : Besides aid first second) (after : Besides aid second third) :
    Besides aid first third :=
  ⟨after.station.trans before.station, after.mask.trans before.mask, before.log.trans after.log⟩

theorem of_sends {kind : Note → Prop} (sent : Sends kind first second)
    (silent : ∀ item, kind item → Silent aid item) : Besides aid first second :=
  ⟨by rw [sent.clients], by rw [sent.mp], sent.log.mono silent⟩

/-- Another console's turn. -/
theorem of_serves {other : Nat} (serves : Serves other first second) (distinct : aid ≠ other) :
    Besides aid first second := by
  refine ⟨by rw [serves.others aid distinct], by rw [serves.mp], serves.log.mono fun item fits => ?_⟩
  cases item with
  | frame bytes queued =>
      rintro ⟨_, set⟩
      rw [fits.2 aid distinct] at set
      cases set
  | stationServe served | stationAccepted served _ _ _ | stationChunk served _ _ =>
      exact fun same => distinct (same.symm.trans fits)
  | _ => exact fits.elim

end Besides

theorem silent_frameOf {aid : Nat} {header opcode : UInt8} (other : header = flagsNormal ∨ header = 0)
    (item : Note) (fits : FrameOf header opcode item) : Silent aid item := by
  cases item with
  | frame bytes queued =>
      rintro ⟨⟨port, low, high, station⟩, _⟩
      have same : stationHeader port = header := station.symm.trans fits.1
      rcases other with rfl | rfl
      · exact stationHeader_normal low high same
      · have ports : port = 13 ∨ port = 14 ∨ port = 15 := by
          simp only [portStationName, portStationFile] at low high
          omega
        rcases ports with rfl | rfl | rfl <;> exact absurd same (by decide)
  | _ => exact fits.elim

theorem silent_stream {aid : Nat} (item : Note) (fits : StreamFrame item) : Silent aid item :=
  fits.elim (silent_frameOf (.inl rfl) item) (silent_frameOf (.inl rfl) item)

/-! The rotation. -/

/-- A step that served `aid` once, or not at all. -/
inductive Visits (pass : Pass) (bmp : Bitmaps) (aid : Nat) (world next : World) : Prop where
  | passes (beside : Besides aid world next)
  | serves (before : World) (joined : (bmp .station).getLsbD aid = true)
      (first : Besides aid world before) (valid : StationInv (before.host.clients aid).station)
      (last : Besides aid (stationServe pass before aid).1 next)

theorem Visits.after {pass : Pass} {bmp : Bitmaps} {aid : Nat} {first second third : World}
    (before : Besides aid first second) (visits : Visits pass bmp aid second third) :
    Visits pass bmp aid first third := by
  cases visits with
  | passes beside => exact .passes (before.trans beside)
  | serves world joined first valid last =>
      exact .serves world joined (before.trans first) valid last

section Bulk
variable (pass : Pass) (bmp : Bitmaps) (sendFileId : UInt8)

/-- One slot of the rotation: the turn is over, or the next slot has it. -/
theorem sendBulk_slot (aid slot : Nat) (rest : List Nat) (world : World)
    (valid : ∀ aid, StationInv (world.host.clients aid).station) :
    ∃ turned, (∀ other, StationInv (turned.host.clients other).station) ∧
      (Besides aid world turned ∨ slot = aid ∧ (bmp .station).getLsbD aid = true ∧
        turned = (stationServe pass world aid).1) ∧
      (Besides aid turned (sendBulk pass bmp sendFileId (slot :: rest) world) ∨
        sendBulk pass bmp sendFileId (slot :: rest) world =
          sendBulk pass bmp sendFileId rest turned) := by
  have turn : ∀ (world : World), Besides aid world (world.takeTurn slot) :=
    fun world => .of_sends (.of_host world _ rfl rfl) fun _ => id
  simp only [sendBulk]
  split
  · split
    · exact ⟨world, valid, .inl (.refl world), .inr rfl⟩
    · exact ⟨world, valid, .inl (.refl world),
        .inl ((turn world).trans (.of_sends (sends_sendNextBlock pass _ _ _) silent_stream))⟩
  · split
    · split
      · exact ⟨world, valid, .inl (.refl world), .inr rfl⟩
      · exact ⟨world, valid, .inl (.refl world),
          .inl ((turn world).trans (.of_sends (sends_sendApp pass _ _) (silent_frameOf (.inl rfl))))⟩
    · split
      · rename_i set
        have served := serves_stationServe pass world slot (valid slot)
        refine ⟨(stationServe pass world slot).1, served.all_valid valid, ?_, ?_⟩
        · by_cases same : slot = aid
          · subst same
            exact .inr ⟨rfl, set, rfl⟩
          · exact .inl (.of_serves served (Ne.symm same))
        · split
          · exact .inl (turn _)
          · exact .inr rfl
      · exact ⟨world, valid, .inl (.refl world), .inr rfl⟩

theorem sendBulk_beside {aid : Nat} (slots : List Nat)
    (absent : aid ∉ slots ∨ (bmp .station).getLsbD aid = false) (world : World)
    (valid : ∀ aid, StationInv (world.host.clients aid).station) :
    Besides aid world (sendBulk pass bmp sendFileId slots world) := by
  induction slots generalizing world with
  | nil => exact .of_sends (sends_sendDummy pass world) (silent_frameOf (.inl rfl))
  | cons slot rest ih =>
      obtain ⟨turned, valid, moved, ended⟩ :=
        sendBulk_slot pass bmp sendFileId aid slot rest world valid
      have moved : Besides aid world turned := by
        refine moved.resolve_right fun served => ?_
        rcases absent with out | unset
        · exact out (List.mem_cons.mpr (.inl served.1.symm))
        · rw [served.2.1] at unset
          cases unset
      rcases ended with beside | more
      · exact moved.trans beside
      · rw [more]
        exact moved.trans (ih (absent.imp (fun out later => out (List.mem_cons_of_mem _ later)) id)
          turned valid)

theorem sendBulk_visits {aid : Nat} (slots : List Nat) (distinct : slots.Nodup)
    (world : World) (valid : ∀ aid, StationInv (world.host.clients aid).station) :
    Visits pass bmp aid world (sendBulk pass bmp sendFileId slots world) := by
  induction slots generalizing world with
  | nil => exact .passes (sendBulk_beside pass bmp sendFileId [] (.inl nofun) world valid)
  | cons slot rest ih =>
      obtain ⟨fresh, distinct⟩ := List.nodup_cons.mp distinct
      obtain ⟨turned, kept, moved, ended⟩ := sendBulk_slot pass bmp sendFileId aid slot rest world valid
      rcases moved with beside | ⟨rfl, set, served⟩
      · refine .after beside ?_
        rcases ended with passed | more
        · exact .passes passed
        · rw [more]
          exact ih distinct turned kept
      · refine .serves world set (.refl world) (valid slot) ?_
        rw [← served]
        rcases ended with passed | more
        · exact passed
        · rw [more]
          exact sendBulk_beside pass bmp sendFileId rest (.inl fresh) turned kept

end Bulk

theorem nodup_bulkOrder (turn : Nat) : (bulkOrder turn).Nodup := by
  refine List.nodup_range.map_on fun first below second above same => ?_
  have below := List.mem_range.mp below
  have above := List.mem_range.mp above
  simp only [bulkSlots, maxMultiplayerClients] at below above same
  omega

/-! The pass. -/

theorem kickMembers_beside {aid : Nat} (bmp : Mask) (world : World) :
    Besides aid world (aids.foldl (kickMember bmp) world) := by
  have kicked : Delivers (fun _ => False) (fun _ => False) world (aids.foldl (kickMember bmp) world) :=
    delivers_kickMembers bmp aids world
  refine ⟨by rw [kicked.others aid id], congrArg (· &&& ~~~ 1#16) kicked.mp.mask,
    kicked.log.mono fun item fits => ?_⟩
  exact fits.elim False.elim fun served => served.elim fun _ never => never.1.elim

theorem sendGroups_visits (pass : Pass) (gathering : Gathering) (aid : Nat)
    (valid : ∀ aid, StationInv (gathering.world.host.clients aid).station) :
    Visits pass gathering.bmp aid gathering.world (sendGroups pass gathering) := by
  unfold sendGroups
  dsimp only
  split
  · exact .passes ((kickMembers_beside _ gathering.world).trans
      (.of_sends (sends_sendSessionEnd pass _) (silent_frameOf (.inr rfl))))
  · split
    · exact .passes (.of_sends (sends_sendBootReq pass _ _) (silent_frameOf (.inl rfl)))
    · split
      · exact .passes (.of_sends (sends_sendStart pass _ _) (silent_frameOf (.inl rfl)))
      · split
        · exact .passes (.of_sends (sends_sendFileInfo pass _ _) (silent_frameOf (.inl rfl)))
        · exact sendBulk_visits pass gathering.bmp gathering.sendFileId _ (nodup_bulkOrder _)
            gathering.world valid

/-! What comes before the groups: a record is renewed if its console is gone. -/

/-- A step that left the transfer of `aid` alone, or reset its record. -/
inductive Renews (mask : Mask) (aid : Nat) (world next : World) : Prop where
  | keeps (station : (next.host.clients aid).station = (world.host.clients aid).station)
      (log : Appends (Silent aid) world next)
  | resets (away : mask.getLsbD aid = false) (blank : (next.host.clients aid).station = {})
      (log : Appends (fun item => Silent aid item ∨ item = .resetOneClient aid) world next)
      (told : .resetOneClient aid ∈ next.log.drop world.log.length)

namespace Renews
variable {mask : Mask} {aid : Nat} {first second third : World}

theorem of_note (station : (second.host.clients aid).station = (first.host.clients aid).station)
    {item : Note} (log : second.log = first.log ++ [item]) (silent : Silent aid item) :
    Renews mask aid first second :=
  .keeps station ⟨[item], log, by simpa using silent⟩

theorem of_log (station : (second.host.clients aid).station = (first.host.clients aid).station)
    (log : second.log = first.log) : Renews mask aid first second :=
  .keeps station (.of_log log)

theorem trans (before : Renews mask aid first second) (after : Renews mask aid second third) :
    Renews mask aid first third := by
  have wider : ∀ {world next : World}, Appends (Silent aid) world next →
      Appends (fun item => Silent aid item ∨ item = .resetOneClient aid) world next :=
    fun log => log.mono fun _ => .inl
  cases before with
  | keeps station log =>
      cases after with
      | keeps station' log' => exact .keeps (station'.trans station) (log.trans log')
      | resets away blank log' told => exact .resets away blank ((wider log).trans log') (log.later told)
  | resets away blank log told =>
      cases after with
      | keeps station log' =>
          exact .resets away (station.trans blank) (log.trans (wider log')) (log'.earlier told)
      | resets _ blank log' _ => exact .resets away blank (log.trans log') (log'.earlier told)

theorem resetOne (away : mask.getLsbD aid = false ∨ aid ≠ other) (world : World) :
    Renews mask aid world (resetOneClient world other) := by
  by_cases same : aid = other
  · subst same
    refine .resets (away.resolve_right (fun distinct => distinct rfl)) (by simp [resetOneClient])
      ⟨[.resetOneClient aid], rfl, by simp⟩ (by simp [resetOneClient, World.note, World.setClient])
  · refine .of_note ?_ rfl fun told => same told.symm
    simp [resetOneClient, same]

end Renews

theorem notice_renews (mask : Mask) (aid : Nat) (scan : Scan) (index : Nat) :
    Renews mask aid scan.world (notice mask scan index).world := by
  unfold notice
  dsimp only
  split
  · refine .of_log ?_ rfl
    by_cases same : aid = index
    · simp [same, setClientStage]
    · simp [same]
  · split
    · rename_i away
      refine .resetOne ?_ scan.world
      by_cases same : aid = index
      · exact .inl (by simpa [same] using away.1)
      · exact .inr same
    · exact .of_log rfl rfl

theorem visit_renews (mask : Mask) (aid : Nat) (gathering : Gathering) (index : Nat) :
    Renews mask aid gathering.world (visit gathering index).world := by
  have station : ((visit gathering index).world.host.clients aid).station =
      (gathering.world.host.clients aid).station := by
    rw [visit_clients]
    by_cases same : aid = index
    · subst same
      rw [Function.update_self]
      exact (clientPass_turn _ _ _).station_same
    · rw [Function.update_of_ne same]
  unfold visit at station ⊢
  dsimp only at station ⊢
  split at station
  · exact .of_log station rfl
  · exact .of_note station rfl id
  · exact .of_log station rfl

theorem told_renews (world : World) (aid : Nat) :
    Renews (associatedMask world.mp) aid world (tellPlayers (noticeAll world).world) := by
  have loop : Renews (associatedMask world.mp) aid world (noticeAll world).world :=
    loop_invariant (fun scan : Scan => Renews (associatedMask world.mp) aid world scan.world)
      (notice (associatedMask world.mp)) (fun scan index before =>
        before.trans (notice_renews _ aid scan index)) aids { world } (.of_log rfl rfl)
  exact loop.trans (.of_note rfl rfl id)

theorem gathered_renews (world : World) (aid : Nat) :
    Renews (associatedMask world.mp) aid world (gatherClients (roomApplied world)).world := by
  have room : Renews (associatedMask world.mp) aid world (roomApplied world) :=
    (told_renews world aid).trans (.of_note rfl rfl id)
  exact loop_invariant
    (fun gathering : Gathering => Renews (associatedMask world.mp) aid world gathering.world) visit
    (fun gathering index before => before.trans (visit_renews _ aid gathering index)) aids
    { world := roomApplied world } room

theorem serveEmpty_renews (left : Bool) (world : World) (aid : Nat) :
    Renews 0 aid world (serveEmpty left world) := by
  have applied : ∀ world : World, Renews 0 aid world (applyRoomState (world.setRoomFull false)) :=
    fun world => .of_note rfl rfl id
  cases left with
  | false => exact applied world
  | true =>
      have reset : Renews 0 aid world (aids.foldl resetOneClient world) :=
        loop_invariant (fun next : World => Renews 0 aid world next) resetOneClient
          (fun next index before => before.trans (.resetOne (.inl (by simp)) next)) aids world
          (.of_log rfl rfl)
      have cleared : Renews 0 aid (aids.foldl resetOneClient world) (resetClient world) := by
        rw [resetClient]
        generalize aids.foldl resetOneClient world = next
        exact .of_log rfl rfl
      have idle : Renews 0 aid (resetClient world)
          ((resetClient world).note (.beaconPatchType beaconTypeIdle)) := by
        generalize resetClient world = next
        exact .of_note rfl rfl id
      exact ((reset.trans cleared).trans idle).trans (applied _)

/-- What a step does to the transfer of `aid`. -/
inductive StationStep (world : World) (aid : Nat) : Event → World → Prop where
  | quiet (event : Event) {next : World}
      (kept : (next.host.clients aid).station.cursor = (world.host.clients aid).station.cursor ∧
        (next.host.clients aid).station.seq = (world.host.clients aid).station.seq)
      (log : Appends (Silent aid) world next) : StationStep world aid event next
  | left (event : Event) {next : World} (blank : (next.host.clients aid).station = {})
      (log : Appends (fun item => Silent aid item ∨ item = .resetOneClient aid) world next)
      (told : .resetOneClient aid ∈ next.log.drop world.log.length) :
      StationStep world aid event next
  | served (ready beaconOk : Bool) (pass : Pass) {next : World} (before : World)
      (here : world.here aid = true) (stage : (world.host.clients aid).stage = .station)
      (first : Besides aid world before) (valid : StationInv (before.host.clients aid).station)
      (last : Besides aid (stationServe pass before aid).1 next) :
      StationStep world aid (.update ready beaconOk pass) next

theorem Renews.step {mask : Mask} {aid : Nat} {world next : World} (renews : Renews mask aid world next)
    (event : Event) : StationStep world aid event next := by
  cases renews with
  | keeps station log => exact .quiet _ ⟨by rw [station], by rw [station]⟩ log
  | resets away blank log told => exact .left _ blank log told

theorem Besides.renews {mask : Mask} {aid : Nat} {world next : World} (beside : Besides aid world next) :
    Renews mask aid world next := .keeps beside.station beside.log

/-- Only a client in STATION that is here joins the stations. -/
theorem joins_station {host : Host} {here : Bool} {client : Client}
    (joined : (turnOf host (arrive here client)).2 = .join .station) :
    here = true ∧ client.stage = .station := by
  cases here with
  | false =>
      rw [turnOf_away] at joined
      cases joined
  | true =>
      have turn := turnOf_turn host (arrive true client)
      rw [joined] at turn
      have stage := turn.station.2
      rcases arrive_here client with ⟨_, taken⟩ | ⟨_, same⟩
      · rw [taken] at stage
        cases stage
      · rw [same] at stage
        exact ⟨rfl, stage⟩

theorem servePass_step {pass : Pass} {world : World} (aid : Nat) (ready beaconOk : Bool)
    (valid : ∀ aid, StationInv (world.host.clients aid).station) :
    StationStep world aid (.update ready beaconOk pass) (servePass pass world) := by
  by_cases empty : associatedMask world.mp = 0
  · have told := told_renews world aid
    rw [empty] at told
    rw [servePass_empty pass empty]
    exact (told.trans (serveEmpty_renews _ _ aid)).step _
  · have loops := gathered world
    have renews := gathered_renews world aid
    have mask : associatedMask (gatherClients (roomApplied world)).world.mp =
        associatedMask world.mp := loops.mp.associated
    have joins := loops.bmp aid .station
    have sent := sendGroups_visits pass (gatherClients (roomApplied world)) aid
      (loops.valid valid)
    rw [servePass_here pass empty]
    generalize gatherClients (roomApplied world) = gathering at renews mask joins sent ⊢
    cases sent with
    | passes beside => exact (renews.trans beside.renews).step _
    | serves before joined first valid last =>
        obtain ⟨here, stage⟩ := joins_station (joins joined).2
        cases renews with
        | keeps station log =>
            have begun : Besides aid world gathering.world := ⟨station, mask, log⟩
            exact .served ready beaconOk pass before here stage (begun.trans first) valid last
        | resets away => cases here.symm.trans away

/-- Only a pass says anything about a transfer. -/
theorem StepNote.silent {world next : World} {event : Event} {item : Note} {aid : Nat}
    (note : StepNote world next event item)
    (other : ∀ ready beaconOk pass, event ≠ .update ready beaconOk pass) : Silent aid item := by
  cases event with
  | update ready beaconOk pass => exact absurd rfl (other ready beaconOk pass)
  | packet type macaddr portByte reply =>
      obtain ⟨_, _, rfl⟩ := note
      exact id
  | bootClient _ | bootAll | lockRoom _ =>
      obtain ⟨_, rfl⟩ := note
      exact id
  | _ => exact note.elim

/-- A request that is written down is no part of the transfer yet. -/
theorem heardClient_kept (world : World) (portByte : UInt8) (reply : List UInt8) (aid : Nat) :
    (heardClient world portByte reply aid).station.cursor =
        (world.host.clients aid).station.cursor ∧
      (heardClient world portByte reply aid).station.seq = (world.host.clients aid).station.seq := by
  rw [heardClient]
  rcases (replyClient_turn world.host.bootMode world.host.gather portByte reply
    (world.host.clients aid)).station with same | ⟨_, taken⟩
  · rw [same]
    exact ⟨rfl, rfl⟩
  · rw [taken]
    exact ⟨rfl, rfl⟩

theorem station_step {world : World} (valid : HostInv world) (event : Event) (aid : Nat) :
    StationStep world aid event (step world event) := by
  have quiet : ∀ event : Event, (∀ ready beaconOk pass, event ≠ .update ready beaconOk pass) →
      ((step world event).host.clients aid).station.cursor =
          (world.host.clients aid).station.cursor ∧
        ((step world event).host.clients aid).station.seq = (world.host.clients aid).station.seq →
      StationStep world aid event (step world event) := fun event other kept =>
    .quiet event kept ((log_step valid event).mono fun _ note => note.silent other)
  cases event with
  | update ready beaconOk pass =>
      by_cases running : beaconRunning ready beaconOk world.host = true
      · have served : StationStep world.begun aid (.update ready beaconOk pass)
            (servePass pass world.begun) := servePass_step aid ready beaconOk valid.stations
        rw [step, update_running running]
        change StationStep world aid _ (servePass pass world.begun)
        cases served with
        | quiet _ kept log => exact .quiet _ kept log
        | left _ blank log told => exact .left _ blank log told
        | served _ _ _ before here stage first valid last =>
            exact .served ready beaconOk pass before here stage ⟨first.station, first.mask, first.log⟩ valid
              last
      · obtain ⟨clients, _, same, _⟩ := @update_idle ready beaconOk pass world running
        exact .quiet _ ⟨by rw [step, clients], by rw [step, clients]⟩ (.of_log same)
  | packet type macaddr portByte reply =>
      refine quiet _ (by intros; intro same; cases same) ?_
      rw [step, packet_clients]
      split
      · exact heardClient_kept world portByte reply aid
      · exact ⟨rfl, rfl⟩
  | bootClient target =>
      refine quiet _ (by intros; intro same; cases same) ?_
      rw [step, bootClient_clients]
      split <;> exact ⟨rfl, rfl⟩
  | bootAll =>
      refine quiet _ (by intros; intro same; cases same) ?_
      rw [step, bootAll_clients]
      split <;> exact ⟨rfl, rfl⟩
  | appSend data =>
      refine quiet _ (by intros; intro same; cases same) ?_
      obtain ⟨_, _, sent⟩ := appSend_frame world data
      rw [step, sent]
      exact ⟨rfl, rfl⟩
  | lockRoom locked =>
      refine quiet _ (by intros; intro same; cases same) ?_
      rw [step, lockRoom_host]
      exact ⟨rfl, rfl⟩
  | mpHost _ | setBootMode _ | setGather _ | setPace _ _ | setAppHandler _ =>
      exact quiet _ (by intros; intro same; cases same) ⟨rfl, rfl⟩

end Dswifi.DlPlay
