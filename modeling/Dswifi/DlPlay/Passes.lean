import Dswifi.DlPlay.Gathering

/-! What a whole pass does: to each record, to the table of clients, and what it
records. -/

namespace Dswifi.DlPlay

open Runs MpHost KickRequests

/-- A frame of the multiboot port that starts no program, or the one that ends
an exchange. -/
def QuietFrame (item : Note) : Prop :=
  ∃ opcode, opcode ≠ cmdOpBootreq ∧ (FrameOf flagsNormal opcode item ∨ FrameOf 0 opcode item)

/-- A request to start the program, addressed to these clients. -/
def BootFrame (dest : Mask) : Note → Prop
  | .frame bytes queued => FrameOf flagsNormal cmdOpBootreq (.frame bytes queued) ∧ footer bytes = dest
  | _ => False

/-- What sending may do: serve some of the station clients, and hand out frames. -/
structure Delivers (served : Nat → Prop) (allowed : Note → Prop) (world next : World) : Prop where
  others : ∀ aid, ¬ served aid → next.host.clients aid = world.host.clients aid
  own : ∀ aid, OnlyStation (world.host.clients aid) (next.host.clients aid)
  valid : (∀ aid, StationInv (world.host.clients aid).station) →
    ∀ aid, StationInv (next.host.clients aid).station
  mp : SameTable world.mp next.mp
  settings : next.host.settings = world.host.settings
  log : Appends (fun item => allowed item ∨ ∃ aid, served aid ∧ ServeNote aid item) world next
  chunk : ∀ aid index length, Note.stationChunk aid index length ∈ next.log.drop world.log.length →
    (next.host.clients aid).waitCount = 0

/-- A function that only hands out frames records no chunk. -/
def NoChunk (allowed : Note → Prop) : Prop :=
  ∀ aid index length, ¬ allowed (.stationChunk aid index length)

namespace Delivers
variable {served : Nat → Prop} {allowed : Note → Prop} {first second third : World}

theorem of_sends {kind : Note → Prop} (weaker : ∀ item, kind item → allowed item)
    (plain : NoChunk kind) (sent : Sends kind first second) : Delivers served allowed first second := by
  have same : ∀ aid, second.host.clients aid = first.host.clients aid := congrFun sent.clients
  refine ⟨fun aid _ => same aid, fun aid => same aid ▸ .refl _, fun valid aid => same aid ▸ valid aid,
    sent.mp ▸ .refl _, sent.settings, sent.log.mono fun item fits => .inl (weaker item fits), ?_⟩
  intro aid index length member
  exact absurd (sent.log.drop _ member) (plain aid index length)

theorem of_serves {aid : Nat} (own : served aid) (serves : Serves aid first second) :
    Delivers served allowed first second := by
  have others : ∀ other, other ≠ aid → second.host.clients other = first.host.clients other :=
    serves.others
  refine ⟨fun other not => others other fun same => not (same ▸ own), fun other => ?_,
    fun valid other => ?_, serves.mp ▸ .refl _, serves.settings,
    serves.log.mono fun item fits => .inr ⟨aid, own, fits⟩, fun other index length member => ?_⟩
  · by_cases same : other = aid
    · exact same ▸ serves.own
    · exact others other same ▸ .refl _
  · by_cases same : other = aid
    · exact same ▸ serves.valid (valid aid)
    · exact others other same ▸ valid other
  · have mine : other = aid := serves.log.drop _ member
    subst other
    exact serves.chunk index length member

theorem trans (before : Delivers served allowed first second)
    (after : Delivers served allowed second third) : Delivers served allowed first third := by
  refine ⟨fun aid not => (after.others aid not).trans (before.others aid not),
    fun aid => (before.own aid).trans (after.own aid), after.valid ∘ before.valid,
    before.mp.trans after.mp, after.settings.trans before.settings, before.log.trans after.log, ?_⟩
  intro aid index length member
  rcases before.log.split after.log member with earlier | later
  · have zero := before.chunk aid index length earlier
    obtain ⟨_, wait, same, kept | kept⟩ := after.own aid
    · rw [same]; exact kept.trans zero
    · rw [same]; exact kept
  · exact after.chunk aid index length later

theorem mono {wider : Note → Prop} (weaker : ∀ item, allowed item → wider item)
    (delivered : Delivers served allowed first second) : Delivers served wider first second :=
  { delivered with log := delivered.log.mono fun item => Or.imp_left (weaker item) }

end Delivers

theorem quiet_of_normal {opcode : UInt8} (other : opcode ≠ cmdOpBootreq) (item : Note)
    (fits : FrameOf flagsNormal opcode item) : QuietFrame item := ⟨opcode, other, .inl fits⟩

theorem quiet_stream (item : Note) (fits : StreamFrame item) : QuietFrame item :=
  fits.elim (quiet_of_normal (by decide) item) (quiet_of_normal (by decide) item)

theorem noChunk_frameOf (header opcode : UInt8) : NoChunk (FrameOf header opcode) :=
  fun _ _ _ => id

theorem noChunk_stream : NoChunk StreamFrame := fun _ _ _ fits => fits.elim id id

/-! The rotation. -/

section Bulk
variable {allowed : Note → Prop} (pass : Pass) (bmp : Bitmaps) (sendFileId : UInt8)

/-- What the senders keep and a turn leaves alone holds from one end of the rotation to the other. -/
theorem sendBulk_relates {related : World → World → Prop}
    (trans : ∀ {first second third : World}, related first second → related second third →
      related first third)
    (turn : ∀ (world : World) (slot : Nat), related world (world.takeTurn slot))
    (dummy : ∀ world, related world (sendDummy pass world))
    (stream : ∀ world, related world (sendNextBlock pass world (bmp .send) sendFileId))
    (app : ∀ world, related world (sendApp pass world (bmp .app)))
    (serve : ∀ (world : World) (aid : Nat), (bmp .station).getLsbD aid = true →
      StationInv (world.host.clients aid).station → related world (stationServe pass world aid).1)
    (slots : List Nat) (world : World)
    (valid : ∀ aid, StationInv (world.host.clients aid).station) :
    related world (sendBulk pass bmp sendFileId slots world) := by
  induction slots generalizing world with
  | nil => exact dummy world
  | cons slot rest ih =>
      simp only [sendBulk]
      split
      · split
        · exact ih world valid
        · exact trans (turn world slot) (stream _)
      · split
        · split
          · exact ih world valid
          · exact trans (turn world slot) (app _)
        · split
          · rename_i member
            have one := serve world slot member (valid slot)
            split
            · exact trans one (turn _ slot)
            · -- a console that had nothing was served all the same, and the next slot is asked
              exact trans one (ih _ ((serves_stationServe pass world slot (valid slot)).all_valid valid))
          · exact ih world valid

theorem delivers_sendBulk (slots : List Nat) (world : World)
    (valid : ∀ aid, StationInv (world.host.clients aid).station) :
    Delivers (fun aid => (bmp .station).getLsbD aid = true) QuietFrame world
      (sendBulk pass bmp sendFileId slots world) := by
  refine @sendBulk_relates pass bmp sendFileId
    (Delivers (fun aid => (bmp .station).getLsbD aid = true) QuietFrame) Delivers.trans
    (fun world slot => ?_) (fun world => ?_) (fun world => ?_) (fun world => ?_)
    (fun world aid member valid => ?_) slots world valid
  · exact .of_sends (fun _ => id) (fun _ _ _ quiet => quiet.elim fun _ fits => fits.2.elim id id)
      (.of_host world _ rfl rfl)
  · exact .of_sends (quiet_of_normal (by decide)) (noChunk_frameOf _ _) (sends_sendDummy pass world)
  · exact .of_sends quiet_stream noChunk_stream (sends_sendNextBlock pass world _ _)
  · exact .of_sends (quiet_of_normal (by decide)) (noChunk_frameOf _ _) (sends_sendApp pass world _)
  · exact .of_serves member (serves_stationServe pass world aid valid)

end Bulk

/-! The groups. -/

theorem kickMember_frame (bmp : Mask) (world : World) (aid : Nat) :
    SameTable world.mp (kickMember bmp world aid).mp ∧
      (kickMember bmp world aid).host = world.host ∧ (kickMember bmp world aid).log = world.log := by
  unfold kickMember
  split
  · exact ⟨.kick _ _, rfl, rfl⟩
  · exact ⟨.refl _, rfl, rfl⟩

theorem delivers_kickMembers {served : Nat → Prop} {allowed : Note → Prop} (bmp : Mask)
    (indices : List Nat) (world : World) :
    Delivers served allowed world (indices.foldl (kickMember bmp) world) := by
  have host : (indices.foldl (kickMember bmp) world).host = world.host :=
    loop_frame (fun world : World => world.host) (kickMember bmp)
      (fun world aid => (kickMember_frame bmp world aid).2.1) indices world
  have log : (indices.foldl (kickMember bmp) world).log = world.log :=
    loop_frame (fun world : World => world.log) (kickMember bmp)
      (fun world aid => (kickMember_frame bmp world aid).2.2) indices world
  have mp : SameTable world.mp (indices.foldl (kickMember bmp) world).mp :=
    loop_invariant (fun next : World => SameTable world.mp next.mp) (kickMember bmp)
      (fun next aid before => before.trans (kickMember_frame bmp next aid).1) indices world (.refl _)
  refine ⟨fun aid _ => by rw [host], fun aid => host ▸ .refl _, fun valid aid => host ▸ valid aid, mp,
    by rw [host], .of_log log, fun aid index length member => ?_⟩
  rw [log] at member
  simp at member

/-- The footer of the request to start is the group, as far as it is associated. -/
theorem delivers_sendBootReq {served : Nat → Prop} (pass : Pass) (world : World) (dest : Mask) :
    Delivers served (BootFrame (dest &&& associatedMask world.mp)) world
      (sendBootReq pass world dest) := by
  have built : cmdStart world flagsNormal (shortPayload cmdOpBootreq) dest =
      some ([3, flagsNormal] ++ shortPayload cmdOpBootreq ++
        u16Bytes (dest &&& multiplayerGetClientMask world.mp &&& ~~~ 1#16).toNat) := by
    have normal : flagsNormal &&& flagsHasFooter ≠ 0 := by decide
    simp only [cmdStart, if_pos normal]
    rw [if_neg (by decide)]
    rfl
  have sent : Sends (BootFrame (dest &&& associatedMask world.mp)) world
      (sendBootReq pass world dest) := by
    rw [sendBootReq, cmdStartSend, built]
    refine sends_cmdSend pass world _ fun queued => ⟨frameOf_cmdStart built queued, ?_⟩
    rw [footer_append, associatedMask, BitVec.and_assoc]
  exact .of_sends (fun _ => id) (fun _ _ _ => id) sent

/-- Among these notes, those of a pass that sends the groups of `gathering`. -/
def GroupNote (gathering : Gathering) (item : Note) : Prop :=
  QuietFrame item ∨ BootFrame (gathering.bmp .boot &&& associatedMask gathering.world.mp) item

theorem delivers_sendGroups (pass : Pass) (gathering : Gathering)
    (valid : ∀ aid, StationInv (gathering.world.host.clients aid).station) :
    Delivers (fun aid => (gathering.bmp .station).getLsbD aid = true) (GroupNote gathering)
      gathering.world (sendGroups pass gathering) := by
  have quiet : ∀ item, QuietFrame item → GroupNote gathering item := fun _ => .inl
  unfold sendGroups
  dsimp only
  split
  · refine (delivers_kickMembers (gathering.bmp .sessionEnd) aids gathering.world).trans
      (.of_sends (fun item ends => quiet item ⟨0, by decide, .inr ends⟩) (noChunk_frameOf _ _)
        (sends_sendSessionEnd pass _))
  · split
    · exact (delivers_sendBootReq pass gathering.world (gathering.bmp .boot)).mono fun _ => .inr
    · split
      · exact .of_sends (fun item fits => quiet item (quiet_of_normal (by decide) item fits))
          (noChunk_frameOf _ _) (sends_sendStart pass _ _)
      · split
        · exact .of_sends (fun item fits => quiet item (quiet_of_normal (by decide) item fits))
            (noChunk_frameOf _ _) (sends_sendFileInfo pass _ _)
        · exact (delivers_sendBulk pass gathering.bmp gathering.sendFileId _ gathering.world
            valid).mono quiet

/-! The whole pass. -/

/-- What a pass makes of a record. A client that is not here keeps a record in
stage NONE; every other record without a client is reset. -/
inductive PassRecord (bootMode : BootMode) (gather : Bool) (client : Client) :
    Bool → Client → Prop where
  | absent (idle : client.stage = .none) : PassRecord bootMode gather client false client
  | cleared : PassRecord bootMode gather client false {}
  | served {after : Client}
      (only : OnlyStation (clientPass bootMode gather (arrive true client)).1 after)
      (same : (clientPass bootMode gather (arrive true client)).2 ≠ .join .station →
        after = (clientPass bootMode gather (arrive true client)).1) :
      PassRecord bootMode gather client true after

/-- A pass keeps what the clients that are here said. -/
theorem PassRecord.said_here {bootMode : BootMode} {gather : Bool} {client after : Client}
    (record : PassRecord bootMode gather client true after) : after.said = client.said := by
  cases record with
  | served only same =>
      have arrived : (arrive true client).said = client.said := by
        unfold arrive
        split
        · rfl
        · rw [if_neg (by simp)]
      obtain ⟨_, _, rfl, _⟩ := only
      exact (clientPass_turn bootMode gather _).said.trans arrived

/-- It keeps what a client said, or forgets all of it. -/
theorem PassRecord.said {bootMode : BootMode} {gather : Bool} {client after : Client}
    {here : Bool} (record : PassRecord bootMode gather client here after) :
    after.said = client.said ∨ after = {} := by
  cases here with
  | true => exact .inl record.said_here
  | false =>
      cases record with
      | absent idle => exact .inl rfl
      | cleared => exact .inr rfl

/-- What a pass records, told by the hosts it starts from and ends in. -/
def PassNote (world next : World) : Note → Prop
  | .frame bytes queued =>
      QuietFrame (.frame bytes queued) ∨ (∃ aid, ServeNote aid (.frame bytes queued)) ∨
        ∃ dest, BootFrame dest (.frame bytes queued) ∧ ∀ aid, dest.getLsbD aid = true →
          aid ∈ aids ∧ (next.host.clients aid).stage = .bootRequest
  | .giveUpOnClient aid reason =>
      aid ∈ aids ∧ (associatedMask world.mp).getLsbD aid = true ∧
        (turnOf world.host (arrive true (world.host.clients aid))).2 = .giveUp reason
  | .resetOneClient aid => (associatedMask world.mp).getLsbD aid = false
  | .stationChunk aid _ _ => (next.host.clients aid).waitCount = 0
  | .beaconSetPlayers players _ => ∀ aid, players.getLsbD aid = true → aid ∈ aids ∧
      (arrive ((associatedMask world.mp).getLsbD aid) (world.host.clients aid)).request.valid = true
  | .stationServe _ | .stationAccepted _ _ _ _ | .beaconPatchType _ => True
  | .bootClient _ | .appMessage _ _ => False

theorem players_bits (host : Host) (aid : Nat) (member : (players host).getLsbD aid = true) :
    aid ∈ aids ∧ (host.clients aid).request.valid = true := by
  have loop : ∀ (indices : List Nat) (mask : Mask),
      (indices.foldl (addPlayer host) mask).getLsbD aid = true →
        mask.getLsbD aid = true ∨ aid ∈ indices ∧ (host.clients aid).request.valid = true := by
    intro indices
    induction indices with
    | nil => exact fun _ set => .inl set
    | cons index rest ih =>
        intro mask set
        rcases ih _ set with before | ⟨later, valid⟩
        · unfold addPlayer at before
          split at before
          · rename_i valid
            rw [BitVec.getLsbD_or, Bool.or_eq_true] at before
            rcases before with old | new
            · exact .inl old
            · simp only [bit, BitVec.getLsbD_twoPow, Bool.and_eq_true, decide_eq_true_eq] at new
              obtain ⟨_, rfl⟩ := new
              exact .inr ⟨List.mem_cons_self, valid⟩
          · exact .inl before
        · exact .inr ⟨List.mem_cons_of_mem _ later, valid⟩
  rcases loop aids 0 member with zero | found
  · simp at zero
  · exact found

theorem turnOf_none (host : Host) (client : Client) (idle : client.stage = .none) :
    turnOf host client = (client, .nothing) := by
  rw [turnOf, clientPass, if_pos idle]

theorem arrive_away_stage (client : Client) : (arrive false client).stage = .none := by
  by_cases idle : client.stage = .none
  · simp [arrive, idle]
  · simp [arrive, idle]

/-- What comes before the groups: arrivals, departures and the list of players. -/
theorem told_log (world : World) (next : World) :
    Appends (PassNote world next) world (tellPlayers (noticeAll world).world) := by
  have noticed : Appends (PassNote world next) world (noticeAll world).world := by
    apply (noticeAll_log world).mono
    intro item reset
    cases item with
    | resetOneClient aid => exact reset
    | _ => exact reset.elim
  refine noticed.trans (Appends.note _ fun aid set => ?_)
  obtain ⟨member, valid⟩ := players_bits _ aid set
  rw [noticeAll_clients, if_pos member] at valid
  exact ⟨member, valid⟩

structure PassDone (world next : World) : Prop where
  record : ∀ aid, aid ∈ aids → PassRecord world.host.bootMode world.host.gather
    (world.host.clients aid) ((associatedMask world.mp).getLsbD aid) (next.host.clients aid)
  valid : (∀ aid, StationInv (world.host.clients aid).station) →
    ∀ aid, StationInv (next.host.clients aid).station
  mp : SameTable world.mp next.mp
  settings : next.host.settings = world.host.settings
  log : Appends (PassNote world next) world next

theorem stationInv_blank : StationInv ({} : Client).station := ⟨nofun, fun busy => absurd rfl busy, by decide⟩

theorem arrive_valid (here : Bool) {client : Client} (valid : StationInv client.station) :
    StationInv (arrive here client).station := by
  unfold arrive
  split
  · exact valid
  · split
    · exact stationInv_blank
    · exact valid

theorem noticeAll_valid (world : World) (valid : ∀ aid, StationInv (world.host.clients aid).station)
    (aid : Nat) : StationInv ((noticeAll world).world.host.clients aid).station := by
  rw [noticeAll_clients]
  split
  · exact arrive_valid _ (valid aid)
  · exact valid aid

/-! Nobody is here. -/

theorem resetAll_clients (indices : List Nat) (world : World) (aid : Nat) :
    (indices.foldl resetOneClient world).host.clients aid =
      if aid ∈ indices then {} else world.host.clients aid := by
  induction indices generalizing world with
  | nil => rfl
  | cons index rest ih =>
      rw [List.foldl_cons, ih]
      by_cases later : aid ∈ rest
      · simp [later]
      · by_cases same : aid = index
        · simp [same, resetOneClient]
        · simp [later, same, resetOneClient]

theorem resetAll_frame (indices : List Nat) (world : World) :
    (indices.foldl resetOneClient world).mp = world.mp ∧
      (indices.foldl resetOneClient world).host.settings = world.host.settings :=
  ⟨loop_frame (fun world : World => world.mp) resetOneClient (fun _ _ => rfl) indices world,
    loop_frame (fun world : World => world.host.settings) resetOneClient (fun _ _ => rfl) indices world⟩

theorem resetAll_log {allowed : Note → Prop} (fits : ∀ aid, allowed (.resetOneClient aid))
    (indices : List Nat) (world : World) :
    Appends allowed world (indices.foldl resetOneClient world) :=
  loop_invariant (fun next : World => Appends allowed world next) resetOneClient
    (fun _ aid before => before.trans ((Appends.of_log rfl).trans (Appends.note _ (fits aid))))
    indices world (.refl world)

theorem mask_ne_zero {mask : Mask} {aid : Nat} (set : mask.getLsbD aid = true) : mask ≠ 0 := by
  rintro rfl
  simp at set

theorem associated_empty {world : World} (empty : associatedMask world.mp = 0) (aid : Nat) :
    (associatedMask world.mp).getLsbD aid = false := by rw [empty]; simp

theorem PassRecord.of_away {bootMode : BootMode} {gather : Bool} {client : Client} :
    PassRecord bootMode gather client false (arrive false client) := by
  by_cases idle : client.stage = .none
  · have same : arrive false client = client := by simp [arrive, idle]
    rw [same]
    exact .absent idle
  · have blank : arrive false client = {} := by simp [arrive, idle]
    rw [blank]
    exact .cleared

theorem resetClient_log (world : World) :
    (resetClient world).log = (aids.foldl resetOneClient world).log := by rw [resetClient]

theorem resetClient_clients (world : World) (aid : Nat) :
    (resetClient world).host.clients aid = if aid ∈ aids then {} else world.host.clients aid := by
  rw [resetClient, resetAll_clients]

theorem resetClient_frame (world : World) :
    (resetClient world).mp = world.mp ∧ (resetClient world).host.settings = world.host.settings := by
  rw [resetClient]
  exact resetAll_frame aids world

theorem appends_applyRoomState {allowed : Note → Prop} (fits : ∀ attr, allowed (.beaconPatchType attr))
    (world : World) : Appends allowed world (applyRoomState world) :=
  (Appends.note world (fits _)).trans (.of_log rfl)

/-- The end of a pass that finds nobody. -/
def serveEmpty (left : Bool) (world : World) : World :=
  let world := if left then (resetClient world).note (.beaconPatchType beaconTypeIdle) else world
  applyRoomState (world.setRoomFull false)

theorem serveEmpty_done (world : World) (left : Bool) (empty : associatedMask world.mp = 0) :
    PassDone world (serveEmpty left (tellPlayers (noticeAll world).world)) := by
  have told := told_log world (serveEmpty left (tellPlayers (noticeAll world).world))
  have noticed : ∀ aid, aid ∈ aids → (tellPlayers (noticeAll world).world).host.clients aid =
      arrive false (world.host.clients aid) := by
    intro aid member
    rw [tellPlayers, note_clients, noticeAll_clients, if_pos member, associated_empty empty]
  have mp := noticeAll_mp world
  have settings := noticeAll_settings world
  have valid := noticeAll_valid world
  cases left with
  | false =>
      refine ⟨fun aid member => ?_, fun before aid => valid before aid, ?_, settings, ?_⟩
      · rw [associated_empty empty]
        have same := noticed aid member
        exact same ▸ .of_away
      · exact mp ▸ .allow _ _
      · exact (told.trans (.of_log rfl)).trans
          (appends_applyRoomState (fun _ => trivial) (World.setRoomFull _ false))
  | true =>
      obtain ⟨resetMp, resetSettings⟩ := resetClient_frame (tellPlayers (noticeAll world).world)
      have clients := resetClient_clients (tellPlayers (noticeAll world).world)
      refine ⟨fun aid member => ?_, fun before aid => ?_, ?_, resetSettings.trans settings, ?_⟩
      · rw [associated_empty empty]
        have blank : (serveEmpty true (tellPlayers (noticeAll world).world)).host.clients aid = {} :=
          (clients aid).trans (if_pos member)
        exact blank ▸ .cleared
      · have after : (serveEmpty true (tellPlayers (noticeAll world).world)).host.clients aid =
            if aid ∈ aids then {} else (tellPlayers (noticeAll world).world).host.clients aid :=
          clients aid
        rw [after]
        split
        · exact stationInv_blank
        · exact valid before aid
      · exact (resetMp.trans mp) ▸ .allow _ _
      · have reset : Appends (PassNote world (serveEmpty true (tellPlayers (noticeAll world).world)))
            (tellPlayers (noticeAll world).world) (resetClient (tellPlayers (noticeAll world).world)) :=
          (resetAll_log (associated_empty empty) aids _).trans (.of_log (resetClient_log _))
        have idle : Appends (PassNote world (serveEmpty true (tellPlayers (noticeAll world).world)))
            (resetClient (tellPlayers (noticeAll world).world))
            ((resetClient (tellPlayers (noticeAll world).world)).note
              (.beaconPatchType beaconTypeIdle)) := .note _ trivial
        exact ((told.trans reset).trans idle).trans ((Appends.of_log rfl).trans
          (appends_applyRoomState (fun _ => trivial) (World.setRoomFull _ false)))

/-! Somebody is here. -/

/-- The world the timers of a pass start from. -/
def roomApplied (world : World) : World :=
  applyRoomState ((tellPlayers (noticeAll world).world).setRoomFull
    (decide (multiplayerGetNumClients (tellPlayers (noticeAll world).world).mp ≥
      (tellPlayers (noticeAll world).world).host.maxClients)))

theorem roomApplied_clients (world : World) (aid : Nat) (member : aid ∈ aids) :
    (roomApplied world).host.clients aid =
      arrive ((associatedMask world.mp).getLsbD aid) (world.host.clients aid) := by
  have noticed := noticeAll_clients world aid
  rw [if_pos member] at noticed
  exact noticed

theorem roomApplied_mp (world : World) : SameTable world.mp (roomApplied world).mp := by
  have mp := noticeAll_mp world
  exact mp ▸ .allow _ _

theorem roomApplied_settings (world : World) :
    (roomApplied world).host.settings = world.host.settings := noticeAll_settings world

theorem roomApplied_log (world next : World) :
    Appends (PassNote world next) world (roomApplied world) :=
  ((told_log world next).trans (.of_log rfl)).trans
    (appends_applyRoomState (fun _ => trivial) (World.setRoomFull _ _))

theorem turnOf_modes {host next : Host} (same : next.settings = host.settings) (client : Client) :
    turnOf next client = turnOf host client := by
  obtain ⟨bootMode, gather⟩ := settings_modes same
  rw [turnOf, turnOf, bootMode, gather]

/-- The turn of a client in a pass that serves it. -/
theorem roomApplied_turn (world : World) (aid : Nat) (member : aid ∈ aids) :
    turnOf (roomApplied world).host ((roomApplied world).host.clients aid) =
      turnOf world.host (arrive ((associatedMask world.mp).getLsbD aid) (world.host.clients aid)) := by
  rw [roomApplied_clients world aid member, turnOf_modes (roomApplied_settings world)]

theorem turnOf_turn (host : Host) (client : Client) :
    Turn host.bootMode host.gather client (turnOf host client).1 (turnOf host client).2 :=
  clientPass_turn host.bootMode host.gather client

theorem stationInv_turnOf {host : Host} {client : Client} (valid : StationInv client.station) :
    StationInv (turnOf host client).1.station := by
  rw [(turnOf_turn host client).station_same]
  exact valid

/-- Only the client of a group is here: a client that is away is in stage NONE. -/
theorem turnOf_away (host : Host) (client : Client) :
    turnOf host (arrive false client) = (arrive false client, .nothing) :=
  turnOf_none host _ (arrive_away_stage client)

/-- The loop over the timers, from the world the pass starts from. -/
structure Gathered (world : World) (gathering : Gathering) : Prop where
  client : ∀ aid, aid ∈ aids → gathering.world.host.clients aid =
    (turnOf world.host (arrive ((associatedMask world.mp).getLsbD aid) (world.host.clients aid))).1
  bmp : ∀ aid group, (gathering.bmp group).getLsbD aid = true → aid ∈ aids ∧
    (turnOf world.host (arrive ((associatedMask world.mp).getLsbD aid) (world.host.clients aid))).2 =
      .join group
  valid : (∀ aid, StationInv (world.host.clients aid).station) →
    ∀ aid, StationInv (gathering.world.host.clients aid).station
  mp : SameTable world.mp gathering.world.mp
  settings : gathering.world.host.settings = world.host.settings
  log : ∀ next, Appends (PassNote world next) world gathering.world

theorem gathered (world : World) : Gathered world (gatherClients (roomApplied world)) := by
  have turn := roomApplied_turn world
  refine ⟨fun aid member => ?_, fun aid group set => ?_, fun valid aid => ?_,
    (roomApplied_mp world).trans (gatherClients_mp _),
    (gatherClients_settings _).trans (roomApplied_settings world), fun next => ?_⟩
  · rw [gatherClients_clients _ aid member, turn aid member]
  · obtain ⟨member, joined⟩ := (gatherClients_bmp _ aid group).mp set
    rw [turn aid member] at joined
    exact ⟨member, joined⟩
  · have roomValid : StationInv ((roomApplied world).host.clients aid).station :=
      noticeAll_valid world valid aid
    have entry := gatherClients_entry (roomApplied world) aid
    split at entry
    · rw [gatherClients_clients _ aid ‹_›]
      exact stationInv_turnOf roomValid
    · rw [entryOf, Prod.mk.injEq] at entry
      rw [entry.1]
      exact roomValid
  · refine (roomApplied_log world next).trans ((gatherClients_log _).mono fun item fits => ?_)
    cases item with
    | giveUpOnClient aid reason =>
        obtain ⟨member, ended⟩ := fits
        rw [turn aid member] at ended
        cases here : (associatedMask world.mp).getLsbD aid with
        | false =>
            rw [here, turnOf_away] at ended
            cases ended
        | true => exact ⟨member, here, here ▸ ended⟩
    | _ => exact fits.elim

theorem sendGroups_done (pass : Pass) (world : World) (gathering : Gathering)
    (gathered : Gathered world gathering)
    (valid : ∀ aid, StationInv (world.host.clients aid).station) :
    PassDone world (sendGroups pass gathering) := by
  have sent := delivers_sendGroups pass gathering (gathered.valid valid)
  have record : ∀ aid, aid ∈ aids → PassRecord world.host.bootMode world.host.gather
      (world.host.clients aid) ((associatedMask world.mp).getLsbD aid)
      ((sendGroups pass gathering).host.clients aid) := by
    intro aid member
    have before := gathered.client aid member
    have joined := gathered.bmp aid .station
    cases here : (associatedMask world.mp).getLsbD aid with
    | false =>
        rw [here, turnOf_away] at before joined
        have unserved := sent.others aid fun set => nomatch (joined set).2
        rw [unserved, before]
        exact .of_away
    | true =>
        rw [here] at before joined
        refine .served (before ▸ sent.own aid) fun other => ?_
        exact (sent.others aid fun set => other (joined set).2).trans before
  refine ⟨record, fun _ => sent.valid (gathered.valid valid), gathered.mp.trans sent.mp,
    sent.settings.trans gathered.settings, ?_⟩
  have chunk := sent.chunk
  obtain ⟨items, log, fits⟩ := sent.log
  refine (gathered.log _).trans ⟨items, log, fun item member => ?_⟩
  have chunked : ∀ aid index length, item = .stationChunk aid index length →
      ((sendGroups pass gathering).host.clients aid).waitCount = 0 := by
    rintro aid index length rfl
    exact chunk aid index length (by simpa [log] using member)
  -- a frame of a group, a request to start, or the turn of a station client
  rcases fits item member with (quiet | boot) | ⟨aid, -, serve⟩
  · obtain ⟨opcode, other, fits⟩ := quiet
    cases item with
    | frame bytes queued => exact .inl ⟨opcode, other, fits⟩
    | _ => exact (fits.elim id id).elim
  · cases item with
    | frame bytes queued =>
        refine .inr (.inr ⟨_, boot, fun aid set => ?_⟩)
        rw [BitVec.getLsbD_and, Bool.and_eq_true] at set
        obtain ⟨inside, joined⟩ := gathered.bmp aid .boot set.1
        have after := gathered.client aid inside
        have turn := turnOf_turn world.host
          (arrive ((associatedMask world.mp).getLsbD aid) (world.host.clients aid))
        rw [joined, ← after] at turn
        exact ⟨inside, (sent.own aid).stage.trans turn.boot.2⟩
    | _ => exact boot.elim
  · cases item with
    | frame bytes queued => exact .inr (.inl ⟨aid, serve⟩)
    | stationServe _ | stationAccepted _ _ _ _ => trivial
    | stationChunk aid index length => exact chunked aid index length rfl
    | _ => exact serve.elim

/-! The two ways of a pass. -/

theorem servePass_empty (pass : Pass) {world : World} (empty : associatedMask world.mp = 0) :
    servePass pass world = serveEmpty (noticeAll world).left (tellPlayers (noticeAll world).world) := by
  simp only [servePass, if_pos empty, serveEmpty]

theorem servePass_here (pass : Pass) {world : World} (here : associatedMask world.mp ≠ 0) :
    servePass pass world = sendGroups pass (gatherClients (roomApplied world)) := by
  simp only [servePass, if_neg here, sendForState, roomApplied]

theorem servePass_done (pass : Pass) (world : World)
    (valid : ∀ aid, StationInv (world.host.clients aid).station) :
    PassDone world (servePass pass world) := by
  by_cases empty : associatedMask world.mp = 0
  · rw [servePass_empty pass empty]
    exact serveEmpty_done world _ empty
  · rw [servePass_here pass empty]
    exact sendGroups_done pass world _ (gathered world) valid

end Dswifi.DlPlay
