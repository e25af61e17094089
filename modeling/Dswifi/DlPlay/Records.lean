import Dswifi.DlPlay.Passes

/-! What one step of a run does: to the record of a client, to the table of
clients, and what it records. Every statement about the runs of a host is proved
from these. -/

namespace Dswifi.DlPlay

open Runs MpHost KickRequests

/-- Whether a console is associated on this id. -/
abbrev World.here (world : World) (aid : Nat) : Bool := (associatedMask world.mp).getLsbD aid

/-! The pass. -/

/-- Starting the beacon, or failing to, changes nothing else. -/
theorem startBeacon_frame (ready beaconOk : Bool) (world : World) : ∃ active beaconStarted,
    startBeacon ready beaconOk world = { world with host := { world.host with active, beaconStarted } } := by
  unfold startBeacon
  split
  · exact ⟨world.host.active, world.host.beaconStarted, rfl⟩
  · split
    · exact ⟨world.host.active, world.host.beaconStarted, rfl⟩
    · split
      · exact ⟨false, world.host.beaconStarted, rfl⟩
      · exact ⟨world.host.active, true, rfl⟩

theorem update_idle {ready beaconOk : Bool} {pass : Pass} {world : World}
    (stopped : ¬ beaconRunning ready beaconOk world.host = true) :
    (update ready beaconOk pass world).host.clients = world.host.clients ∧
      (update ready beaconOk pass world).mp = world.mp ∧
      (update ready beaconOk pass world).log = world.log ∧
      (update ready beaconOk pass world).host.bootMode = world.host.bootMode ∧
      (update ready beaconOk pass world).host.gather = world.host.gather := by
  obtain ⟨_, _, begun⟩ := startBeacon_frame ready beaconOk world
  rw [update, if_neg stopped, begun]
  exact ⟨rfl, rfl, rfl, rfl, rfl⟩

theorem update_running {ready beaconOk : Bool} {pass : Pass} {world : World}
    (running : beaconRunning ready beaconOk world.host = true) :
    update ready beaconOk pass world =
      servePass pass { world with host := { world.host with beaconStarted := true } } := by
  have begun : startBeacon ready beaconOk world =
      { world with host := { world.host with beaconStarted := true } } := by
    simp only [beaconRunning, Bool.and_eq_true, Bool.or_eq_true] at running
    obtain ⟨active, running⟩ := running
    unfold startBeacon
    by_cases started : world.host.beaconStarted = true
    · rw [if_pos (.inr started)]
      conv => rhs; rw [← started]
    · obtain ⟨ready, ok⟩ := running.resolve_left started
      simp [active, started, ready, ok]
  rw [update, if_pos running, begun]

theorem update_done {ready beaconOk : Bool} {pass : Pass} {world : World}
    (running : beaconRunning ready beaconOk world.host = true)
    (valid : ∀ aid, StationInv (world.host.clients aid).station) :
    PassDone world (update ready beaconOk pass world) := by
  rw [update_running running]
  have done := servePass_done pass { world with host := { world.host with beaconStarted := true } } valid
  refine ⟨done.record, done.valid, done.mp, done.settings, done.log.mono fun item fits => ?_⟩
  cases item <;> exact fits

/-! Replies. -/

/-- Whether a frame reaches the record of `aid`. -/
def Hears (world : World) (type : PacketType) (macaddr : Mac) (aid : Nat) : Prop :=
  type = .reply ∧ world.host.active = true ∧ aid ∈ aids ∧
    multiplayerClientGetAIDFromMac world.mp macaddr = aid

instance (world : World) (type : PacketType) (macaddr : Mac) (aid : Nat) :
    Decidable (Hears world type macaddr aid) := by unfold Hears; infer_instance

/-- Only an associated console is heard. -/
theorem Hears.here {world : World} {type : PacketType} {macaddr : Mac} {aid : Nat}
    (hears : Hears world type macaddr aid) (table : TableInv world.mp) : world.here aid = true := by
  obtain ⟨_, _, member, sender⟩ := hears
  have range := (mem_aids aid).mp member
  unfold multiplayerClientGetAIDFromMac at sender
  split at sender
  · rename_i i found
    have test := List.find?_some found
    simp only [decide_eq_true_eq] at test
    have own := (table.aid i test.1).symm.trans sender
    subst own
    have set := (table.mask i (by omega)).mpr test.1
    simp only [maxMultiplayerClients] at range
    rw [World.here, associatedMask, multiplayerGetClientMask, BitVec.getLsbD_and, set,
      BitVec.getLsbD_not, show (1#16) = bit 16 0 from rfl, bit, BitVec.getLsbD_twoPow]
    simp
    omega
  · omega

/-- The record of `aid` after a frame it sent. -/
def heardClient (world : World) (portByte : UInt8) (reply : List UInt8) (aid : Nat) : Client :=
  replyClient world.host.bootMode world.host.gather portByte reply (world.host.clients aid)

theorem replyHost_frame (aid : Nat) (portByte : UInt8) (reply : List UInt8) (world : World) :
    (replyHost aid portByte reply world).host.clients = world.host.clients ∧
      (replyHost aid portByte reply world).mp = world.mp ∧
      (replyHost aid portByte reply world).host.settings = world.host.settings ∧
      Appends (fun item => ∃ aid message, item = .appMessage aid message) world
        (replyHost aid portByte reply world) := by
  unfold replyHost
  split
  · exact ⟨rfl, rfl, rfl, .refl world⟩
  · split
    · split
      · exact ⟨rfl, rfl, rfl, .of_log rfl⟩
      · exact ⟨rfl, rfl, rfl, .refl world⟩
    · split
      · exact ⟨rfl, rfl, rfl, .note world ⟨_, _, rfl⟩⟩
      · exact ⟨rfl, rfl, rfl, .refl world⟩
    · exact ⟨rfl, rfl, rfl, .refl world⟩

theorem aidValid_iff (aid : Nat) : aidValid aid = true ↔ aid ∈ aids := by
  rw [mem_aids, aidValid, decide_eq_true_eq]
  omega

theorem packet_clients (world : World) (type : PacketType) (macaddr : Mac) (portByte : UInt8)
    (reply : List UInt8) (aid : Nat) :
    (handlePacketFromClient type macaddr portByte reply world).host.clients aid =
      if Hears world type macaddr aid then heardClient world portByte reply aid
      else world.host.clients aid := by
  unfold handlePacketFromClient
  dsimp only
  generalize sender : multiplayerClientGetAIDFromMac world.mp macaddr = source
  have hears : Hears world type macaddr aid ↔
      type = .reply ∧ world.host.active = true ∧ aid ∈ aids ∧ source = aid := by rw [Hears, sender]
  rw [show (if Hears world type macaddr aid then heardClient world portByte reply aid
      else world.host.clients aid) = if type = .reply ∧ world.host.active = true ∧ aid ∈ aids ∧
        source = aid then heardClient world portByte reply aid else world.host.clients aid from
    if_congr hears rfl rfl]
  split
  · rename_i nobody
    refine (if_neg fun ⟨_, _, member, same⟩ => ?_).symm
    have := (mem_aids aid).mp member
    omega
  · unfold fromClientHandler
    split
    · rename_i other
      rw [if_neg fun ⟨same, _⟩ => other same]
    · split
      · rename_i inactive
        rw [if_neg fun ⟨_, active, _⟩ => by simp [active] at inactive]
      · split
        · rename_i invalid
          refine (if_neg fun ⟨_, _, member, same⟩ => ?_).symm
          rw [same, (aidValid_iff aid).mpr member] at invalid
          exact absurd invalid (by decide)
        · rename_i _ known active valid
          rw [(replyHost_frame source portByte reply _).1, setClient_clients]
          by_cases same : source = aid
          · rw [same, Function.update_self, if_pos ⟨of_not_not known, by simpa using active,
              (aidValid_iff aid).mp (by simpa [same] using valid), rfl⟩]
            rfl
          · rw [Function.update_of_ne (Ne.symm same), if_neg fun all => same all.2.2.2]

/-- An answer is for its client, and may ask the stream to go back. -/
theorem packet_host (world : World) (type : PacketType) (macaddr : Mac) (portByte : UInt8)
    (reply : List UInt8) : ∃ clients blockRequested,
    (handlePacketFromClient type macaddr portByte reply world).host =
      { world.host with clients, blockRequested } := by
  have heard : ∀ (world : World) aid, ∃ blockRequested,
      (replyHost aid portByte reply world).host = { world.host with blockRequested } := by
    intro world aid
    unfold replyHost
    split
    · exact ⟨world.host.blockRequested, rfl⟩
    · split
      · split
        · exact ⟨true, rfl⟩
        · exact ⟨world.host.blockRequested, rfl⟩
      · split <;> exact ⟨world.host.blockRequested, rfl⟩
      · exact ⟨world.host.blockRequested, rfl⟩
  have ignored : ∃ clients blockRequested, world.host = { world.host with clients, blockRequested } :=
    ⟨world.host.clients, world.host.blockRequested, rfl⟩
  unfold handlePacketFromClient fromClientHandler
  dsimp only
  split
  · exact ignored
  · split
    · exact ignored
    · split
      · exact ignored
      · split
        · exact ignored
        · obtain ⟨blockRequested, told⟩ := heard (World.setClient world _ _) _
          exact ⟨_, blockRequested, told⟩

theorem packet_frame (world : World) (type : PacketType) (macaddr : Mac) (portByte : UInt8)
    (reply : List UInt8) :
    (handlePacketFromClient type macaddr portByte reply world).mp = world.mp ∧
      (handlePacketFromClient type macaddr portByte reply world).host.settings =
        world.host.settings ∧
      Appends (fun item => ∃ aid message, item = .appMessage aid message) world
        (handlePacketFromClient type macaddr portByte reply world) := by
  unfold handlePacketFromClient fromClientHandler
  dsimp only
  split
  · exact ⟨rfl, rfl, .refl world⟩
  · split
    · exact ⟨rfl, rfl, .refl world⟩
    · split
      · exact ⟨rfl, rfl, .refl world⟩
      · split
        · exact ⟨rfl, rfl, .refl world⟩
        · obtain ⟨_, mp, settings, log⟩ := replyHost_frame
            (multiplayerClientGetAIDFromMac world.mp macaddr) portByte reply
            (world.setClient _ (replyClient world.host.bootMode world.host.gather portByte reply
              (world.host.clients (multiplayerClientGetAIDFromMac world.mp macaddr))))
          exact ⟨mp, settings, (Appends.of_log rfl).trans log⟩

/-! The calls that start a client. -/

/-- The record of a client the application asks to start. -/
def bootedClient (client : Client) : Client :=
  setClientStage { client with bootRequested := true } .bootRequest

theorem bootClient_clients (world : World) (target : Int) (aid : Nat) :
    (bootClient world target).1.host.clients aid =
      if target = aid ∧ aid ∈ aids ∧ (world.host.clients aid).stage = .sendComplete then
        bootedClient (world.host.clients aid)
      else world.host.clients aid := by
  unfold bootClient
  dsimp only
  split
  · rename_i invalid
    refine (if_neg fun ⟨same, member, _⟩ => ?_).symm
    rw [same, (aidValid_iff aid).mpr member] at invalid
    exact absurd invalid (by decide)
  · rename_i valid
    have range : 1 ≤ target ∧ target ≤ maxMultiplayerClients := by simpa [aidValid] using valid
    split
    · rename_i other
      refine (if_neg fun ⟨same, _, stage⟩ => ?_).symm
      subst same
      exact other stage
    · rename_i complete
      rw [setClient_clients]
      by_cases same : target = aid
      · subst target
        rw [if_pos ⟨rfl, (mem_aids aid).mpr (by omega), of_not_not complete⟩, Int.toNat_natCast,
          Function.update_self]
        rfl
      · have distinct : aid ≠ target.toNat := by omega
        rw [if_neg fun all => same all.1, Function.update_of_ne distinct]
        rfl

theorem bootClient_host (world : World) (target : Int) : ∃ clients,
    (bootClient world target).1.host = { world.host with clients } := by
  unfold bootClient
  dsimp only
  split
  · exact ⟨world.host.clients, rfl⟩
  · split
    · exact ⟨world.host.clients, rfl⟩
    · exact ⟨_, rfl⟩

theorem bootClient_frame (world : World) (target : Int) :
    (bootClient world target).1.mp = world.mp ∧
      (bootClient world target).1.host.settings = world.host.settings ∧
      (bootClient world target).1.log = world.log ++ [.bootClient target] := by
  unfold bootClient
  dsimp only
  split
  · exact ⟨rfl, rfl, rfl⟩
  · split <;> exact ⟨rfl, rfl, rfl⟩

theorem bootEach_clients (indices : List Nat) (distinct : indices.Nodup) (world : World) (aid : Nat) :
    (indices.foldl bootNext world).host.clients aid =
      if aid ∈ indices then
        if aid ∈ aids ∧ (world.host.clients aid).stage = .sendComplete then
          bootedClient (world.host.clients aid)
        else world.host.clients aid
      else world.host.clients aid := by
  refine loop_entry (fun world : World => world.host.clients) bootNext
    (fun aid client => if aid ∈ aids ∧ client.stage = .sendComplete then bootedClient client
      else client) (fun _ => True) (fun _ _ _ => trivial) (fun world aid _ => ?_)
    (fun world index other ne => ?_) indices distinct world trivial aid
  · simp [bootNext, bootClient_clients]
  · have apart : ¬ ((index : Int) = other) := by omega
    simp [bootNext, bootClient_clients, apart]

theorem bootAll_clients (world : World) (aid : Nat) :
    (bootAll world).host.clients aid =
      if aid ∈ aids ∧ (world.host.clients aid).stage = .sendComplete then
        bootedClient (world.host.clients aid)
      else world.host.clients aid := by
  rw [bootAll, bootEach_clients aids nodup_aids]
  by_cases member : aid ∈ aids
  · rw [if_pos member]
  · rw [if_neg member, if_neg fun all => member all.1]

theorem bootEach_frame (indices : List Nat) (world : World) :
    (indices.foldl bootNext world).mp = world.mp ∧
      (indices.foldl bootNext world).host.settings = world.host.settings ∧
      (indices.foldl bootNext world).log =
        world.log ++ indices.map fun (aid : Nat) => Note.bootClient aid := by
  induction indices generalizing world with
  | nil => simp
  | cons index rest ih =>
      obtain ⟨mp, settings, log⟩ := bootClient_frame world index
      obtain ⟨mp', settings', log'⟩ := ih (bootNext world index)
      refine ⟨mp'.trans mp, settings'.trans settings, ?_⟩
      rw [List.foldl_cons, log', bootNext, log]
      simp

/-! One step. -/

/-- What an event does to the record of `aid`. -/
inductive RecordStep (world : World) (aid : Nat) : Event → Client → Prop where
  | same (event : Event) (quiet : ∀ ready beaconOk pass, event = .update ready beaconOk pass →
      ¬ beaconRunning ready beaconOk world.host = true) :
      RecordStep world aid event (world.host.clients aid)
  | pass (ready beaconOk : Bool) (pass : Pass) {after : Client}
      (running : beaconRunning ready beaconOk world.host = true)
      (record : PassRecord world.host.bootMode world.host.gather (world.host.clients aid)
        ((associatedMask world.mp).getLsbD aid) after) :
      RecordStep world aid (.update ready beaconOk pass) after
  | reply (type : PacketType) (macaddr : Mac) (portByte : UInt8) (reply : List UInt8)
      {after : Client} (hears : Hears world type macaddr aid)
      (turn : ReplyTurn world.host.bootMode world.host.gather portByte reply
        (heard (world.host.clients aid)) after) :
      RecordStep world aid (.packet type macaddr portByte reply) after
  | boot (event : Event) (asked : event = .bootClient aid ∨ event = .bootAll)
      (stage : (world.host.clients aid).stage = .sendComplete) :
      RecordStep world aid event (bootedClient (world.host.clients aid))

/-- A host whose table and transfers are in order, as every host in a run is. -/
structure HostInv (world : World) : Prop where
  table : TableInv world.mp
  stations : ∀ aid, StationInv (world.host.clients aid).station

/-- A message waits for the next pass, unless one does already or it is too long. -/
theorem appSend_frame (world : World) (data : List UInt8) : ∃ appOut appOutPending,
    appSend world data = { world with host := { world.host with appOut, appOutPending } } := by
  unfold appSend
  split
  · exact ⟨world.host.appOut, world.host.appOutPending, rfl⟩
  · split
    · exact ⟨world.host.appOut, world.host.appOutPending, rfl⟩
    · exact ⟨data, true, rfl⟩

theorem lockRoom_host (world : World) (locked : Bool) :
    (lockRoom world locked).host = { world.host with roomLocked := locked } := by
  unfold lockRoom
  dsimp only
  split <;> rfl

theorem record_step {world : World} (valid : HostInv world) (event : Event) {aid : Nat}
    (member : aid ∈ aids) :
    RecordStep world aid event ((step world event).host.clients aid) := by
  cases event with
  | update ready beaconOk pass =>
      by_cases running : beaconRunning ready beaconOk world.host = true
      · exact .pass ready beaconOk pass running
          ((update_done running valid.stations).record aid member)
      · rw [step, (update_idle running).1]
        refine .same _ fun _ _ _ same => ?_
        cases same
        exact running
  | packet type macaddr portByte reply =>
      rw [step, packet_clients]
      split
      · exact .reply type macaddr portByte reply ‹_› (replyClient_turn _ _ portByte reply _)
      · exact .same _ nofun
  | bootClient target =>
      rw [step, bootClient_clients]
      split
      · rename_i asked
        exact .boot _ (.inl (by rw [asked.1])) asked.2.2
      · exact .same _ nofun
  | bootAll =>
      rw [step, bootAll_clients]
      split
      · rename_i asked
        exact .boot _ (.inr rfl) asked.2
      · exact .same _ nofun
  | appSend data =>
      obtain ⟨_, _, sent⟩ := appSend_frame world data
      rw [step, sent]
      exact .same _ nofun
  | lockRoom locked =>
      rw [step, lockRoom_host]
      exact .same _ nofun
  | mpHost _ | setBootMode _ | setGather _ | setPace _ _ | setAppHandler _ => exact .same _ nofun

/-- The table changes only by what the ARM7 does, and by requests to it. -/
theorem mp_step {world : World} (valid : HostInv world) (event : Event) :
    (∃ operation, event = .mpHost operation ∧
      (step world event).mp = MpHost.step world.mp operation) ∨
    (∀ operation, event ≠ .mpHost operation) ∧ SameTable world.mp (step world event).mp := by
  cases event with
  | mpHost operation => exact .inl ⟨operation, rfl, rfl⟩
  | update ready beaconOk pass =>
      refine .inr ⟨nofun, ?_⟩
      by_cases running : beaconRunning ready beaconOk world.host = true
      · exact (update_done running valid.stations).mp
      · rw [step, (update_idle running).2.1]
        exact .refl _
  | packet type macaddr portByte reply =>
      refine .inr ⟨nofun, ?_⟩
      rw [step, (packet_frame world type macaddr portByte reply).1]
      exact .refl _
  | bootClient target =>
      refine .inr ⟨nofun, ?_⟩
      rw [step, (bootClient_frame world target).1]
      exact .refl _
  | bootAll =>
      refine .inr ⟨nofun, ?_⟩
      rw [step, bootAll, (bootEach_frame aids world).1]
      exact .refl _
  | appSend data =>
      obtain ⟨_, _, sent⟩ := appSend_frame world data
      rw [step, sent]
      exact .inr ⟨nofun, .refl world.mp⟩
  | lockRoom locked =>
      refine .inr ⟨nofun, ?_⟩
      simp only [step, lockRoom]
      split
      · exact .allow world.mp _
      · exact .refl world.mp
  | setBootMode _ | setGather _ | setPace _ _ | setAppHandler _ => exact .inr ⟨nofun, .refl world.mp⟩

/-- Only the ARM7 puts a console on an id. -/
theorem here_step {world : World} (valid : HostInv world) {event : Event} {aid : Nat}
    (here : (step world event).here aid = true) : world.here aid = true ∨
      ∃ operation, event = .mpHost operation ∧
        (associatedMask (MpHost.step world.mp operation)).getLsbD aid = true := by
  rcases mp_step valid event with ⟨operation, same, mp⟩ | ⟨_, same⟩
  · exact .inr ⟨operation, same, mp ▸ here⟩
  · rw [World.here, associatedMask, multiplayerGetClientMask, same.mask] at here
    exact .inl here

/-- What a step adds to the log. -/
def recorded (world : World) (event : Event) : List Note :=
  (step world event).log.drop world.log.length

/-- What an event may record. -/
def StepNote (world next : World) : Event → Note → Prop
  | .update _ _ _, item => PassNote world next item
  | .packet _ _ _ _, item => ∃ aid message, item = .appMessage aid message
  | .bootClient _, item => ∃ target, item = .bootClient target
  | .bootAll, item => ∃ target, item = .bootClient target
  | .lockRoom _, item => ∃ attr, item = .beaconPatchType attr
  | _, _ => False

/-- What no other call records, a pass recorded. -/
theorem StepNote.pass {world next : World} {event : Event} {item : Note}
    (note : StepNote world next event item) (told : ∀ aid message, item ≠ .appMessage aid message)
    (called : ∀ target, item ≠ .bootClient target) (patched : ∀ attr, item ≠ .beaconPatchType attr) :
    ∃ ready beaconOk pass, event = .update ready beaconOk pass := by
  cases event with
  | update ready beaconOk pass => exact ⟨ready, beaconOk, pass, rfl⟩
  | packet type macaddr portByte reply =>
      obtain ⟨aid, message, same⟩ := note
      exact absurd same (told aid message)
  | bootClient _ | bootAll =>
      obtain ⟨target, same⟩ := note
      exact absurd same (called target)
  | lockRoom _ =>
      obtain ⟨attr, same⟩ := note
      exact absurd same (patched attr)
  | _ => exact note.elim

theorem log_step {world : World} (valid : HostInv world) (event : Event) :
    Appends (StepNote world (step world event) event) world (step world event) := by
  cases event with
  | update ready beaconOk pass =>
      by_cases running : beaconRunning ready beaconOk world.host = true
      · exact (update_done running valid.stations).log
      · exact .of_log (update_idle running).2.2.1
  | packet type macaddr portByte reply =>
      exact (packet_frame world type macaddr portByte reply).2.2
  | bootClient target =>
      exact ⟨[.bootClient target], (bootClient_frame world target).2.2,
        by simp [StepNote]⟩
  | bootAll =>
      refine ⟨aids.map fun (aid : Nat) => Note.bootClient aid, (bootEach_frame aids world).2.2, ?_⟩
      intro item member
      obtain ⟨aid, _, rfl⟩ := List.mem_map.mp member
      exact ⟨aid, rfl⟩
  | appSend data =>
      obtain ⟨_, _, sent⟩ := appSend_frame world data
      refine .of_log ?_
      rw [step, sent]
  | lockRoom locked =>
      simp only [step, lockRoom]
      split
      · exact (Appends.of_log rfl).trans (appends_applyRoomState (fun attr => ⟨attr, rfl⟩) _)
      · exact .of_log rfl
  | mpHost _ | setBootMode _ | setGather _ | setPace _ _ | setAppHandler _ => exact .of_log rfl

/-- The two settings the stages depend on change only when the application says so. -/
theorem modes_step {world : World} (valid : HostInv world) (event : Event) :
    (step world event).host.bootMode =
        (match event with | .setBootMode mode => mode | _ => world.host.bootMode) ∧
      (step world event).host.gather =
        (match event with | .setGather gather => gather | _ => world.host.gather) := by
  cases event with
  | update ready beaconOk pass =>
      by_cases running : beaconRunning ready beaconOk world.host = true
      · exact settings_modes (update_done running valid.stations).settings
      · exact (update_idle running).2.2.2
  | packet type macaddr portByte reply =>
      exact settings_modes (packet_frame world type macaddr portByte reply).2.1
  | bootClient target => exact settings_modes (bootClient_frame world target).2.1
  | bootAll => exact settings_modes (bootEach_frame aids world).2.1
  | appSend data =>
      obtain ⟨_, _, sent⟩ := appSend_frame world data
      rw [step, sent]
      exact ⟨rfl, rfl⟩
  | lockRoom locked =>
      rw [step, lockRoom_host]
      exact ⟨rfl, rfl⟩
  | mpHost _ | setBootMode _ | setGather _ | setPace _ _ | setAppHandler _ => exact ⟨rfl, rfl⟩

/-! The invariant. -/

theorem heardClient_valid {world : World} (valid : HostInv world) (portByte : UInt8)
    (reply : List UInt8) (aid : Nat) : StationInv (heardClient world portByte reply aid).station := by
  have before := valid.stations aid
  rcases (replyClient_turn world.host.bootMode world.host.gather portByte reply
    (world.host.clients aid)).station with same | ⟨names, taken⟩
  · rw [heardClient, same]
    exact before
  · rw [heardClient, taken]
    exact ⟨fun _ => ⟨names.2.2.2.2.1, names.2.2.2.2.2.1⟩, before.port, before.index⟩

namespace HostInv

theorem step {world : World} (valid : HostInv world) (event : Event) : HostInv (step world event) := by
  constructor
  · rcases mp_step valid event with ⟨operation, _, same⟩ | ⟨_, same⟩
    · rw [same]
      exact valid.table.step operation
    · exact same.table valid.table
  · intro aid
    have before := valid.stations aid
    cases event with
    | update ready beaconOk pass =>
        by_cases running : beaconRunning ready beaconOk world.host = true
        · exact (update_done running valid.stations).valid valid.stations aid
        · rw [DlPlay.step, (update_idle running).1]
          exact before
    | packet type macaddr portByte reply =>
        rw [DlPlay.step, packet_clients]
        split
        · exact heardClient_valid valid portByte reply aid
        · exact before
    | bootClient target =>
        rw [DlPlay.step, bootClient_clients]
        split <;> exact before
    | bootAll =>
        rw [DlPlay.step, bootAll_clients]
        split <;> exact before
    | appSend data =>
        obtain ⟨_, _, sent⟩ := appSend_frame world data
        rw [DlPlay.step, sent]
        exact before
    | lockRoom locked =>
        rw [DlPlay.step, lockRoom_host]
        exact before
    | mpHost _ | setBootMode _ | setGather _ | setPace _ _ | setAppHandler _ => exact before

theorem start (hosting : Hosting) : HostInv (start hosting) := by
  refine ⟨TableInv.accessPointStart _ true ?_, fun _ => stationInv_blank⟩
  simp only [pickFrameSize, apply_ite Prod.fst, ite_self, maxMultiplayerClients]
  split <;> omega

end HostInv

end Dswifi.DlPlay
