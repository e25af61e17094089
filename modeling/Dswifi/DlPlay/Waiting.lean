import Dswifi.DlPlay.Stages

/-! A client that waits: what passes and replies do to its record while it stays
associated and the settings of the host stay as they are. -/

namespace Dswifi.DlPlay

open Runs MpHost ByteMemory

theorem hostInv_run (hosting : Hosting) (events : List Event) :
    HostInv (run step (start hosting) events) :=
  run_invariant (fun _ event valid => valid.step event) _ _ (.start hosting)

/-- The console with this address is the client `aid` of a running host. -/
structure Waits (bootMode : BootMode) (gather : Bool) (macaddr : Mac) (world : World) (aid : Nat)
    (client : Client) : Prop where
  valid : HostInv world
  active : world.host.active = true
  bootMode : world.host.bootMode = bootMode
  gather : world.host.gather = gather
  here : (associatedMask world.mp).getLsbD aid = true
  sender : multiplayerClientGetAIDFromMac world.mp macaddr = aid
  record : world.host.clients aid = client

/-- A pass that starts the beacon if it has not started. -/
def passEvent (pass : Pass) : Event := .update true true pass

theorem beaconRunning_ready {host : Host} (active : host.active = true) :
    beaconRunning true true host = true := by simp [beaconRunning, active]

namespace Waits
variable {bootMode : BootMode} {gather : Bool} {macaddr : Mac} {world : World} {aid : Nat}
  {client : Client}

theorem pass (waits : Waits bootMode gather macaddr world aid client) (member : aid ∈ aids)
    (present : client.stage ≠ .none)
    (other : (clientPass bootMode gather client).2 ≠ .join .station) (pass : Pass) :
    Waits bootMode gather macaddr (step world (passEvent pass)) aid
      (clientPass bootMode gather client).1 := by
  have done : PassDone world (step world (passEvent pass)) :=
    update_done (beaconRunning_ready waits.active) waits.valid.stations
  have record := done.record aid member
  rw [waits.here, waits.record, waits.bootMode, waits.gather] at record
  have modes := settings_modes done.settings
  have mask : associatedMask (step world (passEvent pass)).mp = associatedMask world.mp :=
    congrArg (· &&& ~~~ 1#16) done.mp.mask
  refine ⟨waits.valid.step _, (congrArg Settings.active done.settings).trans waits.active,
    modes.1.trans waits.bootMode, modes.2.trans waits.gather, mask ▸ waits.here,
    (done.mp.sender macaddr).trans waits.sender, ?_⟩
  cases record with
  | served only same =>
      have staying : arrive true client = client := by simp [arrive, present]
      rw [staying] at same
      exact same other

theorem reply (waits : Waits bootMode gather macaddr world aid client) (member : aid ∈ aids)
    (portByte : UInt8) (bytes : List UInt8) :
    Waits bootMode gather macaddr (step world (.packet .reply macaddr portByte bytes)) aid
      (replyClient bootMode gather portByte bytes client) := by
  obtain ⟨mp, settings, _⟩ := packet_frame world .reply macaddr portByte bytes
  have modes := settings_modes settings
  refine ⟨waits.valid.step _, (congrArg Settings.active settings).trans waits.active,
    modes.1.trans waits.bootMode, modes.2.trans waits.gather, ?_, ?_, ?_⟩
  · rw [step, mp]
    exact waits.here
  · rw [step, mp]
    exact waits.sender
  · rw [step, packet_clients, if_pos ⟨rfl, waits.active, member, waits.sender⟩, heardClient,
      waits.bootMode, waits.gather, waits.record]

end Waits

/-- The record after `n` passes that only counted. -/
def counted (n : Nat) (client : Client) : Client :=
  { client with waitCount := client.waitCount + n, idleCount := client.idleCount + n }

/-- Passes without a word from the client, as long as they only count. -/
theorem Waits.passes {bootMode : BootMode} {gather : Bool} {macaddr : Mac} {world : World}
    {aid : Nat} {client : Client} (waits : Waits bootMode gather macaddr world aid client)
    (member : aid ∈ aids) (present : client.stage ≠ .none) (pass : Pass) (n : Nat)
    (counts : ∀ k, k < n → (clientPass bootMode gather (counted k client)).1 = counted (k + 1) client ∧
      (clientPass bootMode gather (counted k client)).2 ≠ .join .station) :
    Waits bootMode gather macaddr (run step world (List.replicate n (passEvent pass))) aid
      (counted n client) := by
  induction n with
  | zero => exact waits
  | succ n ih =>
      have before := ih fun k below => counts k (Nat.lt_succ_of_lt below)
      obtain ⟨count, other⟩ := counts n (Nat.lt_succ_self n)
      have after := before.pass member present other pass
      rw [count] at after
      rw [List.replicate_succ', run_append]
      exact after

/-! The smallest program: two binaries of 200h bytes. -/

def smallImage : Memory := fun address =>
  if address = ndsHdrArm9Size + 1 ∨ address = ndsHdrArm7Size + 1 then 2 else 0

theorem smallImage_parses :
    (romParse (pickFrameSize 3 false).2 smallImage 0x400).isSome = true := by decide

/-- A room for two consoles. -/
def smallHosting : Hosting where
  maxPlayers := 3
  smallFrame := false
  userParam := none
  image := smallImage
  imageSize := 0x400
  rom := (romParse (pickFrameSize 3 false).2 smallImage 0x400).get smallImage_parses
  parsed := (Option.some_get smallImage_parses).symm

/-- A pass whose frames are taken, of an application without content. -/
def plainPass : Pass where
  txAccepts _ := true
  stationOpen _ _ := none
  stationRead _ _ _ _ := none

/-- What a console with this address says on the multiboot port. -/
def saysEvent (macaddr : Mac) (opcode : UInt8) (arguments : List UInt8) : Event :=
  .packet .reply macaddr 0 (opcode :: arguments)

def joinsEvents (macaddr : Mac) : List Event :=
  [.mpHost (.clientAuthenticate macaddr), .mpHost (.clientAssociate macaddr)]

/-- A console that is taken up by the next pass. -/
def arrivesEvents (macaddr : Mac) : List Event := joinsEvents macaddr ++ [passEvent plainPass]

/-- The request of a console that gives ten spaces as its name. -/
def stationRequest (macaddr : Mac) : List Event :=
  [saysEvent macaddr 7 [0, 0, 0, 0, 0, 0, 10], saysEvent macaddr 7 [1, 0x20, 0, 0x20, 0, 0x20, 0],
    saysEvent macaddr 7 [2, 0x20, 0, 0x20, 0, 0x20, 0], saysEvent macaddr 7 [3, 0x20, 0, 0x20, 0, 0x20, 0],
    saysEvent macaddr 7 [4, 0x20, 0, 0, 0, 0, 0]]

end Dswifi.DlPlay
