import Dswifi.DlPlay.Update

/-! What sending leaves alone. A function that only hands frames to the
multiplayer layer changes no record, nothing the ARM7 sees and no setting, and
what it appends to the log are frames of its own kinds. -/

namespace Dswifi.DlPlay

open MpHost

/-- What only the application decides about a host. -/
structure Settings where
  active : Bool
  bootMode : BootMode
  gather : Bool
  maxClients : Nat
  roomLocked : Bool
  deriving DecidableEq, Repr

def Host.settings (host : Host) : Settings :=
  { active := host.active, bootMode := host.bootMode, gather := host.gather
    maxClients := host.maxClients, roomLocked := host.roomLocked }

def Appends (allowed : Note → Prop) (world next : World) : Prop :=
  ∃ items, next.log = world.log ++ items ∧ ∀ item ∈ items, allowed item

namespace Appends
variable {allowed : Note → Prop} {first second third : World}

theorem refl (world : World) : Appends allowed world world := ⟨[], by simp⟩

theorem note (world : World) {item : Note} (fits : allowed item) :
    Appends allowed world (world.note item) := ⟨[item], rfl, by simpa using fits⟩

theorem of_log (same : second.log = first.log) : Appends allowed first second :=
  ⟨[], by simpa using same⟩

theorem trans (before : Appends allowed first second) (after : Appends allowed second third) :
    Appends allowed first third := by
  obtain ⟨items, log, fits⟩ := before
  obtain ⟨more, log', fits'⟩ := after
  refine ⟨items ++ more, by rw [log', log, List.append_assoc], fun item member => ?_⟩
  rcases List.mem_append.mp member with earlier | later
  · exact fits item earlier
  · exact fits' item later

theorem mono {wider : Note → Prop} (weaker : ∀ item, allowed item → wider item)
    (appended : Appends allowed first second) : Appends wider first second := by
  obtain ⟨items, log, fits⟩ := appended
  exact ⟨items, log, fun item member => weaker item (fits item member)⟩

/-- What the step appended is what the rest of the log holds. -/
theorem drop (appended : Appends allowed first second) :
    ∀ item ∈ second.log.drop first.log.length, allowed item := by
  obtain ⟨items, log, fits⟩ := appended
  simpa [log] using fits

/-- What is added later is added. -/
theorem later (before : Appends allowed first second) {item : Note}
    (member : item ∈ third.log.drop second.log.length) : item ∈ third.log.drop first.log.length := by
  obtain ⟨items, log, _⟩ := before
  rw [log, List.length_append] at member
  exact List.drop_subset_drop_left _ (Nat.le_add_right _ _) member

/-- What was added before stays. -/
theorem earlier (after : Appends allowed second third) {item : Note}
    (member : item ∈ second.log.drop first.log.length) : item ∈ third.log.drop first.log.length := by
  obtain ⟨items, log, _⟩ := after
  rw [log, List.drop_append]
  exact List.mem_append_left _ member

/-- What two steps add is added by the first or by the second. -/
theorem split {other : Note → Prop} (before : Appends allowed first second)
    (after : Appends other second third) {item : Note}
    (member : item ∈ third.log.drop first.log.length) :
    item ∈ second.log.drop first.log.length ∨ item ∈ third.log.drop second.log.length := by
  obtain ⟨items, log, _⟩ := before
  obtain ⟨more, log', _⟩ := after
  have both : third.log.drop first.log.length = items ++ more := by simp [log', log]
  rw [both] at member
  rcases List.mem_append.mp member with earlier | later
  · exact .inl (by simpa [log] using earlier)
  · exact .inr (by simpa [log'] using later)

end Appends

/-- The ring takes the frames of this kind that are handed over on the way. -/
def Takes (kind : List UInt8 → Prop) (pass : Pass) (world next : World) : Prop :=
  ∀ position bytes queued, world.log.length ≤ position →
    next.log[position]? = some (.frame bytes queued) → kind bytes → pass.txAccepts position = true

namespace Takes
variable {kind : List UInt8 → Prop} {pass : Pass} {first second third fourth : World}

/-- What is handed over on a part of the way is handed over on the way. -/
theorem within {allowed other : Note → Prop} (taken : Takes kind pass first fourth)
    (before : Appends allowed first second) (after : Appends other third fourth) :
    Takes kind pass second third := by
  obtain ⟨items, log, _⟩ := before
  obtain ⟨more, log', _⟩ := after
  intro position bytes queued later frame
  obtain ⟨inside, _⟩ := List.getElem?_eq_some_iff.mp frame
  rw [log, List.length_append] at later
  apply taken position bytes queued (by omega)
  rw [log', List.getElem?_append_left inside]
  exact frame

theorem from_start {allowed : Note → Prop} (taken : Takes kind pass first third)
    (before : Appends allowed first second) : Takes kind pass second third :=
  taken.within before (show Appends (fun _ => True) third third from .refl third)

theorem up_to {allowed : Note → Prop} (taken : Takes kind pass first third)
    (after : Appends allowed second third) : Takes kind pass first second :=
  taken.within (show Appends (fun _ => True) first first from .refl first) after

theorem cmdSend {bytes : List UInt8} (taken : Takes kind pass first (cmdSend pass first bytes).1)
    (fits : kind bytes) : pass.txAccepts first.log.length = true := by
  apply taken first.log.length bytes (pass.txAccepts first.log.length) (Nat.le_refl _) _ fits
  simp [DlPlay.cmdSend, World.note]

end Takes

structure Sends (allowed : Note → Prop) (world next : World) : Prop where
  clients : next.host.clients = world.host.clients
  mp : next.mp = world.mp
  settings : next.host.settings = world.host.settings
  log : Appends allowed world next

/-- A frame with this second byte and this opcode. -/
def FrameOf (header opcode : UInt8) : Note → Prop
  | .frame bytes _ => byteAt bytes 1 = header ∧ byteAt bytes 2 = opcode
  | _ => False

namespace Sends
variable {allowed : Note → Prop} {first second third : World}

theorem refl (world : World) : Sends allowed world world := ⟨rfl, rfl, rfl, .refl world⟩

theorem trans (before : Sends allowed first second) (after : Sends allowed second third) :
    Sends allowed first third :=
  ⟨after.clients.trans before.clients, after.mp.trans before.mp,
    after.settings.trans before.settings, before.log.trans after.log⟩

theorem mono {wider : Note → Prop} (weaker : ∀ item, allowed item → wider item)
    (sent : Sends allowed first second) : Sends wider first second :=
  ⟨sent.clients, sent.mp, sent.settings, sent.log.mono weaker⟩

/-- A change of the host that no record and no setting is part of. -/
theorem of_host (world : World) (host : Host) (clients : host.clients = world.host.clients)
    (settings : host.settings = world.host.settings) :
    Sends allowed world { world with host } := ⟨clients, rfl, settings, .of_log rfl⟩

end Sends

theorem sends_cmdSend (pass : Pass) (world : World) (frame : List UInt8) {allowed : Note → Prop}
    (fits : ∀ queued, allowed (.frame frame queued)) :
    Sends allowed world (cmdSend pass world frame).1 :=
  ⟨rfl, rfl, rfl, .note world (fits _)⟩

/-- The second byte of a frame is its header and the third its opcode. -/
theorem frameOf_cmdStart {world : World} {header opcode : UInt8} {rest frame : List UInt8}
    {dest : Mask} (built : cmdStart world header (opcode :: rest) dest = some frame) (queued : Bool) :
    FrameOf header opcode (.frame frame queued) := by
  simp only [cmdStart, Option.ite_none_left_eq_some, Option.some.injEq] at built
  obtain ⟨_, rfl⟩ := built
  simp [FrameOf, byteAt]

theorem sends_cmdStartSend (pass : Pass) (world : World) (header opcode : UInt8)
    (rest : List UInt8) (dest : Mask) :
    Sends (FrameOf header opcode) world
      (cmdStartSend pass world header (opcode :: rest) dest).1 := by
  unfold cmdStartSend
  split
  · exact .refl world
  · rename_i frame built
    exact sends_cmdSend pass world frame (frameOf_cmdStart built)

theorem sends_countPacket (world : World) {allowed : Note → Prop} :
    Sends allowed world (countPacket world) := .of_host world _ rfl rfl

theorem sends_sendStart (pass : Pass) (world : World) (dest : Mask) :
    Sends (FrameOf flagsNormal cmdOpSendstart) world (sendStart pass world dest) :=
  sends_cmdStartSend pass world flagsNormal cmdOpSendstart _ dest

theorem sends_sendDummy (pass : Pass) (world : World) :
    Sends (FrameOf flagsNormal 0) world (sendDummy pass world) :=
  sends_cmdStartSend pass world flagsNormal 0 _ 0xFFFF

theorem sends_sendBootReq (pass : Pass) (world : World) (dest : Mask) :
    Sends (FrameOf flagsNormal cmdOpBootreq) world (sendBootReq pass world dest) :=
  sends_cmdStartSend pass world flagsNormal cmdOpBootreq _ dest

theorem sends_sendFileInfo (pass : Pass) (world : World) (dest : Mask) :
    Sends (FrameOf flagsNormal cmdOpDlFileinfo) world (sendFileInfo pass world dest) := by
  unfold sendFileInfo
  split
  · exact .refl world
  · rename_i frame built
    exact (sends_countPacket world).trans (sends_cmdSend pass _ frame (frameOf_cmdStart built))

theorem sends_sendSessionEnd (pass : Pass) (world : World) :
    Sends (FrameOf 0 0) world (sendSessionEnd pass world) := by
  have built : cmdStart world 0 [] 0 = some [0, 0] := by
    simp [cmdStart, flagsHasFooter, cmdFrameSize]
  rw [sendSessionEnd, cmdStartSend, built]
  exact sends_cmdSend pass world [0, 0] fun _ => ⟨rfl, rfl⟩

/-- The kinds of the block stream. -/
def StreamFrame (item : Note) : Prop :=
  FrameOf flagsNormal 0 item ∨ FrameOf flagsNormal cmdOpData item

theorem sends_sendBlock (pass : Pass) (world : World) (block : Nat) (dest : Mask) (fileId : UInt8) :
    Sends StreamFrame world (sendBlock pass world block dest fileId).1 := by
  unfold sendBlock
  split
  · exact (sends_sendDummy pass world).mono fun _ dummy => .inl dummy
  · dsimp only
    split
    · exact .refl world
    · rename_i frame built
      exact (sends_countPacket world).trans
        (sends_cmdSend pass _ frame fun queued => .inr (frameOf_cmdStart built queued))

/-! What every frame of the stream keeps, a call of the stream keeps. -/

section Stream
variable (pass : Pass) (dest : Mask) (fileId : UInt8) {related : World → World → Prop}
  (refl : ∀ world, related world world)
  (trans : ∀ {first second third : World}, related first second → related second third →
    related first third)
  (frame : ∀ (world : World) (block : Nat), related world (sendBlock pass world block dest fileId).1)

include refl trans frame

theorem sendWanted_relates (wanted : List Nat) (sent : Nat) (world : World) :
    related world (sendWanted pass dest fileId wanted sent world).1 := by
  induction wanted generalizing sent world with
  | nil => exact refl world
  | cons block rest ih =>
      simp only [sendWanted]
      split
      · exact frame world block
      · exact trans (frame world block) (ih (sent + 1) _)

variable (advance : ∀ world : World, related world world.advance)

include advance

theorem sendStream_relates (next : Nat) (wanted : List Nat) (count sent : Nat) (world : World) :
    related world (sendStream pass dest fileId next wanted count sent world).1 := by
  induction count generalizing sent world with
  | zero => exact refl world
  | succ count ih =>
      have one := frame world world.host.block
      simp only [sendStream]
      split
      · exact refl world
      · split
        · exact refl world
        · split
          · -- a block of the first loop is passed over
            exact trans (advance world) (ih sent _)
          · split
            · exact one
            · exact trans (trans one (advance _)) (ih (sent + 1) _)

theorem sendNextBlock_relates
    (turned : ∀ (world : World) (next : Nat), related world { world with host := turnStream world.host next })
    (dummy : ∀ world, related world (sendDummy pass world)) (world : World) :
    related world (sendNextBlock pass world dest fileId) := by
  unfold sendNextBlock
  dsimp only
  generalize List.foldl _ _ _ = asked
  have streamed := fun count sent =>
    trans (trans (turned world asked.1) (sendWanted_relates pass dest fileId refl trans frame asked.2 0 _))
      (sendStream_relates pass dest fileId refl trans frame advance asked.1 asked.2 count sent _)
  split
  · exact trans (streamed _ _) (dummy _)
  · exact streamed _ _

end Stream

theorem sends_sendNextBlock (pass : Pass) (world : World) (dest : Mask) (fileId : UInt8) :
    Sends StreamFrame world (sendNextBlock pass world dest fileId) :=
  sendNextBlock_relates pass dest fileId .refl .trans
    (fun world block => sends_sendBlock pass world block dest fileId) (fun world => .of_host world _ rfl rfl)
    (fun world _ => .of_host world _ rfl rfl)
    (fun world => (sends_sendDummy pass world).mono fun _ dummy => .inl dummy) world

theorem sends_sendApp (pass : Pass) (world : World) (dest : Mask) :
    Sends (FrameOf flagsNormal cmdOpApp) world (sendApp pass world dest) := by
  have sent := sends_cmdStartSend pass world flagsNormal cmdOpApp world.host.appOut dest
  unfold sendApp
  dsimp only
  split
  · exact sent.trans (.of_host _ _ rfl rfl)
  · exact sent

end Dswifi.DlPlay
