import Mathlib.Data.List.GetD
import Dswifi.MpHostTable
import Dswifi.DlPlay.Sends

/-! What serving a station client changes: the transfer and the wait counter of
its own record, and frames of the station ports addressed to it alone. -/

namespace Dswifi.DlPlay

open MpHost

@[simp] theorem setClient_clients (world : World) (aid : Nat) (client : Client) :
    (world.setClient aid client).host.clients =
      Function.update world.host.clients aid client := rfl

@[simp] theorem note_clients (world : World) (item : Note) :
    (world.note item).host.clients = world.host.clients := rfl

@[simp] theorem changeStation_client (world : World) (aid : Nat)
    (change : StationClient → StationClient) :
    (world.changeStation aid change).host.clients aid =
      { world.host.clients aid with station := change (world.host.clients aid).station } := by
  simp [World.changeStation]

@[simp] theorem cmdSend_clients (pass : Pass) (world : World) (frame : List UInt8) :
    (cmdSend pass world frame).1.host.clients = world.host.clients := rfl

/-- A port the content goes out on, and its chunk. -/
def StationPort (port chunk : Nat) : Prop :=
  port = portStationMenu ∧ chunk = stationChunkPort14 ∨
    port = portStationFile ∧ chunk = stationChunkPort15

structure StationInv (station : StationClient) : Prop where
  pending : station.pending = true →
    stationStreamMin ≤ station.pendingStream ∧ station.pendingStream ≤ stationStreamMax
  port : station.state ≠ .idle → StationPort station.port station.chunk
  index : station.index < 65536

def stationHeader (port : Nat) : UInt8 := UInt8.ofNat port ||| flagsHasFooter

/-- The list of clients at the end of a frame. -/
def footer (frame : List UInt8) : Mask := BitVec.ofNat 16 (u16At frame (frame.length - 2))

def StationFrame (aid : Nat) (frame : List UInt8) : Prop :=
  (∃ port, portStationName ≤ port ∧ port ≤ portStationFile ∧ byteAt frame 1 = stationHeader port) ∧
    ∀ other, other ≠ aid → (footer frame).getLsbD other = false

/-- What serving the client `aid` may record. -/
def ServeNote (aid : Nat) : Note → Prop
  | .frame bytes _ => StationFrame aid bytes
  | .stationServe served => served = aid
  | .stationAccepted served _ _ _ => served = aid
  | .stationChunk served _ _ => served = aid
  | _ => False

/-- All a record keeps while it is served. -/
def OnlyStation (before after : Client) : Prop :=
  ∃ station waitCount, after = { before with station, waitCount } ∧
    (waitCount = before.waitCount ∨ waitCount = 0)

theorem OnlyStation.refl (client : Client) : OnlyStation client client :=
  ⟨client.station, client.waitCount, rfl, .inl rfl⟩

theorem OnlyStation.trans {first second third : Client} (before : OnlyStation first second)
    (after : OnlyStation second third) : OnlyStation first third := by
  obtain ⟨_, wait, rfl, kept⟩ := before
  obtain ⟨station, wait', rfl, kept'⟩ := after
  refine ⟨station, wait', rfl, ?_⟩
  rcases kept' with same | zero
  · exact kept.imp same.trans same.trans
  · exact .inr zero

theorem OnlyStation.stage {before after : Client} (only : OnlyStation before after) :
    after.stage = before.stage := by
  obtain ⟨_, _, rfl, _⟩ := only
  rfl

structure Serves (aid : Nat) (world next : World) : Prop where
  others : ∀ other, other ≠ aid → next.host.clients other = world.host.clients other
  own : OnlyStation (world.host.clients aid) (next.host.clients aid)
  valid : StationInv (world.host.clients aid).station → StationInv (next.host.clients aid).station
  mp : next.mp = world.mp
  settings : next.host.settings = world.host.settings
  log : Appends (ServeNote aid) world next
  /-- A chunk starts the clock of its client again. -/
  chunk : ∀ index length, Note.stationChunk aid index length ∈ next.log.drop world.log.length →
    (next.host.clients aid).waitCount = 0

namespace Serves
variable {aid : Nat} {first second third : World}

theorem trans (before : Serves aid first second) (after : Serves aid second third) :
    Serves aid first third := by
  refine ⟨fun other distinct => (after.others other distinct).trans (before.others other distinct),
    before.own.trans after.own, after.valid ∘ before.valid, after.mp.trans before.mp, after.settings.trans before.settings,
    before.log.trans after.log, fun index length member => ?_⟩
  rcases before.log.split after.log member with earlier | later
  · -- the clock that the chunk started is left alone, or started once more
    have zero := before.chunk index length earlier
    obtain ⟨_, wait, same, kept | kept⟩ := after.own
    · rw [same]; exact kept.trans zero
    · rw [same]; exact kept
  · exact after.chunk index length later

theorem all_valid (serves : Serves aid first second)
    (valid : ∀ other, StationInv (first.host.clients other).station) (other : Nat) :
    StationInv (second.host.clients other).station := by
  by_cases same : other = aid
  · exact same ▸ serves.valid (valid aid)
  · rw [serves.others other same]
    exact valid other

/-- A step that records at most frames, and no chunk. -/
theorem of_frames (others : ∀ other, other ≠ aid → second.host.clients other = first.host.clients other)
    (own : OnlyStation (first.host.clients aid) (second.host.clients aid))
    (valid : StationInv (first.host.clients aid).station →
      StationInv (second.host.clients aid).station) (mp : second.mp = first.mp) (settings : second.host.settings = first.host.settings)
    (log : Appends (fun item => ServeNote aid item ∧ ∀ index length, item ≠ .stationChunk aid index length)
      first second) : Serves aid first second :=
  ⟨others, own, valid, mp, settings, log.mono fun _ fits => fits.1,
    fun index length member => absurd rfl ((log.drop _ member).2 index length)⟩

theorem refl (aid : Nat) (world : World) : Serves aid world world :=
  .of_frames (fun _ _ => rfl) (.refl _) id rfl rfl (.refl world)

theorem changeStation (world : World) (aid : Nat) (change : StationClient → StationClient)
    (kept : StationInv (world.host.clients aid).station →
      StationInv (change (world.host.clients aid).station)) :
    Serves aid world (world.changeStation aid change) := by
  refine .of_frames (fun other distinct => ?_) ⟨change (world.host.clients aid).station,
    (world.host.clients aid).waitCount, ?_, .inl rfl⟩ ?_ rfl rfl (.of_log rfl)
  · simp [World.changeStation, distinct]
  · simp
  · simpa using kept

theorem note (world : World) {item : Note} (fits : ServeNote aid item)
    (other : ∀ index length, item ≠ .stationChunk aid index length) :
    Serves aid world (world.note item) :=
  .of_frames (fun _ _ => rfl) (.refl _) id rfl rfl (.note world ⟨fits, other⟩)

theorem cmdSend (pass : Pass) (world : World) {frame : List UInt8} (fits : StationFrame aid frame) :
    Serves aid world (cmdSend pass world frame).1 :=
  .note world fits fun _ _ => nofun

end Serves

/-! The frames. -/

theorem footer_append (front : List UInt8) (mask : Mask) :
    footer (front ++ u16Bytes mask.toNat) = mask := by
  have bound := mask.isLt
  apply BitVec.eq_of_toNat_eq
  simp only [footer, u16At, byteAt, u16Bytes, List.length_append, List.length_cons, List.length_nil,
    BitVec.toNat_ofNat]
  rw [List.getD_append_right _ _ _ _ (by omega), List.getD_append_right _ _ _ _ (by omega),
    show front.length + (0 + 1 + 1) - 2 - front.length = 0 by omega,
    show front.length + (0 + 1 + 1) - 2 + 1 - front.length = 1 by omega]
  simp
  omega

theorem stationFrame_fits (world : World) (aid port : Nat) (payload : List UInt8)
    (low : portStationName ≤ port) (high : port ≤ portStationFile) :
    StationFrame aid (stationFrame world aid port payload) := by
  constructor
  · exact ⟨port, low, high, by simp [stationFrame, byteAt, stationHeader]⟩
  · intro other distinct
    rw [stationFrame, footer_append]
    rw [BitVec.getLsbD_and, BitVec.getLsbD_and, bit, BitVec.getLsbD_twoPow,
      decide_eq_false (Ne.symm distinct), Bool.and_false, Bool.false_and, Bool.false_and]

theorem StationPort.range {port chunk : Nat} (content : StationPort port chunk) :
    portStationName ≤ port ∧ port ≤ portStationFile := by
  rcases content with ⟨rfl, _⟩ | ⟨rfl, _⟩ <;> decide

theorem serves_stationCmdStart {world next : World} {aid port payloadSize : Nat}
    (started : stationCmdStart world aid port payloadSize = some next) :
    Serves aid world next := by
  simp only [stationCmdStart, Option.ite_none_left_eq_some, Option.some.injEq] at started
  obtain ⟨_, _, rfl⟩ := started
  exact .changeStation world aid _ fun valid => ⟨valid.pending, valid.port, valid.index⟩

theorem serves_stationSendLength (pass : Pass) (world : World) (aid : Nat) :
    Serves aid world (stationSendLength pass world aid) := by
  simp only [stationSendLength]
  split
  · exact .refl aid world
  · rename_i next started
    exact (serves_stationCmdStart started).trans
      (.cmdSend pass next (stationFrame_fits next aid _ _ (by decide) (by decide)))

theorem serves_stationSendEnd (pass : Pass) (world : World) (aid : Nat) {chunk : Nat}
    (content : StationPort (world.host.clients aid).station.port chunk) :
    Serves aid world (stationSendEnd pass world aid).1 := by
  simp only [stationSendEnd]
  split
  · exact .refl aid world
  · rename_i next started
    have sent := (serves_stationCmdStart started).trans
      (.cmdSend pass next (stationFrame_fits next aid (world.host.clients aid).station.port
        stationEndPayload content.range.1 content.range.2))
    simp only [apply_ite Prod.fst]
    split
    · exact sent
    · exact sent.trans (.changeStation _ aid _ fun valid => ⟨valid.pending, valid.port, valid.index⟩)

theorem serves_chunkSent (world : World) (aid index length : Nat) :
    Serves aid world ((world.setClient aid (chunkSent (world.host.clients aid))).note
      (.stationChunk aid index length)) := by
  refine ⟨fun other distinct => by simp [distinct],
    ⟨(chunkSent (world.host.clients aid)).station, 0, by simp [chunkSent], .inr rfl⟩, fun valid => ?_,
    rfl, rfl, Appends.note (world.setClient aid _) rfl, fun _ _ _ => by simp [chunkSent]⟩
  have wrapped := Nat.mod_lt ((world.host.clients aid).station.index + 1) (show 0 < 65536 by decide)
  simpa [chunkSent] using ⟨valid.pending, valid.port, wrapped⟩

theorem serves_stationSendData (pass : Pass) (world : World) (aid offset : Nat) {chunk : Nat}
    (content : StationPort (world.host.clients aid).station.port chunk) :
    Serves aid world (stationSendData pass world aid offset).1 := by
  have fits : ∀ (next : World) (payload : List UInt8), StationFrame aid
      (stationFrame next aid (world.host.clients aid).station.port payload) := fun next payload =>
    stationFrame_fits next aid _ payload content.range.1 content.range.2
  simp only [stationSendData]
  split
  · exact .refl aid world
  · rename_i next started
    have counted := serves_stationCmdStart started
    split
    · exact counted.trans (.changeStation next aid (fun station => { station with ended := true })
        fun valid => ⟨valid.pending, valid.port, valid.index⟩)
    · simp only [apply_ite Prod.fst]
      split
      · exact counted.trans (.cmdSend pass next (fits next _))
      · exact (counted.trans (.cmdSend pass next (fits next _))).trans (serves_chunkSent _ aid _ _)

theorem serves_stationSendChunk (pass : Pass) (world : World) (aid : Nat) {chunk : Nat}
    (content : StationPort (world.host.clients aid).station.port chunk) :
    Serves aid world (stationSendChunk pass world aid).1 := by
  simp only [stationSendChunk]
  split
  · exact serves_stationSendEnd pass world aid content
  · exact serves_stationSendData pass world aid _ content

/-- The loop makes one turn: DLPLAY_STATION_PER_UPDATE is 1. -/
theorem stationSendChunks_one (pass : Pass) (aid : Nat) (world : World)
    (sending : (world.host.clients aid).station.ended = false) :
    stationSendChunks pass aid stationPerUpdate world = stationSendChunk pass world aid := by
  simp only [stationPerUpdate, stationSendChunks, sending, Bool.false_eq_true, if_false]
  cases sent : (stationSendChunk pass world aid).2 with
  | false => simp [← sent]
  | true => simp [← sent]

/-- The stream a request asks for decides the port and the chunk. -/
theorem startTransfer_valid (station : StationClient) (size : Nat) (handle : UInt32)
    (stream : stationStreamMin ≤ station.pendingStream ∧ station.pendingStream ≤ stationStreamMax)
    (taken : station.pending = false) : StationInv (startTransfer station size handle) := by
  refine ⟨fun asked => absurd asked (by simp [startTransfer, taken]), fun _ => ?_, Nat.zero_lt_succ _⟩
  have streams : station.pendingStream = 1 ∨ station.pendingStream = 2 := by
    simp only [stationStreamMin, stationStreamMax] at stream
    omega
  rcases streams with menu | file
  · exact .inl (by simp [startTransfer, stationStreamPort, menu, portStationName, portStationMenu])
  · exact .inr (by simp [startTransfer, stationStreamPort, file, portStationName, portStationMenu,
      portStationFile])

theorem serves_stationAcceptRequest (pass : Pass) (world : World) (aid : Nat)
    (valid : StationInv (world.host.clients aid).station)
    (asked : (world.host.clients aid).station.pending = true) :
    Serves aid world (stationAcceptRequest pass world aid) := by
  have taken := Serves.changeStation world aid (fun station => { station with pending := false })
    fun valid => ⟨nofun, valid.port, valid.index⟩
  simp only [stationAcceptRequest]
  split
  · exact taken
  · split
    · exact taken
    · refine (taken.trans (.changeStation _ aid _ fun _ => ?_)).trans (.note _ rfl fun _ _ => nofun)
      rw [changeStation_client]
      exact startTransfer_valid _ _ _ (valid.pending asked) rfl

/-! A turn: the request is dealt with, the turn counted, and then the state decides. -/

def takeAsked (pass : Pass) (world : World) (aid : Nat) : World :=
  let world := world.note (.stationServe aid)
  if (world.host.clients aid).station.pending then stationAcceptRequest pass world aid else world

def countTurn (world : World) (aid : Nat) : World :=
  world.changeStation aid fun station => { station with wait := station.wait + 1 }

def serveState (pass : Pass) (world : World) (aid : Nat) : World × Bool :=
  let station := (world.host.clients aid).station
  match station.state with
  | .sendDelay =>
    if station.wait = 1 then (stationSendLength pass world aid, true)
    else if station.wait > stationSendDelay then
      (world.changeStation aid fun station => { station with wait := 0, state := .data }, false)
    else (world, false)
  | .data =>
    if station.ended then
      (world.changeStation aid fun station => { station with wait := 0, state := .done }, false)
    else stationSendChunks pass aid stationPerUpdate world
  | .idle | .done => (world, false)

theorem stationServe_eq (pass : Pass) (world : World) (aid : Nat) :
    stationServe pass world aid =
      serveState pass (countTurn (takeAsked pass world aid) aid) aid := rfl

/-- A new transfer begins, or the old one goes on. -/
theorem takeAsked_cases (pass : Pass) (world : World) (aid : Nat) :
    (((takeAsked pass world aid).host.clients aid).station.state = .sendDelay ∧
        ((takeAsked pass world aid).host.clients aid).station.wait = 0) ∨
      ((takeAsked pass world aid).log = world.log ++ [.stationServe aid] ∧
        ∃ pending, (takeAsked pass world aid).host.clients aid =
          { world.host.clients aid with station := { (world.host.clients aid).station with pending } }) := by
  unfold takeAsked stationAcceptRequest
  dsimp only
  split
  · split
    · exact .inr ⟨rfl, false, by simp⟩
    · split
      · exact .inr ⟨rfl, false, by simp⟩
      · refine .inl ?_
        rw [note_clients, changeStation_client]
        exact ⟨rfl, rfl⟩
  · exact .inr ⟨rfl, (world.host.clients aid).station.pending, rfl⟩

theorem serves_takeAsked (pass : Pass) (world : World) (aid : Nat)
    (valid : StationInv (world.host.clients aid).station) :
    Serves aid world (takeAsked pass world aid) := by
  have noted : Serves aid world (world.note (.stationServe aid)) :=
    .note world rfl fun _ _ => nofun
  unfold takeAsked
  dsimp only
  split
  · exact noted.trans (serves_stationAcceptRequest pass _ aid valid ‹_›)
  · exact noted

theorem serves_countTurn (world : World) (aid : Nat) : Serves aid world (countTurn world aid) :=
  .changeStation world aid _ fun valid => ⟨valid.pending, valid.port, valid.index⟩

theorem serves_serveState (pass : Pass) (world : World) (aid : Nat)
    (valid : StationInv (world.host.clients aid).station) :
    Serves aid world (serveState pass world aid).1 := by
  unfold serveState
  dsimp only
  split
  · split
    · exact serves_stationSendLength pass world aid
    · split
      · dsimp only
        refine .changeStation world aid _ fun valid => ?_
        exact ⟨valid.pending, fun _ => valid.port (by simp [*]), valid.index⟩
      · exact .refl aid world
  · rename_i data
    split
    · dsimp only
      refine .changeStation world aid _ fun valid => ?_
      exact ⟨valid.pending, fun _ => valid.port (by simp [data]), valid.index⟩
    · rename_i sending
      rw [stationSendChunks_one pass aid world (by simpa using sending)]
      exact serves_stationSendChunk pass world aid (valid.port (by simp [data]))
  · exact .refl aid world
  · exact .refl aid world

theorem serves_stationServe (pass : Pass) (world : World) (aid : Nat)
    (valid : StationInv (world.host.clients aid).station) :
    Serves aid world (stationServe pass world aid).1 := by
  have counted := (serves_takeAsked pass world aid valid).trans (serves_countTurn _ aid)
  rw [stationServe_eq]
  exact counted.trans (serves_serveState pass _ aid (counted.valid valid))

end Dswifi.DlPlay
