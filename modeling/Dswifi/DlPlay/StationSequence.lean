import Dswifi.DlPlay.StationTransfers

/-! The sequence numbers on the frames of a station: each console and each port has
a counter, which goes up while a frame is laid out, before the content is read and
before the ring is asked. -/

namespace Dswifi.DlPlay

open Runs MpHost

/-- The sequence number of a frame, before the list of clients. -/
def frameNumber (bytes : List UInt8) : Nat := u16At bytes (bytes.length - 4)

/-- One entry of the log, as far as it is about the numbers that `aid` was sent on a
port since its record was reset. -/
def countNumber (aid port : Nat) (numbers : List Nat) : Note → List Nat
  | .resetOneClient served => if served = aid then [] else numbers
  | .frame bytes true =>
    if byteAt bytes 1 = stationHeader port ∧ (footer bytes).getLsbD aid = true then
      numbers ++ [frameNumber bytes]
    else numbers
  | _ => numbers

def numbersOf (aid port : Nat) (log : List Note) : List Nat := log.foldl (countNumber aid port) []

/-- From one on, without a gap. -/
def consecutive (n : Nat) : List Nat := (List.range n).map fun k => (k + 1) % 65536

def StationPorts (port : Nat) : Prop := portStationName ≤ port ∧ port ≤ portStationFile

/-- The frames that every console was sent are numbered without a gap. -/
def Gapless (world : World) (event : Event) : Prop :=
  ∀ aid, aid ∈ aids → ∀ port, StationPorts port →
    ∃ n, numbersOf aid port (step world event).log = consecutive n

/-- A frame of the station ports that is addressed to `aid`. -/
def IsStation (aid : Nat) (bytes : List UInt8) : Prop :=
  (∃ port, StationPorts port ∧ byteAt bytes 1 = stationHeader port) ∧
    (footer bytes).getLsbD aid = true

/-- The chunk that a console is at can be read. A turn asks for it as soon as it has
begun, unless it takes up another request. -/
def ReadsChunk (pass : Pass) (aid : Nat) (world next : World) : Prop :=
  (world.cursor aid).state = .data → (world.cursor aid).ended = false →
    (world.cursor aid).offset < (world.cursor aid).size → ∀ position, world.log.length ≤ position →
      next.log[position]? = some (.stationServe aid) →
      (∀ port size handle, next.log[position + 1]? ≠ some (.stationAccepted aid port size handle)) →
        pass.stationRead (position + 1) (world.cursor aid).handle (world.cursor aid).offset
          (Pieces.size (world.cursor aid).size (world.cursor aid).chunk (world.cursor aid).index) ≠ none

/-- A pass loses no frame that it lays out for a station client: the ring takes it
and the content can be read. -/
def Lossless (world : World) : Event → Prop
  | .update ready beaconOk pass => ∀ aid, aid ∈ aids → (world.host.clients aid).stage = .station →
      Takes (IsStation aid) pass world (update ready beaconOk pass world) ∧
        ReadsChunk pass aid world (update ready beaconOk pass world)
  | _ => True

/-- What a part of a pass asks for, the pass asks for. -/
theorem ReadsChunk.within {pass : Pass} {aid : Nat} {first second third fourth : World}
    (reads : ReadsChunk pass aid first fourth) (before : Besides aid first second)
    (after : Besides aid third fourth) : ReadsChunk pass aid second third := by
  have cursor : second.cursor aid = first.cursor aid := congrArg StationClient.cursor before.station
  obtain ⟨items, log, _⟩ := before.log
  obtain ⟨more, log', silent⟩ := after.log
  intro data going inside position later serve fresh
  rw [cursor] at data going inside ⊢
  rw [log, List.length_append] at later
  obtain ⟨below, _⟩ := List.getElem?_eq_some_iff.mp serve
  apply reads data going inside position (by omega)
  · rw [log', List.getElem?_append_left below]
    exact serve
  · intro port size handle accepted
    rw [log'] at accepted
    by_cases early : position + 1 < third.log.length
    · rw [List.getElem?_append_left early] at accepted
      exact fresh port size handle accepted
    · rw [List.getElem?_append_right (Nat.le_of_not_lt early)] at accepted
      exact silent _ (List.mem_of_getElem? accepted) rfl

/-- A turn that has written nothing but its beginning reads there. -/
theorem ReadsChunk.here {pass : Pass} {aid : Nat} {world turn next : World}
    (reads : ReadsChunk pass aid world next) (cursor : turn.cursor aid = (world.cursor aid).tick)
    (begun : turn.log = world.log ++ [.stationServe aid]) (quiet : next.log = turn.log)
    (data : (turn.cursor aid).state = .data) (going : (turn.cursor aid).ended = false)
    (inside : (turn.cursor aid).offset < (turn.cursor aid).size) :
    pass.stationRead turn.log.length (turn.cursor aid).handle (turn.cursor aid).offset
      (Pieces.size (turn.cursor aid).size (turn.cursor aid).chunk (turn.cursor aid).index) ≠ none := by
  rw [cursor] at data going inside ⊢
  rw [begun, List.length_append, List.length_singleton]
  apply reads data going inside world.log.length (Nat.le_refl _)
  · rw [quiet, begun, List.getElem?_concat_length]
  · intro port size handle accepted
    rw [quiet, begun, List.getElem?_eq_none (by simp)] at accepted
    cases accepted

/-! The counter. -/

/-- The counter of every port is the number of frames that went out on it. -/
def Counts (aid : Nat) (seq : Nat → Nat) (log : List Note) : Prop :=
  ∀ port, StationPorts port → ∃ n, seq port = n % 65536 ∧ numbersOf aid port log = consecutive n

abbrev World.Counted (world : World) (aid : Nat) : Prop :=
  Counts aid (world.host.clients aid).station.seq world.log

theorem numbersOf_append (aid port : Nat) (log items : List Note) :
    numbersOf aid port (log ++ items) = items.foldl (countNumber aid port) (numbersOf aid port log) :=
  List.foldl_append

theorem countNumber_silent {aid port : Nat} (known : StationPorts port) {item : Note}
    (silent : Silent aid item) (numbers : List Nat) : countNumber aid port numbers item = numbers := by
  cases item with
  | resetOneClient served => exact if_neg silent
  | frame bytes queued =>
      cases queued with
      | false => rfl
      | true => exact if_neg fun ours => silent ⟨⟨port, known.1, known.2, ours.1⟩, ours.2⟩
  | _ => rfl

theorem numbers_silent {aid port : Nat} (known : StationPorts port) {world next : World}
    (log : Appends (Silent aid) world next) :
    numbersOf aid port next.log = numbersOf aid port world.log := by
  obtain ⟨items, same, silent⟩ := log
  rw [same, numbersOf_append]
  generalize numbersOf aid port world.log = numbers
  clear same
  induction items with
  | nil => rfl
  | cons item rest ih =>
      rw [List.foldl_cons, countNumber_silent known (silent item List.mem_cons_self)]
      exact ih fun other member => silent other (List.mem_cons_of_mem _ member)

/-- The numbers start again with the record. -/
theorem numbers_reset {aid port : Nat} (known : StationPorts port) {world next : World}
    (log : Appends (fun item => Silent aid item ∨ item = .resetOneClient aid) world next)
    (told : .resetOneClient aid ∈ next.log.drop world.log.length) :
    numbersOf aid port next.log = [] := by
  obtain ⟨items, same, quiet⟩ := log
  rw [same, List.drop_left] at told
  rw [same, numbersOf_append]
  have reset : ∀ numbers, countNumber aid port numbers (.resetOneClient aid) = [] :=
    fun numbers => if_pos rfl
  have fold : ∀ (items : List Note) (numbers : List Nat),
      (∀ item ∈ items, Silent aid item ∨ item = .resetOneClient aid) →
        numbers = [] ∨ .resetOneClient aid ∈ items →
          items.foldl (countNumber aid port) numbers = [] := by
    intro items
    induction items with
    | nil => exact fun numbers _ blank => blank.resolve_right nofun
    | cons item rest ih =>
        intro numbers quiet blank
        rw [List.foldl_cons]
        refine ih _ (fun other member => quiet other (List.mem_cons_of_mem _ member)) ?_
        rcases quiet item List.mem_cons_self with silent | rfl
        · rw [countNumber_silent known silent]
          refine blank.imp_right fun member => (List.mem_cons.mp member).resolve_left ?_
          rintro rfl
          exact silent rfl
        · exact .inl (reset numbers)
  exact fold items _ quiet (.inr told)

theorem Counts.of_silent {aid : Nat} {world next : World} (counted : world.Counted aid)
    (seq : (next.host.clients aid).station.seq = (world.host.clients aid).station.seq)
    (log : Appends (Silent aid) world next) : next.Counted aid := by
  intro port known
  rw [seq, numbers_silent known log]
  exact counted port known

/-! A frame. -/

section Frames
variable {aid : Nat} {world : World}

theorem frameNumber_stationFrame (world : World) (port : Nat) (payload : List UInt8) :
    frameNumber (stationFrame world aid port payload) =
      (world.host.clients aid).station.seq port % 65536 := by
  rw [frameNumber, stationFrame, ← u16At_middle _ (u16Bytes (bit 16 aid &&&
    multiplayerGetClientMask world.mp &&& ~~~ 1#16).toNat)]
  congr 1
  simp [u16Bytes]

theorem stationHeader_injective {first second : Nat} (known : StationPorts first)
    (other : StationPorts second) (same : stationHeader first = stationHeader second) :
    first = second := by
  have ports : ∀ port, StationPorts port → port = 13 ∨ port = 14 ∨ port = 15 := by
    rintro port ⟨low, high⟩
    simp only [portStationName, portStationFile] at low high
    omega
  rcases ports first known with rfl | rfl | rfl <;> rcases ports second other with rfl | rfl | rfl <;>
    first | rfl | exact absurd same (by decide)

/-- A frame that is laid out and taken has the next number. -/
theorem Counts.send (pass : Pass) {started : World} {port size : Nat} (payload : List UInt8)
    (counted : world.Counted aid) (known : StationPorts port) (here : world.here aid = true)
    (begun : stationCmdStart world aid port size = some started)
    (taken : Takes (IsStation aid) pass world
      (cmdSend pass started (stationFrame started aid port payload)).1) :
    (cmdSend pass started (stationFrame started aid port payload)).1.Counted aid := by
  obtain ⟨mp, _, log⟩ := stationCmdStart_frame begun
  have begins : Appends (fun _ => True) world started := .of_log log
  have accepted := (taken.from_start begins).cmdSend
    ⟨⟨port, known, rfl⟩, stationFrame_here (here_of_mp mp here) payload⟩
  have seq : (started.host.clients aid).station.seq =
      Function.update (world.host.clients aid).station.seq port
        (((world.host.clients aid).station.seq port + 1) % 65536) := by
    simp only [stationCmdStart, Option.ite_none_left_eq_some, Option.some.injEq] at begun
    obtain ⟨_, _, rfl⟩ := begun
    simp
  have set : (footer (stationFrame started aid port payload)).getLsbD aid = true :=
    stationFrame_here (here_of_mp mp here) payload
  have number := @frameNumber_stationFrame aid started port payload
  have header : byteAt (stationFrame started aid port payload) 1 = stationHeader port := rfl
  -- the number of this port goes up with its frame, those of the others stay
  intro other own
  obtain ⟨n, before, numbers⟩ := counted other own
  rw [cmdSend, accepted]
  change ∃ n, (started.host.clients aid).station.seq other = n % 65536 ∧
    numbersOf aid other (started.log ++ _) = consecutive n
  rw [seq, log, numbersOf_append, numbers, List.foldl_cons, List.foldl_nil, countNumber, header, set,
    number, seq]
  by_cases same : other = port
  · subst same
    rw [Function.update_self, if_pos ⟨rfl, rfl⟩, before]
    refine ⟨n + 1, by omega, ?_⟩
    rw [consecutive, consecutive, List.range_succ, List.map_append]
    simp
  · rw [Function.update_of_ne same,
      if_neg fun both => same (stationHeader_injective own known both.1.symm)]
    exact ⟨n, before, rfl⟩

end Frames

/-! Serving a console. -/

namespace Counts
variable {aid : Nat} {world : World}

theorem change (counted : world.Counted aid) (change : StationClient → StationClient)
    (seq : (change (world.host.clients aid).station).seq = (world.host.clients aid).station.seq) :
    (world.changeStation aid change).Counted aid := by
  intro port known
  rw [changeStation_client, seq]
  exact counted port known

/-- Whatever is neither a frame nor a reset. -/
theorem note (counted : world.Counted aid) {item : Note}
    (plain : ∀ port numbers, countNumber aid port numbers item = numbers) :
    (world.note item).Counted aid := by
  intro port known
  obtain ⟨n, seq, numbers⟩ := counted port known
  refine ⟨n, seq, ?_⟩
  rw [World.note, numbersOf_append, List.foldl_cons, List.foldl_nil, plain, numbers]

end Counts

/-- Taking up a request sends nothing. -/
theorem counted_takeAsked {pass : Pass} {world : World} {aid : Nat} (counted : world.Counted aid) :
    (takeAsked pass world aid).Counted aid := by
  have noted : (world.note (.stationServe aid)).Counted aid := counted.note fun _ _ => rfl
  unfold takeAsked
  dsimp only
  split
  · simp only [stationAcceptRequest]
    have dropped := noted.change (fun station => { station with pending := false }) rfl
    split
    · exact dropped
    · split
      · exact dropped
      · exact (dropped.change _ rfl).note fun _ _ => rfl
  · exact noted

section Serving
variable {pass : Pass} {world : World} {aid : Nat}

theorem counted_stationSendLength (counted : world.Counted aid) (here : world.here aid = true)
    (taken : Takes (IsStation aid) pass world (stationSendLength pass world aid)) :
    (stationSendLength pass world aid).Counted aid := by
  revert taken
  simp only [stationSendLength]
  split
  · exact fun _ => counted
  · rename_i started begun
    exact counted.send pass _ ⟨by decide, by decide⟩ here begun

theorem counted_stationSendEnd (counted : world.Counted aid) (here : world.here aid = true)
    (known : StationPorts (world.host.clients aid).station.port)
    (taken : Takes (IsStation aid) pass world (stationSendEnd pass world aid).1) :
    (stationSendEnd pass world aid).1.Counted aid := by
  revert taken
  simp only [stationSendEnd]
  split
  · exact fun _ => counted
  · rename_i started begun
    have sent := counted.send pass stationEndPayload known here begun
    simp only [apply_ite Prod.fst]
    split
    · exact sent
    · exact fun taken => (sent taken).change (fun station => { station with ended := true }) rfl

/-- A chunk that cannot be read leaves no trace in the log. -/
theorem counted_stationSendData (offset : Nat) (counted : world.Counted aid)
    (here : world.here aid = true) (known : StationPorts (world.host.clients aid).station.port)
    (taken : Takes (IsStation aid) pass world (stationSendData pass world aid offset).1)
    (reads : (stationSendData pass world aid offset).1.log = world.log →
      pass.stationRead world.log.length (world.host.clients aid).station.handle offset
        (chunkSize (world.host.clients aid).station offset) ≠ none) :
    (stationSendData pass world aid offset).1.Counted aid := by
  revert taken reads
  simp only [stationSendData]
  split
  · exact fun _ _ => counted
  · rename_i started begun
    have log := (stationCmdStart_frame begun).2.2
    split
    · rename_i unread
      -- a read that fails leaves nothing in the log, and no number
      rw [log] at unread
      exact fun _ reads => absurd unread (reads log)
    · rename_i content read
      have sent := counted.send pass (stationChunkPayload (world.host.clients aid).station.index
        (chunkSize (world.host.clients aid).station offset) content) known here begun
      simp only [apply_ite Prod.fst]
      split
      · exact fun taken _ => sent taken
      · intro taken _
        have noted : ∀ world item, Appends (fun _ => True) world (World.note world item) :=
          fun world _ => .note world trivial
        refine Counts.note ?_ fun _ _ => rfl
        intro port known
        rw [setClient_clients, Function.update_self]
        exact sent (taken.up_to (noted _ _)) port known

/-- A turn that reads goes on with the transfer it finds. -/
theorem counted_stationServe (counted : world.Counted aid) (here : world.here aid = true)
    (valid : StationInv (world.host.clients aid).station)
    (taken : Takes (IsStation aid) pass world (stationServe pass world aid).1)
    (reads : ReadsChunk pass aid world (stationServe pass world aid).1) :
    (stationServe pass world aid).1.Counted aid := by
  have serves := (serves_takeAsked pass world aid valid).trans (serves_countTurn _ aid)
  have counted : (countTurn (takeAsked pass world aid) aid).Counted aid :=
    (counted_takeAsked counted).change _ rfl
  have cursor : (countTurn (takeAsked pass world aid) aid).cursor aid =
      ((takeAsked pass world aid).cursor aid).tick := changeStation_cursor _ _
  have log : (countTurn (takeAsked pass world aid) aid).log = (takeAsked pass world aid).log := rfl
  have here := here_of_mp serves.mp here
  have valid := serves.valid valid
  rw [stationServe_eq] at taken reads ⊢
  have taken := taken.from_start serves.log
  generalize countTurn (takeAsked pass world aid) aid = turn at counted here valid cursor log taken reads ⊢
  revert taken reads
  unfold serveState
  dsimp only
  split
  · split
    · exact fun taken _ => counted_stationSendLength counted here taken
    · split
      · exact fun _ _ => counted.change (fun station => { station with wait := 0, state := .data }) rfl
      · exact fun _ _ => counted
  · rename_i data
    split
    · exact fun _ _ => counted.change (fun station => { station with wait := 0, state := .done }) rfl
    · rename_i sending
      have known := (valid.port (by simp [data])).range
      have going : (turn.host.clients aid).station.ended = false := by simpa using sending
      rw [stationSendChunks_one pass aid turn going]
      simp only [stationSendChunk]
      split
      · exact fun taken _ => counted_stationSendEnd counted here known taken
      · rename_i inside
        intro taken reads
        refine counted_stationSendData _ counted here known taken fun quiet => ?_
        -- the record is the one the turn began with, and nothing else has been written
        rcases takeAsked_cases pass world aid with ⟨delay, _⟩ | ⟨noted, pending, same⟩
        · have state := congrArg Cursor.state cursor
          cases data.symm.trans (state.trans delay)
        · have still : (takeAsked pass world aid).cursor aid = world.cursor aid := by
            rw [World.cursor, same]
            rfl
          rw [still] at cursor
          rw [chunkSize_eq]
          exact reads.here cursor (log.trans noted) quiet data going
            (Nat.lt_of_not_le inside)
  · exact fun _ _ => counted
  · exact fun _ _ => counted

end Serving

/-! Runs. -/

structure CountInv (world : World) : Prop where
  host : HostInv world
  counted : ∀ aid, aid ∈ aids → world.Counted aid

theorem counts_blank {aid : Nat} {log : List Note}
    (reset : ∀ port, StationPorts port → numbersOf aid port log = []) :
    Counts aid ({} : StationClient).seq log :=
  fun port known => ⟨0, rfl, reset port known⟩

namespace CountInv
variable {world : World}

theorem start (hosting : Hosting) : CountInv (start hosting) :=
  ⟨.start hosting, fun _ _ => counts_blank fun _ _ => rfl⟩

theorem step (valid : CountInv world) (event : Event) (lossless : Lossless world event) :
    CountInv (step world event) := by
  refine ⟨valid.host.step event, fun aid member => ?_⟩
  have before := valid.counted aid member
  have moved := station_step valid.host event aid
  generalize reached : DlPlay.step world event = next at moved ⊢
  cases moved with
  | quiet _ kept log => exact before.of_silent kept.2 log
  | left _ blank log told =>
      rw [World.Counted, blank]
      exact counts_blank fun port known => numbers_reset known log told
  | served ready beaconOk pass middle here stage first station last =>
      subst reached
      obtain ⟨taken, reads⟩ := lossless aid member stage
      have begun := before.of_silent (congrArg StationClient.seq first.station) first.log
      have here : middle.here aid = true := by rw [World.here, first.mask]; exact here
      have served := counted_stationServe begun here station (taken.within first.log last.log)
        (reads.within first last)
      exact served.of_silent (congrArg StationClient.seq last.station) last.log

theorem gapless (valid : CountInv world) (event : Event) (lossless : Lossless world event) :
    Gapless world event := by
  intro aid member port known
  obtain ⟨n, _, numbers⟩ := (valid.step event lossless).counted aid member port known
  exact ⟨n, numbers⟩

end CountInv

/-- As long as no frame of a station is lost, nobody sees a gap. -/
theorem station_gapless (hosting : Hosting) (events : List Event)
    (lossless : EachStep step Lossless (start hosting) events) :
    EachStep step Gapless (start hosting) events :=
  each_step_of_guard (fun _ event valid lossless => CountInv.step valid event lossless)
    (fun _ event valid lossless => valid.gapless event lossless) _ _ (.start hosting) lossless

theorem station_gapless_menu : EachStep step Gapless (start smallHosting) menuEvents ∧
    numbersOf 1 portStationMenu (run step (start smallHosting) menuEvents).log = [1, 2, 3] := by
  refine ⟨station_gapless smallHosting menuEvents (each_step_of_actions menuEvents
    (fun event member world => ?_) _), by decide +kernel⟩
  cases event with
  | update ready beaconOk other =>
      obtain rfl := asksMenu_passes member
      exact fun _ _ _ => ⟨fun _ _ _ _ _ _ => rfl, fun _ _ _ _ _ _ _ => nofun⟩
  | _ => trivial

/-- The ring is full when the first chunk is handed over. -/
def lostChunk : List Event :=
  asksMenu (1, 2, 3) (contentPass 40 menuFile) ++
    List.replicate 3 (passEvent (contentPass 40 menuFile)) ++
    [passEvent { contentPass 40 menuFile with txAccepts := fun _ => false }]

theorem station_gap : ¬ EachStep step Gapless (start smallHosting)
    (lostChunk ++ [passEvent (contentPass 40 menuFile)]) := by
  intro gapless
  have last := ((each_step_append _ _ _ _ _).mp gapless).2.1
  obtain ⟨n, numbers⟩ := last 1 (by decide) portStationMenu ⟨by decide, by decide⟩
  have sent : numbersOf 1 portStationMenu (step (run step (start smallHosting) lostChunk)
      (passEvent (contentPass 40 menuFile))).log = [2] := by decide +kernel
  rw [sent] at numbers
  have one : n = 1 := by
    have length := congrArg List.length numbers
    simpa [consecutive] using length.symm
  subst one
  exact absurd numbers (by decide)

end Dswifi.DlPlay
