import Dswifi.DlPlay.Waiting

/-! Records without a client. A pass forgets the record of an id it finds free, but
only one that has left stage NONE; the pieces of a request are taken in any
stage. -/

namespace Dswifi.DlPlay

open Runs MpHost

/-- Nothing of a request: no piece, and nothing decoded from pieces. How many
blocks a client holds is no part of it. -/
structure Unasked (client : Client) : Prop where
  pieces : client.reqMask = 0
  buffer : client.reqBuffer = fun _ => 0
  undecoded : client.request = { blocksReceived := client.request.blocksReceived }
  unnamed : client.nameAscii = []

def Blank (client : Client) : Prop := client.stage = .none ∧ Unasked client

/-- What a step may do: a pass leaves the records of the ids it found free blank
and announces nobody else than associated consoles, and no console starts with
the request of another one. -/
structure CleanStep (world : World) (event : Event) : Prop where
  blank : ∀ ready beaconOk pass, event = .update ready beaconOk pass →
    beaconRunning ready beaconOk world.host = true → ∀ aid, aid ∈ aids →
      world.here aid = false → Blank ((step world event).host.clients aid)
  players : ∀ players members,
    .beaconSetPlayers players members ∈ (step world event).log.drop world.log.length →
      ∀ aid, players.getLsbD aid = true → world.here aid = true
  joined : ∀ aid, aid ∈ aids → world.here aid = false → (step world event).here aid = true →
    Unasked ((step world event).host.clients aid)

/-- A console that sent pieces leaves before a pass has taken it up, or one comes
to an id with pieces before a pass has noticed that the last one left. -/
def KeepsPieces (world : World) : Event → Prop
  | .mpHost operation => ∃ aid ∈ aids, (world.host.clients aid).reqMask ≠ 0 ∧
      (world.here aid = true ∧
          (associatedMask (MpHost.step world.mp operation)).getLsbD aid = false ∧
          (world.host.clients aid).stage = .none ∨
        world.here aid = false ∧
          (associatedMask (MpHost.step world.mp operation)).getLsbD aid = true ∧
          (world.host.clients aid).stage ≠ .none)
  | _ => False

instance (world : World) : (event : Event) → Decidable (KeepsPieces world event)
  | .mpHost operation => inferInstanceAs (Decidable (∃ aid ∈ aids,
      (world.host.clients aid).reqMask ≠ 0 ∧
      (world.here aid = true ∧
          (associatedMask (MpHost.step world.mp operation)).getLsbD aid = false ∧
          (world.host.clients aid).stage = .none ∨
        world.here aid = false ∧
          (associatedMask (MpHost.step world.mp operation)).getLsbD aid = true ∧
          (world.host.clients aid).stage ≠ .none)))
  | .update _ _ _ | .packet _ _ _ _ | .setBootMode _ | .setGather _ | .setPace _ _ | .bootClient _
  | .bootAll | .lockRoom _ | .appSend _ | .setAppHandler _ => inferInstanceAs (Decidable False)

/-- A request is decoded from its pieces. -/
def PieceInv (client : Client) : Prop := client.reqMask = 0 → Unasked client

structure CleanInv (world : World) : Prop where
  host : HostInv world
  pieces : ∀ aid, aid ∈ aids → PieceInv (world.host.clients aid)
  away : ∀ aid, aid ∈ aids → world.here aid = false → (world.host.clients aid).stage = .none →
    (world.host.clients aid).reqMask = 0

/-! The request. -/

theorem unasked_blank : Unasked {} := ⟨rfl, rfl, rfl, rfl⟩

theorem Unasked.of_said {before after : Client} (same : after.said = before.said)
    (unasked : Unasked before) : Unasked after := by
  simp only [Client.said, Prod.mk.injEq] at same
  obtain ⟨buffer, mask, request, name⟩ := same
  exact ⟨mask.trans unasked.pieces, buffer.trans unasked.buffer, request ▸ unasked.undecoded,
    name.trans unasked.unnamed⟩

theorem reqMask_of_said {before after : Client} (same : after.said = before.said) :
    after.reqMask = before.reqMask := congrArg (fun said => said.2.1) same

theorem PieceInv.of_said {before after : Client} (pieces : PieceInv before)
    (same : after.said = before.said) : PieceInv after := fun none =>
  (pieces ((reqMask_of_said same).symm.trans none)).of_said same

theorem takePiece_mask {client : Client} {piece : Nat} (inside : piece < reqPieceCount)
    (reply : List UInt8) : (takePiece client piece reply).reqMask ≠ 0 := by
  intro none
  simp only [reqPieceCount] at inside
  have set : (client.reqMask ||| bit 8 piece).getLsbD piece = true := by
    rw [BitVec.getLsbD_or, bit, BitVec.getLsbD_twoPow]
    simp
    omega
  rw [show client.reqMask ||| bit 8 piece = 0 from none] at set
  simp at set

theorem completeRequest_mask (client : Client) :
    (completeRequest client).reqMask = client.reqMask := by
  simp only [completeRequest]
  split <;> split <;> rfl

theorem takeProgress_pieces {client : Client} (pieces : PieceInv client) (reply : List UInt8) :
    PieceInv (takeProgress client reply) := by
  unfold takeProgress
  split
  · intro none
    have before := pieces none
    refine ⟨before.pieces, before.buffer, ?_, before.unnamed⟩
    have undecoded := before.undecoded
    simp only
    rw [undecoded]
  · exact pieces

theorem ReplyTurn.pieces {bootMode : BootMode} {gather : Bool} {portByte : UInt8}
    {reply : List UInt8} {client after : Client}
    (turn : ReplyTurn bootMode gather portByte reply client after) (pieces : PieceInv client) :
    PieceInv after := by
  cases turn with
  | piece opcode missing inside => exact fun none => absurd none (takePiece_mask inside reply)
  | completed opcode completes =>
      intro none
      rw [completeRequest_mask] at none
      exact absurd none (takePiece_mask completes.2.1 reply)
  | progress opcode kept => exact takeProgress_pieces pieces reply
  | pulled opcode free stage =>
      exact (takeProgress_pieces pieces reply).of_said rfl
  | ignored idle => exact pieces
  | _ => exact pieces.of_said rfl

/-! One step. -/

theorem pieces_step {world : World} (valid : HostInv world) (event : Event) {aid : Nat}
    (member : aid ∈ aids) (before : PieceInv (world.host.clients aid)) :
    PieceInv ((step world event).host.clients aid) := by
  have record := record_step valid event member
  generalize (step world event).host.clients aid = after at record
  cases record with
  | same event quiet => exact before
  | pass ready beaconOk pass running record =>
      rcases record.said with same | rfl
      · exact before.of_said same
      · exact fun _ => unasked_blank
  | reply type macaddr portByte reply hears turn =>
      exact turn.pieces (before.of_said rfl)
  | boot event asked stage => exact before.of_said rfl

theorem CleanInv.step {world : World} (valid : CleanInv world) (event : Event)
    (fresh : ¬ KeepsPieces world event) : CleanInv (step world event) := by
  refine ⟨valid.host.step event, fun aid member =>
      pieces_step valid.host event member (valid.pieces aid member),
    fun aid member away idle => ?_⟩
  have before := valid.away aid member
  have record := record_step valid.host event member
  generalize (DlPlay.step world event).host.clients aid = after at record idle
  rcases mp_step valid.host event with ⟨operation, rfl, mp⟩ | ⟨other, same⟩
  · cases record with
    | same event quiet =>
        cases here : world.here aid with
        | false => exact before here idle
        | true =>
            by_contra pieces
            exact fresh ⟨aid, member, pieces, .inl ⟨here, mp ▸ away, idle⟩⟩
    | boot event asked stage => rcases asked with asked | asked <;> cases asked
  · -- nobody left: the id was free before
    have here : world.here aid = false := by
      rw [World.here, associatedMask, multiplayerGetClientMask, same.mask] at away
      exact away
    cases record with
    | same event quiet => exact before here idle
    | pass ready beaconOk pass running record =>
        rw [show (associatedMask world.mp).getLsbD aid = false from here] at record
        cases record with
        | absent free => exact before here free
        | cleared => rfl
    | reply type macaddr portByte reply hears turn =>
        exact absurd (hears.here valid.host.table) (by simp [here])
    | boot event asked stage => cases idle

theorem CleanInv.start (hosting : Hosting) : CleanInv (start hosting) :=
  ⟨.start hosting, fun _ _ _ => unasked_blank, fun _ _ _ _ => rfl⟩

/-- A pass leaves nothing on an id it finds free. -/
theorem blank_step {world : World} (valid : CleanInv world) {ready beaconOk : Bool} {pass : Pass}
    (running : beaconRunning ready beaconOk world.host = true) {aid : Nat} (member : aid ∈ aids)
    (away : world.here aid = false) : Blank ((step world (.update ready beaconOk pass)).host.clients aid) := by
  have done : PassDone world (step world (.update ready beaconOk pass)) :=
    update_done running valid.host.stations
  have record := done.record aid member
  rw [show (associatedMask world.mp).getLsbD aid = false from away] at record
  generalize (step world (.update ready beaconOk pass)).host.clients aid = after at record
  cases record with
  | absent idle => exact ⟨idle, valid.pieces aid member (valid.away aid member away idle)⟩
  | cleared => exact ⟨rfl, unasked_blank⟩

/-- A player has said its name, and only a console that is here has. -/
theorem players_step {world next : World} (valid : CleanInv world) {players : Mask}
    {members : List (Nat × Member)} (note : PassNote world next (.beaconSetPlayers players members))
    {aid : Nat} (listed : players.getLsbD aid = true) : world.here aid = true := by
  obtain ⟨member, named⟩ := note aid listed
  cases here : world.here aid with
  | true => rfl
  | false =>
      rw [show (associatedMask world.mp).getLsbD aid = false from here] at named
      by_cases idle : (world.host.clients aid).stage = .none
      · have blank := valid.pieces aid member (valid.away aid member here idle)
        have kept : arrive false (world.host.clients aid) = world.host.clients aid := by
          simp [arrive, idle]
        rw [kept, blank.undecoded] at named
        cases named
      · simp [arrive, idle] at named

theorem joined_step {world : World} (valid : CleanInv world) {event : Event}
    (fresh : ¬ KeepsPieces world event) {aid : Nat} (member : aid ∈ aids)
    (away : world.here aid = false) (here : (step world event).here aid = true) :
    Unasked ((step world event).host.clients aid) := by
  rcases here_step valid.host here with before | ⟨operation, rfl, joined⟩
  · exact absurd before (by simp [away])
  · refine valid.pieces aid member ?_
    by_contra pieces
    refine fresh ⟨aid, member, pieces, .inr ⟨away, joined, fun idle => ?_⟩⟩
    exact pieces (valid.away aid member away idle)

theorem clean_step {world : World} (valid : CleanInv world) (event : Event)
    (fresh : ¬ KeepsPieces world event) : CleanStep world event := by
  refine ⟨?_, fun players members noted aid listed => ?_, fun aid member away here =>
    joined_step valid fresh member away here⟩
  · rintro ready beaconOk pass rfl running aid member away
    exact blank_step valid running member away
  · have note := (log_step valid.host event).drop _ noted
    obtain ⟨ready, beaconOk, pass, rfl⟩ := note.pass (by simp) (by simp) (by simp)
    have note : PassNote world (step world (.update ready beaconOk pass))
      (.beaconSetPlayers players members) := note
    exact players_step valid note listed

/-- As long as no console leaves pieces of a request behind that no pass can
notice, or takes over those of another one, the records of the ids without a
console are blank after every pass. -/
theorem records_clean (hosting : Hosting) (events : List Event)
    (fresh : EachStep step (fun world event => ¬ KeepsPieces world event) (start hosting) events) :
    EachStep step CleanStep (start hosting) events :=
  each_step_of_guard (fun _ event valid fresh => CleanInv.step valid event fresh)
    (fun _ event valid fresh => clean_step valid event fresh) _ _ (.start hosting) fresh

/-- Two consoles, one after the other, on one id. -/
def oneAfterAnother : List Event :=
  arrivesEvents (1, 2, 3) ++ stationRequest (1, 2, 3) ++
    [.mpHost (.clientDisconnect (1, 2, 3)), passEvent plainPass] ++ arrivesEvents (4, 5, 6)

theorem records_clean_once : EachStep step CleanStep (start smallHosting) oneAfterAnother :=
  records_clean smallHosting oneAfterAnother (by decide +kernel)

/-- A console that says its name at once and leaves again, before any pass, stays
in the list of players. -/
theorem records_keep_name : ¬ EachStep step CleanStep (start smallHosting)
    (joinsEvents (1, 2, 3) ++ stationRequest (1, 2, 3) ++ [.mpHost (.clientDisconnect (1, 2, 3))] ++
      [passEvent plainPass]) := by
  rw [each_step_append]
  rintro ⟨_, last, _⟩
  have blank := last.blank true true plainPass rfl (by decide +kernel) 1 (by decide)
    (by decide +kernel)
  exact absurd blank.2.pieces (by decide +kernel)

end Dswifi.DlPlay
