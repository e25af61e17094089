import Dswifi.MpHostTable

/-! Kick requests, from the ARM9 that asks for one to the update of the ARM7
that serves it. `requested` is history: the association ids asked for since the
last update. The field that carries a request has eight bits for fifteen
association ids. -/

namespace Dswifi.KickRequests

open Runs MpHost

inductive GaveUpReason where
  | silent
  | stalled
  deriving DecidableEq, Repr

/-- What the diagnostics remember of the clients given up on. Both are u8. -/
structure Diag where
  gaveUp : GaveUpReason → Nat
  gaveUpLastAid : Nat

def giveUpOnClient (diag : Diag) (shared : Shared) (aid : Nat) (reason : GaveUpReason) :
    Diag × Shared :=
  let counted :=
    if diag.gaveUp reason < 255 then Function.update diag.gaveUp reason (diag.gaveUp reason + 1)
    else diag.gaveUp
  ({ gaveUp := counted, gaveUpLastAid := aid % 256 }, multiplayerKickClientByAID shared aid)

structure Room where
  shared : Shared
  diag : Diag
  requested : List Nat

inductive Event where
  | table (operation : Operation)
  | giveUpOnClient (aid : Nat) (reason : GaveUpReason)

/-- The association ids from 1 to WIFI_MAX_MULTIPLAYER_CLIENTS that a call asks for. -/
def request (requested : List Nat) (associationId : Int) : List Nat :=
  if associationId < 1 ∨ associationId > maxMultiplayerClients then requested
  else associationId.toNat :: requested

def remember (requested : List Nat) : Event → List Nat
  | .table (.multiplayerKickClientByAID associationId) => request requested associationId
  | .table .ntrUpdate => []
  | .table _ => requested
  | .giveUpOnClient aid _ => request requested aid

def step (room : Room) (event : Event) : Room :=
  let requested := remember room.requested event
  match event with
  | .table operation => { room with shared := MpHost.step room.shared operation, requested }
  | .giveUpOnClient aid reason =>
    let (diag, shared) := giveUpOnClient room.diag room.shared aid reason
    { shared, diag, requested }

def start (maxClients : Nat) (allow : Bool) : Room :=
  { shared := accessPointStart maxClients allow
    diag := { gaveUp := fun _ => 0, gaveUpLastAid := 0 }
    requested := [] }

/-- An update passes to Wifi_MPHost_KickByAID what was requested and nothing
else, and leaves none of the requested clients in the table. -/
def Served (room : Room) : Event → Prop
  | .table .ntrUpdate =>
      (∀ aid, Note.kickByAID aid ∈ (ntrUpdate room.shared).log.drop room.shared.log.length ↔
        aid ∈ room.requested) ∧
      ∀ aid ∈ room.requested,
        ((ntrUpdate room.shared).clients.list (aid - 1)).state = .disconnected
  | _ => True

def FitsRequestField (room : Room) : Event → Prop
  | .table .ntrUpdate => ∀ aid ∈ room.requested, aid < 8
  | _ => True

structure RequestInv (room : Room) : Prop where
  table : TableInv room.shared
  aids : ∀ aid ∈ room.requested, 1 ≤ aid ∧ aid ≤ maxMultiplayerClients
  field : ∀ aid, aid < 8 →
    (room.shared.clients.reqKickClientAIDMask.getLsbD aid = true ↔ aid ∈ room.requested)

/-! What the update records. -/

/-- `next` records more than `shared`, and among the records the association
ids passed to Wifi_MPHost_KickByAID are those of `kicked`. -/
def Records (shared next : Shared) (kicked : Nat → Prop) : Prop :=
  ∃ items, next.log = shared.log ++ items ∧ ∀ aid, Note.kickByAID aid ∈ items ↔ kicked aid

namespace Records

theorem refl (shared : Shared) : Records shared shared fun _ => False := ⟨[], by simp⟩

theorem trans {first second third : Shared} {kicked more : Nat → Prop}
    (before : Records first second kicked) (after : Records second third more) :
    Records first third fun aid => kicked aid ∨ more aid := by
  obtain ⟨items, logged, which⟩ := before
  obtain ⟨items', logged', which'⟩ := after
  exact ⟨items ++ items', by simp [logged, logged'], by simp [which, which']⟩

theorem congr {shared next : Shared} {kicked same : Nat → Prop}
    (records : Records shared next kicked) (equal : ∀ aid, kicked aid ↔ same aid) :
    Records shared next same := by
  obtain ⟨items, logged, which⟩ := records
  exact ⟨items, logged, fun aid => (which aid).trans (equal aid)⟩

theorem drop_log {shared next : Shared} {kicked : Nat → Prop}
    (records : Records shared next kicked) (aid : Nat) :
    Note.kickByAID aid ∈ next.log.drop shared.log.length ↔ kicked aid := by
  obtain ⟨items, logged, which⟩ := records
  rw [logged, List.drop_left]
  exact which aid

end Records

theorem records_note (shared : Shared) (item : Note) :
    Records shared (note shared item) (item = .kickByAID ·) :=
  ⟨[item], rfl, by simp [eq_comm]⟩

theorem records_drop (shared : Shared) (index aid : Nat) :
    Records shared (drop shared index aid) fun _ => False :=
  ⟨[], by simp [drop]⟩

theorem records_kickByAID (shared : Shared) (associationId : Nat) :
    Records shared (kickByAID shared associationId) (· = associationId) := by
  have noted : Records shared (note shared (.kickByAID associationId)) (· = associationId) :=
    (records_note shared _).congr (by simp [eq_comm])
  unfold kickByAID
  dsimp only
  split
  · exact noted
  · split
    · exact noted
    · split
      · exact noted
      · have dropped := (records_note (note shared (.kickByAID associationId))
          (.deauthentication (shared.clients.list (associationId - 1)).macaddr)).trans
          (records_drop _ (associationId - 1) associationId)
        exact ((noted.trans dropped).trans
          (records_note _ (.beaconCurrentPlayers _))).congr (by simp)

theorem records_kickIfNotAssociated (shared : Shared) (i : Nat) :
    Records shared (kickIfNotAssociated shared i) fun _ => False := by
  unfold kickIfNotAssociated
  dsimp only
  split
  · exact ((records_note _ (.deauthentication _)).trans (records_drop _ i (i + 1))).congr (by simp)
  · exact .refl shared

theorem records_kickNotAssociatedClients (shared : Shared) :
    Records shared (kickNotAssociatedClients shared) fun _ => False := by
  have kicked : Records shared
      ((List.range shared.curMaxClients).foldl kickIfNotAssociated shared) fun _ => False :=
    loop_invariant (fun state => Records shared state fun _ => False) _
      (fun state i before => (before.trans (records_kickIfNotAssociated state i)).congr (by simp))
      _ _ (.refl shared)
  exact (kicked.trans (records_note _ (.beaconCurrentPlayers _))).congr (by simp)

theorem records_serveAllowRequest (shared : Shared) :
    Records shared (serveAllowRequest shared) fun _ => False := by
  unfold serveAllowRequest
  split
  · exact .refl shared
  · split
    · exact ⟨[], by simp⟩
    · exact records_kickNotAssociatedClients { shared with beaconAllowsConnections := false }

theorem records_kickRequested (mask : BitVec 16) (indices : List Nat) (shared : Shared) :
    Records shared (indices.foldl (kickRequested mask) shared)
      fun aid => aid ∈ indices ∧ mask.getLsbD aid = true := by
  induction indices generalizing shared with
  | nil => exact (Records.refl shared).congr (by simp)
  | cons index rest ih =>
      by_cases requested : mask.getLsbD index = true
      · have own : Records shared (kickRequested mask shared index) (· = index) := by
          simpa [kickRequested, requested] using records_kickByAID shared index
        apply (own.trans (ih _)).congr
        intro aid
        simp only [List.mem_cons]
        constructor
        · rintro (rfl | ⟨member, set⟩)
          · exact ⟨.inl rfl, requested⟩
          · exact ⟨.inr member, set⟩
        · rintro ⟨same | member, set⟩
          · exact .inl same
          · exact .inr ⟨member, set⟩
      · have own : kickRequested mask shared index = shared := by
          simp [kickRequested, requested]
        rw [List.foldl_cons, own]
        apply (ih shared).congr
        intro aid
        have distinct : mask.getLsbD aid = true → aid ≠ index := by
          rintro set rfl
          exact requested set
        simp only [List.mem_cons]
        constructor
        · rintro ⟨member, set⟩
          exact ⟨.inr member, set⟩
        · rintro ⟨same | member, set⟩
          · exact absurd same (distinct set)
          · exact ⟨member, set⟩

/-- The update calls Wifi_MPHost_KickByAID for the bits of the field. -/
theorem records_ntrUpdate (shared : Shared) :
    Records shared (ntrUpdate shared) fun aid =>
      1 ≤ aid ∧ aid < 8 ∧ shared.clients.reqKickClientAIDMask.getLsbD aid = true := by
  have bits : ∀ aid, 1 ≤ aid ∧ aid < 8 ∧ shared.clients.reqKickClientAIDMask.getLsbD aid = true ↔
      aid ∈ aids ∧ (shared.clients.reqKickClientAIDMask.setWidth 16).getLsbD aid = true := by
    intro aid
    have inside : shared.clients.reqKickClientAIDMask.getLsbD aid = true → aid < 8 :=
      BitVec.lt_of_getLsbD
    rw [aids, List.mem_range'_1, BitVec.getLsbD_setWidth, Bool.and_eq_true, decide_eq_true_iff]
    constructor
    · rintro ⟨positive, small, set⟩
      exact ⟨by omega, by omega, set⟩
    · rintro ⟨⟨positive, _⟩, _, set⟩
      exact ⟨positive, inside set, set⟩
  have served : Records shared (serveKickRequests shared) fun aid =>
      1 ≤ aid ∧ aid < 8 ∧ shared.clients.reqKickClientAIDMask.getLsbD aid = true := by
    unfold serveKickRequests
    dsimp only
    split
    · exact (records_kickRequested (shared.clients.reqKickClientAIDMask.setWidth 16) aids
        { shared with clients := { shared.clients with reqKickClientAIDMask := 0 } }).congr
        fun aid => (bits aid).symm
    · rename_i empty
      have none := of_not_not empty
      apply (Records.refl shared).congr
      intro aid
      rw [bits, none]
      simp
  exact (served.trans (records_serveAllowRequest _)).congr (by simp)

/-! What the update removes. -/

theorem removed_drop (shared : Shared) (index aid i : Nat)
    (gone : i = index ∨ (shared.clients.list i).state = .disconnected) :
    ((drop shared index aid).clients.list i).state = .disconnected := by
  by_cases same : i = index
  · simp [drop, setClient, same]
  · simpa [drop, setClient, same] using gone

theorem removed_kickByAID {shared : Shared} (table : TableInv shared) (associationId : Nat)
    (positive : 1 ≤ associationId) :
    ((kickByAID shared associationId).clients.list (associationId - 1)).state = .disconnected := by
  unfold kickByAID
  dsimp only
  split
  · omega
  · split
    · exact table.beyond _ (by assumption)
    · split
      · assumption
      · exact removed_drop _ _ _ _ (.inl rfl)

theorem removed_stays_kickByAID (shared : Shared) (associationId i : Nat)
    (gone : (shared.clients.list i).state = .disconnected) :
    ((kickByAID shared associationId).clients.list i).state = .disconnected := by
  unfold kickByAID
  dsimp only
  split
  · exact gone
  · split
    · exact gone
    · split
      · exact gone
      · exact removed_drop _ _ _ _ (.inr gone)

theorem removed_kickRequested {shared : Shared} (table : TableInv shared) (mask : BitVec 16)
    (indices : List Nat) (positive : ∀ aid ∈ indices, 1 ≤ aid) (aid : Nat)
    (done : (shared.clients.list (aid - 1)).state = .disconnected ∨
      aid ∈ indices ∧ mask.getLsbD aid = true) :
    ((indices.foldl (kickRequested mask) shared).clients.list (aid - 1)).state = .disconnected := by
  induction indices generalizing shared with
  | nil => simpa using done
  | cons index rest ih =>
      have kept : TableInv (kickRequested mask shared index) := by
        unfold kickRequested
        split
        · exact table.kickByAID index
        · exact table
      apply ih kept fun other member => positive other (List.mem_cons_of_mem _ member)
      -- who is gone stays gone, and who is asked for goes when its turn comes
      rcases done with gone | ⟨member, set⟩
      · left
        unfold kickRequested
        split
        · exact removed_stays_kickByAID _ _ _ gone
        · exact gone
      · rcases List.mem_cons.mp member with same | later
        · left
          subst index
          rw [kickRequested, if_pos set]
          exact removed_kickByAID table aid (positive aid List.mem_cons_self)
        · exact .inr ⟨later, set⟩

theorem removed_stays_serveAllowRequest (shared : Shared) (i : Nat)
    (gone : (shared.clients.list i).state = .disconnected) :
    ((serveAllowRequest shared).clients.list i).state = .disconnected := by
  unfold serveAllowRequest
  split
  · exact gone
  · split
    · exact gone
    · refine loop_invariant (fun state : Shared => (state.clients.list i).state = .disconnected)
        kickIfNotAssociated ?_ _ _ gone
      intro state index before
      unfold kickIfNotAssociated
      dsimp only
      split
      · exact removed_drop _ _ _ _ (.inr before)
      · exact before

theorem removed_ntrUpdate {shared : Shared} (table : TableInv shared) (aid : Nat)
    (positive : 1 ≤ aid) (set : shared.clients.reqKickClientAIDMask.getLsbD aid = true) :
    ((ntrUpdate shared).clients.list (aid - 1)).state = .disconnected := by
  have small := BitVec.lt_of_getLsbD set
  have wide : (shared.clients.reqKickClientAIDMask.setWidth 16).getLsbD aid = true := by
    rw [BitVec.getLsbD_setWidth, set, decide_eq_true (by omega), Bool.and_self]
  have member : aid ∈ aids := by rw [aids, List.mem_range'_1]; omega
  have taken : TableInv
      { shared with clients := { shared.clients with reqKickClientAIDMask := 0 } } :=
    table.of_clients rfl rfl rfl rfl
  apply removed_stays_serveAllowRequest
  unfold serveKickRequests
  dsimp only
  split
  · exact removed_kickRequested taken (shared.clients.reqKickClientAIDMask.setWidth 16) aids
      (fun index inside => (List.mem_range'_1.mp inside).1) aid (.inr ⟨member, wide⟩)
  · rename_i empty
    rw [of_not_not empty] at wide
    simp at wide

/-! The requests of a run. -/

theorem reqKickClientAIDMask_kickByAID (shared : Shared) (aid : Nat) :
    (kickByAID shared aid).clients.reqKickClientAIDMask =
      shared.clients.reqKickClientAIDMask := by
  unfold kickByAID
  dsimp only
  split
  · rfl
  · split
    · rfl
    · split <;> rfl

theorem reqKickClientAIDMask_kickRequested (mask : BitVec 16) (shared : Shared) (aid : Nat) :
    (kickRequested mask shared aid).clients.reqKickClientAIDMask =
      shared.clients.reqKickClientAIDMask := by
  unfold kickRequested
  split
  · exact reqKickClientAIDMask_kickByAID shared aid
  · rfl

theorem reqKickClientAIDMask_loop (mask : BitVec 16) (indices : List Nat) (shared : Shared) :
    (indices.foldl (kickRequested mask) shared).clients.reqKickClientAIDMask =
      shared.clients.reqKickClientAIDMask :=
  loop_frame (fun state : Shared => state.clients.reqKickClientAIDMask) _
    (reqKickClientAIDMask_kickRequested mask) indices shared

theorem reqKickClientAIDMask_kickIfNotAssociated (shared : Shared) (i : Nat) :
    (kickIfNotAssociated shared i).clients.reqKickClientAIDMask =
      shared.clients.reqKickClientAIDMask := by
  unfold kickIfNotAssociated
  dsimp only
  split <;> rfl

theorem reqKickClientAIDMask_kickNotAssociatedClients (shared : Shared) :
    (kickNotAssociatedClients shared).clients.reqKickClientAIDMask =
      shared.clients.reqKickClientAIDMask :=
  loop_frame (fun state : Shared => state.clients.reqKickClientAIDMask) kickIfNotAssociated
    reqKickClientAIDMask_kickIfNotAssociated _ _

theorem reqKickClientAIDMask_serveKickRequests (shared : Shared) :
    (serveKickRequests shared).clients.reqKickClientAIDMask = 0 := by
  unfold serveKickRequests
  dsimp only
  split
  · rw [reqKickClientAIDMask_loop]
  · rename_i empty
    have none := of_not_not empty
    apply BitVec.eq_of_getLsbD_eq
    intro aid inside
    have wide := congrArg (·.getLsbD aid) none
    simpa [BitVec.getLsbD_setWidth, show aid < 16 by omega] using wide

theorem reqKickClientAIDMask_ntrUpdate (shared : Shared) :
    (ntrUpdate shared).clients.reqKickClientAIDMask = 0 := by
  rw [← reqKickClientAIDMask_serveKickRequests shared, ntrUpdate, serveAllowRequest]
  split
  · rfl
  · split
    · rfl
    · exact reqKickClientAIDMask_kickNotAssociatedClients _

/-- Nothing but a request and an update changes the field of the requests. -/
theorem reqKickClientAIDMask_step (shared : Shared) (operation : Operation)
    (other : ∀ associationId, operation ≠ .multiplayerKickClientByAID associationId)
    (pending : operation ≠ .ntrUpdate) :
    (MpHost.step shared operation).clients.reqKickClientAIDMask =
      shared.clients.reqKickClientAIDMask := by
  cases operation with
  | resetClients => rfl
  | clientAuthenticate macaddr =>
      simp only [MpHost.step, clientAuthenticate]
      split
      · rfl
      · split
        · rfl
        · split <;> rfl
  | clientAssociate macaddr =>
      simp only [MpHost.step, clientAssociate]
      split
      · rfl
      · split
        · rfl
        · split <;> rfl
  | clientDisconnect macaddr =>
      simp only [MpHost.step, clientDisconnect]
      split <;> rfl
  | kickByAID associationId => exact reqKickClientAIDMask_kickByAID shared associationId
  | kickNotAssociatedClients => exact reqKickClientAIDMask_kickNotAssociatedClients shared
  | multiplayerKickClientByAID associationId => exact absurd rfl (other associationId)
  | multiplayerAllowNewClients allow => rfl
  | ntrUpdate => exact absurd rfl pending

theorem remember_other (requested : List Nat) (operation : Operation)
    (other : ∀ associationId, operation ≠ .multiplayerKickClientByAID associationId)
    (pending : operation ≠ .ntrUpdate) : remember requested (.table operation) = requested := by
  cases operation with
  | multiplayerKickClientByAID associationId => exact absurd rfl (other associationId)
  | ntrUpdate => exact absurd rfl pending
  | _ => rfl

namespace RequestInv

/-- One request: the same list whether the application or a give-up asks. -/
theorem request {room : Room} (valid : RequestInv room) (associationId : Int) (diag : Diag) :
    RequestInv { shared := multiplayerKickClientByAID room.shared associationId, diag,
                 requested := request room.requested associationId } := by
  unfold multiplayerKickClientByAID KickRequests.request
  split
  · exact ⟨valid.table, valid.aids, valid.field⟩
  · rename_i named
    refine ⟨valid.table.of_clients rfl rfl rfl rfl, ?_, ?_⟩
    · intro aid member
      rcases List.mem_cons.mp member with same | before
      · omega
      · exact valid.aids aid before
    · intro aid small
      have before := valid.field aid small
      simp only [bit, BitVec.getLsbD_or, BitVec.getLsbD_twoPow, Bool.or_eq_true, before,
        List.mem_cons, Bool.and_eq_true, decide_eq_true_eq]
      constructor
      · rintro (before | ⟨_, same⟩)
        · exact .inr before
        · exact .inl same.symm
      · rintro (same | before)
        · exact .inr ⟨same ▸ small, same.symm⟩
        · exact .inl before

theorem step {room : Room} (valid : RequestInv room) (event : Event) :
    RequestInv (step room event) := by
  cases event with
  | giveUpOnClient aid reason => exact valid.request aid _
  | table operation =>
      by_cases asks : ∃ associationId, operation = .multiplayerKickClientByAID associationId
      · obtain ⟨associationId, rfl⟩ := asks
        exact valid.request associationId room.diag
      · have other := not_exists.mp asks
        by_cases update : operation = .ntrUpdate
        · subst update
          refine ⟨valid.table.ntrUpdate, by simp [KickRequests.step, remember], ?_⟩
          intro aid _
          simp [KickRequests.step, remember, MpHost.step, reqKickClientAIDMask_ntrUpdate]
        · have list : (KickRequests.step room (.table operation)).requested = room.requested :=
            remember_other room.requested operation other update
          have mask : (KickRequests.step room (.table operation)).shared.clients.reqKickClientAIDMask =
              room.shared.clients.reqKickClientAIDMask :=
            reqKickClientAIDMask_step room.shared operation other update
          refine ⟨valid.table.step operation, ?_, ?_⟩
          · rw [list]; exact valid.aids
          · rw [list, mask]; exact valid.field

theorem start (maxClients : Nat) (limit : maxClients ≤ maxMultiplayerClients) (allow : Bool) :
    RequestInv (start maxClients allow) :=
  ⟨TableInv.accessPointStart maxClients allow limit, by simp [KickRequests.start],
    by simp [KickRequests.start, accessPointStart]⟩

end RequestInv

/-- An update serves the requests exactly when all of them fit in the field. -/
theorem served_iff_fits {room : Room} (valid : RequestInv room) (event : Event) :
    Served room event ↔ FitsRequestField room event := by
  match event with
  | .giveUpOnClient aid reason => exact Iff.rfl
  | .table .ntrUpdate =>
      have kicked := (records_ntrUpdate room.shared).drop_log
      constructor
      · rintro ⟨exactly, _⟩ aid requested
        exact ((kicked aid).mp ((exactly aid).mpr requested)).2.1
      · intro fits
        refine ⟨fun aid => (kicked aid).trans ⟨?_, ?_⟩, ?_⟩
        · rintro ⟨_, small, set⟩
          exact (valid.field aid small).mp set
        · intro requested
          have small := fits aid requested
          exact ⟨(valid.aids aid requested).1, small, (valid.field aid small).mpr requested⟩
        · intro aid requested
          exact removed_ntrUpdate valid.table aid (valid.aids aid requested).1
            ((valid.field aid (fits aid requested)).mpr requested)
  | .table .resetClients | .table (.clientAuthenticate _) | .table (.clientAssociate _)
  | .table (.clientDisconnect _) | .table (.kickByAID _) | .table .kickNotAssociatedClients
  | .table (.multiplayerKickClientByAID _) | .table (.multiplayerAllowNewClients _) =>
      exact Iff.rfl

/-- Every update of a run serves its requests exactly when no update finds an
association id above 7 among them. -/
theorem requests_served_iff (maxClients : Nat) (limit : maxClients ≤ maxMultiplayerClients)
    (allow : Bool) (events : List Event) :
    EachStep step Served (start maxClients allow) events ↔
      EachStep step FitsRequestField (start maxClients allow) events :=
  each_step_iff_guard (fun _ event valid _ => valid.step event)
    (fun _ event valid => served_iff_fits valid event) _ _ (.start maxClients limit allow)

theorem requests_served_seven : EachStep step Served (start 15 true)
    [.giveUpOnClient 7 .silent, .table .ntrUpdate] :=
  (requests_served_iff 15 (by decide) true _).mpr
    (by simp [EachStep, FitsRequestField, step, start, remember, request, maxMultiplayerClients])

/-- The request for association id 8 is lost. -/
theorem requests_lost_eight : ¬ EachStep step Served (start 15 true)
    [.giveUpOnClient 8 .silent, .table .ntrUpdate] := by
  rintro ⟨_, served, _⟩
  have fits := (served_iff_fits ((RequestInv.start 15 (by decide) true).step
    (.giveUpOnClient 8 .silent)) (.table .ntrUpdate)).mp served
  exact absurd (fits 8 (by decide)) (by decide)

end Dswifi.KickRequests
