import Dswifi.DlPlay.Serving
import Dswifi.DlPlay.Turns

/-! The three loops of a pass over the association ids, each summed up: who
arrived and who left, every client's own timer, and the kicks at the end of an
exchange. -/

namespace Dswifi.DlPlay

open Runs MpHost KickRequests

@[simp] theorem mem_aids (aid : Nat) : aid ∈ aids ↔ 1 ≤ aid ∧ aid ≤ maxMultiplayerClients := by
  rw [aids, List.mem_range'_1, maxMultiplayerClients]
  omega

theorem nodup_aids : aids.Nodup := List.nodup_range'

/-- A change of the table that leaves its clients as they are. -/
structure SameTable (mp next : Shared) : Prop where
  mask : next.clients.aidMask = mp.clients.aidMask
  sender : ∀ macaddr,
    multiplayerClientGetAIDFromMac next macaddr = multiplayerClientGetAIDFromMac mp macaddr
  table : TableInv mp → TableInv next

theorem SameTable.refl (mp : Shared) : SameTable mp mp := ⟨rfl, fun _ => rfl, id⟩

theorem SameTable.trans {first second third : Shared} (before : SameTable first second)
    (after : SameTable second third) : SameTable first third :=
  ⟨after.mask.trans before.mask, fun macaddr => (after.sender macaddr).trans (before.sender macaddr),
    after.table ∘ before.table⟩

theorem SameTable.associated {mp next : Shared} (same : SameTable mp next) :
    associatedMask next = associatedMask mp := by
  rw [associatedMask, associatedMask, multiplayerGetClientMask, multiplayerGetClientMask, same.mask]

theorem SameTable.kick (mp : Shared) (aid : Int) :
    SameTable mp (multiplayerKickClientByAID mp aid) := by
  have table := fun valid : TableInv mp => valid.step (.multiplayerKickClientByAID aid)
  simp only [MpHost.step] at table
  revert table
  unfold multiplayerKickClientByAID
  split
  · exact fun _ => .refl mp
  · exact fun table => ⟨rfl, fun _ => rfl, table⟩

theorem SameTable.allow (mp : Shared) (allow : Bool) :
    SameTable mp (multiplayerAllowNewClients mp allow) :=
  ⟨rfl, fun _ => rfl, fun table => table.step (.multiplayerAllowNewClients allow)⟩

/-! Arrivals and departures. -/

/-- What the first loop makes of a record. -/
def arrive (here : Bool) (client : Client) : Client :=
  if here ∧ client.stage = .none then setClientStage client .connected
  else if !here ∧ client.stage ≠ .none then {}
  else client

/-- A client that is here is taken up, or goes on. -/
theorem arrive_here (client : Client) :
    client.stage = .none ∧ arrive true client = setClientStage client .connected ∨
      client.stage ≠ .none ∧ arrive true client = client := by
  by_cases idle : client.stage = .none
  · exact .inl ⟨idle, by simp [arrive, idle]⟩
  · exact .inr ⟨idle, by simp [arrive, idle]⟩

theorem notice_clients (associated : Mask) (scan : Scan) (aid : Nat) :
    (notice associated scan aid).world.host.clients =
      Function.update scan.world.host.clients aid
        (arrive (associated.getLsbD aid) (scan.world.host.clients aid)) := by
  unfold notice arrive
  dsimp only
  split
  · rfl
  · split
    · rfl
    · simp

theorem noticeAll_clients (world : World) (aid : Nat) :
    (noticeAll world).world.host.clients aid =
      if aid ∈ aids then arrive ((associatedMask world.mp).getLsbD aid) (world.host.clients aid)
      else world.host.clients aid :=
  loop_entry (fun scan : Scan => scan.world.host.clients) (notice (associatedMask world.mp))
    (fun aid client => arrive ((associatedMask world.mp).getLsbD aid) client) (fun _ => True)
    (fun _ _ _ => trivial) (fun scan aid _ => by rw [notice_clients]; simp)
    (fun scan aid other distinct => by rw [notice_clients]; simp [distinct])
    aids nodup_aids { world } trivial aid

theorem notice_frame (associated : Mask) (scan : Scan) (aid : Nat) :
    (notice associated scan aid).world.mp = scan.world.mp ∧
      (notice associated scan aid).world.host.settings = scan.world.host.settings := by
  unfold notice
  dsimp only
  split
  · exact ⟨rfl, rfl⟩
  · split <;> exact ⟨rfl, rfl⟩

theorem noticeAll_mp (world : World) : (noticeAll world).world.mp = world.mp :=
  loop_frame (fun scan : Scan => scan.world.mp) _
    (fun scan aid => (notice_frame _ scan aid).1) aids { world }

theorem noticeAll_settings (world : World) :
    (noticeAll world).world.host.settings = world.host.settings :=
  loop_frame (fun scan : Scan => scan.world.host.settings) _
    (fun scan aid => (notice_frame _ scan aid).2) aids { world }

/-- A record reset by the loop is that of a client that is not here. -/
def ResetAway (associated : Mask) : Note → Prop
  | .resetOneClient aid => associated.getLsbD aid = false
  | _ => False

theorem noticeAll_log (world : World) :
    Appends (ResetAway (associatedMask world.mp)) world (noticeAll world).world := by
  apply loop_invariant (fun scan : Scan => Appends (ResetAway (associatedMask world.mp)) world scan.world)
  · intro scan aid before
    unfold notice
    dsimp only
    split
    · exact before.trans (.of_log rfl)
    · split
      · rename_i away
        exact before.trans (Appends.note _ (by simpa [ResetAway] using away.1))
      · exact before
  · exact .refl world

/-! The timers. -/

theorem visit_clients (gathering : Gathering) (aid : Nat) :
    (visit gathering aid).world.host.clients =
      Function.update gathering.world.host.clients aid
        (clientPass gathering.world.host.bootMode gathering.world.host.gather
          (gathering.world.host.clients aid)).1 := by
  unfold visit
  dsimp only
  split <;> rfl

theorem visit_bmp (gathering : Gathering) (aid : Nat) (group : Group) :
    (visit gathering aid).bmp group =
      if (clientPass gathering.world.host.bootMode gathering.world.host.gather
          (gathering.world.host.clients aid)).2 = .join group then
        gathering.bmp group ||| bit 16 aid
      else gathering.bmp group := by
  unfold visit
  dsimp only
  split
  · rename_i outcome
    simp [outcome]
  · rename_i outcome
    simp [outcome]
  · rename_i joined outcome
    by_cases same : joined = group
    · subst joined
      simp [outcome]
    · simp [outcome, same, Ne.symm same]

theorem visit_settings (gathering : Gathering) (aid : Nat) :
    (visit gathering aid).world.host.settings = gathering.world.host.settings := by
  unfold visit
  dsimp only
  split <;> rfl

theorem visit_mp (gathering : Gathering) (aid : Nat) :
    SameTable gathering.world.mp (visit gathering aid).world.mp := by
  unfold visit
  dsimp only
  split
  · exact .refl _
  · exact .kick _ _
  · exact .refl _

theorem settings_modes {host next : Host} (same : next.settings = host.settings) :
    next.bootMode = host.bootMode ∧ next.gather = host.gather :=
  ⟨congrArg Settings.bootMode same, congrArg Settings.gather same⟩

theorem visits_settings (indices : List Nat) (gathering : Gathering) :
    (indices.foldl visit gathering).world.host.settings = gathering.world.host.settings :=
  loop_frame (fun gathering : Gathering => gathering.world.host.settings) visit visit_settings
    indices gathering

theorem gatherClients_settings (world : World) :
    (gatherClients world).world.host.settings = world.host.settings := by
  rw [gatherClients, visits_settings]

theorem visits_mp (indices : List Nat) (gathering : Gathering) :
    SameTable gathering.world.mp (indices.foldl visit gathering).world.mp :=
  loop_invariant (fun next : Gathering => SameTable gathering.world.mp next.world.mp) visit
    (fun next aid before => before.trans (visit_mp next aid)) indices gathering (.refl _)

theorem gatherClients_mp (world : World) : SameTable world.mp (gatherClients world).world.mp := by
  rw [gatherClients]
  exact visits_mp aids { world }

/-- A client's turn in the pass of this host. -/
def turnOf (host : Host) (client : Client) : Client × Outcome :=
  clientPass host.bootMode host.gather client

/-- A record, and the bits of its client in the bitmaps. -/
def entryOf (gathering : Gathering) (aid : Nat) : Client × (Group → Bool) :=
  (gathering.world.host.clients aid, fun group => (gathering.bmp group).getLsbD aid)

/-- What the loop makes of it. -/
def visitEntry (host : Host) (aid : Nat) (record : Client × (Group → Bool)) :
    Client × (Group → Bool) :=
  ((turnOf host record.1).1, fun group =>
    record.2 group || (decide ((turnOf host record.1).2 = .join group) && decide (aid < 16)))

theorem visits_entry (host : Host) (indices : List Nat) (distinct : indices.Nodup)
    (gathering : Gathering) (same : gathering.world.host.settings = host.settings) (aid : Nat) :
    entryOf (indices.foldl visit gathering) aid =
      if aid ∈ indices then visitEntry host aid (entryOf gathering aid)
      else entryOf gathering aid := by
  refine loop_entry entryOf visit (visitEntry host)
    (fun gathering => gathering.world.host.settings = host.settings)
    (fun gathering aid same => (visit_settings gathering aid).trans same)
    (fun gathering aid same => ?_) (fun gathering aid other ne => ?_) indices distinct gathering same aid
  · obtain ⟨bootMode, gather⟩ := settings_modes same
    simp only [entryOf, visitEntry, visit_clients, visit_bmp, Function.update_self, turnOf, bootMode,
      gather, Prod.mk.injEq, true_and]
    funext group
    split <;> simp [bit, *]
  · simp only [entryOf, visit_clients, visit_bmp, Function.update_of_ne ne, Prod.mk.injEq, true_and]
    funext group
    split
    · rw [BitVec.getLsbD_or, bit, BitVec.getLsbD_twoPow, decide_eq_false (Ne.symm ne)]
      simp
    · rfl

theorem gatherClients_entry (world : World) (aid : Nat) :
    entryOf (gatherClients world) aid =
      if aid ∈ aids then
        ((turnOf world.host (world.host.clients aid)).1,
          fun group => decide ((turnOf world.host (world.host.clients aid)).2 = .join group))
      else (world.host.clients aid, fun _ => false) := by
  have entry := visits_entry world.host aids nodup_aids { world } rfl aid
  rw [gatherClients, entry]
  by_cases member : aid ∈ aids
  · have range := (mem_aids aid).mp member
    have below : aid < 16 := by
      simp only [maxMultiplayerClients] at range
      omega
    rw [if_pos member, if_pos member]
    simp [visitEntry, entryOf, below]
  · rw [if_neg member, if_neg member]
    simp [entryOf]

theorem gatherClients_clients (world : World) (aid : Nat) (member : aid ∈ aids) :
    (gatherClients world).world.host.clients aid =
      (turnOf world.host (world.host.clients aid)).1 := by
  have entry := gatherClients_entry world aid
  rw [if_pos member, entryOf, Prod.mk.injEq] at entry
  exact entry.1

theorem gatherClients_bmp (world : World) (aid : Nat) (group : Group) :
    ((gatherClients world).bmp group).getLsbD aid = true ↔
      aid ∈ aids ∧ (turnOf world.host (world.host.clients aid)).2 = .join group := by
  have entry := congrFun (congrArg Prod.snd (gatherClients_entry world aid)) group
  simp only [entryOf] at entry
  rw [entry]
  by_cases member : aid ∈ aids
  · rw [if_pos member, decide_eq_true_eq]
    exact ⟨fun joined => ⟨member, joined⟩, And.right⟩
  · rw [if_neg member]
    exact ⟨nofun, fun joined => absurd joined.1 member⟩

/-- A give-up is that of a client whose own turn ended in it. -/
def GivenUp (world : World) : Note → Prop
  | .giveUpOnClient aid reason =>
      aid ∈ aids ∧ (turnOf world.host (world.host.clients aid)).2 = .giveUp reason
  | _ => False

theorem gatherClients_log (world : World) :
    Appends (GivenUp world) world (gatherClients world).world := by
  -- every client is visited once, and finds its record as the pass found it
  have loop : ∀ (indices : List Nat) (gathering : Gathering), indices.Nodup →
      (∀ aid ∈ indices, aid ∈ aids ∧ gathering.world.host.clients aid = world.host.clients aid) →
      gathering.world.host.settings = world.host.settings →
      Appends (GivenUp world) world gathering.world →
      Appends (GivenUp world) world (indices.foldl visit gathering).world := by
    intro indices
    induction indices with
    | nil => exact fun _ _ _ _ log => log
    | cons index rest ih =>
        intro gathering distinct fresh same log
        obtain ⟨outside, unique⟩ := List.nodup_cons.mp distinct
        obtain ⟨member, own⟩ := fresh index List.mem_cons_self
        obtain ⟨bootMode, gather⟩ := settings_modes same
        apply ih _ unique
        · intro aid later
          have ne : aid ≠ index := fun equal => outside (equal ▸ later)
          rw [visit_clients, Function.update_of_ne ne]
          exact fresh aid (List.mem_cons_of_mem _ later)
        · exact (visit_settings gathering index).trans same
        · unfold visit
          dsimp only
          split
          · exact log.trans (.of_log rfl)
          · rename_i reason outcome
            have ended : GivenUp world (.giveUpOnClient index reason) := by
              refine ⟨member, ?_⟩
              rw [turnOf, ← own, ← bootMode, ← gather]
              exact outcome
            exact (log.trans (.of_log rfl)).trans (Appends.note _ ended)
          · exact log.trans (.of_log rfl)
  exact loop aids { world } nodup_aids (fun aid member => ⟨member, rfl⟩) rfl (.refl world)

theorem visits_appends (indices : List Nat) (gathering : Gathering) :
    Appends (fun _ => True) gathering.world (indices.foldl visit gathering).world := by
  have one : ∀ gathering aid, Appends (fun _ => True) gathering.world (visit gathering aid).world := by
    intro gathering aid
    unfold visit
    dsimp only
    split
    · exact .of_log rfl
    · exact (Appends.of_log rfl).trans (Appends.note _ trivial)
    · exact .of_log rfl
  exact loop_invariant (fun next : Gathering => Appends (fun _ => True) gathering.world next.world)
    visit (fun next aid before => before.trans (one next aid)) indices gathering (.refl _)

/-- A client whose turn ends in a give-up is given up on. -/
theorem gatherClients_givesUp (world : World) {aid : Nat} {reason : GaveUpReason} (member : aid ∈ aids)
    (ended : (turnOf world.host (world.host.clients aid)).2 = .giveUp reason) :
    .giveUpOnClient aid reason ∈ (gatherClients world).world.log.drop world.log.length := by
  -- the loop is cut at the client: before it the record is untouched, behind it the log only grows
  obtain ⟨front, back, split⟩ := List.append_of_mem member
  have distinct : (front ++ aid :: back).Nodup := split ▸ nodup_aids
  have outside : aid ∉ front := fun inside =>
    (List.nodup_append.mp distinct).2.2 aid inside aid List.mem_cons_self rfl
  have entry := visits_entry world.host front (List.nodup_append.mp distinct).1 { world } rfl aid
  rw [if_neg outside] at entry
  have settings : (front.foldl visit { world }).world.host.settings = world.host.settings :=
    loop_frame (fun gathering : Gathering => gathering.world.host.settings) visit visit_settings front
      { world }
  have before := visits_appends front { world }
  rw [gatherClients, split, List.foldl_append, List.foldl_cons]
  generalize front.foldl visit { world } = gathering at entry settings before ⊢
  refine (visits_appends back _).earlier (before.later ?_)
  have own : turnOf gathering.world.host (gathering.world.host.clients aid) =
      turnOf world.host (world.host.clients aid) := by
    obtain ⟨bootMode, gather⟩ := settings_modes settings
    rw [turnOf, turnOf, bootMode, gather, show gathering.world.host.clients aid =
      world.host.clients aid from congrArg Prod.fst entry]
  rw [← own, turnOf] at ended
  simp only [visit, ended]
  simp [giveUpOnClient, World.note, World.setClient]

end Dswifi.DlPlay
