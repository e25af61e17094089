import Mathlib.Data.List.Count
import Dswifi.MpHost

/-! What the table of clients keeps in every reachable state. `TableInv` is kept
by every operation. The host's own bit of the mask is kept by all of them but
the two that remove the bit of an entry's stored association id, which is 0 for
an entry that was never associated. -/

namespace Dswifi.MpHost

open Runs

def connected (info : ClientsInfo) (i : Nat) : Bool := (info.list i).state ≠ .disconnected

def connectedCount (info : ClientsInfo) : Nat :=
  (List.range maxMultiplayerClients).countP (connected info)

structure TableInv (shared : Shared) : Prop where
  limit : shared.curMaxClients ≤ maxMultiplayerClients
  beyond : ∀ i, shared.curMaxClients ≤ i → (shared.clients.list i).state = .disconnected
  ids : ∀ i, (shared.clients.list i).associationId = 0 ∨
    (shared.clients.list i).associationId = i + 1
  aid : ∀ i, (shared.clients.list i).state = .associated →
    (shared.clients.list i).associationId = i + 1
  mask : ∀ i, i < maxMultiplayerClients →
    (shared.clients.aidMask.getLsbD (i + 1) = true ↔ (shared.clients.list i).state = .associated)
  count : shared.clients.numConnected = connectedCount shared.clients
  macs : ∀ i j, (shared.clients.list i).state ≠ .disconnected →
    (shared.clients.list j).state ≠ .disconnected →
    (shared.clients.list i).macaddr = (shared.clients.list j).macaddr → i = j

def HostBit (shared : Shared) : Prop := shared.clients.aidMask.getLsbD 0 = true

/-! Searching. -/

theorem clientGetByMacAddr_some {shared : Shared} {macaddr : Mac} {index : Nat}
    (found : clientGetByMacAddr shared macaddr = some index) :
    index < shared.curMaxClients ∧ (shared.clients.list index).state ≠ .disconnected ∧
      (shared.clients.list index).macaddr = macaddr := by
  have member := List.mem_range.mp (List.mem_of_find?_eq_some found)
  have test := List.find?_some found
  simp only [ne_eq, decide_eq_true_eq] at test
  exact ⟨member, test.1, test.2.symm⟩

theorem clientGetByMacAddr_none {shared : Shared} {macaddr : Mac}
    (absent : clientGetByMacAddr shared macaddr = none) (index : Nat)
    (inside : index < shared.curMaxClients)
    (present : (shared.clients.list index).state ≠ .disconnected) :
    (shared.clients.list index).macaddr ≠ macaddr := by
  have test := List.find?_eq_none.mp absent index (List.mem_range.mpr inside)
  intro same
  exact test (by simp [present, same])

theorem firstDisconnected_some {shared : Shared} {index : Nat}
    (found : firstDisconnected shared = some index) :
    index < shared.curMaxClients ∧ (shared.clients.list index).state = .disconnected := by
  refine ⟨List.mem_range.mp (List.mem_of_find?_eq_some found), ?_⟩
  simpa using List.find?_some found

/-! Bits of a 16-bit mask. -/

theorem clear_bit (mask : BitVec 16) (n i : Nat) (inside : i < 16) :
    (mask &&& ~~~(bit 16 n)).getLsbD i = (mask.getLsbD i && decide (i ≠ n)) := by
  simp [bit, inside, eq_comm]

theorem set_bit (mask : BitVec 16) (n i : Nat) (inside : i < 16) :
    (mask ||| bit 16 n).getLsbD i = (mask.getLsbD i || decide (i = n)) := by
  simp [bit, inside, eq_comm]

theorem bit_zero : (bit 16 0).getLsbD 0 = true := by decide

/-! Counting. -/

theorem count_update (info : ClientsInfo) (index : Nat) (client : ConnectedClient) (n : Nat)
    (inside : index < n) :
    (List.range n).countP (connected (setClient info index client)) +
        (if (info.list index).state = .disconnected then 0 else 1) =
      (List.range n).countP (connected info) +
        (if client.state = .disconnected then 0 else 1) := by
  have outside : ∀ m, m ≤ index →
      (List.range m).countP (connected (setClient info index client)) =
        (List.range m).countP (connected info) := by
    intro m below
    apply List.countP_congr
    intro i member
    have distinct : i ≠ index := by have := List.mem_range.mp member; omega
    simp [connected, setClient, distinct]
  -- up to the entry nothing changes, and from there on the difference is that of the entry
  induction n with
  | zero => omega
  | succ n ih =>
      simp only [List.range_succ, List.countP_append, List.countP_singleton]
      by_cases same : index = n
      · subst n
        rw [outside index (by omega)]
        simp [connected, setClient]
        split <;> split <;> omega
      · have distinct : n ≠ index := fun equal => same equal.symm
        have flag : connected (setClient info index client) n = connected info n := by
          simp [connected, setClient, distinct]
        have before := ih (by omega)
        rw [flag]
        omega

theorem count_le (info : ClientsInfo) (limit n : Nat)
    (beyond : ∀ i, limit ≤ i → (info.list i).state = .disconnected) :
    (List.range n).countP (connected info) ≤ limit := by
  by_cases short : n ≤ limit
  · have bound := List.countP_le_length (p := connected info) (l := List.range n)
    rw [List.length_range] at bound
    omega
  · induction n with
    | zero => omega
    | succ n ih =>
        rw [List.range_succ, List.countP_append, List.countP_singleton]
        have last : connected info n = false := by simp [connected, beyond n (by omega)]
        by_cases edge : n ≤ limit
        · have bound := List.countP_le_length (p := connected info) (l := List.range n)
          rw [List.length_range] at bound
          simp [last]
          omega
        · simpa [last] using ih edge

theorem count_pos (info : ClientsInfo) (index n : Nat) (inside : index < n)
    (present : (info.list index).state ≠ .disconnected) :
    0 < (List.range n).countP (connected info) :=
  List.countP_pos_iff.mpr ⟨index, List.mem_range.mpr inside, by simp [connected, present]⟩

namespace TableInv

theorem count_limit {shared : Shared} (valid : TableInv shared) :
    shared.clients.numConnected ≤ shared.curMaxClients := by
  rw [valid.count]
  exact count_le _ _ _ valid.beyond

theorem inside_of_connected {shared : Shared} (valid : TableInv shared) {i : Nat}
    (present : (shared.clients.list i).state ≠ .disconnected) : i < shared.curMaxClients := by
  by_contra outside
  exact present (valid.beyond i (by omega))

/-- The one way the table changes: entry `index` becomes `client`, and the mask
and the counter follow it. -/
theorem change {shared : Shared} (valid : TableInv shared) (next : Shared) (index : Nat)
    (client : ConnectedClient) (inside : index < shared.curMaxClients)
    (limit : next.curMaxClients = shared.curMaxClients)
    (list : next.clients.list = (setClient shared.clients index client).list)
    (ids : client.associationId = 0 ∨ client.associationId = index + 1)
    (aid : client.state = .associated → client.associationId = index + 1)
    (own : next.clients.aidMask.getLsbD (index + 1) = true ↔ client.state = .associated)
    (others : ∀ i, i < maxMultiplayerClients → i ≠ index →
      next.clients.aidMask.getLsbD (i + 1) = shared.clients.aidMask.getLsbD (i + 1))
    (count : next.clients.numConnected +
        (if (shared.clients.list index).state = .disconnected then 0 else 1) =
      shared.clients.numConnected + (if client.state = .disconnected then 0 else 1))
    (macs : client.state ≠ .disconnected → ∀ j, j ≠ index →
      (shared.clients.list j).state ≠ .disconnected →
      (shared.clients.list j).macaddr ≠ client.macaddr) : TableInv next := by
  have bound := valid.limit
  have at_index : next.clients.list index = client := by simp [list, setClient]
  have at_other : ∀ i, i ≠ index → next.clients.list i = shared.clients.list i := by
    intro i distinct
    simp [list, setClient, distinct]
  -- each part holds of the new entry by assumption and of the others as before
  refine ⟨limit ▸ bound, ?_, ?_, ?_, ?_, ?_, ?_⟩
  · intro i outside
    rw [at_other i (by omega)]
    exact valid.beyond i (by omega)
  · intro i
    by_cases same : i = index
    · rw [same, at_index]; exact ids
    · rw [at_other i same]; exact valid.ids i
  · intro i
    by_cases same : i = index
    · rw [same, at_index]; exact aid
    · rw [at_other i same]; exact valid.aid i
  · intro i below
    by_cases same : i = index
    · rw [same, at_index]; exact own
    · rw [at_other i same, others i below same]; exact valid.mask i below
  · have counted := count_update shared.clients index client maxMultiplayerClients (by omega)
    have flags : connected next.clients = connected (setClient shared.clients index client) := by
      funext i
      rw [connected, list, connected]
    have before := valid.count
    rw [connectedCount] at before ⊢
    rw [flags]
    omega
  · intro i j hi hj equal
    by_cases same_i : i = index <;> by_cases same_j : j = index
    · omega
    · subst same_i
      rw [at_index] at hi equal
      rw [at_other j same_j] at hj equal
      exact absurd equal.symm (macs hi j same_j hj)
    · subst same_j
      rw [at_index] at hj equal
      rw [at_other i same_i] at hi equal
      exact absurd equal (macs hj i same_i hi)
    · rw [at_other i same_i] at hi equal
      rw [at_other j same_j] at hj equal
      exact valid.macs i j hi hj equal

theorem resetClients {shared : Shared} (limit : shared.curMaxClients ≤ maxMultiplayerClients) :
    TableInv (resetClients shared) := by
  refine ⟨limit, ?_, ?_, ?_, ?_, ?_, ?_⟩
  · simp [MpHost.resetClients]
  · simp [MpHost.resetClients]
  · simp [MpHost.resetClients]
  · simp [MpHost.resetClients, bit]
  · exact (List.countP_eq_zero.mpr (by simp [MpHost.resetClients, connected])).symm
  · simp [MpHost.resetClients]

/-- A present entry goes back to authenticated, which counts nobody new. -/
theorem reauthenticate {shared : Shared} (valid : TableInv shared) {index : Nat}
    (inside : index < shared.curMaxClients)
    (present : (shared.clients.list index).state ≠ .disconnected) :
    TableInv (reauthenticate shared index) := by
  have bound := valid.limit
  have mask := valid.mask index (by omega)
  have aid := valid.aid index
  refine valid.change _ index { shared.clients.list index with state := .authenticated } inside
    rfl rfl (valid.ids index) (by simp) ?_ ?_ (by simp [MpHost.reauthenticate, setClient, present]) ?_
  · simp only [MpHost.reauthenticate]
    rw [clear_bit _ _ _ (by unfold maxMultiplayerClients at bound; omega)]
    have own : (shared.clients.aidMask.getLsbD (index + 1) = true) →
        index + 1 = (shared.clients.list index).associationId := fun set => (aid (mask.mp set)).symm
    simpa [setClient] using own
  · intro i below distinct
    simp only [MpHost.reauthenticate]
    rw [clear_bit _ _ _ (by unfold maxMultiplayerClients at below; omega)]
    have stored : i + 1 ≠ (shared.clients.list index).associationId := by
      rcases valid.ids index with zero | own <;> omega
    simp [setClient, stored]
  · intro _ j distinct other same
    exact distinct (valid.macs j index other present same)

theorem addClient {shared : Shared} (valid : TableInv shared) {index : Nat} {macaddr : Mac}
    (inside : index < shared.curMaxClients)
    (free : (shared.clients.list index).state = .disconnected)
    (absent : clientGetByMacAddr shared macaddr = none) :
    TableInv (addClient shared index macaddr) := by
  have bound := valid.limit
  have mask := valid.mask index (by omega)
  have few := valid.count_limit
  refine valid.change _ index
    { shared.clients.list index with state := .authenticated, macaddr := macaddr } inside
    rfl rfl (valid.ids index) (by simp) ?_ (fun _ _ _ => rfl) ?_ ?_
  · simpa [MpHost.addClient, setClient, free] using mask
  · unfold maxMultiplayerClients at bound
    simp [MpHost.addClient, setClient, free]
    omega
  · intro _ j _ other
    exact clientGetByMacAddr_none absent j (valid.inside_of_connected other) other

theorem associate {shared : Shared} (valid : TableInv shared) {index : Nat}
    (inside : index < shared.curMaxClients)
    (authenticated : (shared.clients.list index).state = .authenticated) :
    TableInv (associate shared index) := by
  have bound := valid.limit
  have present : (shared.clients.list index).state ≠ .disconnected := by simp [authenticated]
  refine valid.change _ index
    { shared.clients.list index with associationId := index + 1, state := .associated } inside
    rfl rfl (.inr rfl) (fun _ => rfl) ?_ ?_ (by simp [MpHost.associate, setClient, authenticated]) ?_
  · simp only [MpHost.associate]
    rw [set_bit _ _ _ (by unfold maxMultiplayerClients at bound; omega)]
    simp
  · intro i below distinct
    simp only [MpHost.associate]
    rw [set_bit _ _ _ (by unfold maxMultiplayerClients at below; omega)]
    simp [setClient, distinct]
  · intro _ j distinct other same
    exact distinct (valid.macs j index other present same)

theorem drop {shared : Shared} (valid : TableInv shared) {index aid : Nat}
    (inside : index < shared.curMaxClients)
    (present : (shared.clients.list index).state ≠ .disconnected)
    (stored : aid = index + 1 ∨ aid = (shared.clients.list index).associationId) :
    TableInv (drop shared index aid) := by
  have bound := valid.limit
  have few := valid.count_limit
  have counted : 0 < shared.clients.numConnected :=
    valid.count ▸ count_pos shared.clients index _ (by omega) present
  refine valid.change _ index { shared.clients.list index with state := .disconnected } inside
    rfl rfl (valid.ids index) (by simp) ?_ ?_ ?_ (by simp)
  · simp only [MpHost.drop]
    rw [clear_bit _ _ _ (by unfold maxMultiplayerClients at bound; omega)]
    have own : shared.clients.aidMask.getLsbD (index + 1) = true → index + 1 = aid := by
      intro set
      -- no two entries share a bit, so the bit that is cleared is the own one
      have id := valid.aid index ((valid.mask index (by omega)).mp set)
      omega
    simpa [setClient] using own
  · intro i below distinct
    simp only [MpHost.drop]
    rw [clear_bit _ _ _ (by unfold maxMultiplayerClients at below; omega)]
    have other : i + 1 ≠ aid := by
      rcases valid.ids index with zero | own <;> omega
    simp [setClient, other]
  · unfold maxMultiplayerClients at bound
    simp [MpHost.drop, setClient, present]
    omega

/-- The invariant reads the table and the limit only. -/
theorem of_clients {shared next : Shared} (valid : TableInv shared)
    (clients : next.clients.list = shared.clients.list)
    (mask : next.clients.aidMask = shared.clients.aidMask)
    (count : next.clients.numConnected = shared.clients.numConnected)
    (limit : next.curMaxClients = shared.curMaxClients) : TableInv next := by
  obtain ⟨h1, h2, h3, h4, h5, h6, h7⟩ := valid
  have flags : connected next.clients = connected shared.clients := by
    funext i
    rw [connected, clients, connected]
  refine ⟨?_, ?_, ?_, ?_, ?_, ?_, ?_⟩
  all_goals simp only [clients, mask, count, limit, connectedCount, flags]
  all_goals assumption

theorem clientAuthenticate {shared : Shared} (valid : TableInv shared) (macaddr : Mac) :
    TableInv (clientAuthenticate shared macaddr).1 := by
  unfold MpHost.clientAuthenticate
  split
  · exact valid
  · split
    case _ index found =>
      obtain ⟨inside, present, _⟩ := clientGetByMacAddr_some found
      exact valid.reauthenticate inside present
    case _ absent =>
      split
      case _ index found =>
        obtain ⟨inside, free⟩ := firstDisconnected_some found
        exact valid.addClient inside free absent
      case _ => exact valid

theorem clientAssociate {shared : Shared} (valid : TableInv shared) (macaddr : Mac) :
    TableInv (clientAssociate shared macaddr).1 := by
  unfold MpHost.clientAssociate
  split
  · exact valid
  · split
    case _ => exact valid
    case _ index found =>
      obtain ⟨inside, _, _⟩ := clientGetByMacAddr_some found
      split
      case _ => exact valid
      case _ authenticated => exact valid.associate inside authenticated
      case _ => exact valid

theorem clientDisconnect {shared : Shared} (valid : TableInv shared) (macaddr : Mac) :
    TableInv (clientDisconnect shared macaddr).1 := by
  unfold MpHost.clientDisconnect
  split
  case _ => exact valid
  case _ index found =>
    obtain ⟨inside, present, _⟩ := clientGetByMacAddr_some found
    exact (valid.drop inside present (.inr rfl)).of_clients rfl rfl rfl rfl

theorem kickByAID {shared : Shared} (valid : TableInv shared) (associationId : Nat) :
    TableInv (kickByAID shared associationId) := by
  have noted : TableInv (note shared (.kickByAID associationId)) := valid.of_clients rfl rfl rfl rfl
  unfold MpHost.kickByAID
  dsimp only
  split
  · exact noted
  · split
    · exact noted
    · split
      · exact noted
      · rename_i nonzero inside present
        have deauthenticated : TableInv (note (note shared (.kickByAID associationId))
            (.deauthentication (shared.clients.list (associationId - 1)).macaddr)) :=
          noted.of_clients rfl rfl rfl rfl
        exact (deauthenticated.drop (by simpa using inside) present
          (.inl (by omega))).of_clients rfl rfl rfl rfl

theorem kickIfNotAssociated {shared : Shared} (valid : TableInv shared) (i : Nat) :
    TableInv (kickIfNotAssociated shared i) := by
  unfold MpHost.kickIfNotAssociated
  dsimp only
  split
  case isFalse => exact valid
  case isTrue authenticated =>
    have present : (shared.clients.list i).state ≠ .disconnected := by simp [authenticated]
    have deauthenticated : TableInv
        (note shared (.deauthentication (shared.clients.list i).macaddr)) :=
      valid.of_clients rfl rfl rfl rfl
    exact deauthenticated.drop (valid.inside_of_connected present) present (.inl rfl)

theorem kickNotAssociatedClients {shared : Shared} (valid : TableInv shared) :
    TableInv (kickNotAssociatedClients shared) :=
  TableInv.of_clients
    (loop_invariant TableInv MpHost.kickIfNotAssociated
      (fun _ i before => before.kickIfNotAssociated i) _ _ valid) rfl rfl rfl rfl

theorem ntrUpdate {shared : Shared} (valid : TableInv shared) : TableInv (ntrUpdate shared) := by
  have kicked : TableInv (serveKickRequests shared) := by
    unfold serveKickRequests
    dsimp only
    split
    · apply loop_invariant TableInv
      · intro state aid before
        unfold kickRequested
        split
        · exact before.kickByAID aid
        · exact before
      · exact valid.of_clients rfl rfl rfl rfl
    · exact valid
  unfold MpHost.ntrUpdate serveAllowRequest
  split
  · exact kicked
  · split
    · exact kicked.of_clients rfl rfl rfl rfl
    · exact TableInv.kickNotAssociatedClients (kicked.of_clients rfl rfl rfl rfl)

theorem step {shared : Shared} (valid : TableInv shared) (operation : Operation) :
    TableInv (step shared operation) := by
  cases operation with
  | resetClients => exact TableInv.resetClients valid.limit
  | clientAuthenticate macaddr => exact valid.clientAuthenticate macaddr
  | clientAssociate macaddr => exact valid.clientAssociate macaddr
  | clientDisconnect macaddr => exact valid.clientDisconnect macaddr
  | kickByAID associationId => exact valid.kickByAID associationId
  | kickNotAssociatedClients => exact valid.kickNotAssociatedClients
  | multiplayerKickClientByAID associationId =>
      simp only [MpHost.step, multiplayerKickClientByAID]
      split
      · exact valid
      · exact valid.of_clients rfl rfl rfl rfl
  | multiplayerAllowNewClients allow => exact valid.of_clients rfl rfl rfl rfl
  | ntrUpdate => exact valid.ntrUpdate

theorem accessPointStart (maxClients : Nat) (allow : Bool)
    (limit : maxClients ≤ maxMultiplayerClients) :
    TableInv (accessPointStart maxClients allow) := by
  have cleared : TableInv (MpHost.resetClients (MpHost.accessPointStart maxClients allow)) :=
    TableInv.resetClients limit
  exact cleared.of_clients rfl rfl rfl rfl

end TableInv

/-! The host's own bit. -/

/-- The operations that take out the host's own bit: an entry that never got an
association id authenticates again, or leaves. -/
def ClearsHostBit (shared : Shared) : Operation → Prop
  | .clientAuthenticate macaddr => shared.allowClients = true ∧
      ∃ i, clientGetByMacAddr shared macaddr = some i ∧ (shared.clients.list i).associationId = 0
  | .clientDisconnect macaddr =>
      ∃ i, clientGetByMacAddr shared macaddr = some i ∧ (shared.clients.list i).associationId = 0
  | _ => False

theorem hostBit_reauthenticate (shared : Shared) (index : Nat) :
    HostBit (reauthenticate shared index) ↔
      HostBit shared ∧ (shared.clients.list index).associationId ≠ 0 := by
  rw [HostBit, reauthenticate]
  dsimp only
  rw [clear_bit _ _ _ (by omega), Bool.and_eq_true, decide_eq_true_iff]
  exact and_congr Iff.rfl ne_comm

theorem hostBit_associate (shared : Shared) (index : Nat) :
    HostBit (associate shared index) ↔ HostBit shared := by
  rw [HostBit, associate]
  dsimp only
  rw [set_bit _ _ _ (by omega), decide_eq_false (by omega), Bool.or_false]
  exact Iff.rfl

theorem hostBit_drop (shared : Shared) (index aid : Nat) :
    HostBit (drop shared index aid) ↔ HostBit shared ∧ aid ≠ 0 := by
  rw [HostBit, drop]
  dsimp only
  rw [clear_bit _ _ _ (by omega), Bool.and_eq_true, decide_eq_true_iff]
  exact and_congr Iff.rfl ne_comm

theorem hostBit_kickByAID (shared : Shared) (associationId : Nat) :
    HostBit (kickByAID shared associationId) ↔ HostBit shared := by
  unfold kickByAID
  dsimp only
  split
  · rfl
  · split
    · rfl
    · split
      · rfl
      · rename_i nonzero _ _
        exact (hostBit_drop _ _ _).trans (and_iff_left nonzero)

theorem hostBit_kickIfNotAssociated (shared : Shared) (i : Nat) :
    HostBit (kickIfNotAssociated shared i) ↔ HostBit shared := by
  unfold kickIfNotAssociated
  dsimp only
  split
  · exact (hostBit_drop _ _ _).trans (and_iff_left (by omega))
  · rfl

theorem hostBit_kickNotAssociatedClients (shared : Shared) :
    HostBit (kickNotAssociatedClients shared) ↔ HostBit shared :=
  iff_of_eq (loop_frame HostBit kickIfNotAssociated
    (fun state i => propext (hostBit_kickIfNotAssociated state i)) _ shared)

theorem hostBit_ntrUpdate (shared : Shared) : HostBit (ntrUpdate shared) ↔ HostBit shared := by
  have kicked : HostBit (serveKickRequests shared) ↔ HostBit shared := by
    unfold serveKickRequests
    dsimp only
    split
    · apply iff_of_eq
      apply loop_frame HostBit
      intro state aid
      unfold kickRequested
      split
      · exact propext (hostBit_kickByAID state aid)
      · rfl
    · rfl
  rw [← kicked]
  unfold ntrUpdate serveAllowRequest
  split
  · rfl
  · split
    · rfl
    · exact hostBit_kickNotAssociatedClients _

theorem hostBit_clientAuthenticate (shared : Shared) (macaddr : Mac) (host : HostBit shared) :
    HostBit (clientAuthenticate shared macaddr).1 ↔
      ¬ ClearsHostBit shared (.clientAuthenticate macaddr) := by
  simp only [clientAuthenticate, ClearsHostBit]
  cases allowed : shared.allowClients with
  | false => simpa using host
  | true =>
      cases found : clientGetByMacAddr shared macaddr with
      | some index => simp [hostBit_reauthenticate, host]
      | none =>
          have unchanged : ∀ index, HostBit (addClient shared index macaddr) := fun _ => host
          cases firstDisconnected shared <;> simp [host, unchanged]

theorem hostBit_clientAssociate (shared : Shared) (macaddr : Mac) :
    HostBit (clientAssociate shared macaddr).1 ↔ HostBit shared := by
  unfold clientAssociate
  split
  · rfl
  · split
    · rfl
    · split
      · rfl
      · exact hostBit_associate _ _
      · rfl

theorem hostBit_clientDisconnect (shared : Shared) (macaddr : Mac) (host : HostBit shared) :
    HostBit (clientDisconnect shared macaddr).1 ↔
      ¬ ClearsHostBit shared (.clientDisconnect macaddr) := by
  simp only [clientDisconnect, ClearsHostBit]
  cases found : clientGetByMacAddr shared macaddr with
  | none => simpa using host
  | some index =>
      have dropped : HostBit (setBeaconCurrentPlayers
          (drop shared index (shared.clients.list index).associationId)) ↔ _ :=
        hostBit_drop shared index (shared.clients.list index).associationId
      simpa [host] using dropped

/-- Under the invariants, one step keeps the host's bit exactly when it is none
of the two that clear it. -/
theorem hostBit_step (shared : Shared) (operation : Operation) (host : HostBit shared) :
    HostBit (step shared operation) ↔ ¬ ClearsHostBit shared operation := by
  cases operation with
  | resetClients => exact iff_of_true bit_zero not_false
  | clientAuthenticate macaddr => exact hostBit_clientAuthenticate shared macaddr host
  | clientAssociate macaddr =>
      exact iff_of_true ((hostBit_clientAssociate shared macaddr).mpr host) not_false
  | clientDisconnect macaddr => exact hostBit_clientDisconnect shared macaddr host
  | kickByAID associationId =>
      exact iff_of_true ((hostBit_kickByAID shared associationId).mpr host) not_false
  | kickNotAssociatedClients =>
      exact iff_of_true ((hostBit_kickNotAssociatedClients shared).mpr host) not_false
  | multiplayerKickClientByAID associationId =>
      refine iff_of_true ?_ not_false
      simp only [step, multiplayerKickClientByAID]
      split <;> exact host
  | multiplayerAllowNewClients allow => exact iff_of_true host not_false
  | ntrUpdate => exact iff_of_true ((hostBit_ntrUpdate shared).mpr host) not_false

/-- The table as the calls above promise it. -/
structure ClientsInv (shared : Shared) : Prop where
  host : shared.clients.aidMask.getLsbD 0 = true
  mask : ∀ i, i < maxMultiplayerClients →
    (shared.clients.aidMask.getLsbD (i + 1) = true ↔ (shared.clients.list i).state = .associated)
  aid : ∀ i, i < maxMultiplayerClients → (shared.clients.list i).state = .associated →
    (shared.clients.list i).associationId = i + 1
  count : shared.clients.numConnected = connectedCount shared.clients
  limit : shared.clients.numConnected ≤ shared.curMaxClients
  macs : ∀ i j, i < maxMultiplayerClients → j < maxMultiplayerClients →
    (shared.clients.list i).state ≠ .disconnected →
    (shared.clients.list j).state ≠ .disconnected →
    (shared.clients.list i).macaddr = (shared.clients.list j).macaddr → i = j

theorem clientsInv_iff_hostBit {shared : Shared} (valid : TableInv shared) :
    ClientsInv shared ↔ HostBit shared :=
  ⟨fun promised => promised.host, fun host =>
    { host, mask := valid.mask, aid := fun i _ => valid.aid i, count := valid.count
      limit := valid.count_limit, macs := fun i j _ _ => valid.macs i j }⟩

/-- In every run from the start of the access point the table is as promised
exactly as long as no entry without an association id authenticates again or
leaves. -/
theorem clients_always_iff (maxClients : Nat) (limit : maxClients ≤ maxMultiplayerClients)
    (allow : Bool) (operations : List Operation) :
    Always step ClientsInv (accessPointStart maxClients allow) operations ↔
      EachStep step (fun shared operation => ¬ ClearsHostBit shared operation)
        (accessPointStart maxClients allow) operations := by
  have valid := TableInv.accessPointStart maxClients allow limit
  have host : HostBit (accessPointStart maxClients allow) := bit_zero
  have exact_step : ∀ shared operation, TableInv shared ∧ HostBit shared →
      (ClientsInv (step shared operation) ↔ ¬ ClearsHostBit shared operation) := by
    rintro shared operation ⟨table, before⟩
    rw [clientsInv_iff_hostBit (table.step operation)]
    exact hostBit_step shared operation before
  have kept : ∀ shared operation, TableInv shared ∧ HostBit shared →
      ¬ ClearsHostBit shared operation →
      TableInv (step shared operation) ∧ HostBit (step shared operation) := by
    rintro shared operation ⟨table, before⟩ spared
    exact ⟨table.step operation, (hostBit_step shared operation before).mpr spared⟩
  rw [Always, and_iff_right ((clientsInv_iff_hostBit valid).mpr host)]
  exact each_step_iff_guard kept exact_step _ _ ⟨valid, host⟩

theorem clients_always_authenticate_once : Always step ClientsInv (accessPointStart 15 true)
    [.clientAuthenticate (1, 2, 3), .clientAssociate (1, 2, 3), .clientDisconnect (1, 2, 3)] :=
  (clients_always_iff 15 (by decide) true _).mpr
    (by simp [EachStep, ClearsHostBit]; decide)

/-- A console that authenticates twice before it associates. -/
theorem clients_authenticate_twice : ¬ Always step ClientsInv (accessPointStart 15 true)
    [.clientAuthenticate (1, 2, 3), .clientAuthenticate (1, 2, 3)] := by
  rintro ⟨_, _, promised, _⟩
  exact absurd promised.host (by decide)

end Dswifi.MpHost
