import Dswifi.Connecting

/-! How the modes of the ARM7 follow the requests of the application. An update leaves the
mode that is in the way, and the next one does what is requested. -/

namespace Dswifi.Connecting

open Association (Driver FilterMode LibraryMode Mode leave)
open Runs Scanning

/-- The mode is one that the request leads to. -/
def Suits (reqMode curMode : Mode) : Prop :=
  match reqMode with
  | .disabled => curMode = .disabled
  | .scan => curMode = .scan
  | .accessPoint => curMode = .accessPoint
  | .connected => curMode = .connecting ∨ curMode = .connected ∨ curMode = .cannotConnect
  | .normal | .initializing | .connecting | .disconnecting | .cannotConnect => curMode = .normal

theorem suits_scan (reqMode : Mode) : Suits reqMode .scan ↔ reqMode = .scan := by
  cases reqMode <;> simp [Suits]

theorem suits_accessPoint (reqMode : Mode) : Suits reqMode .accessPoint ↔ reqMode = .accessPoint := by
  cases reqMode <;> simp [Suits]

theorem suits_connection (reqMode : Mode) {curMode : Mode}
    (mode : curMode = .connecting ∨ curMode = .connected ∨ curMode = .cannotConnect) :
    Suits reqMode curMode ↔ reqMode = .connected := by
  rcases mode with rfl | rfl | rfl <;> cases reqMode <;> simp [Suits]

/-- What an update does to the modes. -/
structure Follows (before after : Driver) : Prop where
  reqMode : after.reqMode = before.reqMode
  reqLibraryMode : after.reqLibraryMode = before.reqLibraryMode
  disabled : before.curMode = .disabled →
    after.curMode = (if before.reqMode = .disabled then .disabled else .normal)
  normal : before.curMode = .normal → Suits before.reqMode after.curMode ∧ after.curLibraryMode = before.reqLibraryMode
  stays : before.curMode ≠ .normal → before.curMode ≠ .disabled → Suits before.reqMode before.curMode →
    before.curLibraryMode = before.reqLibraryMode →
      Suits before.reqMode after.curMode ∧ after.curLibraryMode = before.curLibraryMode
  leaves : before.curMode ≠ .normal → before.curMode ≠ .disabled →
    ¬(Suits before.reqMode before.curMode ∧ before.curLibraryMode = before.reqLibraryMode) → after.curMode = .normal

/-- The mode is none of the two that Wifi_NTR_Update takes for a crash. -/
def Valid (mode : Mode) : Prop := mode ≠ .initializing ∧ mode ≠ .disconnecting

theorem normal_valid : Valid .normal := ⟨by decide, by decide⟩

theorem disabled_valid : Valid .disabled := ⟨by decide, by decide⟩

/-- A mode that stays while it suits what is requested, and that is left else. -/
theorem follows_settled {driver after : Driver} (mode : driver.curMode ≠ .normal) (on : driver.curMode ≠ .disabled)
    (requests : after.reqMode = driver.reqMode ∧ after.reqLibraryMode = driver.reqLibraryMode ∧
      after.curLibraryMode = driver.curLibraryMode)
    (stays : Suits driver.reqMode driver.curMode → driver.curLibraryMode = driver.reqLibraryMode →
      Suits driver.reqMode after.curMode)
    (leaves : ¬(Suits driver.reqMode driver.curMode ∧ driver.curLibraryMode = driver.reqLibraryMode) →
      after.curMode = .normal) : Follows driver after where
  reqMode := requests.1
  reqLibraryMode := requests.2.1
  disabled off := absurd off on
  normal normal := absurd normal mode
  stays _ _ suits same := ⟨stays suits same, requests.2.2⟩
  leaves _ _ := leaves

/-- One of the three modes of a connection. -/
theorem follows_connection {driver after : Driver} (mode : driver.curMode = .connecting ∨
      driver.curMode = .connected ∨ driver.curMode = .cannotConnect)
    (requests : after.reqMode = driver.reqMode ∧ after.reqLibraryMode = driver.reqLibraryMode ∧
      after.curLibraryMode = driver.curLibraryMode)
    (stays : driver.reqMode = .connected → driver.curLibraryMode = driver.reqLibraryMode →
      after.curMode = .connecting ∨ after.curMode = .connected ∨ after.curMode = .cannotConnect)
    (leaves : driver.curLibraryMode ≠ driver.reqLibraryMode ∨ driver.reqMode ≠ .connected → after.curMode = .normal) :
    Follows driver after := by
  have away : driver.curMode ≠ .normal ∧ driver.curMode ≠ .disabled := by
    rcases mode with mode | mode | mode <;> rw [mode] <;> decide
  -- the three are reached by one request, and left for the same reasons
  apply follows_settled away.1 away.2 requests
  · intro suits same
    have connected := (suits_connection driver.reqMode mode).mp suits
    rw [connected]
    exact stays connected same
  · intro other
    apply leaves
    by_contra both
    rw [not_or, not_not, not_not] at both
    exact other ⟨(suits_connection driver.reqMode mode).mpr both.2, both.1⟩

theorem normalUpdate_follows {system : System} (mode : system.console.driver.curMode = .normal) (now : UInt16) :
    Follows system.console.driver (normalUpdate system now).console.driver := by
  have facts : (normalUpdate system now).console.driver.reqMode = (idle system).console.driver.reqMode ∧
      (normalUpdate system now).console.driver.reqLibraryMode = system.console.driver.reqLibraryMode ∧
      (normalUpdate system now).console.driver.curLibraryMode = system.console.driver.reqLibraryMode ∧
      Suits (idle system).console.driver.reqMode (normalUpdate system now).console.driver.curMode := by
    rw [normalUpdate]
    cases requested : (idle system).console.driver.reqMode with
    | disabled | accessPoint => exact ⟨rfl, rfl, rfl, rfl⟩
    | scan => exact ⟨requested, rfl, rfl, rfl⟩
    | connected =>
        dsimp only [takeUp]
        split
        · split
          · exact ⟨requested, rfl, rfl, .inr (.inr rfl)⟩
          · exact ⟨requested, rfl, rfl, .inl rfl⟩
        · exact ⟨requested, rfl, rfl, .inl rfl⟩
    | normal | initializing | connecting | disconnecting | cannotConnect => exact ⟨requested, rfl, rfl, mode⟩
  exact
    { reqMode := facts.1
      reqLibraryMode := facts.2.1
      disabled := fun off => absurd (mode.symm.trans off) (by decide)
      normal := fun _ => ⟨facts.2.2.2, facts.2.2.1⟩
      stays := fun other => absurd mode other
      leaves := fun other => absurd mode other }

theorem connectingUpdate_follows {driver : Driver} (mode : driver.curMode = .connecting) (now : UInt16) :
    Follows driver (Association.ntrUpdate driver now) := by
  obtain ⟨authlevel, realRates, sent, asked, -⟩ := associationUpdate_eq { driver with counter7 := now.toUInt32 }
  -- the tests in their order: library mode, request, success, failure, timer
  rw [Association.ntrUpdate, asked]
  split
  · next library => exact follows_connection (.inl mode) ⟨rfl, rfl, rfl⟩ (fun _ same => absurd same library) fun _ => rfl
  · next library =>
      split
      · next other =>
          exact follows_connection (.inl mode) ⟨rfl, rfl, rfl⟩ (fun wanted _ => absurd wanted other) fun _ => rfl
      · next wanted =>
          have same : ¬(driver.curLibraryMode ≠ driver.reqLibraryMode ∨ driver.reqMode ≠ .connected) :=
            not_or.mpr ⟨library, wanted⟩
          split
          · exact follows_connection (.inl mode) ⟨rfl, rfl, rfl⟩ (fun _ _ => .inr (.inl rfl)) fun other => absurd other same
          · split
            · exact follows_connection (.inl mode) ⟨rfl, rfl, rfl⟩ (fun _ _ => .inr (.inr rfl))
                fun other => absurd other same
            · split
              · exact follows_connection (.inl mode) ⟨rfl, rfl, rfl⟩ (fun _ _ => .inl mode) fun other => absurd other same
              · exact follows_connection (.inl mode) ⟨rfl, rfl, rfl⟩ (fun _ _ => .inl mode) fun other => absurd other same

theorem connectedUpdate_follows {driver : Driver} (mode : driver.curMode = .connected) :
    Follows driver (Joining.connectedUpdate driver) := by
  rw [Joining.connectedUpdate]
  split
  · next library =>
      exact follows_connection (.inr (.inl mode)) ⟨rfl, rfl, rfl⟩ (fun _ same => absurd same library) fun _ => rfl
  · next library =>
      split
      · next other =>
          exact follows_connection (.inr (.inl mode)) ⟨rfl, rfl, rfl⟩ (fun wanted _ => absurd wanted other) fun _ => rfl
      · next wanted =>
          have same : ¬(driver.curLibraryMode ≠ driver.reqLibraryMode ∨ driver.reqMode ≠ .connected) :=
            not_or.mpr ⟨library, wanted⟩
          split
          · exact follows_connection (.inr (.inl mode)) ⟨rfl, rfl, rfl⟩ (fun _ _ => .inr (.inr rfl))
              fun other => absurd other same
          · exact follows_connection (.inr (.inl mode)) ⟨rfl, rfl, rfl⟩ (fun _ _ => .inr (.inl mode))
              fun other => absurd other same

theorem updateMode_follows {system : System} (valid : Valid system.console.driver.curMode) (now : UInt16) :
    Follows system.console.driver (updateMode system now).console.driver := by
  -- the cases of the switch; its default is a crash
  cases mode : system.console.driver.curMode with
  | disabled =>
      have after : (updateMode system now).console.driver.curMode =
            (if system.console.driver.reqMode = .disabled then .disabled else .normal) ∧
          (updateMode system now).console.driver.reqMode = system.console.driver.reqMode ∧
          (updateMode system now).console.driver.reqLibraryMode = system.console.driver.reqLibraryMode := by
        simp only [updateMode, mode]
        by_cases off : system.console.driver.reqMode = .disabled
        · rw [if_neg (not_not.mpr off), if_pos off]
          exact ⟨mode, rfl, rfl⟩
        · rw [if_pos off, if_neg off]
          exact ⟨rfl, rfl, rfl⟩
      exact
        { reqMode := after.2.1
          reqLibraryMode := after.2.2
          disabled := fun _ => after.1
          normal := fun normal => absurd (mode.symm.trans normal) (by decide)
          stays := fun _ on => absurd mode on
          leaves := fun _ on => absurd mode on }
  | normal =>
      simp only [updateMode, mode]
      exact normalUpdate_follows mode now
  | scan =>
      have notNormal : system.console.driver.curMode ≠ .normal := by simp [mode]
      have on : system.console.driver.curMode ≠ .disabled := by simp [mode]
      have suits : Suits system.console.driver.reqMode system.console.driver.curMode ↔
          system.console.driver.reqMode = .scan := by
        rw [mode]
        exact suits_scan _
      have updated := scanUpdate_driver system.console now
      simp only [updateMode, mode]
      split at updated
      · next other =>
          rw [updated]
          refine follows_settled notNormal on ⟨rfl, rfl, rfl⟩ (fun wanted same => ?_) fun _ => rfl
          exact absurd other (not_or.mpr ⟨not_not.mpr (suits.mp wanted), not_not.mpr same⟩)
      · next stays =>
          rw [not_or, not_not, not_not] at stays
          obtain ⟨counter7, filterMode, same⟩ := updated
          rw [same]
          exact follows_settled notNormal on ⟨rfl, rfl, rfl⟩ (fun wanted _ => wanted)
            fun other => absurd ⟨suits.mpr stays.1, stays.2⟩ other
  | connecting =>
      simp only [updateMode, mode]
      exact connectingUpdate_follows mode now
  | connected =>
      simp only [updateMode, mode]
      exact connectedUpdate_follows mode
  | cannotConnect =>
      simp only [updateMode, mode]
      apply follows_connection (.inr (.inr mode))
      · split <;> exact ⟨rfl, rfl, rfl⟩
      · intro requested same
        rw [if_neg (not_or.mpr ⟨not_not.mpr same, not_not.mpr requested⟩)]
        exact .inr (.inr mode)
      · intro other
        rw [if_pos other]
        rfl
  | accessPoint =>
      have notNormal : system.console.driver.curMode ≠ .normal := by simp [mode]
      have on : system.console.driver.curMode ≠ .disabled := by simp [mode]
      have suits : Suits system.console.driver.reqMode system.console.driver.curMode ↔
          system.console.driver.reqMode = .accessPoint := by
        rw [mode]
        exact suits_accessPoint _
      simp only [updateMode, mode]
      split
      · next other =>
          refine follows_settled notNormal on ⟨rfl, rfl, rfl⟩ (fun wanted same => ?_) fun _ => rfl
          exact absurd other (not_or.mpr ⟨not_not.mpr (suits.mp wanted), not_not.mpr same⟩)
      · next stays =>
          rw [not_or, not_not, not_not] at stays
          exact follows_settled notNormal on ⟨rfl, rfl, rfl⟩ (fun wanted _ => wanted)
            fun other => absurd ⟨suits.mpr stays.1, stays.2⟩ other
  | initializing => exact absurd mode valid.1
  | disconnecting => exact absurd mode valid.2

theorem ntrUpdate_follows {system : System} (valid : Valid system.console.driver.curMode) (now : UInt16) :
    Follows system.console.driver (ntrUpdate system now).console.driver := by
  obtain ⟨curChannel, calls, after⟩ := ntrUpdate_eq system now
  rw [after]
  exact updateMode_follows valid now

theorem suits_valid {reqMode curMode : Mode} (suits : Suits reqMode curMode) : Valid curMode := by
  unfold Suits at suits
  unfold Valid
  split at suits
  case h_4 => rcases suits with rfl | rfl | rfl <;> decide
  all_goals
    rw [suits]
    decide

/-- The ARM7 does what is requested. The library mode of a console that is switched off is
not looked at. -/
def Settled (driver : Driver) : Prop :=
  Suits driver.reqMode driver.curMode ∧ (driver.reqMode ≠ .disabled → driver.curLibraryMode = driver.reqLibraryMode)

theorem suits_disabled (reqMode : Mode) : Suits reqMode .disabled ↔ reqMode = .disabled := by
  cases reqMode <;> simp [Suits]

/-- An update does what is requested, or leaves the mode that is in its way. -/
theorem settled_or_normal {before after : Driver} (follows : Follows before after) :
    Settled after ∨ before.curMode ≠ .normal ∧ ¬Settled before ∧ after.curMode = .normal := by
  -- only WIFIMODE_NORMAL goes to another mode, so the others go there first
  by_cases normal : before.curMode = .normal
  · obtain ⟨suits, library⟩ := follows.normal normal
    exact .inl ⟨follows.reqMode ▸ suits, fun _ => library.trans follows.reqLibraryMode.symm⟩
  · by_cases disabled : before.curMode = .disabled
    · have off := follows.disabled disabled
      by_cases requested : before.reqMode = .disabled
      · rw [if_pos requested] at off
        refine .inl ⟨?_, fun on => absurd (follows.reqMode.trans requested) on⟩
        rw [follows.reqMode, requested]
        exact off
      · rw [if_neg requested] at off
        refine .inr ⟨normal, fun settled => requested ?_, off⟩
        rw [← suits_disabled before.reqMode, ← disabled]
        exact settled.1
    · by_cases suits : Suits before.reqMode before.curMode ∧ before.curLibraryMode = before.reqLibraryMode
      · obtain ⟨still, library⟩ := follows.stays normal disabled suits.1 suits.2
        refine .inl ⟨follows.reqMode ▸ still, fun _ => ?_⟩
        rw [library, suits.2, follows.reqLibraryMode]
      · refine .inr ⟨normal, fun settled => suits ⟨settled.1, settled.2 fun off => disabled ?_⟩,
          follows.leaves normal disabled suits⟩
        have wanted := settled.1
        rw [off] at wanted
        exact wanted

theorem valid_follows {before after : Driver} (follows : Follows before after) : Valid after.curMode := by
  rcases settled_or_normal follows with settled | ⟨_, _, normal⟩
  · exact suits_valid settled.1
  · rw [normal]
    exact normal_valid

/-- The calls of the application do not change the mode. -/
theorem step_curMode {system : System} {action : Action} (call : ∀ now, action ≠ .ntrUpdate now) :
    (step system action).console.driver.curMode = system.console.driver.curMode := by
  have scanned : ∀ other : System, (scanMode other).console.driver.curMode = other.console.driver.curMode := by
    intro other
    rw [scanMode]
    split <;> rfl
  -- curMode is written by the ARM7 alone
  cases action with
  | connectAP apdata wepmode wepkey =>
      rw [step, connectAP, connectSecureAP]
      repeat' split
      all_goals first
        | rfl
        | exact scanned _
  | connectSecureAP apdata key keyLen =>
      rw [step, connectSecureAP]
      repeat' split
      all_goals first
        | rfl
        | exact scanned _
  | connectWfcAP apdata =>
      rw [step, connectWfcAP]
      split
      · rfl
      · exact scanned _
  | disconnectAP => rfl
  | autoConnect =>
      rw [step, autoConnect, internetMode]
      repeat' split
      all_goals first
        | rfl
        | exact scanned _
  | assocStatus usingDhcp ready =>
      rw [step, assocStatus]
      repeat' split
      all_goals first
        | rfl
        | (dsimp only [associated]; split <;> rfl)
  | scanMode => exact scanned system
  | scanModeFilter | idleMode | disableWifi => rfl
  | internetMode =>
      rw [step, internetMode]
      split <;> rfl
  | multiplayerClientMode clientPacketSize =>
      rw [step, multiplayerClientMode]
      split <;> rfl
  | multiplayerHostMode hostPacketSize clientPacketSize =>
      rw [step, multiplayerHostMode]
      repeat' split
      all_goals rfl
  | setPromiscuousMode | setChannel | heard | received =>
      apply Keeps.curMode
      exact step_aside trivial
  | ntrUpdate now => exact absurd rfl (call now)

theorem valid_step {system : System} (valid : Valid system.console.driver.curMode) (action : Action) :
    Valid (step system action).console.driver.curMode := by
  by_cases update : ∃ now, action = .ntrUpdate now
  · obtain ⟨now, rfl⟩ := update
    exact valid_follows (ntrUpdate_follows valid now)
  · rw [step_curMode fun now same => update ⟨now, same⟩]
    exact valid

/-- The application calls nothing. -/
def Action.Quiet (action : Action) : Prop := action.Aside ∨ ∃ now, action = .ntrUpdate now

def Action.isUpdate : Action → Bool
  | .ntrUpdate _ => true
  | _ => false

theorem Keeps.settled {system after : System} (keeps : Keeps system after) (settled : Settled system.console.driver) :
    Settled after.console.driver := by
  rw [Settled, keeps.curMode, keeps.reqMode, keeps.curLibraryMode, keeps.reqLibraryMode]
  exact settled

/-- How far the ARM7 has come, after so many updates. -/
def Follow (updates : Nat) (system : System) : Prop :=
  Valid system.console.driver.curMode ∧
    (1 ≤ updates → system.console.driver.curMode = .normal ∨ Settled system.console.driver) ∧
    (2 ≤ updates → Settled system.console.driver)

theorem follow_step {system : System} {updates : Nat} {action : Action} (follow : Follow updates system)
    (quiet : action.Quiet) : Follow (updates + if action.isUpdate then 1 else 0) (step system action) := by
  obtain ⟨valid, near, done⟩ := follow
  rcases quiet with aside | ⟨now, rfl⟩
  · have none : action.isUpdate = false := by
      cases action <;> first
        | rfl
        | exact aside.elim
    have keeps := @step_aside system action aside
    rw [none, if_neg Bool.false_ne_true, Nat.add_zero]
    refine ⟨valid_step valid action, fun one => (near one).imp (keeps.curMode.trans ·) keeps.settled, fun two => ?_⟩
    exact keeps.settled (done two)
  · have follows := ntrUpdate_follows valid now
    refine ⟨valid_step valid _, fun _ => ?_, fun two => ?_⟩
    · exact (settled_or_normal follows).elim .inr fun left => .inl left.2.2
    · have one : 1 ≤ updates := Nat.le_of_succ_le_succ two
      -- from the mode in between there is only the way to what is requested
      rcases settled_or_normal follows with settled | ⟨notNormal, unsettled, _⟩
      · exact settled
      · exact ((near one).elim notNormal unsettled).elim

theorem follow_run {system : System} {updates : Nat} {actions : List Action} (follow : Follow updates system)
    (quiet : ∀ action ∈ actions, action.Quiet) :
    Follow (updates + actions.countP Action.isUpdate) (run step system actions) := by
  -- by the updates that there have been: one to leave, one to arrive
  induction actions generalizing system updates with
  | nil => exact follow
  | cons action rest ih =>
      have later := ih (follow_step follow (quiet action List.mem_cons_self))
        fun other member => quiet other (List.mem_cons_of_mem _ member)
      rw [List.countP_cons, Nat.add_comm (rest.countP _), ← Nat.add_assoc]
      exact later

/-- Whatever has happened, two updates are enough to follow the requests as they stand, and
the ARM7 stays there until there are others. -/
theorem modes_follow {start : System} (valid : Valid start.console.driver.curMode) (before after : List Action)
    (quiet : ∀ action ∈ after, action.Quiet) (two : 2 ≤ after.countP Action.isUpdate) :
    Valid (run step start before).console.driver.curMode ∧
      Settled (run step start (before ++ after)).console.driver := by
  have reached : Valid (run step start before).console.driver.curMode :=
    @run_invariant _ _ _ (fun system : System => Valid system.console.driver.curMode)
      (fun _ action valid => valid_step valid action) start before valid
  have follow : Follow 0 (run step start before) := ⟨reached, fun one => absurd one (by decide), fun two => absurd two (by decide)⟩
  rw [run_append]
  have came := follow_run follow quiet
  rw [Nat.zero_add] at came
  exact ⟨reached, came.2.2 two⟩

theorem modes_follow_home :
    Valid (run step poweredOn [.multiplayerClientMode 0]).console.driver.curMode ∧
      Settled (run step poweredOn ([.multiplayerClientMode 0] ++ [.ntrUpdate 3, .ntrUpdate 4])).console.driver :=
  @modes_follow poweredOn disabled_valid [.multiplayerClientMode 0] [.ntrUpdate 3, .ntrUpdate 4] (by simp [Action.Quiet])
    (by decide)

end Dswifi.Connecting
