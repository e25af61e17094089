import Dswifi.ModeRequests

/-! What Wifi_AssocStatus tells of a connection when an update has come between the call that
begins to connect and the end of the search. -/

namespace Dswifi.Connecting

open AccessPoints (ApList Entry)
open Association (Driver FilterMode LibraryMode Mode leave)
open Runs Scanning

/-- While the application searches, nothing asks the ARM7 to connect, and after an update it
is in no connection. -/
structure Seeks (updates : Nat) (system : System) : Prop where
  valid : Valid system.console.driver.curMode
  reqMode : Searches system.connectState → system.console.driver.reqMode ≠ .connected
  away : Searches system.connectState → 1 ≤ updates → Away system.console.driver.curMode

theorem updateMode_connectState (system : System) (now : UInt16) :
    (updateMode system now).connectState = system.connectState := by
  cases mode : system.console.driver.curMode with
  | normal =>
      simp only [updateMode, mode]
      rw [normalUpdate]
      cases requested : (idle system).console.driver.reqMode with
      | connected =>
          dsimp only [takeUp]
          split
          · split <;> rfl
          · rfl
      | _ => rfl
  | disabled | cannotConnect | accessPoint =>
      simp only [updateMode, mode]
      split <;> rfl
  | scan | initializing | disconnecting => simp only [updateMode, mode]
  | connecting | connected =>
      simp only [updateMode, mode]
      rfl

/-- A call that asks for another mode. -/
theorem Seeks.other {updates : Nat} {system after : System} (seeks : Seeks updates system)
    (state : after.connectState = system.connectState)
    (mode : after.console.driver.curMode = system.console.driver.curMode)
    (reqMode : after.console.driver.reqMode ≠ .connected ∨
      after.console.driver.reqMode = system.console.driver.reqMode) : Seeks updates after := by
  have same : Searches after.connectState → Searches system.connectState := by
    rw [state]
    exact id
  refine ⟨mode ▸ seeks.valid, fun searching => ?_, fun searching updated => mode ▸ seeks.away (same searching) updated⟩
  exact reqMode.elim id fun kept => kept ▸ seeks.reqMode (same searching)

theorem findMatchingAP_matching {apdata ap : Entry} {aplist : ApList} {j : Nat}
    (found : findMatchingAP [apdata] aplist = some (j, ap)) : matching apdata ap = true := by
  obtain ⟨i, _, here⟩ := List.exists_of_findSome?_eq_some found
  obtain ⟨listed, _, known⟩ := Option.bind_eq_some_iff.mp here
  obtain ⟨place, first, same⟩ := Option.bind_eq_some_iff.mp known
  obtain ⟨rfl, rfl⟩ := Prod.mk.inj (Option.some.inj same)
  obtain ⟨inside, holds, _⟩ := List.findIdx?_eq_some_iff_getElem.mp first
  have only : place = 0 := Nat.lt_one_iff.mp inside
  subst only
  exact holds

theorem associating_own : ConnectState.associating ≠ .searchingWfc := by decide

theorem dhcping_own : ConnectState.dhcping ≠ .searchingWfc := by decide

theorem done_own : ConnectState.done ≠ .searchingWfc := by decide

theorem error_own : ConnectState.error ≠ .searchingWfc := by decide

/-- What the call has asked for is what the search looks for, and what it has found. -/
structure Asked (apdata : Entry) (security : List UInt8) (system : System) : Prop where
  connectPoint : system.connectPoint = apdata
  curApSecurity : system.curApSecurity = security
  reqLoadWfcKey : system.reqLoadWfcKey = false
  searchingWfc : system.connectState ≠ .searchingWfc
  curAp : system.connectState = .searching ∨ matching apdata system.console.curAp = true

theorem takeUp_own {system : System} (own : system.reqLoadWfcKey = false) (now : UInt16) :
    (takeUp system now).connectPoint = system.connectPoint ∧
      (takeUp system now).curApSecurity = system.curApSecurity ∧ (takeUp system now).reqLoadWfcKey = false ∧
      (takeUp system now).console.curAp = system.console.curAp := by
  obtain ⟨_, _, tuned⟩ :=
    setChannel_eq { system.console with reqChannel := system.console.curAp.channel } system.console.curAp.channel
  rw [takeUp, if_neg (by simp [own]), startConnecting]
  dsimp only
  rw [tuned]
  exact ⟨rfl, rfl, own, rfl⟩

/-- An update leaves alone what was asked for, unless the password comes from the settings. -/
theorem updateMode_own {system : System} (own : system.reqLoadWfcKey = false) (now : UInt16) :
    (updateMode system now).connectPoint = system.connectPoint ∧
      (updateMode system now).curApSecurity = system.curApSecurity ∧
      (updateMode system now).reqLoadWfcKey = false ∧
      (updateMode system now).console.curAp = system.console.curAp := by
  cases mode : system.console.driver.curMode with
  | normal =>
      simp only [updateMode, mode]
      rw [normalUpdate]
      cases requested : (idle system).console.driver.reqMode with
      | connected => exact @takeUp_own (idle system) own now
      | _ => exact ⟨rfl, rfl, own, rfl⟩
  | disabled | cannotConnect | accessPoint =>
      simp only [updateMode, mode]
      split <;> exact ⟨rfl, rfl, own, rfl⟩
  | scan =>
      simp only [updateMode, mode]
      exact ⟨trivial, trivial, own, scanUpdate_curAp system.console now⟩
  | initializing | disconnecting =>
      simp only [updateMode, mode]
      exact ⟨trivial, trivial, own, trivial⟩
  | connecting | connected =>
      simp only [updateMode, mode]
      exact ⟨rfl, rfl, own, rfl⟩

theorem asked_step {apdata : Entry} {security : List UInt8} {system : System} {action : Action}
    (asked : Asked apdata security system) (goesOn : ¬action.Begins) : Asked apdata security (step system action) := by
  obtain ⟨connectPoint, curApSecurity, reqLoadWfcKey, searchingWfc, curAp⟩ := asked
  cases action with
  | connectAP | connectSecureAP | connectWfcAP | disconnectAP | autoConnect => exact absurd trivial goesOn
  | ntrUpdate now =>
      have keeps := ntrUpdate_keeps system now
      obtain ⟨point, security, own, ap⟩ := updateMode_own reqLoadWfcKey now
      have state := updateMode_connectState system now
      rw [step]
      refine ⟨?_, ?_, keeps.reqLoadWfcKey.trans own, ?_, ?_⟩
      · rw [keeps.connectPoint, point, connectPoint]
      · rw [keeps.curApSecurity, security, curApSecurity]
      · rw [keeps.connectState, state]
        exact searchingWfc
      · rw [keeps.connectState, state, keeps.curAp, ap]
        exact curAp
  | setPromiscuousMode | heard => exact ⟨connectPoint, curApSecurity, reqLoadWfcKey, searchingWfc, curAp⟩
  | setChannel channel =>
      rw [step, Scanning.step]
      split <;> exact ⟨connectPoint, curApSecurity, reqLoadWfcKey, searchingWfc, curAp⟩
  | received frame stack =>
      rw [step, received]
      split <;> exact ⟨connectPoint, curApSecurity, reqLoadWfcKey, searchingWfc, curAp⟩
  | scanModeFilter | idleMode | disableWifi =>
      exact ⟨connectPoint, curApSecurity, reqLoadWfcKey, searchingWfc, curAp⟩
  | scanMode =>
      rw [step, scanMode]
      split <;> exact ⟨connectPoint, curApSecurity, reqLoadWfcKey, searchingWfc, curAp⟩
  | internetMode =>
      rw [step, internetMode]
      split <;> exact ⟨connectPoint, curApSecurity, reqLoadWfcKey, searchingWfc, curAp⟩
  | multiplayerClientMode clientPacketSize =>
      rw [step, multiplayerClientMode]
      split <;> exact ⟨connectPoint, curApSecurity, reqLoadWfcKey, searchingWfc, curAp⟩
  | multiplayerHostMode hostPacketSize clientPacketSize =>
      rw [step, multiplayerHostMode]
      split
      · exact ⟨connectPoint, curApSecurity, reqLoadWfcKey, searchingWfc, curAp⟩
      · split <;> exact ⟨connectPoint, curApSecurity, reqLoadWfcKey, searchingWfc, curAp⟩
  | assocStatus usingDhcp ready =>
      rw [step]
      -- only a search that ends writes curAp, and with a match
      cases state : system.connectState with
      | searching =>
          simp only [assocStatus, state]
          split
          · next found =>
              rw [connectPoint] at found
              exact ⟨connectPoint, curApSecurity, reqLoadWfcKey, associating_own, .inr (findMatchingAP_matching found)⟩
          · exact ⟨connectPoint, curApSecurity, reqLoadWfcKey, searchingWfc, curAp⟩
      | searchingWfc => exact absurd state searchingWfc
      | associating =>
          have matched : matching apdata system.console.curAp = true :=
            curAp.resolve_left (by rw [state]; decide)
          simp only [assocStatus, state]
          cases mode : system.console.driver.curMode with
          | connected =>
              dsimp only [associated]
              split
              · exact ⟨connectPoint, curApSecurity, reqLoadWfcKey, dhcping_own, .inr matched⟩
              · exact ⟨connectPoint, curApSecurity, reqLoadWfcKey, done_own, .inr matched⟩
          | cannotConnect => exact ⟨connectPoint, curApSecurity, reqLoadWfcKey, error_own, .inr matched⟩
          | _ => exact ⟨connectPoint, curApSecurity, reqLoadWfcKey, searchingWfc, curAp⟩
      | dhcping =>
          have matched : matching apdata system.console.curAp = true :=
            curAp.resolve_left (by rw [state]; decide)
          simp only [assocStatus, state]
          split
          · split
            · exact ⟨connectPoint, curApSecurity, reqLoadWfcKey, done_own, .inr matched⟩
            · exact ⟨connectPoint, curApSecurity, reqLoadWfcKey, searchingWfc, curAp⟩
          · exact ⟨connectPoint, curApSecurity, reqLoadWfcKey, error_own, .inr matched⟩
      | error | done =>
          simp only [assocStatus, state]
          exact ⟨connectPoint, curApSecurity, reqLoadWfcKey, searchingWfc, curAp⟩

/-- The arguments that Wifi_ConnectSecureAP accepts. -/
def Accepted (apdata : Entry) (key : Option (List UInt8)) (keyLen : Nat) : Prop :=
  apdata.ssidLen ≤ 32 ∧ (key = none → keyLen = 0) ∧ keyLen ≤ passSize

/-- What is said to be a connection is one with an access point that was asked for: the
hardware was told of it, and of the password that was given if it is a key of WEP. -/
def About (apdata : Entry) (security : List UInt8) (system : System) : Action → Prop
  | .assocStatus usingDhcp ready =>
      (assocStatus system usingDhcp ready).2 = .associated ∨ (assocStatus system usingDhcp ready).2 = .acquiringDhcp →
        ∃ ap, matching apdata ap = true ∧ system.latched = ⟨ap.bssid, keyOf security⟩
  | _ => True

end Dswifi.Connecting
