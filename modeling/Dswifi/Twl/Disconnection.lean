import Dswifi.Runs
import Dswifi.Twl.KeyState

/-! The modes of a DSi that connects to an access point (arm7/twl/update.twl.c) and
what the chip tells of the connection (arm7/twl/ath/wmi.twl.c). An access point with
WPA2 does not count as connected before its handshake is done, and the mode that waits
for the end of a connection asks for no more than that. -/

namespace Dswifi.Twl

open Runs

/-- WIFIMODE_ -/
inductive WifiMode where
  | disabled | initializing | normal | scan | connecting | connected | disconnecting | cannotConnect
  | accessPoint
  deriving DecidableEq, Repr

/-- `cardInitted` is what wifi_card_initted returns. Of the commands for the chip only those
of a handshake are kept, in the device. -/
structure Driver where
  active : Bool
  curMode : WifiMode
  reqMode : WifiMode
  loadWfcKey : Bool
  cardInitted : Bool
  apConnected : Bool
  apConnecting : Bool
  device : Device

/-- What the ARM9 knows of an access point, and the key or the PMK for it. -/
structure Selected where
  securityType : ApSecurity
  groupCryptType : ApCrypt
  passLen : UInt8
  pmk : List UInt8

/-- The settings of the access point that Wifi_GetWfcAccessPointIndex finds, and the PMK
of wpa_calc_pmk. -/
structure Settings where
  wfc : Option (UInt8 × List UInt8)
  calculated : List UInt8

namespace Driver

def wmiHandshakeDone (driver : Driver) : Bool := driver.device.hasSentHs4

def wmiIsApConnected (driver : Driver) : Bool :=
  if driver.device.securityType = .wpa2 then driver.apConnected && driver.wmiHandshakeDone
  else driver.apConnected

def wmiIsApConnecting (driver : Driver) : Bool :=
  if driver.device.securityType = .wpa2 then
    if driver.apConnecting then true else driver.apConnected && !driver.wmiHandshakeDone
  else driver.apConnecting

def wmiInit (driver : Driver) : Driver :=
  { driver with cardInitted := false, apConnected := false, apConnecting := false }

/-- wmi_connect, up to the commands for the chip. -/
def wmiConnect (calculated : List UInt8) (driver : Driver) : Driver :=
  if driver.apConnecting then driver
  else
    let driver := { driver with apConnecting := true }
    if driver.device.securityType = .wpa2 then
      let hasPmk := driver.device.pmk.any (· ≠ 0)
      { driver with device := { driver.device with
          pmk := if hasPmk then driver.device.pmk else calculated
          hasSentHs2 := false
          hasSentHs4 := false } }
    else driver

def wmiDisconnectCmd (driver : Driver) : Driver := { driver with apConnecting := false }

/-- WMI_CONNECT_EVENT. Without WPA2 the two pointers of wmi_post_handshake are not followed. -/
def connectEvent (driver : Driver) : Driver :=
  let driver := { driver with apConnected := true, apConnecting := false }
  if driver.device.securityType = .opened ∨ driver.device.securityType = .wep then
    { driver with device := wmiPostHandshake driver.device [] [] [] }
  else driver

/-- WMI_DISCONNECT_EVENT -/
def disconnectEvent (driver : Driver) : Driver := { driver with apConnected := false, apConnecting := false }

/-- WMI_TARGET_ERROR_REPORT_EVENT -/
def errorReport (errId : UInt32) (driver : Driver) : Driver :=
  if errId = 8 then driver.wmiDisconnectCmd else driver

/-- Wifi_TWL_Update -/
def wifiTwlUpdate (settings : Settings) (driver : Driver) : Driver :=
  if driver.active = false then driver
  else
    match driver.curMode with
    | .disabled =>
        if driver.reqMode ≠ .disabled then { driver.wmiInit with curMode := .initializing } else driver
    | .initializing => if driver.cardInitted then { driver with curMode := .normal } else driver
    | .normal =>
        if driver.reqMode = .disabled then { driver with cardInitted := false, curMode := .disabled }
        else if driver.reqMode = .scan then { driver with curMode := .scan }
        else if driver.reqMode = .connected then
          if driver.loadWfcKey then
            match settings.wfc with
            | none => { driver with curMode := .cannotConnect }
            | some (passLen, pmk) =>
                let driver := { driver with device := { driver.device with passLen, pmk } }
                { driver.wmiConnect settings.calculated with curMode := .connecting }
          else { driver.wmiConnect settings.calculated with curMode := .connecting }
        else driver
    | .scan => if driver.reqMode ≠ .scan then { driver with curMode := .normal } else driver
    | .connecting =>
        if driver.wmiIsApConnected then { driver with curMode := .connected }
        else if !driver.wmiIsApConnecting then { driver.wmiDisconnectCmd with curMode := .cannotConnect }
        else if driver.reqMode ≠ .connected then { driver.wmiDisconnectCmd with curMode := .disconnecting }
        else driver
    | .connected =>
        if driver.reqMode = .connected then
          if !driver.wmiIsApConnected then { driver.wmiDisconnectCmd with curMode := .cannotConnect }
          else driver
        else { driver.wmiDisconnectCmd with curMode := .disconnecting }
    | .disconnecting => if !driver.wmiIsApConnected then { driver with curMode := .normal } else driver
    | .cannotConnect => if driver.reqMode ≠ .connected then { driver with curMode := .normal } else driver
    -- libndsCrash
    | .accessPoint => driver

end Driver

/-- What the ARM9, the chip and the access point may do, and the updates in between. -/
inductive Action where
  | request (mode : WifiMode)
  | select (selected : Selected) (loadWfcKey : Bool)
  | cardReady
  | connectEvent
  | disconnectEvent
  | errorReport (errId : UInt32)
  | message (message : Message)
  | update (settings : Settings)

def Driver.step (crypto : Crypto) (driver : Driver) : Action → Driver
  | .request mode => { driver with reqMode := mode }
  | .select selected loadWfcKey =>
      { driver with
        loadWfcKey
        device := { driver.device with
          securityType := selected.securityType
          groupCryptType := selected.groupCryptType
          passLen := selected.passLen
          pmk := selected.pmk } }
  | .cardReady => { driver with cardInitted := true }
  | .connectEvent => driver.connectEvent
  | .disconnectEvent => driver.disconnectEvent
  | .errorReport errId => driver.errorReport errId
  | .message message => { driver with device := received crypto driver.device message }
  | .update settings => driver.wifiTwlUpdate settings

/-- A driver that has not been started yet. -/
def Driver.off (driver : Driver) : Driver := { driver with curMode := .disabled }

/-- The end of DISCONNECTING is the end of the connection. -/
def Complete (crypto : Crypto) (driver : Driver) (action : Action) : Prop :=
  driver.curMode = .disconnecting → (driver.step crypto action).curMode = .normal → driver.apConnected = false

instance (crypto : Crypto) (driver : Driver) (action : Action) : Decidable (Complete crypto driver action) :=
  inferInstanceAs (Decidable (_ → _ → _))

/-- An update that waits for the end of the connection does not come in the middle of a handshake. -/
def Settled (driver : Driver) : Action → Prop
  | .update _ => driver.active = true → driver.curMode = .disconnecting → driver.wmiIsApConnecting = false
  | _ => True

/-- Nobody connects while the mode is DISCONNECTING. -/
def NotConnecting (driver : Driver) : Prop := driver.curMode = .disconnecting → driver.apConnecting = false

variable {crypto : Crypto} {driver : Driver}

namespace Driver

theorem notConnecting_of_mode (other : driver.curMode ≠ .disconnecting) : NotConnecting driver :=
  fun mode => absurd mode other

theorem wmiConnect_securityType (calculated : List UInt8) (driver : Driver) :
    (driver.wmiConnect calculated).device.securityType = driver.device.securityType := by
  rw [wmiConnect]
  split
  · rfl
  · dsimp only
    split <;> rfl

/-- An update changes nothing, or it leaves a driver that does not connect in the mode
DISCONNECTING. The security of the access point is that of the ARM9. -/
theorem wifiTwlUpdate_cases (settings : Settings) (driver : Driver) :
    driver.wifiTwlUpdate settings = driver ∨
      NotConnecting (driver.wifiTwlUpdate settings) ∧
        (driver.wifiTwlUpdate settings).device.securityType = driver.device.securityType := by
  rw [wifiTwlUpdate]
  split
  · exact .inl rfl
  · cases driver.curMode with
    | disabled | initializing | scan | disconnecting | cannotConnect =>
        dsimp only
        split
        · exact .inr ⟨notConnecting_of_mode WifiMode.noConfusion, rfl⟩
        · exact .inl rfl
    | normal =>
        dsimp only
        split
        · exact .inr ⟨notConnecting_of_mode WifiMode.noConfusion, rfl⟩
        · split
          · exact .inr ⟨notConnecting_of_mode WifiMode.noConfusion, rfl⟩
          · split
            · split
              · split
                · exact .inr ⟨notConnecting_of_mode WifiMode.noConfusion, rfl⟩
                · exact .inr ⟨notConnecting_of_mode WifiMode.noConfusion, wmiConnect_securityType _ _⟩
              · exact .inr ⟨notConnecting_of_mode WifiMode.noConfusion, wmiConnect_securityType _ _⟩
            · exact .inl rfl
    | connecting =>
        dsimp only
        split
        · exact .inr ⟨notConnecting_of_mode WifiMode.noConfusion, rfl⟩
        · split
          · exact .inr ⟨notConnecting_of_mode WifiMode.noConfusion, rfl⟩
          · split
            · exact .inr ⟨fun _ => rfl, rfl⟩
            · exact .inl rfl
    | connected =>
        dsimp only
        split
        · split
          · exact .inr ⟨notConnecting_of_mode WifiMode.noConfusion, rfl⟩
          · exact .inl rfl
        · exact .inr ⟨fun _ => rfl, rfl⟩
    | accessPoint => exact .inl rfl

theorem wifiTwlUpdate_notConnecting (settings : Settings) (now : NotConnecting driver) :
    NotConnecting (driver.wifiTwlUpdate settings) := by
  rcases wifiTwlUpdate_cases settings driver with same | ⟨after, -⟩
  · rw [same]
    exact now
  · exact after

theorem step_notConnecting (action : Action) (now : NotConnecting driver) :
    NotConnecting (driver.step crypto action) := by
  cases action with
  | connectEvent =>
      intro _
      rw [step, connectEvent]
      dsimp only
      split <;> rfl
  | disconnectEvent => exact fun _ => rfl
  | errorReport errId =>
      rw [step, errorReport]
      split
      · exact fun _ => rfl
      · exact now
  | update settings => exact wifiTwlUpdate_notConnecting settings now
  | request | select | cardReady | message => exact now

/-- Only an update changes the mode. -/
theorem step_curMode {action : Action} (events : ∀ settings, action ≠ .update settings) :
    (driver.step crypto action).curMode = driver.curMode := by
  cases action with
  | connectEvent =>
      rw [step, connectEvent]
      dsimp only
      split <;> rfl
  | errorReport errId =>
      rw [step, errorReport]
      split <;> rfl
  | update settings => exact absurd rfl (events settings)
  | request | select | cardReady | disconnectEvent | message => rfl

/-- DISCONNECTING is left for NORMAL when the access point does not count as connected. -/
theorem wifiTwlUpdate_disconnecting (settings : Settings) (mode : driver.curMode = .disconnecting) :
    (driver.wifiTwlUpdate settings).curMode = .normal ↔ driver.active = true ∧ driver.wmiIsApConnected = false := by
  rw [wifiTwlUpdate]
  by_cases off : driver.active = false
  · simp [off, mode]
  · rw [if_neg off, mode]
    cases connected : driver.wmiIsApConnected <;> simp [mode, Bool.eq_true_of_not_eq_false off]

/-- An access point that does not count as connected is not, or its handshake is not done. -/
theorem apConnected_iff (idle : driver.apConnecting = false) :
    (driver.wmiIsApConnected = false → driver.apConnected = false) ↔ driver.wmiIsApConnecting = false := by
  rw [wmiIsApConnected, wmiIsApConnecting, idle]
  by_cases wpa2 : driver.device.securityType = .wpa2
  · cases driver.apConnected <;> cases driver.wmiHandshakeDone <;> simp [wpa2]
  · simp [wpa2]

end Driver

theorem complete_iff_settled (action : Action) (now : NotConnecting driver) :
    Complete crypto driver action ↔ Settled driver action := by
  cases action with
  | update settings =>
      rw [Complete, Settled]
      constructor
      · intro complete active mode
        refine (Driver.apConnected_iff (now mode)).mp fun left => ?_
        exact complete mode ((Driver.wifiTwlUpdate_disconnecting settings mode).mpr ⟨active, left⟩)
      · intro settled mode left
        obtain ⟨active, notConnected⟩ := (Driver.wifiTwlUpdate_disconnecting settings mode).mp left
        exact (Driver.apConnected_iff (now mode)).mpr (settled active mode) notConnected
  | request | select | cardReady | connectEvent | disconnectEvent | errorReport | message =>
      refine iff_of_true (fun mode left => ?_) trivial
      rw [Driver.step_curMode (fun _ same => Action.noConfusion same), mode] at left
      exact WifiMode.noConfusion left

/-- In a run from the start DISCONNECTING always ends with the connection exactly when no
update waits for that in the middle of a handshake. -/
theorem disconnection_complete_iff (crypto : Crypto) (driver : Driver) (actions : List Action) :
    EachStep (Driver.step crypto) (Complete crypto) driver.off actions ↔
      EachStep (Driver.step crypto) Settled driver.off actions :=
  each_step_iff_guard (fun _ action now _ => Driver.step_notConnecting action now)
    (fun _ action now => complete_iff_settled action now) driver.off actions
    (Driver.notConnecting_of_mode WifiMode.noConfusion)

/-! Access points without WPA2 have no handshake. -/

theorem dataSendWpaHandshake2_securityType (crypto : Crypto) (device : Device)
    (dstBssid srcBssid replay nonce : List UInt8) :
    (dataSendWpaHandshake2 crypto device dstBssid srcBssid replay nonce).securityType = device.securityType :=
  rfl

theorem received_securityType (crypto : Crypto) (device : Device) (message : Message) :
    (received crypto device message).securityType = device.securityType := by
  by_cases hasKeys : message.HasKeys
  · obtain ⟨answered, same, -, -, -, kept, -⟩ := @received_hasKeys crypto device message hasKeys
    obtain ⟨sent, loaded⟩ := @loadKeys_eq crypto answered message.stack message.keyData message.rsc _ rfl
    rw [same, loaded, ← kept]
  · obtain ⟨notLast, notRenewal⟩ := not_or.mp hasKeys
    unfold Message.keyInfo at notLast notRenewal
    rw [received, dataHandleAuth, Reading.value_bind, Reading.value_bind, Reading.value_bind]
    by_cases first : (getBe16 keyInfoPos).value message.packet = 0x008A
    · rw [if_pos first, Reading.value_bind, Reading.value_pure]
      exact dataSendWpaHandshake2_securityType ..
    · rw [if_neg first, if_neg notLast, if_neg notRenewal, Reading.value_pure]

def SelectsNoWpa2 : Action → Prop
  | .select selected _ => selected.securityType ≠ .wpa2
  | _ => True

theorem wifiTwlUpdate_securityType (settings : Settings) (driver : Driver) :
    (driver.wifiTwlUpdate settings).device.securityType = driver.device.securityType := by
  rcases Driver.wifiTwlUpdate_cases settings driver with same | ⟨-, same⟩
  · rw [same]
  · exact same

theorem step_securityType {action : Action} (noWpa2 : SelectsNoWpa2 action)
    (now : driver.device.securityType ≠ .wpa2) : (driver.step crypto action).device.securityType ≠ .wpa2 := by
  cases action with
  | select selected _ => exact noWpa2
  | connectEvent =>
      rw [Driver.step, Driver.connectEvent]
      dsimp only
      split
      · obtain ⟨sent, same⟩ := @wmiPostHandshake_eq driver.device [] [] []
        rw [same]
        exact now
      · exact now
  | errorReport errId =>
      rw [Driver.step, Driver.errorReport]
      split <;> exact now
  | message message =>
      rw [Driver.step, received_securityType]
      exact now
  | update settings =>
      rw [Driver.step, wifiTwlUpdate_securityType]
      exact now
  | request | cardReady | disconnectEvent => exact now

theorem disconnection_complete_without_wpa2 (crypto : Crypto) (driver : Driver)
    (first : driver.device.securityType ≠ .wpa2) (actions : List Action)
    (selects : ∀ action ∈ actions, SelectsNoWpa2 action) :
    EachStep (Driver.step crypto) (Complete crypto) driver.off actions := by
  refine @each_step_of_guard _ _ (Driver.step crypto)
    (fun driver => NotConnecting driver ∧ driver.device.securityType ≠ .wpa2)
    (fun _ action => SelectsNoWpa2 action) (Complete crypto) ?_ ?_ driver.off actions
    ⟨Driver.notConnecting_of_mode WifiMode.noConfusion, first⟩
    (each_step_of_actions actions (fun action member _ => selects action member) _)
  · rintro driver action ⟨now, other⟩ noWpa2
    exact ⟨Driver.step_notConnecting action now, step_securityType noWpa2 other⟩
  · rintro driver action ⟨now, other⟩ -
    refine (complete_iff_settled action now).mpr ?_
    cases action with
    | update settings =>
        intro _ mode
        rw [Driver.wmiIsApConnecting, if_neg other, now mode]
    | request | select | cardReady | connectEvent | disconnectEvent | errorReport | message => trivial

/-! A stop in the middle of a handshake. -/

def interrupted : List Action :=
  [.select { securityType := .wpa2, groupCryptType := .aes, passLen := 8, pmk := List.replicate 32 7 } false,
    .request .connected, .update ⟨none, []⟩, .cardReady, .update ⟨none, []⟩, .update ⟨none, []⟩,
    .connectEvent, .request .normal, .update ⟨none, []⟩, .update ⟨none, []⟩]

theorem interrupted_handshake_incomplete : ¬∀ (crypto : Crypto) (driver : Driver) (actions : List Action),
    EachStep (Driver.step crypto) (Complete crypto) driver.off actions := by
  intro all
  have run := all tooShort
    { active := true
      curMode := .disabled
      reqMode := .disabled
      loadWfcKey := false
      cardInitted := false
      apConnected := false
      apConnecting := false
      device := halfway }
    interrupted
  exact absurd run (by decide +kernel)

end Dswifi.Twl
