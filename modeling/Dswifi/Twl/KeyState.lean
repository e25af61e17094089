import Dswifi.Twl.Handshake

/-! What a message with keys in it does to the keys. Neither its MIC nor the result
of the key unwrap is looked at, so that a forged or corrupted message counts as the
end of the handshake, and all zeros are a group key like any other. -/

namespace Dswifi.Twl

open ByteMemory Reading

variable (crypto : Crypto) (device : Device) (message : Message)

/-! What a message says. -/

def Message.keyInfo : UInt16 := (getBe16 keyInfoPos).value message.packet

def Message.replay : List UInt8 := readBytes message.packet replayPos 8

def Message.mic : List UInt8 := readBytes message.packet micPos 16

def Message.rsc : List UInt8 := readBytes message.packet rscPos 8

def Message.keyData : List UInt8 :=
  readBytes message.packet bodyPos ((getBe16 keyDataLenPos).value message.packet).toNat

/-- The text that the MIC is for: version, type and length, as much as the length
tells, and no MIC. -/
def Message.micText : List UInt8 :=
  readBytes (writeBytes message.packet micPos (List.replicate 16 0)) 0
    (4 + ((getBe16 2).value message.packet).toNat)

/-- Handshake 3/4 and the group message. -/
def Message.HasKeys : Prop := message.keyInfo = 0x13CA ∨ message.keyInfo = 0x1382

def MicHolds : Prop := wpaCalcMic crypto device.devicePtk.kck message.micText = message.mic

def Unwraps : Prop :=
  (crypto.nistKwUnwrap device.devicePtk.kek message.keyData message.stack).result = 0

instance : Decidable message.HasKeys := inferInstanceAs (Decidable (_ ∨ _))

instance : Decidable (MicHolds crypto device message) := inferInstanceAs (Decidable (_ = _))

instance : Decidable (Unwraps crypto device message) := inferInstanceAs (Decidable (_ = _))

/-- has_sent_hs4, the stored group key and the keys of the chip are what they were. -/
structure Intact (before after : Device) : Prop where
  handshake : after.hasSentHs4 = before.hasSentHs4
  stored : after.deviceGtkKeyinfo = before.deviceGtkKeyinfo
  installed : after.installed = before.installed

/-- The group key of a message: all zeros when its key data does not unwrap. -/
def carriedGtk : GtkKeyinfo :=
  if Unwraps crypto device message then
    wpaDecryptGtk crypto message.stack device.devicePtk.kek message.keyData
  else List.replicate gtkKeyinfoSize 0

def pairwiseKey : CipherKey := cipherKey device 0 0 device.devicePtk.tkOn none

def groupKey (gtk : GtkKeyinfo) (rsc : List UInt8) : CipherKey :=
  cipherKey device gtk.keyidx 1 gtk.key (some rsc)

/-- The handshake was over, and the very keys of the message are in use already. -/
structure KeysHeld : Prop where
  handshake : device.hasSentHs4 = true
  stored : device.deviceGtkKeyinfo = carriedGtk crypto device message
  pairwise : device.securityType = .wpa2 → device.installed 0 0 = some (pairwiseKey device)
  group : device.securityType = .wpa2 →
    device.installed 1 (carriedGtk crypto device message).keyidx =
      some (groupKey device (carriedGtk crypto device message) message.rsc)

/-- A failed check leaves the keys alone. -/
def FailsSafe : Prop :=
  ¬ (MicHolds crypto device message ∧ Unwraps crypto device message) →
    Intact device (received crypto device message)

/-! What the handler does. -/

theorem carriedGtk_eq (failsEmpty : crypto.FailsEmpty) :
    wpaDecryptGtk crypto message.stack device.devicePtk.kek message.keyData =
      carriedGtk crypto device message := by
  unfold carriedGtk
  split
  · rfl
  · next failed => exact wpaDecryptGtk_failed failsEmpty failed

section Handler
variable {crypto device message}

/-- The part of a message with keys that both kinds share. -/
theorem received_hasKeys (hasKeys : message.HasKeys) :
    ∃ answered : Device,
      received crypto device message = loadKeys crypto answered message.stack message.keyData message.rsc ∧
      answered.hasSentHs4 = true ∧ answered.devicePtk = device.devicePtk ∧
      answered.installed = device.installed ∧ answered.securityType = device.securityType ∧
      answered.groupCryptType = device.groupCryptType ∧ answered.passLen = device.passLen := by
  have renewal : (0x1382 : UInt16) ≠ 0x008A ∧ (0x1382 : UInt16) ≠ 0x13CA := by decide
  have last : (0x13CA : UInt16) ≠ 0x008A := by decide
  rcases hasKeys with kind | kind
  · refine ⟨dataSendWpaHandshake4 crypto { device with deviceApMic := message.mic } message.apBssid
      message.devBssid message.replay, ?_, rfl, rfl, rfl, rfl, rfl, rfl⟩
    unfold Message.keyInfo at kind
    simp only [received, dataHandleAuth, value_bind, value_bytes, value_pure, kind, if_neg last, if_true]
    rfl
  · refine ⟨dataSendWpaGtkrenew crypto device message.apBssid message.devBssid message.replay,
      ?_, rfl, rfl, rfl, rfl, rfl, rfl⟩
    unfold Message.keyInfo at kind
    simp only [received, dataHandleAuth, value_bind, value_bytes, value_pure, kind, if_neg renewal.1,
      if_neg renewal.2, if_true]
    rfl

/-- The keys that the end of a handshake leaves in the chip. -/
def keysAfter (device : Device) (tk : List UInt8) (gtkInfo : GtkKeyinfo) (rsc : List UInt8) :
    UInt8 → UInt8 → Option CipherKey :=
  if device.securityType = .wpa2 then
    Function.update
      (Function.update device.installed 0
        (Function.update (device.installed 0) 0 (some (cipherKey device 0 0 tk none))))
      1 (Function.update (device.installed 1) gtkInfo.keyidx (some (groupKey device gtkInfo rsc)))
  else device.installed

theorem wmiPostHandshake_eq (tk : List UInt8) (gtkInfo : GtkKeyinfo) (rsc : List UInt8) :
    ∃ sent, wmiPostHandshake device tk gtkInfo rsc =
      { device with installed := keysAfter device tk gtkInfo rsc, sent } := by
  unfold wmiPostHandshake keysAfter
  dsimp only [wmiSynchronize, dataSendPkt]
  split
  · exact ⟨_, rfl⟩
  · exact ⟨_, rfl⟩

theorem loadKeys_eq (stack : Memory) (keyData rsc : List UInt8) (gtk : GtkKeyinfo)
    (carried : wpaDecryptGtk crypto stack device.devicePtk.kek keyData = gtk) :
    ∃ sent, loadKeys crypto device stack keyData rsc =
      { device with
        deviceGtkKeyinfo := gtk
        installed := keysAfter device device.devicePtk.tkOn gtk rsc
        sent } := by
  obtain ⟨sent, same⟩ :=
    @wmiPostHandshake_eq { device with deviceGtkKeyinfo := gtk } device.devicePtk.tkOn gtk rsc
  refine ⟨sent, ?_⟩
  rw [loadKeys, carried]
  exact same

end Handler

/-- Two usages are written, each at one index. -/
theorem installed_same_iff (installed : UInt8 → UInt8 → Option CipherKey) (index : UInt8)
    (pairwise group : Option CipherKey) :
    Function.update (Function.update installed 0 (Function.update (installed 0) 0 pairwise)) 1
        (Function.update (installed 1) index group) = installed ↔
      installed 0 0 = pairwise ∧ installed 1 index = group := by
  constructor
  · intro same
    constructor
    · have first := congrFun (congrFun same 0) 0
      simpa using first.symm
    · have second := congrFun (congrFun same 1) index
      simpa using second.symm
  · rintro ⟨rfl, rfl⟩
    simp only [Function.update_eq_self]

variable {crypto device message}

/-- The keys stay what they are exactly when they were the keys of the message. -/
theorem received_intact_iff (failsEmpty : crypto.FailsEmpty) (hasKeys : message.HasKeys) :
    Intact device (received crypto device message) ↔ KeysHeld crypto device message := by
  obtain ⟨answered, loaded, posted, ptk, installed, security, group, pass⟩ :=
    @received_hasKeys crypto device message hasKeys
  have carried : wpaDecryptGtk crypto message.stack answered.devicePtk.kek message.keyData =
      carriedGtk crypto device message := by rw [ptk, carriedGtk_eq crypto device message failsEmpty]
  obtain ⟨sent, same⟩ := loadKeys_eq message.stack message.keyData message.rsc _ carried
  have keys : (received crypto device message).installed =
      keysAfter device device.devicePtk.tkOn (carriedGtk crypto device message) message.rsc := by
    rw [loaded, same]
    simp only [keysAfter, groupKey, cipherKey, installed, ptk, security, group, pass]
  have handshake : (received crypto device message).hasSentHs4 = true := by rw [loaded, same, posted]
  have stored : (received crypto device message).deviceGtkKeyinfo = carriedGtk crypto device message := by
    rw [loaded, same]
  -- only with WPA2 are keys installed by this message
  by_cases wpa2 : device.securityType = .wpa2
  · rw [keysAfter, if_pos wpa2] at keys
    constructor
    · intro intact
      obtain ⟨first, second⟩ := (installed_same_iff ..).mp (keys.symm.trans intact.installed)
      exact ⟨intact.handshake.symm.trans handshake, intact.stored.symm.trans stored, fun _ => first,
        fun _ => second⟩
    · intro held
      exact ⟨handshake.trans held.handshake.symm, stored.trans held.stored.symm,
        keys.trans ((installed_same_iff ..).mpr ⟨held.pairwise wpa2, held.group wpa2⟩)⟩
  · rw [keysAfter, if_neg wpa2] at keys
    constructor
    · intro intact
      exact ⟨intact.handshake.symm.trans handshake, intact.stored.symm.trans stored,
        fun same => absurd same wpa2, fun same => absurd same wpa2⟩
    · intro held
      exact ⟨handshake.trans held.handshake.symm, stored.trans held.stored.symm, keys⟩

/-- A failed check leaves the keys alone for no other reason than that the handshake was
over and the keys are in use already. -/
theorem failed_message_intact (failsEmpty : crypto.FailsEmpty) (hasKeys : message.HasKeys) :
    FailsSafe crypto device message ↔
      MicHolds crypto device message ∧ Unwraps crypto device message ∨
        KeysHeld crypto device message := by
  unfold FailsSafe
  rw [received_intact_iff failsEmpty hasKeys]
  tauto

/-! A handshake 3/4 with no MIC and with key data that is too short to unwrap. -/

/-- HMAC-SHA-1 of the message and of the answer to it, and a failed unwrap. -/
def tooShort : Crypto where
  hmacSha1 := fun _ text =>
    if text.length = 107 then
      [86, 133, 182, 114, 219, 194, 52, 33, 83, 96, 182, 188, 248, 3, 73, 246, 107, 216, 255, 32]
    else [47, 21, 73, 79, 200, 63, 245, 106, 210, 227, 40, 253, 127, 42, 218, 195, 135, 84, 152, 213]
  nistKwUnwrap := fun _ _ output => { result := -0x6100, length := 0, output }

/-- After handshake 2/4. -/
def halfway : Device where
  securityType := .wpa2
  groupCryptType := .aes
  passLen := 8
  pmk := List.replicate 32 7
  hasSentHs2 := true
  hasSentHs4 := false
  deviceApNonce := List.replicate 32 0
  deviceNonce := List.replicate 32 5
  deviceApMic := List.replicate 16 0
  deviceGtkKeyinfo := List.replicate gtkKeyinfoSize 0
  devicePtk :=
    { kck := [1, 2, 3, 4, 5, 6, 7, 8, 9, 10, 11, 12, 13, 14, 15, 16]
      kek := List.replicate 16 2
      tk := List.replicate 16 3
      micTx := List.replicate 8 0
      micRx := List.replicate 8 0 }
  installed := fun _ _ => none
  sent := []

def forgedHandshake3 : Message where
  packet := fun pos =>
    ([2, 3, 0, 103, 2, 0x13, 0xCA, 0, 16, 0, 0, 0, 0, 0, 0, 0, 2] ++ List.replicate 81 0 ++ [8] :
      List UInt8).getD pos 0
  devBssid := [0, 9, 191, 1, 2, 3]
  apBssid := [16, 32, 48, 64, 80, 96]
  nonce := List.replicate 32 0
  stack := fun _ => 0

theorem forged_handshake_intact_iff :
    FailsSafe tooShort halfway forgedHandshake3 ↔
      MicHolds tooShort halfway forgedHandshake3 ∧ Unwraps tooShort halfway forgedHandshake3 ∨
        KeysHeld tooShort halfway forgedHandshake3 :=
  failed_message_intact (fun _ _ _ _ => rfl) (by decide)

/-- The handshake is over, and the group key is all zeros. -/
theorem forged_handshake_accepted :
    ¬ FailsSafe tooShort halfway forgedHandshake3 ∧
      ¬ MicHolds tooShort halfway forgedHandshake3 ∧ ¬ Unwraps tooShort halfway forgedHandshake3 ∧
      (received tooShort halfway forgedHandshake3).hasSentHs4 = true ∧
      ((received tooShort halfway forgedHandshake3).installed 1 0).map (·.key) =
        some (List.replicate 32 0) := by
  have failed : ¬ MicHolds tooShort halfway forgedHandshake3 ∧
      ¬ Unwraps tooShort halfway forgedHandshake3 := by decide
  have sent : (received tooShort halfway forgedHandshake3).hasSentHs4 = true := by decide
  refine ⟨fun safe => ?_, failed.1, failed.2, sent, by decide⟩
  have same := (safe fun holds => failed.1 holds.1).handshake
  rw [sent] at same
  exact absurd same (by decide)

end Dswifi.Twl
