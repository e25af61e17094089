import Dswifi.Twl.Wpa
import Mathlib.Logic.Function.Basic

/-! The handshake of WPA2 (arm7/twl/ath/wmi.twl.c): the EAPOL-Key messages of the
access point, the answers of the console and the keys it gives to the chip. -/

namespace Dswifi.Twl

open ByteMemory Reading

/-- Wifi_ApSecurityType -/
inductive ApSecurity where
  | opened | wep | wpa | wpa2
  deriving DecidableEq, Repr

/-- Wifi_ApCryptType -/
inductive ApCrypt where
  | none | wep | tkip | aes
  deriving DecidableEq, Repr

/-- What WMI_ADD_CIPHER_KEY_CMD carries. -/
structure CipherKey where
  keyIndex : UInt8
  keyType : ApCrypt
  keyUsage : UInt8
  keyLength : UInt8
  keyRsc : List UInt8
  key : List UInt8
  keyOpCtrl : UInt8
  deriving DecidableEq, Repr

/-- What goes to the card, in order. -/
inductive Packet where
  | synchronize (value : UInt8)
  | addCipherKey (key : CipherKey)
  | data (bytes : List UInt8)
  deriving DecidableEq, Repr

/-- `sent` is history. `installed` has the last key that was added for a usage and
an index: usage 0 is the pairwise key and usage 1 a group key. -/
structure Device where
  securityType : ApSecurity
  groupCryptType : ApCrypt
  passLen : UInt8
  pmk : List UInt8
  hasSentHs2 : Bool
  hasSentHs4 : Bool
  deviceApNonce : List UInt8
  deviceNonce : List UInt8
  deviceApMic : List UInt8
  deviceGtkKeyinfo : GtkKeyinfo
  devicePtk : PtkKeyinfo
  installed : UInt8 → UInt8 → Option CipherKey
  sent : List Packet

/-- The packed fields of an EAPOL-Key message, from the version on. -/
def keyInfoPos : Nat := 5
def replayPos : Nat := 9
def noncePos : Nat := 17
def rscPos : Nat := 65
def micPos : Nat := 81
def keyDataLenPos : Nat := 97
def bodyPos : Nat := 99

def getBe16 (pos : Nat) : Reading UInt16 := do
  let high ← byte pos
  let low ← byte (pos + 1)
  pure (high.toUInt16 <<< 8 ||| low.toUInt16)

def be16 (value : UInt16) : List UInt8 := [(value >>> 8).toUInt8, value.toUInt8]

/-- The call of data_handle_auth: the message, the addresses in front of it, what
Wifi_Random gives for a nonce and what is on the stack. -/
structure Message where
  packet : Memory
  devBssid : List UInt8
  apBssid : List UInt8
  nonce : List UInt8
  stack : Memory

/-! The answers. -/

def dataSendPkt (device : Device) (bytes : List UInt8) : Device :=
  { device with sent := device.sent ++ [.data bytes] }

/-- An EAPOL-Key message of the console. The eight bytes of the replay counter are
those that were received. -/
def eapolKey (keyInfo : UInt16) (replay nonce mic keyData : List UInt8) : List UInt8 :=
  [1, 3] ++ be16 (UInt16.ofNat (95 + keyData.length)) ++ [2] ++ be16 keyInfo ++ be16 0 ++ replay ++ nonce ++
    List.replicate 16 0 ++ List.replicate 8 0 ++ List.replicate 8 0 ++ mic ++
    be16 (UInt16.ofNat keyData.length) ++ keyData

def dataFrame (dstBssid srcBssid body : List UInt8) : List UInt8 :=
  [0x00, 0x1C] ++ dstBssid ++ srcBssid ++ be16 (UInt16.ofNat (8 + body.length)) ++
    [0xAA, 0xAA, 0x03, 0, 0, 0, 0x88, 0x8E] ++ body

/-- The end of every answer: the MIC of the message with no MIC in it. -/
def dataSendEapolKey (crypto : Crypto) (device : Device) (dstBssid srcBssid : List UInt8) (keyInfo : UInt16)
    (replay nonce keyData : List UInt8) : Device :=
  let mic := wpaCalcMic crypto device.devicePtk.kck
    (eapolKey keyInfo replay nonce (List.replicate 16 0) keyData)
  dataSendPkt device (dataFrame dstBssid srcBssid (eapolKey keyInfo replay nonce mic keyData))

/-- The RSN element of the console. -/
def handshake2KeyData (groupCryptType : ApCrypt) : List UInt8 :=
  [0x30, 0x14, 0x01, 0x00, 0x00, 0x0f, 0xac, if groupCryptType = .aes then 0x04 else 0x02, 0x01, 0x00,
    0x00, 0x0f, 0xac, 0x04, 0x01, 0x00, 0x00, 0x0f, 0xac, 0x02, 0x00, 0x00]

def dataSendWpaHandshake2 (crypto : Crypto) (device : Device) (dstBssid srcBssid replay nonce : List UInt8) :
    Device :=
  let device := { device with
    deviceNonce := nonce
    devicePtk := wpaCalcPtk crypto srcBssid dstBssid nonce device.deviceApNonce device.pmk }
  let device := dataSendEapolKey crypto device dstBssid srcBssid 0x010A replay nonce
    (handshake2KeyData device.groupCryptType)
  { device with hasSentHs2 := true }

def dataSendWpaHandshake4 (crypto : Crypto) (device : Device) (dstBssid srcBssid replay : List UInt8) :
    Device :=
  let device :=
    dataSendEapolKey crypto device dstBssid srcBssid 0x030A replay (List.replicate 32 0) []
  { device with hasSentHs4 := true }

def dataSendWpaGtkrenew (crypto : Crypto) (device : Device) (dstBssid srcBssid replay : List UInt8) :
    Device :=
  let device :=
    dataSendEapolKey crypto device dstBssid srcBssid 0x0302 replay (List.replicate 32 0) []
  { device with hasSentHs4 := true }

/-! The keys. -/

/-- The key that wmi_add_cipher_key makes of its arguments. `key` is what is in
memory from the pointer on. -/
def cipherKey (device : Device) (idx usage : UInt8) (key : List UInt8) (rsc : Option (List UInt8)) :
    CipherKey :=
  let cryptType := if usage = 1 then device.groupCryptType else .aes
  let keyLen : UInt8 := if cryptType = .tkip then 0x20 else 0x10
  let cryptType := if device.securityType = .wep then .wep else cryptType
  let keyLen := if device.securityType = .wep then device.passLen else keyLen
  let copied := if keyLen < 0x10 then key.take keyLen.toNat ++ List.replicate (16 - keyLen.toNat) 0 else key.take 0x10
  let swapped :=
    if keyLen > 0x10 then (key.drop 0x18).take 8 ++ (key.drop 0x10).take 8 else List.replicate 16 0
  { keyIndex := idx
    keyType := cryptType
    keyUsage := usage
    keyLength := keyLen
    keyRsc := rsc.getD (List.replicate 8 0)
    key := copied ++ swapped
    keyOpCtrl := 3 }

def wmiAddCipherKey (device : Device) (idx usage : UInt8) (key : List UInt8) (rsc : Option (List UInt8)) :
    Device :=
  let added := cipherKey device idx usage key rsc
  { device with
    installed := Function.update device.installed usage
      (Function.update (device.installed usage) idx (some added))
    sent := device.sent ++ [.addCipherKey added] }

def wmiSynchronize (device : Device) (value : UInt8) : Device :=
  { device with sent := device.sent ++ [.synchronize value] }

/-- The pairwise key, with what is behind it in memory. -/
def PtkKeyinfo.tkOn (ptk : PtkKeyinfo) : List UInt8 := ptk.tk ++ ptk.micTx ++ ptk.micRx

def wmiPostHandshake (device : Device) (tk : List UInt8) (gtkInfo : GtkKeyinfo) (rsc : List UInt8) : Device :=
  let device := wmiSynchronize device 1
  let device := dataSendPkt device [0x00, 0x02]
  let device := dataSendPkt device [0x00, 0x02]
  let device :=
    if device.securityType = .wpa2 then
      wmiAddCipherKey (wmiAddCipherKey device 0 0 tk none) gtkInfo.keyidx 1 gtkInfo.key (some rsc)
    else device
  wmiSynchronize device 1

/-- The end of a handshake and of a group message, after the answer. -/
def loadKeys (crypto : Crypto) (device : Device) (stack : Memory) (keyData rsc : List UInt8) : Device :=
  let device := { device with
    deviceGtkKeyinfo := wpaDecryptGtk crypto stack device.devicePtk.kek keyData }
  wmiPostHandshake device device.devicePtk.tkOn device.deviceGtkKeyinfo rsc

/-- data_handle_auth, on the memory of the message. -/
def dataHandleAuth (crypto : Crypto) (device : Device) (message : Message) : Reading Device := do
  let keyInfo ← getBe16 keyInfoPos
  let keyDataLen ← getBe16 keyDataLenPos
  let replay ← bytes replayPos 8
  if keyInfo = 0x008A then
    let nonce ← bytes noncePos 32
    pure (dataSendWpaHandshake2 crypto { device with deviceApNonce := nonce } message.apBssid
      message.devBssid replay message.nonce)
  else if keyInfo = 0x13CA then
    let mic ← bytes micPos 16
    let device := dataSendWpaHandshake4 crypto { device with deviceApMic := mic } message.apBssid
      message.devBssid replay
    let keyData ← unwrapText bodyPos keyDataLen.toNat
    let rsc ← bytes rscPos 8
    pure (loadKeys crypto device message.stack keyData rsc)
  else if keyInfo = 0x1382 then
    let device := dataSendWpaGtkrenew crypto device message.apBssid message.devBssid replay
    let keyData ← unwrapText bodyPos keyDataLen.toNat
    let rsc ← bytes rscPos 8
    pure (loadKeys crypto device message.stack keyData rsc)
  else pure device

def received (crypto : Crypto) (device : Device) (message : Message) : Device :=
  (dataHandleAuth crypto device message).value message.packet

end Dswifi.Twl
