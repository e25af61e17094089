import Dswifi.Reading

/-! The keys of WPA2 (arm7/twl/ieee/wpa.twl.c). HMAC-SHA-1 and the key wrapping of
NIST are functions that a reader of these results may choose. -/

namespace Dswifi.Twl

open ByteMemory Reading

/-- What mbedtls_nist_kw_unwrap leaves behind: its result, the length it reports
and the buffer it was given to write to. -/
structure Unwrapped where
  result : Int
  length : Nat
  output : Memory

/-- `hmacSha1` takes a key and a text, `nistKwUnwrap` a key, a text and the buffer
for the output as it is before. -/
structure Crypto where
  hmacSha1 : List UInt8 → List UInt8 → List UInt8
  nistKwUnwrap : List UInt8 → List UInt8 → Memory → Unwrapped

/-- The lengths of text that mbedtls_nist_kw_unwrap takes for a buffer of `outSize` bytes:
three semiblocks at least, and all but one of them fit. It refuses every other before it
looks at the text. -/
def UnwrapTakes (outSize length : Nat) : Prop :=
  24 ≤ length ∧ length % 8 = 0 ∧ length ≤ outSize + 8

instance (outSize length : Nat) : Decidable (UnwrapTakes outSize length) :=
  inferInstanceAs (Decidable (_ ∧ _))

/-- The buffer of wpa_decrypt_gtk. -/
def gtkDecSize : Nat := 0x200

/-- The text that mbedtls_nist_kw_unwrap is given with a pointer and a length. -/
def unwrapText (pos length : Nat) : Reading (List UInt8) := fun mem =>
  (readBytes mem pos length, if UnwrapTakes gtkDecSize length then List.range' pos length else [])

@[simp] theorem value_unwrapText {mem : Memory} (pos length : Nat) :
    (unwrapText pos length).value mem = readBytes mem pos length := rfl

@[simp] theorem within_unwrapText {mem : Memory} {limit : Nat} (pos length : Nat) :
    Within limit (unwrapText pos length) mem ↔ (UnwrapTakes gtkDecSize length → pos + length ≤ limit) := by
  by_cases taken : UnwrapTakes gtkDecSize length
  · have some : 24 ≤ length := taken.1
    have looked : (unwrapText pos length).places mem = (bytes pos length).places mem := if_pos taken
    have whole := @within_bytes mem limit pos length
    rw [Within, ← looked] at whole
    rw [Within, whole, forall_prop_of_true taken]
    omega
  · have looked : (unwrapText pos length).places mem = [] := if_neg taken
    rw [Within, looked]
    simp [taken]

/-- A failure is reported by the result and leaves an output of no length. -/
def Crypto.FailsEmpty (crypto : Crypto) : Prop :=
  ∀ kek data output, (crypto.nistKwUnwrap kek data output).result ≠ 0 →
    (crypto.nistKwUnwrap kek data output).length = 0

/-- The bytes of a gtk_keyinfo, as they are copied: keytype[4], keyidx, unk, key[0x20]. -/
abbrev GtkKeyinfo := List UInt8

def gtkKeyinfoSize : Nat := 0x26

def GtkKeyinfo.keyidx (gtk : GtkKeyinfo) : UInt8 := gtk.getD 4 0

def GtkKeyinfo.key (gtk : GtkKeyinfo) : List UInt8 := gtk.drop 6

structure PtkKeyinfo where
  kck : List UInt8
  kek : List UInt8
  tk : List UInt8
  micTx : List UInt8
  micRx : List UInt8
  deriving DecidableEq, Repr

/-- The comparison of get_arr_min and get_arr_max, which looks at the first difference. -/
def aIsMax : List UInt8 → List UInt8 → Bool
  | a :: restA, b :: restB => if a = b then aIsMax restA restB else decide (a > b)
  | _, _ => false

def getArrMin (a b : List UInt8) : List UInt8 := if aIsMax a b then b else a

def getArrMax (a b : List UInt8) : List UInt8 := if aIsMax a b then a else b

/-- "Pairwise key expansion" -/
def ptkLabel : List UInt8 :=
  [80, 97, 105, 114, 119, 105, 115, 101, 32, 107, 101, 121, 32, 101, 120, 112, 97, 110, 115, 105,
    111, 110]

def ptkData (devMac apMac devNonce apNonce : List UInt8) (iteration : UInt8) : List UInt8 :=
  ptkLabel ++ [0] ++ getArrMin devMac apMac ++ getArrMax devMac apMac ++
    getArrMin apNonce devNonce ++ getArrMax apNonce devNonce ++ [iteration]

def wpaCalcPtk (crypto : Crypto) (devMac apMac devNonce apNonce pmk : List UInt8) : PtkKeyinfo :=
  let block := fun iteration => crypto.hmacSha1 pmk (ptkData devMac apMac devNonce apNonce iteration)
  let ptkOut := block 0 ++ block 1 ++ block 2 ++ block 3
  { kck := ptkOut.take 0x10
    kek := (ptkOut.drop 0x10).take 0x10
    tk := (ptkOut.drop 0x20).take 0x10
    micTx := (ptkOut.drop 0x30).take 8
    micRx := (ptkOut.drop 0x38).take 8 }

def wpaCalcMic (crypto : Crypto) (kck pktData : List UInt8) : List UInt8 :=
  (crypto.hmacSha1 kck pktData).take 16

/-- The OUI and the type of a group key. -/
def expectedKeytype : List UInt8 := [0x00, 0x0f, 0xAC, 0x01]

/-- The comparison with the type of a key. -/
def isKeyAt (entType : UInt8) (pos : Nat) : Reading Bool :=
  if entType = 0xDD then memcmpEqual expectedKeytype pos else pure false

/-- The loop over the decrypted elements. A key is copied over the record, of which
a short one leaves the end as it is. -/
def gtkElements (decryptedLength : Nat) : Nat → Nat → GtkKeyinfo → Reading GtkKeyinfo
  | 0, _, out => pure out
  | fuel + 1, i, out =>
    if i < decryptedLength then do
      let entType ← byte i
      let entSize ← byte (i + 1)
      let isKey ← isKeyAt entType (i + 2)
      if isKey && (entSize = 0x16 || entSize = 0x26) then do
        let key ← bytes (i + 2) entSize.toNat
        gtkElements decryptedLength fuel (i + 2 + entSize.toNat) (key ++ out.drop key.length)
      else gtkElements decryptedLength fuel (i + 2 + entSize.toNat) out
    else pure out

/-- The elements have at least two bytes. `stack` is the buffer before it is written. -/
def wpaDecryptGtk (crypto : Crypto) (stack : Memory) (kek data : List UInt8) : GtkKeyinfo :=
  let unwrapped := crypto.nistKwUnwrap kek data stack
  (gtkElements unwrapped.length unwrapped.length 0 (List.replicate gtkKeyinfoSize 0)).value
    unwrapped.output

/-- Nothing is found in an output of no length. -/
theorem wpaDecryptGtk_failed {crypto : Crypto} (failsEmpty : crypto.FailsEmpty) {stack : Memory}
    {kek data : List UInt8} (failed : (crypto.nistKwUnwrap kek data stack).result ≠ 0) :
    wpaDecryptGtk crypto stack kek data = List.replicate gtkKeyinfoSize 0 := by
  simp only [wpaDecryptGtk, failsEmpty kek data stack failed]
  rfl

end Dswifi.Twl
