import Dswifi.BigEndian
import Dswifi.Twl.Wpa

/-! Both sides of the four-way handshake derive the same key. Each names itself first, so
the addresses and the nonces are put in an order before they go into the key. -/

namespace Dswifi.Twl

open BigEndian

/-- The loop of get_arr_min and get_arr_max compares the texts as big endian numbers. -/
theorem aIsMax_iff {a b : List UInt8} (same : a.length = b.length) : aIsMax a b = true ↔ number b < number a := by
  induction a generalizing b with
  | nil =>
      rw [List.length_eq_zero_iff.mp same.symm]
      exact iff_of_false Bool.false_ne_true (lt_irrefl _)
  | cons first rest ih =>
      cases b with
      | nil => cases same
      | cons second other =>
          have length : rest.length = other.length := Nat.succ.inj same
          rw [aIsMax]
          by_cases equal : first = second
          · -- the rest decides
            rw [if_pos equal, ih length, equal, number_cons, number_cons, length, Nat.add_lt_add_iff_right]
          · rw [if_neg equal, decide_eq_true_iff]
            constructor
            · exact number_cons_lt_cons length.symm
            · intro less
              by_contra notMore
              have more := UInt8.lt_of_le_of_ne (UInt8.not_lt.mp notMore) equal
              exact absurd (number_cons_lt_cons length more) (Nat.lt_asymm less)

theorem getArr_eq {a b : List UInt8} (same : a.length = b.length) :
    (getArrMin a b, getArrMax a b) = ordered a b := by
  rw [getArrMin, getArrMax, ordered]
  by_cases max : aIsMax a b = true
  · rw [if_pos max, if_pos max, if_neg (Nat.not_le.mpr ((aIsMax_iff same).mp max))]
  · rw [if_neg max, if_neg max, if_pos (Nat.le_of_not_lt (mt (aIsMax_iff same).mpr max))]

/-- What the pairwise key is expanded from. -/
def keyExpansion (macs nonces : List UInt8 × List UInt8) (iteration : UInt8) : List UInt8 :=
  ptkLabel ++ [0] ++ macs.1 ++ macs.2 ++ nonces.1 ++ nonces.2 ++ [iteration]

theorem ptkData_eq {devMac apMac devNonce apNonce : List UInt8} (macs : devMac.length = apMac.length)
    (nonces : devNonce.length = apNonce.length) (iteration : UInt8) :
    ptkData devMac apMac devNonce apNonce iteration =
      keyExpansion (ordered devMac apMac) (ordered devNonce apNonce) iteration := by
  rw [ordered_comm nonces, ← getArr_eq macs, ← getArr_eq nonces.symm]
  rfl

/-- A ptk_keyinfo, from the bytes that are copied over it. -/
def PtkKeyinfo.ofBytes (ptkOut : List UInt8) : PtkKeyinfo where
  kck := ptkOut.take 0x10
  kek := (ptkOut.drop 0x10).take 0x10
  tk := (ptkOut.drop 0x20).take 0x10
  micTx := (ptkOut.drop 0x30).take 8
  micRx := (ptkOut.drop 0x38).take 8

/-- The key of two sides, whichever comes first. -/
def expandedKey (crypto : Crypto) (pmk : List UInt8) (macs nonces : List UInt8 × List UInt8) : PtkKeyinfo :=
  .ofBytes ([0, 1, 2, 3].flatMap fun iteration => crypto.hmacSha1 pmk (keyExpansion macs nonces iteration))

theorem wpaCalcPtk_eq (crypto : Crypto) {devMac apMac devNonce apNonce : List UInt8} (pmk : List UInt8)
    (macs : devMac.length = apMac.length) (nonces : devNonce.length = apNonce.length) :
    wpaCalcPtk crypto devMac apMac devNonce apNonce pmk =
      expandedKey crypto pmk (ordered devMac apMac) (ordered devNonce apNonce) := by
  unfold wpaCalcPtk expandedKey
  simp only [ptkData_eq macs nonces, List.flatMap_cons, List.flatMap_nil, List.append_nil, List.append_assoc]
  rfl

/-- Each side calls with its own address and nonce first. -/
theorem ptk_agreement (crypto : Crypto) (mac otherMac : Vector UInt8 6) (nonce otherNonce : Vector UInt8 32)
    (pmk : List UInt8) :
    wpaCalcPtk crypto mac.toList otherMac.toList nonce.toList otherNonce.toList pmk =
        wpaCalcPtk crypto otherMac.toList mac.toList otherNonce.toList nonce.toList pmk ∧
      wpaCalcPtk crypto mac.toList otherMac.toList nonce.toList otherNonce.toList pmk =
        .ofBytes ([0, 1, 2, 3].flatMap fun iteration => crypto.hmacSha1 pmk
          (keyExpansion (ordered mac.toList otherMac.toList) (ordered nonce.toList otherNonce.toList) iteration)) := by
  have macs : mac.toList.length = otherMac.toList.length := by rw [Vector.length_toList, Vector.length_toList]
  have nonces : nonce.toList.length = otherNonce.toList.length := by rw [Vector.length_toList, Vector.length_toList]
  have first := wpaCalcPtk_eq crypto pmk macs nonces
  have second := wpaCalcPtk_eq crypto pmk macs.symm nonces.symm
  constructor
  · rw [first, second, ordered_comm macs, ordered_comm nonces]
  · exact first

end Dswifi.Twl
