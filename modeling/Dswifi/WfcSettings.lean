import Dswifi.BeaconFrame
import Dswifi.ShiftRegister

/-! The connections that the firmware keeps, source/arm7/wfc.c. Each record ends in the
CRC of the rest, and a record is taken when the CRC of the whole of it is zero. -/

namespace Dswifi.WfcSettings

open ShiftRegister
open BeaconFrame (le16)

/-- One of the eight rounds of a byte. `crc` is an int, so it is shifted with its sign. -/
def crc16Round (crc : BitVec 32) : BitVec 32 :=
  if crc &&& 1 ≠ 0 then crc.sshiftRight 1 ^^^ 0xA001 else crc.sshiftRight 1

def crc16Byte (crc : BitVec 32) (byte : UInt8) : BitVec 32 :=
  crc16Round^[8] (crc ^^^ byte.toBitVec.setWidth 32)

/-- wifi_crc16_slow -/
def wifiCrc16Slow (data : List UInt8) : BitVec 32 :=
  data.foldl crc16Byte 0 &&& 0xFFFF

/-- 256 bytes of the settings that end in a CRC: an nvram_cfg_ntr, or one half of an
nvram_cfg_twl. -/
abbrev Record := Vector UInt8 256

/-- crc16_0_to_FD of the record, or crc16_100_to_1FE of a second half. -/
def storedCrc16 (record : Record) : UInt16 := record[0xFE].toUInt16 ||| (record[0xFF].toUInt16 <<< 8)

/-- What is before the CRC. -/
def contents (record : Record) : List UInt8 := record.toList.take 0xFE

def entryIsZeroed (apData : List UInt8) : Bool := apData.all (· = 0)

/-- The checks of Wifi_NTR_GetWfcSettings before it looks at what a record is about. -/
def ntrRecordValid (apData : Record) : Bool :=
  !entryIsZeroed apData.toList && wifiCrc16Slow apData.toList = 0

/-- Those of Wifi_TWL_GetWfcSettings, whose records have a CRC in each half. -/
def twlRecordValid (first second : Record) : Bool :=
  !entryIsZeroed (first.toList ++ second.toList) && wifiCrc16Slow first.toList = 0 &&
    wifiCrc16Slow second.toList = 0

/-! The int only ever uses its low 16 bits. -/

/-- 0xA001, the reflected polynomial 0x8005. -/
def polynomial : BitVec 16 := 0xA001

def registerByte (register : BitVec 16) (byte : UInt8) : BitVec 16 :=
  (feedback polynomial)^[8] (register ^^^ byte.toBitVec.setWidth 16)

def register (data : List UInt8) : BitVec 16 := data.foldl registerByte 0

theorem crc16Round_setWidth (crc : BitVec 16) :
    crc16Round (crc.setWidth 32) = (feedback polynomial crc).setWidth 32 := by
  have shifted : (crc.setWidth 32).sshiftRight 1 = (crc >>> 1).setWidth 32 := by
    rw [BitVec.sshiftRight_eq_of_msb_false (by rw [BitVec.msb_setWidth]; simp)]
    apply BitVec.eq_of_getLsbD_eq
    intro i _
    simp
  have falls : crc.setWidth 32 &&& 1 ≠ 0 ↔ crc.getLsbD 0 = true := by
    have lowest : crc.setWidth 32 &&& 1 = BitVec.setWidth 32 (BitVec.ofBool (crc.getLsbD 0)) := by
      rw [show (1 : BitVec 32) = 1#32 from rfl, BitVec.and_one_eq_setWidth_ofBool_getLsbD]
      simp
    rw [lowest]
    cases crc.getLsbD 0 <;> decide
  unfold crc16Round feedback
  rw [shifted]
  by_cases fed : crc.getLsbD 0 = true
  · rw [if_pos (falls.mpr fed), if_pos fed, BitVec.setWidth_xor]
    rfl
  · rw [if_neg (fun bit => fed (falls.mp bit)), if_neg fed]

theorem crc16Byte_setWidth (crc : BitVec 16) (byte : UInt8) :
    crc16Byte (crc.setWidth 32) byte = (registerByte crc byte).setWidth 32 := by
  have mixed : crc.setWidth 32 ^^^ byte.toBitVec.setWidth 32 = (crc ^^^ byte.toBitVec.setWidth 16).setWidth 32 := by
    rw [BitVec.setWidth_xor, BitVec.setWidth_setWidth (by decide)]
  have rounds : Function.Semiconj (BitVec.setWidth 32) (feedback polynomial) crc16Round :=
    fun crc => (crc16Round_setWidth crc).symm
  rw [crc16Byte, mixed]
  exact ((rounds.iterate_right 8).eq _).symm

theorem wifiCrc16Slow_eq (data : List UInt8) : wifiCrc16Slow data = (register data).setWidth 32 := by
  have folded : data.foldl crc16Byte 0 = (register data).setWidth 32 :=
    @List.foldl_hom _ _ _ (BitVec.setWidth 32) registerByte crc16Byte data 0 crc16Byte_setWidth
  rw [wifiCrc16Slow, folded]
  apply BitVec.eq_of_toNat_eq
  have fits := (register data).isLt
  rw [BitVec.toNat_and, BitVec.toNat_setWidth, Nat.mod_eq_of_lt (by omega)]
  exact (Nat.and_two_pow_sub_one_eq_mod _ 16).trans (Nat.mod_eq_of_lt fits)

-- "123456789"
example : wifiCrc16Slow [0x31, 0x32, 0x33, 0x34, 0x35, 0x36, 0x37, 0x38, 0x39] = 0xBB3D := by decide +kernel

theorem register_append (message rest : List UInt8) :
    register (message ++ rest) = rest.foldl registerByte (register message) := List.foldl_append

section Halves
variable (c : UInt16)

theorem halves_xor : c.toUInt8.toBitVec.setWidth 16 ^^^ c.toBitVec >>> 8 <<< 8 = c.toBitVec := by
  apply BitVec.eq_of_getLsbD_eq
  intro i below
  simp only [BitVec.getLsbD_xor, UInt16.toBitVec_toUInt8, BitVec.getLsbD_setWidth, BitVec.getLsbD_shiftLeft,
    BitVec.getLsbD_ushiftRight]
  by_cases low : i < 8
  · simp [low, below]
  · rw [Nat.add_sub_cancel' (by omega)]
    simp [low, below]

theorem highByte_setWidth : (c >>> 8).toUInt8.toBitVec.setWidth 16 = c.toBitVec >>> 8 := by
  apply BitVec.eq_of_getLsbD_eq
  intro i below
  simp only [UInt16.toBitVec_toUInt8, UInt16.toBitVec_shiftRight, BitVec.getLsbD_setWidth, BitVec.getLsbD_ushiftRight]
  by_cases low : i < 8
  · simp [low, below]
  · simp [low, BitVec.getLsbD_of_ge c.toBitVec (8 + i) (by omega)]

/-- Eight steps bring the upper half of the register down to where the next byte goes in. -/
theorem iterate_feedback_highByte : (feedback polynomial)^[8] (c.toBitVec >>> 8 <<< 8) = c.toBitVec >>> 8 := by
  rw [iterate_feedback_of_clear]
  · apply BitVec.eq_of_getLsbD_eq
    intro i _
    rw [BitVec.getLsbD_ushiftRight, BitVec.getLsbD_shiftLeft, BitVec.getLsbD_ushiftRight]
    simpa using BitVec.lt_of_getLsbD
  · intro i below
    rw [BitVec.getLsbD_shiftLeft]
    simp [below]

/-- The two bytes of a number go through the register as its 16 bits do. -/
theorem registerByte_le16 (r : BitVec 16) :
    (le16 c).foldl registerByte r = (feedback polynomial)^[16] (r ^^^ c.toBitVec) := by
  let eight := (feedback polynomial)^[8]
  let low := c.toUInt8.toBitVec.setWidth 16
  have upper : eight (c.toBitVec >>> 8 <<< 8) = c.toBitVec >>> 8 := iterate_feedback_highByte c
  have mixed : ∀ x y, eight (x ^^^ y) = eight x ^^^ eight y := fun x y => iterate_feedback_xor polynomial x y 8
  calc
    (le16 c).foldl registerByte r
      = eight (eight (r ^^^ low) ^^^ (c >>> 8).toUInt8.toBitVec.setWidth 16) := rfl
    _ = eight (eight (r ^^^ low) ^^^ eight (c.toBitVec >>> 8 <<< 8)) := by
        rw [highByte_setWidth, upper]
    _ = eight (eight (r ^^^ low ^^^ c.toBitVec >>> 8 <<< 8)) := by rw [mixed (r ^^^ low)]
    _ = eight (eight (r ^^^ c.toBitVec)) := by rw [BitVec.xor_assoc, halves_xor]
    _ = (feedback polynomial)^[16] (r ^^^ c.toBitVec) := (Function.iterate_add_apply _ 8 8 _).symm

end Halves

theorem setWidth_injective : Function.Injective (BitVec.setWidth 32 : BitVec 16 → BitVec 32) := by
  apply Function.LeftInverse.injective (g := BitVec.setWidth 16)
  intro crc
  rw [BitVec.setWidth_setWidth (by decide), BitVec.setWidth_eq]

theorem wifiCrc16Slow_append_le16 (message : List UInt8) (c : UInt16) :
    wifiCrc16Slow (message ++ le16 c) = 0 ↔ wifiCrc16Slow message = c.toBitVec.setWidth 32 := by
  rw [wifiCrc16Slow_eq, wifiCrc16Slow_eq, setWidth_injective.eq_iff]
  calc
    (register (message ++ le16 c)).setWidth 32 = 0
      ↔ register (message ++ le16 c) = 0 := setWidth_injective.eq_iff (b := 0)
    _ ↔ (feedback polynomial)^[16] (register message ^^^ c.toBitVec) = 0 := by
        rw [register_append, registerByte_le16 c]
    _ ↔ register message ^^^ c.toBitVec = 0 := iterate_feedback_eq_zero_iff (by decide) 16
    _ ↔ register message = c.toBitVec := BitVec.xor_eq_zero_iff

theorem le16_pair (low high : UInt8) : le16 (low.toUInt16 ||| (high.toUInt16 <<< 8)) = [low, high] :=
  congrArg₂ (fun low high => [low, high]) (MacRam.lowHalf_pair low high) (MacRam.highHalf_pair low high)

theorem toList_eq (record : Record) : record.toList = contents record ++ le16 (storedCrc16 record) := by
  have two : record.toList.drop 0xFE = [record[0xFE], record[0xFF]] := by
    rw [List.drop_eq_getElem_cons (by simp), List.drop_eq_getElem_cons (by simp), List.drop_of_length_le (by simp)]
    rfl
  rw [storedCrc16, le16_pair, contents, ← two, List.take_append_drop]

theorem record_crc_eq_zero_iff (record : Record) :
    wifiCrc16Slow record.toList = 0 ↔ wifiCrc16Slow (contents record) = (storedCrc16 record).toBitVec.setWidth 32 := by
  rw [toList_eq, wifiCrc16Slow_append_le16]

theorem record_of_zeros (apData : Record) : entryIsZeroed apData.toList = true ↔ ∀ byte ∈ apData, byte = 0 := by
  simp only [entryIsZeroed, List.all_eq_true, Vector.mem_toList_iff, decide_eq_true_iff]

/-- A record is looked at when it is not all zeros and its CRC is that of the rest. -/
theorem ntrRecordValid_iff (apData : Record) :
    ntrRecordValid apData = true ↔
      ¬ (∀ byte ∈ apData, byte = 0) ∧
        wifiCrc16Slow (contents apData) = (storedCrc16 apData).toBitVec.setWidth 32 := by
  rw [ntrRecordValid, Bool.and_eq_true, Bool.not_eq_true', ← Bool.not_eq_true, record_of_zeros, decide_eq_true_iff,
    record_crc_eq_zero_iff]

theorem twlRecordValid_iff (first second : Record) :
    twlRecordValid first second = true ↔
      ¬ ((∀ byte ∈ first, byte = 0) ∧ ∀ byte ∈ second, byte = 0) ∧
        wifiCrc16Slow (contents first) = (storedCrc16 first).toBitVec.setWidth 32 ∧
        wifiCrc16Slow (contents second) = (storedCrc16 second).toBitVec.setWidth 32 := by
  have zeros : entryIsZeroed (first.toList ++ second.toList) =
      (entryIsZeroed first.toList && entryIsZeroed second.toList) := List.all_append
  rw [twlRecordValid, zeros, Bool.and_eq_true, Bool.and_eq_true, Bool.not_eq_true', ← Bool.not_eq_true,
    Bool.and_eq_true, record_of_zeros, record_of_zeros, decide_eq_true_iff, decide_eq_true_iff,
    record_crc_eq_zero_iff, record_crc_eq_zero_iff, and_assoc]

/-- The CRC over a message and a number after it is zero exactly when the number is the
CRC of the message, so the test of a whole record compares the stored CRC. -/
theorem crc_tests_stored :
    (∀ (message : List UInt8) (c : UInt16),
      wifiCrc16Slow (message ++ le16 c) = 0 ↔ wifiCrc16Slow message = c.toBitVec.setWidth 32) ∧
    ∀ record : Record,
      wifiCrc16Slow record.toList = 0 ↔
        wifiCrc16Slow (contents record) = (storedCrc16 record).toBitVec.setWidth 32 :=
  ⟨wifiCrc16Slow_append_le16, record_crc_eq_zero_iff⟩

end Dswifi.WfcSettings
