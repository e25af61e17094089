import Dswifi.ByteMemory

/-! The upload of the firmware to the DSi card (arm7/twl/card.twl.c). The image goes out in
chunks, each as a command that announces how many bytes follow it: the first of them in one
go, what is left byte by byte, filled up to whole words with zeros. -/

namespace Dswifi.Twl.FirmwareUpload

open ByteMemory

/-- A BMI_LZ_DATA command. `bulk` is what wifi_card_mbox0_sendbytes is given, and `rest`
what is written after it, with the address of each byte. -/
structure LzData where
  announced : UInt32
  bulk : List UInt8
  rest : List (UInt32 × UInt8)
  deriving DecidableEq, Repr

namespace LzData

/-- What follows the announced length. -/
def data (command : LzData) : List UInt8 := command.bulk ++ command.rest.map Prod.snd

def Told (command : LzData) : Prop := command.announced.toNat = command.data.length

instance (command : LzData) : Decidable command.Told := inferInstanceAs (Decidable (_ = _))

end LzData

/-- len + ((len & 3) ? (4 - (len & 3)) : 0) -/
def lenAligned (len : UInt32) : UInt32 := len + if len &&& 3 ≠ 0 then 4 - (len &&& 3) else 0

/-- wifi_card_bmi_lz_data, for data that is in the memory from `start` on. -/
def wifiCardBmiLzData (mem : Memory) (start : Nat) (len : UInt32) : LzData :=
  let lenBulk := len - len % 0x80
  let write := fun i : Nat =>
    let bytev : UInt8 := if i < len.toNat then mem (start + i) else 0
    let addr : UInt32 := if i = (lenAligned len - 1).toNat then 0xff else 0
    (addr, bytev)
  { announced := len + len % 4
    bulk := readBytes mem start lenBulk.toNat
    rest := (List.range' lenBulk.toNat ((lenAligned len).toNat - lenBulk.toNat)).map write }

def lzChunkSize : UInt32 := 0x1F8

/-- How much of the image goes into the chunk at an index. -/
def fragSize (len i : UInt32) : UInt32 := if i + lzChunkSize > len then len - i else lzChunkSize

/-- The loop of wifi_card_bmi_lz_upload, from the index `i` on; `none` when the fuel runs out. -/
def lzChunks (mem : Memory) (len : UInt32) : Nat → UInt32 → Option (List LzData)
  | 0, _ => none
  | fuel + 1, i =>
    if i < len then
      (lzChunks mem len fuel (i + lzChunkSize)).map (wifiCardBmiLzData mem i.toNat (fragSize len i) :: ·)
    else some []

/-- wifi_card_bmi_lz_upload: the address for wifi_card_bmi_lz_start and the commands. -/
def wifiCardBmiLzUpload (addr : UInt32) (mem : Memory) (len : UInt32) (fuel : Nat) : Option (UInt32 × List LzData) :=
  (lzChunks mem len fuel 0).map (addr, ·)

/-! Whole words. -/

/-- Up to the next whole word. -/
def wordLength (length : Nat) : Nat := (length + 3) / 4 * 4

def padded (text : List UInt8) : List UInt8 := text ++ List.replicate (wordLength text.length - text.length) 0

theorem padded_length (text : List UInt8) : (padded text).length = wordLength text.length := by
  rw [padded, List.length_append, List.length_replicate, wordLength]
  omega

@[simp] theorem padded_nil : padded [] = [] := rfl

/-- What comes behind whole words is padded on its own. -/
theorem padded_append {first : List UInt8} (whole : first.length % 4 = 0) (second : List UInt8) :
    padded (first ++ second) = first ++ padded second := by
  have zeros : wordLength (first ++ second).length - (first ++ second).length =
      wordLength second.length - second.length := by
    rw [List.length_append, wordLength, wordLength]
    omega
  rw [padded, padded, zeros, List.append_assoc]

theorem padded_whole {text : List UInt8} (whole : text.length % 4 = 0) : padded text = text := by
  have alone := padded_append whole []
  rwa [padded_nil, List.append_nil] at alone

theorem lenAligned_toNat {len : UInt32} (short : len.toNat + 3 < UInt32.size) :
    (lenAligned len).toNat = wordLength len.toNat := by
  have low : (len &&& 3).toNat = len.toNat % 4 := by
    rw [UInt32.toNat_and]
    exact Nat.and_two_pow_sub_one_eq_mod _ 2
  have left : (if len &&& 3 ≠ 0 then 4 - (len &&& 3) else 0).toNat = wordLength len.toNat - len.toNat := by
    by_cases whole : len &&& 3 = 0
    · rw [if_neg (not_not.mpr whole)]
      rw [whole] at low
      have zero : 0 = len.toNat % 4 := low
      rw [wordLength]
      exact (Nat.sub_eq_zero_of_le (by omega)).symm
    · have some_left : len.toNat % 4 ≠ 0 := by
        rw [← low]
        exact fun zero => whole (UInt32.toNat_inj.mp zero)
      have four : (4 : UInt32).toNat = 4 := rfl
      have least : (len &&& 3) ≤ 4 := by
        rw [UInt32.le_iff_toNat_le, low, four]
        omega
      rw [if_pos whole, UInt32.toNat_sub_of_le _ _ least, low, four, wordLength]
      omega
  rw [lenAligned, UInt32.toNat_add, left, wordLength]
  rw [UInt32.size] at short
  omega

theorem announced_toNat {len : UInt32} (short : len.toNat + 3 < UInt32.size) :
    (len + len % 4).toNat = len.toNat + len.toNat % 4 := by
  have four : (4 : UInt32).toNat = 4 := rfl
  rw [UInt32.size] at short
  rw [UInt32.toNat_add, UInt32.toNat_mod, four]
  omega

section Command
variable {mem : Memory} {start : Nat} {len : UInt32}

theorem lenBulk_le (len : UInt32) : (len - len % 0x80).toNat ≤ len.toNat := by
  have part : len % 0x80 ≤ len := by
    rw [UInt32.le_iff_toNat_le, UInt32.toNat_mod]
    exact Nat.mod_le _ _
  exact (UInt32.toNat_sub_of_le _ _ part).trans_le (Nat.sub_le _ _)

/-- The bytes that are written one by one: what is left of the image, then zeros. -/
theorem restBytes_eq (mem : Memory) (start : Nat) {bulk length : Nat} (below : bulk ≤ length) :
    (List.range' bulk (wordLength length - bulk)).map (fun i => if i < length then mem (start + i) else 0) =
      readBytes mem (start + bulk) (length - bulk) ++ List.replicate (wordLength length - length) 0 := by
  have split : wordLength length - bulk = (length - bulk) + (wordLength length - length) := by
    rw [wordLength]
    omega
  rw [split, ← List.range'_append_1, List.map_append, Nat.add_sub_cancel' below]
  congr 1
  · rw [readBytes, ← List.map_add_range', List.map_map]
    apply List.map_congr_left
    intro i member
    have inside := (List.mem_range'_1.mp member).2
    exact if_pos (by omega)
  · apply List.eq_replicate_iff.mpr
    constructor
    · rw [List.length_map, List.length_range']
    · intro byte member
      obtain ⟨i, place, rfl⟩ := List.mem_map.mp member
      exact if_neg (Nat.not_lt.mpr (List.mem_range'_1.mp place).1)

theorem lzData_data (short : len.toNat + 3 < UInt32.size) :
    (wifiCardBmiLzData mem start len).data = padded (readBytes mem start len.toNat) := by
  have below := lenBulk_le len
  have rest : (wifiCardBmiLzData mem start len).rest.map Prod.snd =
      readBytes mem (start + (len - len % 0x80).toNat) (len.toNat - (len - len % 0x80).toNat) ++
        List.replicate (wordLength len.toNat - len.toNat) 0 := by
    rw [← restBytes_eq mem start below, ← lenAligned_toNat short]
    exact List.map_map
  calc
    (wifiCardBmiLzData mem start len).data
      = readBytes mem start (len - len % 0x80).toNat ++ (wifiCardBmiLzData mem start len).rest.map Prod.snd := rfl
    _ = readBytes mem start len.toNat ++ List.replicate (wordLength len.toNat - len.toNat) 0 := by
        rw [rest, ← List.append_assoc, ← readBytes_append, Nat.add_sub_cancel' below]
    _ = padded (readBytes mem start len.toNat) := by rw [padded, readBytes_length]

-- A chunk with one byte in its last word needs three more and announces one, and one with
-- three needs one more and announces three.
theorem lzData_told (short : len.toNat + 3 < UInt32.size) :
    (wifiCardBmiLzData mem start len).Told ↔ len.toNat % 2 = 0 := by
  have announced : (wifiCardBmiLzData mem start len).announced.toNat = len.toNat + len.toNat % 4 :=
    announced_toNat short
  rw [LzData.Told, announced, lzData_data short, padded_length, readBytes_length, wordLength]
  omega

end Command

/-! The loop. The chunks are whole words, so only the last one is filled up. -/

/-- The last index that is a multiple of the chunk size. In a longer image it is not the
last one, and the next wraps around. -/
def lzIndexLimit : Nat := 4294967040

def sent (commands : List LzData) : List UInt8 := commands.flatMap LzData.data

def AllTold (commands : List LzData) : Prop := ∀ command ∈ commands, command.Told

section Loop
variable {mem : Memory} {len i : UInt32} {fuel : Nat} {commands : List LzData}

theorem lzChunks_inside (inside : i < len) (ends : lzChunks mem len (fuel + 1) i = some commands) :
    ∃ rest, lzChunks mem len fuel (i + lzChunkSize) = some rest ∧
      commands = wifiCardBmiLzData mem i.toNat (fragSize len i) :: rest := by
  rw [lzChunks, if_pos inside] at ends
  obtain ⟨rest, found, rfl⟩ := Option.map_eq_some_iff.mp ends
  exact ⟨rest, found, rfl⟩

theorem lzChunks_outside (outside : ¬ i < len) (ends : lzChunks mem len (fuel + 1) i = some commands) :
    commands = [] := by
  rw [lzChunks, if_neg outside] at ends
  exact (Option.some.inj ends).symm

section Short
variable (short : len.toNat ≤ lzIndexLimit) (multiple : i.toNat % 504 = 0) (inside : i < len)
include short multiple inside

theorem nextIndex_toNat : (i + lzChunkSize).toNat = i.toNat + 504 := by
  have below := UInt32.lt_iff_toNat_lt.mp inside
  have size : lzChunkSize.toNat = 504 := rfl
  rw [lzIndexLimit] at short
  rw [UInt32.toNat_add, size]
  omega

theorem fragSize_toNat : (fragSize len i).toNat = min 504 (len.toNat - i.toNat) := by
  have next := nextIndex_toNat short multiple inside
  have below := UInt32.lt_iff_toNat_lt.mp inside
  by_cases last : i + lzChunkSize > len
  · have past := UInt32.lt_iff_toNat_lt.mp last
    rw [fragSize, if_pos last, UInt32.toNat_sub_of_le _ _ (UInt32.le_of_lt inside)]
    omega
  · have whole := UInt32.le_iff_toNat_le.mp (UInt32.not_lt.mp last)
    have size : lzChunkSize.toNat = 504 := rfl
    rw [fragSize, if_neg last, size]
    omega

end Short

/-- What the commands from an index on have in them. -/
theorem lzChunks_sent (short : len.toNat ≤ lzIndexLimit) (multiple : i.toNat % 504 = 0)
    (ends : lzChunks mem len fuel i = some commands) :
    sent commands = padded (readBytes mem i.toNat (len.toNat - i.toNat)) ∧
      (AllTold commands ↔ (len.toNat - i.toNat) % 2 = 0) := by
  induction fuel generalizing i commands with
  | zero => cases ends
  | succ fuel ih =>
      by_cases inside : i < len
      · obtain ⟨rest, later, rfl⟩ := lzChunks_inside inside ends
        have next := nextIndex_toNat short multiple inside
        have frag := fragSize_toNat short multiple inside
        have fits : (fragSize len i).toNat + 3 < UInt32.size := by
          rw [frag, UInt32.size]
          omega
        obtain ⟨sentLater, toldLater⟩ := ih (by omega) later
        rw [next] at sentLater toldLater
        rw [sent, List.flatMap_cons, lzData_data fits, ← sent, sentLater, AllTold, List.forall_mem_cons, lzData_told fits,
          ← AllTold, toldLater, frag]
        by_cases last : len.toNat - i.toNat ≤ 504
        · have none_left : len.toNat - (i.toNat + 504) = 0 := by omega
          rw [Nat.min_eq_right last, none_left, readBytes_zero, padded_nil, List.append_nil]
          exact ⟨rfl, by omega⟩
        · have split : len.toNat - i.toNat = 504 + (len.toNat - (i.toNat + 504)) := by omega
          have whole : (readBytes mem i.toNat 504).length % 4 = 0 := by rw [readBytes_length]
          rw [Nat.min_eq_left (by omega), split, readBytes_append, padded_append whole, padded_whole whole]
          exact ⟨rfl, by omega⟩
      · have past := Nat.le_of_not_lt (mt UInt32.lt_iff_toNat_lt.mpr inside)
        rw [lzChunks_outside inside ends, Nat.sub_eq_zero_of_le past]
        rw [readBytes_zero, padded_nil]
        exact ⟨rfl, iff_of_true (fun _ member => absurd member List.not_mem_nil) rfl⟩

theorem lzChunks_ends (short : len.toNat ≤ lzIndexLimit) (multiple : i.toNat % 504 = 0)
    (enough : len.toNat ≤ i.toNat + 504 * fuel) : ∃ commands, lzChunks mem len (fuel + 1) i = some commands := by
  induction fuel generalizing i with
  | zero => exact ⟨[], if_neg (mt UInt32.lt_iff_toNat_lt.mp (Nat.not_lt.mpr enough))⟩
  | succ fuel ih =>
      by_cases inside : i < len
      · have next := nextIndex_toNat short multiple inside
        obtain ⟨rest, later⟩ := @ih (i + lzChunkSize) (by omega) (by omega)
        exact ⟨_, by rw [lzChunks, if_pos inside, later, Option.map_some]⟩
      · exact ⟨[], if_neg inside⟩

/-- All of a longer image goes out, and then the loop goes on from a small index. -/
theorem lzChunks_long (long : lzIndexLimit < len.toNat) (multiple : i.toNat % 504 = 0) (low : i.toNat ≤ lzIndexLimit)
    (ends : lzChunks mem len fuel i = some commands) : lzIndexLimit + 504 ≤ i.toNat + (sent commands).length := by
  induction fuel generalizing i commands with
  | zero => cases ends
  | succ fuel ih =>
      have inside : i < len := UInt32.lt_iff_toNat_lt.mpr (by omega)
      have size : lzChunkSize.toNat = 504 := rfl
      obtain ⟨rest, later, rfl⟩ := lzChunks_inside inside ends
      -- the last index before the wrap is the limit itself
      have step : i.toNat = lzIndexLimit ∨ (i + lzChunkSize).toNat = i.toNat + 504 ∧ i.toNat + 504 ≤ lzIndexLimit := by
        rw [lzIndexLimit] at low ⊢
        rw [UInt32.toNat_add, size]
        omega
      have full : fragSize len i = lzChunkSize := by
        apply if_neg
        rw [UInt32.not_lt, UInt32.le_iff_toNat_le]
        rcases step with last | ⟨next, below⟩
        · rw [UInt32.toNat_add, size, last]
          exact (Nat.le_of_lt (by decide)).trans long.le
        · omega
      have chunk : (wifiCardBmiLzData mem i.toNat (fragSize len i)).data.length = 504 := by
        rw [full, lzData_data (by decide), padded_length, readBytes_length]
        rfl
      rw [sent, List.flatMap_cons, List.length_append, chunk, ← sent]
      rcases step with last | ⟨next, below⟩
      · omega
      · have more := @ih (i + lzChunkSize) rest (by omega) (by omega) later
        omega

end Loop

/-- All that is promised of an upload: it ends, each command announces what follows it, and
together they are the image with zeros up to a whole word. -/
def LzUploadCorrect (addr : UInt32) (mem : Memory) (len : UInt32) : Prop :=
  ∃ fuel commands, wifiCardBmiLzUpload addr mem len fuel = some (addr, commands) ∧ AllTold commands ∧
    sent commands = padded (readBytes mem 0 len.toNat)

theorem lzUpload_some {addr : UInt32} {mem : Memory} {len : UInt32} {fuel : Nat} {commands : List LzData} :
    wifiCardBmiLzUpload addr mem len fuel = some (addr, commands) ↔ lzChunks mem len fuel 0 = some commands := by
  simp [wifiCardBmiLzUpload]

/-- An upload is right when the image has an even length and the index does not wrap around. -/
theorem lzUpload_correct_iff (addr : UInt32) (mem : Memory) (len : UInt32) :
    LzUploadCorrect addr mem len ↔ len.toNat % 2 = 0 ∧ len.toNat ≤ lzIndexLimit := by
  constructor
  · rintro ⟨fuel, commands, ends, told, text⟩
    have chunks := lzUpload_some.mp ends
    have short : len.toNat ≤ lzIndexLimit := by
      by_contra long
      have many := lzChunks_long (Nat.lt_of_not_le long) rfl (Nat.zero_le _) chunks
      have bound := len.toNat_lt
      have zero : (0 : UInt32).toNat = 0 := rfl
      rw [text, padded_length, readBytes_length, wordLength, lzIndexLimit, zero] at many
      omega
    exact ⟨(lzChunks_sent short rfl chunks).2.mp told, short⟩
  · rintro ⟨even, short⟩
    obtain ⟨commands, chunks⟩ := @lzChunks_ends mem len 0 len.toNat short rfl (by omega)
    obtain ⟨text, told⟩ := lzChunks_sent short rfl chunks
    exact ⟨len.toNat + 1, commands, lzUpload_some.mpr chunks, told.mpr even, text⟩

theorem one_byte_not_told : ¬ ∀ addr mem len, LzUploadCorrect addr mem len := by
  intro correct
  obtain ⟨fuel, commands, ends, told, _⟩ := correct 0 (fun _ => 0) 1
  have parity := (lzChunks_sent (by decide) rfl (lzUpload_some.mp ends)).2.mp told
  exact absurd parity (by decide)

end Dswifi.Twl.FirmwareUpload
