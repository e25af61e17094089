import Dswifi.Pieces
import Dswifi.DlPlay.Update

/-! The blocks of a program. Each segment is cut into pieces of the block size, on
blocks of its own that follow those of the segment before it. -/

namespace Dswifi.DlPlay

open ByteMemory Pieces

/-- The block sizes that Wifi_DlPlayPickFrameSize chooses from. -/
def BlockSize (blockSize : Nat) : Prop :=
  blockSize = cmdDataSize - blockOverhead ∨ blockSize = cmdDataSizeSmall - blockOverhead

instance (blockSize : Nat) : Decidable (BlockSize blockSize) := by unfold BlockSize; infer_instance

def Segment.holds (segment : Segment) (block : Int) : Prop :=
  segment.firstBlock ≤ block ∧ block - segment.firstBlock < segment.blocks

instance (segment : Segment) (block : Int) : Decidable (segment.holds block) := by
  unfold Segment.holds
  infer_instance

def romBlockBytes (rom : Rom) (block : Int) : List UInt8 :=
  match romGetBlock rom block with
  | none => []
  | some (data, size) => readBytes rom.rom data size

/-- The results of Wifi_DlPlayRomGetBlock over the blocks of a segment. -/
def segmentBytes (rom : Rom) (segment : Segment) : List UInt8 :=
  (List.range segment.blocks).flatMap fun (index : Nat) =>
    romBlockBytes rom (segment.firstBlock + index)

/-- What cutting a ROM into blocks has to do. -/
structure Partitioned (image : Memory) (romSize : Nat) (rom : Rom) : Prop where
  segments : rom.segments.map (fun segment => (segment.data, segment.size)) =
    [(0, ndsHdrSize), (readU32 image ndsHdrArm9RomOffset, readU32 image ndsHdrArm9Size),
      (readU32 image ndsHdrArm7RomOffset, readU32 image ndsHdrArm7Size)]
  bytes : ∀ segment ∈ rom.segments,
    segmentBytes rom segment = readBytes image segment.data segment.size
  block : ∀ block : Int, 0 ≤ block → block < rom.totalBlocks → ∃ data size,
    romGetBlock rom block = some (data, size) ∧ 1 ≤ size ∧ size ≤ rom.blockSize ∧
      data + size ≤ romSize
  one : ∀ block : Int, 0 ≤ block → block < rom.totalBlocks →
    rom.segments.countP (fun segment => segment.holds block) = 1
  other : ∀ block : Int, block < 0 ∨ rom.totalBlocks ≤ block → romGetBlock rom block = none
  fits : rom.totalBlocks < 65536

/-! Placing. -/

def totalSize (parts : List (Nat × Nat)) (blockSize : Nat) : Nat :=
  (parts.map fun part => blockCount blockSize part.2).sum

theorem placeSegments_parts (blockSize block : Nat) (parts : List (Nat × Nat)) :
    (placeSegments blockSize block parts).map (fun segment => (segment.data, segment.size)) = parts := by
  induction parts generalizing block with
  | nil => rfl
  | cons part rest ih => simp [placeSegments, ih]

theorem placeSegments_blocks (blockSize block : Nat) (parts : List (Nat × Nat)) :
    ((placeSegments blockSize block parts).map Segment.blocks).sum = totalSize parts blockSize := by
  induction parts generalizing block with
  | nil => rfl
  | cons part rest ih => simp [placeSegments, totalSize, ih]

/-- What every segment is placed by: where it starts, and its blocks. -/
theorem placeSegments_mem {blockSize block : Nat} {parts : List (Nat × Nat)} {segment : Segment}
    (member : segment ∈ placeSegments blockSize block parts) :
    (segment.data, segment.size) ∈ parts ∧ block ≤ segment.firstBlock ∧
      segment.blocks = blockCount blockSize segment.size ∧
      segment.firstBlock + segment.blocks ≤ block + totalSize parts blockSize := by
  induction parts generalizing block with
  | nil => simp [placeSegments] at member
  | cons part rest ih =>
      obtain ⟨data, size⟩ := part
      simp only [placeSegments, List.mem_cons] at member
      rcases member with rfl | later
      · exact ⟨List.mem_cons_self, le_rfl, rfl, by simp [totalSize]⟩
      · obtain ⟨inside, above, blocks, below⟩ := ih later
        refine ⟨List.mem_cons_of_mem _ inside, by omega, blocks, ?_⟩
        simp only [totalSize, List.map_cons, List.sum_cons] at below ⊢
        omega

/-- A block in the range of the segments belongs to exactly one of them. -/
theorem placeSegments_one {blockSize block : Nat} (parts : List (Nat × Nat)) {wanted : Int}
    (low : block ≤ wanted) (high : wanted < block + totalSize parts blockSize) :
    (placeSegments blockSize block parts).countP (fun segment => segment.holds wanted) = 1 := by
  induction parts generalizing block with
  | nil => simp [totalSize] at high; omega
  | cons part rest ih =>
      obtain ⟨data, size⟩ := part
      simp only [totalSize, List.map_cons, List.sum_cons] at high
      simp only [placeSegments, List.countP_cons]
      -- the first segment holds the block, or one of those behind it does
      by_cases first : wanted < block + blockCount blockSize size
      · have none : (placeSegments blockSize (block + blockCount blockSize size) rest).countP
            (fun segment => segment.holds wanted) = 0 := by
          apply List.countP_eq_zero.mpr
          intro segment member
          have above := (placeSegments_mem member).2.1
          have past : ¬ segment.holds wanted := fun holds => absurd holds.1 (by omega)
          simpa using past
        have holds : Segment.holds
            { data, size, firstBlock := block, blocks := blockCount blockSize size } wanted :=
          ⟨low, by simp only; omega⟩
        rw [none, if_pos (decide_eq_true holds)]
      · have past : ¬ Segment.holds
            { data, size, firstBlock := block, blocks := blockCount blockSize size } wanted :=
          fun holds => first (by have := holds.2; simp only at this; omega)
        rw [ih (by omega) (by rw [totalSize]; omega),
          if_neg (by simpa using past)]

/-- The loop finds the only segment that holds the block. -/
theorem placeSegments_find {blockSize block : Nat} {parts : List (Nat × Nat)} {segment : Segment}
    {wanted : Int} (member : segment ∈ placeSegments blockSize block parts)
    (holds : segment.holds wanted) :
    (placeSegments blockSize block parts).find? (fun segment => segment.holds wanted) =
      some segment := by
  induction parts generalizing block with
  | nil => simp [placeSegments] at member
  | cons part rest ih =>
      obtain ⟨data, size⟩ := part
      simp only [placeSegments, List.mem_cons] at member
      simp only [placeSegments]
      rcases member with rfl | later
      · rw [List.find?_cons_of_pos (by simpa using holds)]
      · have above := (placeSegments_mem later).2.1
        have past : ¬ Segment.holds
            { data, size, firstBlock := block, blocks := blockCount blockSize size } wanted := by
          intro own
          have low := holds.1
          have high := own.2
          simp only at high
          omega
        rw [List.find?_cons_of_neg (by simpa using past), ih later]

/-! Parsing. -/

def romParts (image : Memory) : List (Nat × Nat) :=
  [(0, ndsHdrSize), (readU32 image ndsHdrArm9RomOffset, readU32 image ndsHdrArm9Size),
    (readU32 image ndsHdrArm7RomOffset, readU32 image ndsHdrArm7Size)]

structure Parsed (blockSize : Nat) (image : Memory) (romSize : Nat) (rom : Rom) : Prop where
  kept : rom.rom = image
  keptSize : rom.romSize = romSize
  cut : rom.blockSize = blockSize
  header : ndsHdrSize ≤ romSize
  segments : rom.segments = placeSegments blockSize 0 (romParts image)
  total : rom.totalBlocks = totalSize (romParts image) blockSize
  inside : ∀ part ∈ romParts image, 0 < part.2 ∧ part.1 + part.2 ≤ romSize
  program : rom.totalBlocks * blockSize % 4294967296 ≤ maxProgramSize
  rsa : rom.rsa = if romIsSigned image romSize then some (readU32 image ndsHdrUsedRomSize) else none

theorem romParse_parsed {blockSize romSize : Nat} {image : Memory} {rom : Rom}
    (parsed : romParse blockSize image romSize = some rom) : Parsed blockSize image romSize rom := by
  simp only [romParse, Option.ite_none_left_eq_some, Option.some.injEq] at parsed
  obtain ⟨header, sizes, arm9, arm7, program, rfl⟩ := parsed
  refine ⟨rfl, rfl, rfl, Nat.le_of_not_lt header, rfl, placeSegments_blocks _ _ _,
    fun part member => ?_, Nat.le_of_not_lt program, rfl⟩
  simp only [romParts, List.mem_cons, List.not_mem_nil, or_false] at member
  rcases member with rfl | rfl | rfl
  · simp only [ndsHdrSize] at header ⊢
    omega
  · simp only
    omega
  · simp only
    omega

theorem BlockSize.bounds {blockSize : Nat} (sizes : BlockSize blockSize) :
    blockSize = 504 ∨ blockSize = 250 := sizes

theorem blockCount_eq {blockSize size : Nat} (sizes : BlockSize blockSize) (small : size < 2 ^ 30) :
    blockCount blockSize size = count size blockSize := by
  have bounds := sizes.bounds
  rw [blockCount, count, Nat.mod_eq_of_lt (by omega)]

theorem totalSize_mul_le {blockSize bound : Nat} (parts : List (Nat × Nat))
    (each : ∀ part ∈ parts, blockCount blockSize part.2 * blockSize ≤ bound) :
    totalSize parts blockSize * blockSize ≤ parts.length * bound := by
  induction parts with
  | nil => simp [totalSize]
  | cons part rest ih =>
      have first := each part List.mem_cons_self
      have later := ih fun part member => each part (List.mem_cons_of_mem _ member)
      simp only [totalSize, List.map_cons, List.sum_cons, List.length_cons, Nat.add_mul, Nat.one_mul]
        at later ⊢
      omega

/-- The program takes at most as many blocks as fit in main RAM. -/
theorem Parsed.few {blockSize romSize : Nat} {image : Memory} {rom : Rom}
    (parsed : Parsed blockSize image romSize rom) (sizes : BlockSize blockSize)
    (small : romSize < 2 ^ 30) : rom.totalBlocks < 65536 := by
  have bounds := sizes.bounds
  have total : rom.totalBlocks * blockSize ≤ 3 * (romSize + (blockSize - 1)) := by
    rw [parsed.total]
    refine totalSize_mul_le (romParts image) fun part member => ?_
    have inside := parsed.inside part member
    have whole := count_mul_le part.2 blockSize
    rw [blockCount_eq sizes (by omega)]
    omega
  have program := parsed.program
  rw [Nat.mod_eq_of_lt (by omega), maxProgramSize] at program
  rcases bounds with rfl | rfl <;> omega

/-! The blocks. -/

section Blocks
variable {blockSize romSize : Nat} {image : Memory} {rom : Rom}
  (parsed : Parsed blockSize image romSize rom) (sizes : BlockSize blockSize)
  (small : romSize < 2 ^ 30)
include parsed sizes small

/-- The block of a segment is a piece of it. -/
theorem Parsed.getBlock {segment : Segment} (member : segment ∈ rom.segments) {index : Nat}
    (inside : index < segment.blocks) :
    romGetBlock rom (segment.firstBlock + index) =
      some (segment.data + index * blockSize, Pieces.size segment.size blockSize index) ∧
    segment.blocks = count segment.size blockSize := by
  have bounds := sizes.bounds
  have positive : 0 < blockSize := by omega
  rw [parsed.segments] at member
  obtain ⟨part, above, blocks, below⟩ := placeSegments_mem member
  have room := parsed.inside _ part
  simp only at room
  rw [blockCount_eq sizes (by omega)] at blocks
  have within := (@lt_count_iff segment.size _ _ positive).mp (blocks ▸ inside)
  have holds : segment.holds (segment.firstBlock + index) := by
    constructor
    · omega
    · omega
  have found := placeSegments_find member holds
  have total := parsed.total
  refine ⟨?_, blocks⟩
  rw [romGetBlock, if_neg (by omega)]
  have loop : rom.segments.find? (fun segment' => decide (segment'.firstBlock ≤
      (segment.firstBlock + index : Int) ∧
        (segment.firstBlock + index : Int) - segment'.firstBlock < segment'.blocks)) = some segment := by
    rw [parsed.segments]
    exact found
  rw [loop, Option.map_some, parsed.cut]
  have own : ((segment.firstBlock + index : Int) - segment.firstBlock).toNat = index := by omega
  simp only [own, Pieces.size]
  -- inside the segment the arithmetic of the offsets does not wrap
  rw [Nat.mod_eq_of_lt (by omega : index * blockSize < 4294967296),
    show (segment.size + 4294967296 - index * blockSize) % 4294967296 =
      segment.size - index * blockSize by omega]
  congr 2
  split <;> omega

theorem Parsed.segmentBytes {segment : Segment} (member : segment ∈ rom.segments) :
    segmentBytes rom segment = readBytes image segment.data segment.size := by
  have positive : 0 < blockSize := by
    have bounds := sizes.bounds
    omega
  have each : ∀ index ∈ List.range segment.blocks, romBlockBytes rom (segment.firstBlock + index) =
      stretch image (segment.data + index * blockSize)
        (Pieces.size segment.size blockSize index) := by
    intro index inside
    rw [romBlockBytes, (parsed.getBlock sizes small member (List.mem_range.mp inside)).1, parsed.kept]
    rfl
  rw [DlPlay.segmentBytes, List.flatMap_congr each]
  by_cases none : segment.blocks = 0
  · have part := (placeSegments_mem (parsed.segments ▸ member)).1
    have room := parsed.inside _ part
    have blocks := (placeSegments_mem (parsed.segments ▸ member)).2.2.1
    rw [blockCount_eq sizes (by simp only at room; omega)] at blocks
    have first := (@lt_count_iff _ _ 0 positive).mpr (by simpa using room.1)
    omega
  · rw [(parsed.getBlock sizes small member (Nat.pos_of_ne_zero none)).2]
    exact pieces_stretch image segment.data positive

/-- An index in the range belongs to one segment, whose piece it is. -/
theorem Parsed.block {block : Int} (low : 0 ≤ block) (high : block < rom.totalBlocks) :
    ∃ data size, romGetBlock rom block = some (data, size) ∧ 1 ≤ size ∧ size ≤ rom.blockSize ∧
      data + size ≤ romSize := by
  have positive : 0 < blockSize := by
    have bounds := sizes.bounds
    omega
  have one := @placeSegments_one blockSize 0 (romParts image) _ low
    (by rw [parsed.total] at high; simpa using high)
  obtain ⟨segment, member, holds⟩ := List.countP_pos_iff.mp (one ▸ Nat.one_pos)
  have holds : segment.holds block := by simpa using holds
  have part := (placeSegments_mem member).1
  rw [← parsed.segments] at member
  obtain ⟨index, rfl⟩ : ∃ index : Nat, block = segment.firstBlock + index :=
    ⟨(block - segment.firstBlock).toNat, by have := holds.1; omega⟩
  have inside : index < segment.blocks := by
    have := holds.2
    omega
  obtain ⟨found, blocks⟩ := parsed.getBlock sizes small member inside
  have room := parsed.inside _ part
  have within := size_inside positive (blocks ▸ inside)
  have some := size_pos positive (blocks ▸ inside)
  have most := size_le segment.size blockSize index
  simp only at room
  exact ⟨_, _, found, some, parsed.cut ▸ most, by omega⟩

end Blocks

/-- Wifi_DlPlayRomParse cuts every ROM it accepts into blocks that are, in order,
the header and the two binaries. -/
theorem rom_partitioned {blockSize romSize : Nat} {image : Memory} {rom : Rom}
    (sizes : BlockSize blockSize) (small : romSize < 2 ^ 30)
    (accepted : romParse blockSize image romSize = some rom) : Partitioned image romSize rom := by
  have parsed := romParse_parsed accepted
  refine ⟨?_, fun segment member => parsed.segmentBytes sizes small member,
    fun block low high => parsed.block sizes small low high, fun block low high => ?_,
    fun block outside => ?_, parsed.few sizes small⟩
  · rw [parsed.segments, placeSegments_parts]
    rfl
  · rw [parsed.segments]
    exact placeSegments_one (romParts image) low (by rw [← parsed.total]; simpa using high)
  · rw [romGetBlock, if_pos outside]

/-- Two binaries of 250 and 251 bytes after the header. -/
def oddImage : Memory := fun address =>
  if address = ndsHdrArm9RomOffset + 1 then 2
  else if address = ndsHdrArm9Size then 250
  else if address = ndsHdrArm7RomOffset + 1 then 3
  else if address = ndsHdrArm7Size then 251
  else if address < ndsHdrSize then 0
  else UInt8.ofNat address

theorem oddImage_parses :
    (romParse (cmdDataSizeSmall - blockOverhead) oddImage 0x400).isSome = true := by decide

theorem rom_partitioned_odd : ∃ rom : Rom, rom.totalBlocks = 5 ∧
    romParse (cmdDataSizeSmall - blockOverhead) oddImage 0x400 = some rom ∧
    Partitioned oddImage 0x400 rom :=
  ⟨(romParse (cmdDataSizeSmall - blockOverhead) oddImage 0x400).get oddImage_parses, by decide,
    (Option.some_get oddImage_parses).symm,
    rom_partitioned (.inr rfl) (by decide) (Option.some_get oddImage_parses).symm⟩

end Dswifi.DlPlay
