import Mathlib.Data.List.Basic
import Dswifi.ByteMemory

/-! The program a Download Play host sends, cut into blocks
(arm9/ntr/dlplay/rom.c). A pointer into the ROM is its offset; arithmetic is
that of u32 where the source's is. -/

namespace Dswifi.DlPlay

open ByteMemory

def ndsHdrArm9RomOffset : Nat := 0x20
def ndsHdrArm9Entry : Nat := 0x24
def ndsHdrArm9RamAddress : Nat := 0x28
def ndsHdrArm9Size : Nat := 0x2C
def ndsHdrArm7RomOffset : Nat := 0x30
def ndsHdrArm7Entry : Nat := 0x34
def ndsHdrArm7RamAddress : Nat := 0x38
def ndsHdrArm7Size : Nat := 0x3C
def ndsHdrBannerOffset : Nat := 0x68
def ndsHdrUsedRomSize : Nat := 0x80
def ndsHdrSize : Nat := 0x160
def ndsRsaSize : Nat := 0x88

/-- DSWIFI_DLPLAY_MAX_PROGRAM_SIZE -/
def maxProgramSize : Nat := 0x00400000

structure Segment where
  data : Nat
  size : Nat
  firstBlock : Nat
  blocks : Nat
  deriving DecidableEq, Repr

/-- Wifi_DlPlayRom, with the block size the library had set when it was parsed.
A ROM without a signature has none instead of a pointer to zeros. -/
structure Rom where
  rom : Memory
  romSize : Nat
  segments : List Segment
  totalBlocks : Nat
  rsa : Option Nat
  blockSize : Nat

def romIsSigned (rom : Memory) (romSize : Nat) : Bool :=
  if romSize < ndsHdrUsedRomSize + 4 then false else
    let usedSize := readU32 rom ndsHdrUsedRomSize
    if (usedSize + ndsRsaSize) % 4294967296 > romSize then false
    else rom usedSize = 0x61 ∧ rom ((usedSize + 1) % 4294967296) = 0x63

def blockCount (blockSize size : Nat) : Nat :=
  (size + (blockSize - 1)) % 4294967296 / blockSize

/-- The segments of the ROM, each on blocks of its own. -/
def placeSegments (blockSize : Nat) : Nat → List (Nat × Nat) → List Segment
  | _, [] => []
  | block, (data, size) :: rest =>
    let blocks := blockCount blockSize size
    { data, size, firstBlock := block, blocks } :: placeSegments blockSize (block + blocks) rest

def romParse (blockSize : Nat) (rom : Memory) (romSize : Nat) : Option Rom :=
  if romSize < ndsHdrSize then none else
    let arm9Offset := readU32 rom ndsHdrArm9RomOffset
    let arm9Size := readU32 rom ndsHdrArm9Size
    let arm7Offset := readU32 rom ndsHdrArm7RomOffset
    let arm7Size := readU32 rom ndsHdrArm7Size
    if arm9Size = 0 ∨ arm7Size = 0 then none else
      if arm9Offset > romSize ∨ romSize - arm9Offset < arm9Size then none else
        if arm7Offset > romSize ∨ romSize - arm7Offset < arm7Size then none else
          let segments := placeSegments blockSize 0
            [(0, ndsHdrSize), (arm9Offset, arm9Size), (arm7Offset, arm7Size)]
          let totalBlocks := (segments.map Segment.blocks).sum
          if totalBlocks * blockSize % 4294967296 > maxProgramSize then none else
            some { rom, romSize, segments, totalBlocks, blockSize
                   rsa := if romIsSigned rom romSize then some (readU32 rom ndsHdrUsedRomSize)
                     else none }

/-- Where the block found by the loop over the segments is, and its size; `none`
is a null pointer. -/
def romGetBlock (rom : Rom) (block : Int) : Option (Nat × Nat) :=
  if block < 0 ∨ block ≥ rom.totalBlocks then none else
    (rom.segments.find? fun segment =>
      segment.firstBlock ≤ block ∧ block - segment.firstBlock < segment.blocks).map fun segment =>
        let index := (block - segment.firstBlock).toNat
        let offset := index * rom.blockSize % 4294967296
        let remaining := (segment.size + 4294967296 - offset) % 4294967296
        (segment.data + offset, if remaining > rom.blockSize then rom.blockSize else remaining)

end Dswifi.DlPlay
