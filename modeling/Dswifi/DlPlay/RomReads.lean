import Dswifi.DlPlay.BeaconInfo
import Dswifi.DlPlay.RomBlocks

/-! The bytes of the image that are read for what goes beside the program: the
signature, the icon and the title. Each is found by an offset of the header,
and checked by a sum in u32 that can wrap around. -/

namespace Dswifi.DlPlay

open ByteMemory

/-- The addresses of a stretch, as offsets from the image. -/
def region (start size : Nat) : List Nat :=
  (List.range size).map fun i => (start + i) % 4294967296

def regionOf (start : Option Nat) (size : Nat) : List Nat :=
  match start with
  | none => []
  | some start => region start size

/-- What Wifi_DlPlayRomIsSigned reads. -/
def signedReads (rom : Memory) (romSize : Nat) : List Nat :=
  if romSize < ndsHdrUsedRomSize + 4 then [] else
    let usedSize := readU32 rom ndsHdrUsedRomSize
    region ndsHdrUsedRomSize 4 ++
      if (usedSize + ndsRsaSize) % 4294967296 > romSize then []
      else if rom usedSize ≠ 0x61 then region usedSize 1
      else region usedSize 2

/-- What the boot information copies. Without a signature it is a constant. -/
def rsaReads (rom : Rom) : List Nat := regionOf rom.rsa ndsRsaSize

/-- What the loop over the title reads: it stops after the character that ends it. -/
def titleReads (rom : Rom) (src : Nat) : List Nat :=
  region src (2 * min ndsBannerTitleChars ((bannerTitle rom src).length + 1))

/-- What Wifi_DlPlayBeaconSetInfo reads. -/
def bannerReads (rom : Rom) (info : Info) : List Nat :=
  if info.iconBitmap.isSome ∧ info.iconPalette.isSome then [] else
    let sources := bannerSources rom info
    region ndsHdrBannerOffset 4 ++ regionOf sources.palette iconPaletteSize ++
      regionOf sources.bitmap iconBitmapSize ++
      match info.title, sources.title with
      | none, some src => titleReads rom src
      | _, _ => []

/-- The reads stay inside the image. -/
def ReadsInside (rom : Rom) (info : Info) : Prop :=
  ∀ pos ∈ signedReads rom.rom rom.romSize ++ rsaReads rom ++ bannerReads rom info, pos < rom.romSize

/-- A sum that is checked wraps around, and the start of what it guards does not. -/
def Wraps (offset start checked : Nat) : Prop :=
  offset + start < 4294967296 ∧ 4294967296 ≤ offset + checked

instance (offset start checked : Nat) : Decidable (Wraps offset start checked) := by
  unfold Wraps
  infer_instance

/-- No sum that lets something be read wraps around that way. -/
structure NoneWraps (rom : Rom) (info : Info) : Prop where
  signature : ¬ Wraps (readU32 rom.rom ndsHdrUsedRomSize) 0 ndsRsaSize
  palette : (bannerSources rom info).palette.isSome →
    ¬ Wraps (bannerOffset rom) ndsBannerIconPalette (ndsBannerIconPalette + iconPaletteSize)
  bitmap : (bannerSources rom info).bitmap.isSome →
    ¬ Wraps (bannerOffset rom) ndsBannerIconBitmap (ndsBannerIconPalette + iconPaletteSize)
  title : info.title = none → (bannerSources rom info).title.isSome →
    ¬ Wraps (bannerOffset rom) ndsBannerTitleEnglish
      (ndsBannerTitleEnglish + ndsBannerTitleChars * 2)

/-! One stretch. -/

theorem region_inside {offset start checked size limit : Nat} (fits : start + size ≤ checked)
    (word : offset < 4294967296) (short : checked < 4294967296)
    (stays : ¬ Wraps offset start checked) (check : (offset + checked) % 4294967296 ≤ limit) :
    ∀ pos ∈ region ((offset + start) % 4294967296) size, pos < limit := by
  intro pos member
  obtain ⟨i, inside, rfl⟩ := List.mem_map.mp member
  have below := List.mem_range.mp inside
  unfold Wraps at stays
  omega

/-- The first byte of a stretch whose check wraps around lies behind the image. -/
theorem region_outside {offset start checked size limit : Nat} (some : 0 < size)
    (short : checked ≤ 0x440) (room : limit + 0x440 ≤ 4294967296) (wraps : Wraps offset start checked) :
    ∃ pos ∈ region ((offset + start) % 4294967296) size, ¬ pos < limit := by
  unfold Wraps at wraps
  refine ⟨(offset + start) % 4294967296, List.mem_map.mpr ⟨0, List.mem_range.mpr some, by omega⟩, ?_⟩
  omega

/-! The signature. -/

section Signature
variable {rom : Memory} {romSize : Nat}

/-- The header is read in any case. -/
theorem header_inside {start : Nat} (header : ndsHdrSize ≤ romSize) (inside : start + 4 ≤ ndsHdrSize) :
    ∀ pos ∈ region start 4, pos < romSize := by
  intro pos member
  obtain ⟨i, within, rfl⟩ := List.mem_map.mp member
  have below := List.mem_range.mp within
  simp only [ndsHdrSize] at header inside
  omega

theorem signedReads_inside (header : ndsHdrSize ≤ romSize)
    (stays : ¬ Wraps (readU32 rom ndsHdrUsedRomSize) 0 ndsRsaSize) :
    ∀ pos ∈ signedReads rom romSize, pos < romSize := by
  have word := readU32_lt rom ndsHdrUsedRomSize
  intro pos member
  have long : ¬ romSize < ndsHdrUsedRomSize + 4 := by
    simp only [ndsHdrSize] at header
    simp only [ndsHdrUsedRomSize]
    omega
  simp only [signedReads, if_neg long] at member
  rcases List.mem_append.mp member with first | later
  · exact header_inside header (by decide) pos first
  · have two : ∀ size, size ≤ 2 → ¬ (readU32 rom ndsHdrUsedRomSize + ndsRsaSize) % 4294967296 > romSize →
        ∀ pos ∈ region (readU32 rom ndsHdrUsedRomSize) size, pos < romSize := by
      intro size few check
      have inside := @region_inside _ 0 _ size romSize
        (show 0 + size ≤ ndsRsaSize by simp only [ndsRsaSize]; omega) word (by decide) stays
        (Nat.le_of_not_lt check)
      rwa [Nat.add_zero, Nat.mod_eq_of_lt word] at inside
    split at later
    · cases later
    · split at later
      · exact two 1 (by decide) ‹_› pos later
      · exact two 2 (by decide) ‹_› pos later

theorem romIsSigned_check (signed : romIsSigned rom romSize = true) :
    (readU32 rom ndsHdrUsedRomSize + ndsRsaSize) % 4294967296 ≤ romSize := by
  unfold romIsSigned at signed
  split at signed
  · cases signed
  · dsimp only at signed
    split at signed
    · cases signed
    · exact Nat.le_of_not_lt ‹_›

theorem rsaReads_inside {blockSize : Nat} {parsedRom : Rom}
    (parsed : Parsed blockSize rom romSize parsedRom)
    (stays : ¬ Wraps (readU32 rom ndsHdrUsedRomSize) 0 ndsRsaSize) :
    ∀ pos ∈ rsaReads parsedRom, pos < romSize := by
  have word := readU32_lt rom ndsHdrUsedRomSize
  intro pos member
  rw [rsaReads, parsed.rsa] at member
  split at member
  · rename_i signed
    have inside := region_inside (show 0 + ndsRsaSize ≤ ndsRsaSize by decide) word (by decide) stays
      (romIsSigned_check signed)
    rw [Nat.add_zero, Nat.mod_eq_of_lt word] at inside
    exact inside pos member
  · cases member

/-- A signature whose end wraps around passes the check, and starts behind the image. -/
theorem signedReads_outside (header : ndsHdrSize ≤ romSize) (room : romSize + 0x440 ≤ 4294967296)
    (wraps : Wraps (readU32 rom ndsHdrUsedRomSize) 0 ndsRsaSize) :
    ∃ pos ∈ signedReads rom romSize, ¬ pos < romSize := by
  have word := readU32_lt rom ndsHdrUsedRomSize
  have passes : ¬ (readU32 rom ndsHdrUsedRomSize + ndsRsaSize) % 4294967296 > romSize := by
    simp only [Wraps, ndsRsaSize, ndsHdrSize] at wraps header ⊢
    omega
  have long : ¬ romSize < ndsHdrUsedRomSize + 4 := by
    simp only [ndsHdrSize] at header
    simp only [ndsHdrUsedRomSize]
    omega
  have first : ∀ size, 0 < size → ∃ pos ∈ region (readU32 rom ndsHdrUsedRomSize) size,
      ¬ pos < romSize := by
    intro size some
    have outside := region_outside some (by decide) room wraps
    rwa [Nat.add_zero, Nat.mod_eq_of_lt word] at outside
  simp only [signedReads, if_neg long, if_neg passes]
  split
  · obtain ⟨pos, member, outside⟩ := first 1 (by decide)
    exact ⟨pos, List.mem_append_right _ member, outside⟩
  · obtain ⟨pos, member, outside⟩ := first 2 (by decide)
    exact ⟨pos, List.mem_append_right _ member, outside⟩

end Signature

/-! The banner. -/

section Banner
variable {rom : Rom} {info : Info} {src : Nat}

/-- The icon of the banner is looked for, and lies in the image as far as the sum tells. -/
def IconChecked (rom : Rom) (info : Info) : Prop :=
  ¬ (info.iconBitmap.isSome ∧ info.iconPalette.isSome) ∧ bannerOffset rom ≠ 0 ∧
    (bannerOffset rom + ndsBannerIconPalette + iconPaletteSize) % 4294967296 ≤ rom.romSize

theorem bannerSources_checked (found : (bannerSources rom info).palette = some src ∨
    (bannerSources rom info).bitmap = some src ∨ (bannerSources rom info).title = some src) :
    IconChecked rom info := by
  refine ⟨fun given => ?_, ?_⟩
  · simp only [bannerSources, if_pos given, reduceCtorEq, or_self] at found
  · by_contra unchecked
    by_cases given : info.iconBitmap.isSome ∧ info.iconPalette.isSome
    · simp only [bannerSources, if_pos given, reduceCtorEq, or_self] at found
    · simp only [bannerSources, if_neg given, if_neg unchecked, reduceCtorEq, or_self] at found

theorem iconChecked_sum (checked : IconChecked rom info) :
    (bannerOffset rom + (ndsBannerIconPalette + iconPaletteSize)) % 4294967296 ≤ rom.romSize := by
  rw [← Nat.add_assoc]
  exact checked.2.2

/-- What is found in the banner, and the check that let it through. -/
theorem bannerSources_palette (found : (bannerSources rom info).palette = some src) :
    src = (bannerOffset rom + ndsBannerIconPalette) % 4294967296 := by
  have checked := bannerSources_checked (.inl found)
  simp only [bannerSources, if_neg checked.1, if_pos checked.2] at found
  split at found
  · exact (Option.some.inj found).symm
  · cases found

theorem bannerSources_bitmap (found : (bannerSources rom info).bitmap = some src) :
    src = (bannerOffset rom + ndsBannerIconBitmap) % 4294967296 := by
  have checked := bannerSources_checked (.inr (.inl found))
  simp only [bannerSources, if_neg checked.1, if_pos checked.2] at found
  split at found
  · exact (Option.some.inj found).symm
  · cases found

theorem bannerSources_title (found : (bannerSources rom info).title = some src) :
    src = (bannerOffset rom + ndsBannerTitleEnglish) % 4294967296 ∧
      (bannerOffset rom + (ndsBannerTitleEnglish + ndsBannerTitleChars * 2)) % 4294967296 ≤
        rom.romSize := by
  have checked := bannerSources_checked (.inr (.inr found))
  rw [← Nat.add_assoc]
  simp only [bannerSources, if_neg checked.1, if_pos checked.2] at found
  split at found
  · exact ⟨(Option.some.inj found).symm, ‹_›⟩
  · cases found

/-- The stretches of the banner that are read. -/
theorem mem_bannerReads {pos : Nat} (missing : ¬ (info.iconBitmap.isSome ∧ info.iconPalette.isSome)) :
    pos ∈ bannerReads rom info ↔ pos ∈ region ndsHdrBannerOffset 4 ∨
      (∃ src, (bannerSources rom info).palette = some src ∧ pos ∈ region src iconPaletteSize) ∨
      (∃ src, (bannerSources rom info).bitmap = some src ∧ pos ∈ region src iconBitmapSize) ∨
      ∃ src, info.title = none ∧ (bannerSources rom info).title = some src ∧
        pos ∈ titleReads rom src := by
  have found : ∀ (start : Option Nat) size,
      pos ∈ regionOf start size ↔ ∃ src, start = some src ∧ pos ∈ region src size := by
    intro start size
    cases start with
    | none => simp [regionOf]
    | some src => simp [regionOf]
  simp only [bannerReads, if_neg missing, List.mem_append, found, or_assoc]
  refine or_congr_right (or_congr_right (or_congr_right ?_))
  split
  · rename_i src untitled titled
    simp [untitled, titled]
  · rename_i other
    refine ⟨nofun, fun ⟨src, untitled, titled, _⟩ => (other src untitled titled).elim⟩

theorem bannerReads_inside (header : ndsHdrSize ≤ rom.romSize) (none : NoneWraps rom info) :
    ∀ pos ∈ bannerReads rom info, pos < rom.romSize := by
  have word : bannerOffset rom < 4294967296 := readU32_lt rom.rom ndsHdrBannerOffset
  intro pos member
  by_cases icons : info.iconBitmap.isSome ∧ info.iconPalette.isSome
  · rw [bannerReads, if_pos icons] at member
    cases member
  · rcases (mem_bannerReads icons).mp member with first | ⟨src, found, inside⟩ | ⟨src, found, inside⟩ |
      ⟨src, untitled, found, inside⟩
    · exact header_inside header (by decide) pos first
    · have check := iconChecked_sum (bannerSources_checked (.inl found))
      rw [bannerSources_palette found] at inside
      exact region_inside (Nat.le_refl _) word (by decide) (none.palette (by rw [found]; rfl)) check
        pos inside
    · have check := iconChecked_sum (bannerSources_checked (.inr (.inl found)))
      rw [bannerSources_bitmap found] at inside
      exact region_inside (by decide) word (by decide) (none.bitmap (by rw [found]; rfl)) check pos
        inside
    · have check := (bannerSources_title found).2
      rw [titleReads, (bannerSources_title found).1] at inside
      have short : ∀ length, 2 * min ndsBannerTitleChars length ≤ ndsBannerTitleChars * 2 := by
        intro length
        rw [Nat.mul_comm]
        exact Nat.mul_le_mul_right 2 (Nat.min_le_left _ _)
      exact region_inside (Nat.add_le_add_left (short _) _) word (by decide)
        (none.title untitled (by rw [found]; rfl)) check pos inside

/-- A source whose check wraps around is read from behind the image. -/
theorem bannerReads_outside (room : rom.romSize + 0x440 ≤ 4294967296)
    (inside : ∀ pos ∈ bannerReads rom info, pos < rom.romSize) :
    ((bannerSources rom info).palette.isSome →
      ¬ Wraps (bannerOffset rom) ndsBannerIconPalette (ndsBannerIconPalette + iconPaletteSize)) ∧
    ((bannerSources rom info).bitmap.isSome →
      ¬ Wraps (bannerOffset rom) ndsBannerIconBitmap (ndsBannerIconPalette + iconPaletteSize)) ∧
    (info.title = none → (bannerSources rom info).title.isSome →
      ¬ Wraps (bannerOffset rom) ndsBannerTitleEnglish
        (ndsBannerTitleEnglish + ndsBannerTitleChars * 2)) := by
  refine ⟨fun some wraps => ?_, fun some wraps => ?_, fun untitled some wraps => ?_⟩
  · obtain ⟨src, found⟩ := Option.isSome_iff_exists.mp some
    have missing := (bannerSources_checked (.inl found)).1
    obtain ⟨pos, member, outside⟩ :=
      region_outside (show 0 < iconPaletteSize by decide) (by decide) room wraps
    rw [← bannerSources_palette found] at member
    exact outside (inside pos ((mem_bannerReads missing).mpr (.inr (.inl ⟨src, found, member⟩))))
  · obtain ⟨src, found⟩ := Option.isSome_iff_exists.mp some
    have missing := (bannerSources_checked (.inr (.inl found))).1
    obtain ⟨pos, member, outside⟩ :=
      region_outside (show 0 < iconBitmapSize by decide) (by decide) room wraps
    rw [← bannerSources_bitmap found] at member
    exact outside (inside pos ((mem_bannerReads missing).mpr
      (.inr (.inr (.inl ⟨src, found, member⟩)))))
  · obtain ⟨src, found⟩ := Option.isSome_iff_exists.mp some
    have missing := (bannerSources_checked (.inr (.inr found))).1
    have first : 0 < 2 * min ndsBannerTitleChars ((bannerTitle rom src).length + 1) := by
      simp only [ndsBannerTitleChars]
      omega
    obtain ⟨pos, member, outside⟩ := region_outside first (by decide) room wraps
    rw [← (bannerSources_title found).1] at member
    exact outside (inside pos ((mem_bannerReads missing).mpr
      (.inr (.inr (.inr ⟨src, untitled, found, member⟩)))))

end Banner

/-- Nothing outside of the image is read if no sum that is checked wraps around
past the start of what it guards; and for an image that leaves as much of the
address space as a banner takes, only then. -/
theorem metadata_reads_inside_iff {blockSize romSize : Nat} {image : Memory} {rom : Rom}
    (accepted : romParse blockSize image romSize = some rom) (info : Info) :
    (NoneWraps rom info → ReadsInside rom info) ∧
      (romSize + 0x440 ≤ 4294967296 → ReadsInside rom info → NoneWraps rom info) := by
  have parsed := romParse_parsed accepted
  have header : ndsHdrSize ≤ rom.romSize := parsed.keptSize ▸ parsed.header
  have word : bannerOffset rom < 4294967296 := readU32_lt rom.rom ndsHdrBannerOffset
  constructor
  · intro none pos member
    simp only [List.mem_append] at member
    rcases member with (signed | rsa) | banner
    · exact signedReads_inside header none.signature pos signed
    · rw [parsed.keptSize]
      exact rsaReads_inside parsed (parsed.kept ▸ none.signature) pos rsa
    · exact bannerReads_inside header none pos banner
  · intro room inside
    rw [← parsed.keptSize] at room
    have banner : ∀ pos ∈ bannerReads rom info, pos < rom.romSize := fun pos member =>
      inside pos (List.mem_append_right _ member)
    obtain ⟨palette, bitmap, title⟩ := bannerReads_outside room banner
    refine { signature := fun wraps => ?_, palette, bitmap, title }
    obtain ⟨pos, member, outside⟩ := signedReads_outside header room wraps
    exact outside (inside pos (List.mem_append_left _ (List.mem_append_left _ member)))

theorem metadata_reads_inside_odd : ∃ rom : Rom, rom.totalBlocks = 5 ∧
    romParse (cmdDataSizeSmall - blockOverhead) oddImage 0x400 = some rom ∧
    ReadsInside rom {} ∧ NoneWraps rom {} := by
  have accepted := (Option.some_get oddImage_parses).symm
  have inside : ReadsInside ((romParse (cmdDataSizeSmall - blockOverhead) oddImage 0x400).get
      oddImage_parses) {} :=
    (metadata_reads_inside_iff accepted {}).1
      ⟨by decide +kernel, by decide +kernel, by decide +kernel, by decide +kernel⟩
  exact ⟨_, by decide, accepted, inside,
    (metadata_reads_inside_iff accepted {}).2 (by decide) inside⟩

/-- The same image, with a header that says that 0xFFFFFF80 bytes of it are used. -/
def wrappingImage : Memory := fun address =>
  if address = ndsHdrUsedRomSize then 0x80
  else if address = ndsHdrUsedRomSize + 1 ∨ address = ndsHdrUsedRomSize + 2 ∨
    address = ndsHdrUsedRomSize + 3 then 0xFF
  else oddImage address

theorem wrappingImage_parses :
    (romParse (cmdDataSizeSmall - blockOverhead) wrappingImage 0x400).isSome = true := by decide

/-- The end of the signature wraps around to the eighth byte, and its first byte is
read, far behind the image. -/
theorem metadata_read_outside : ¬ ∀ (blockSize romSize : Nat) (image : Memory) (rom : Rom)
    (info : Info), romParse blockSize image romSize = some rom → ReadsInside rom info := by
  intro inside
  have read : 0xFFFFFF80 ∈ signedReads wrappingImage 0x400 := by decide
  have accepted := (Option.some_get wrappingImage_parses).symm
  have parsed := romParse_parsed accepted
  have below := inside _ _ _ _ {} accepted 0xFFFFFF80 (by
    rw [parsed.kept, parsed.keptSize]
    exact List.mem_append_left _ (List.mem_append_left _ read))
  rw [parsed.keptSize] at below
  exact absurd below (by decide)

end Dswifi.DlPlay
