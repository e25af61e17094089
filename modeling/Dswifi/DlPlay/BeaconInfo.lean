import Mathlib.Data.Fintype.Basic
import Dswifi.DlPlay.Host

/-! What a Download Play host announces in its beacons
(arm9/ntr/dlplay/beacon_info.c): the record with the icon and the titles, cut
into fragments, and the fragments that describe the room. A fragment is the
bytes from its start; a table that is handed over to the ARM7 goes to
`published`. -/

namespace Dswifi.DlPlay

open ByteMemory MpHost

def ndsBannerIconBitmap : Nat := 0x20
def ndsBannerIconPalette : Nat := 0x220
def ndsBannerTitleEnglish : Nat := 0x340
def ndsBannerTitleChars : Nat := 128

def iconBitmapSize : Nat := 0x200
def iconPaletteSize : Nat := 0x20
def titleLen : Nat := 48
def descLen : Nat := 96
def userVolatSize : Nat := 8
def dlplayMaxPlayers : Nat := 2
def beaconMaxFragments : Nat := 13

def gameInfoSize : Nat := 0x358
def infoIconPalette : Nat := 0x000
def infoIconBitmap : Nat := 0x020
def infoHostPlayer : Nat := 0x220
def infoHostNameLen : Nat := 0x221
def infoHostName : Nat := 0x222
def infoMaxPlayers : Nat := 0x236
def infoTitle : Nat := 0x238
def infoDescription : Nat := 0x298

def fragmentSize : Nat := 0x70
def fixedFragmentCount : Nat := 9
def fragSequenceEnd : Nat := 0x04
def fragSeqFixed : Nat := 0x05
def fragConnected : Nat := 0x06
def fragIndex : Nat := 0x07
def fragChecksum : Nat := 0x08
def fragIndex2 : Nat := 0x0A
def fragTotal : Nat := 0x0B
def fragPayloadLen : Nat := 0x0C
def fragPayload : Nat := 0x0E
def fragPayloadMax : Nat := 0x62
def fragPlayerCount : Nat := 0x0A
def fragPlayerFlags : Nat := 0x0C
def fragPlayerChanged : Nat := 0x0E
def fragMembers : Nat := 0x10
def fragUserVolat : Nat := 0x68
def membersPerFragment : Nat := 4
def memberSize : Nat := 22
def memberOfsColor : Nat := 0
def memberOfsNameLen : Nat := 1
def memberOfsName : Nat := 2

/-- DLPLAY_PLAYER_FLAG_HOST -/
def playerFlagHost : Mask := 1

/-- DLPLAY_VOLATILE_FRAGMENT_COUNT -/
def volatileFragmentCount (clients : Nat) : Nat :=
  if clients < 1 then 1 else (clients - 1) / membersPerFragment + 1

/-- Wifi_DlPlayInfo as far as the record is built from it. No info at all is one
whose pointers are all null. -/
structure Info where
  iconBitmap : Option Memory := none
  iconPalette : Option Memory := none
  hostName : Option (List UInt16) := none
  title : Option (List UInt16) := none
  description : Option (List UInt16) := none

/-- What the firmware knows about its owner. -/
structure PersonalData where
  name : List UInt16
  theme : UInt8

/-- Wifi_DlPlayMember -/
structure RoomMember where
  favoriteColor : UInt8 := 0
  nameLen : UInt8 := 0
  name : Fin hostNameLen → UInt16 := fun _ => 0
  deriving DecidableEq

/-- A table handed to Wifi_BeaconSetExtraDataFragments. -/
structure Table where
  count : Nat
  fragment : Nat → Memory

structure BeaconInfo where
  gameInfo : Memory := fun _ => 0
  fragments : Nat → Memory := fun _ _ => 0
  fragmentCount : Nat := fixedFragmentCount + 1
  volatileCount : Nat := 1
  seqFixed : UInt8 := 0
  playerMask : Mask := playerFlagHost
  playerChanged : Mask := 0
  playerSequence : UInt8 := 0
  members : Nat → RoomMember := fun _ => {}
  userVolat : Memory := fun _ => 0
  published : List Table := []

/-! Writing. -/

def lowByte (value : UInt16) : UInt8 := UInt8.ofNat value.toNat

def highByte (value : UInt16) : UInt8 := UInt8.ofNat (value.toNat / 256)

def writeString (mem : Memory) (dest : Nat) (src : List UInt16) (maxLen : Nat) : Memory := fun pos =>
  if dest ≤ pos ∧ pos < dest + 2 * maxLen then
    let c := src.getD ((pos - dest) / 2) 0
    if (pos - dest) % 2 = 0 then lowByte c else highByte c
  else mem pos

/-- memcpy -/
def copyBytes (mem : Memory) (dest : Nat) (src : Nat → UInt8) (size : Nat) : Memory := fun pos =>
  if dest ≤ pos ∧ pos < dest + size then src (pos - dest) else mem pos

def bigEndianWord (fragment : Memory) (pos : Nat) : Nat :=
  (fragment pos).toNat * 256 + (fragment (pos + 1)).toNat

def fragmentWords : Nat := (fragmentSize - fragIndex2) / 2

def fragmentSum (fragment : Memory) : Nat :=
  ((List.range fragmentWords).map fun i => bigEndianWord fragment (fragIndex2 + 2 * i)).sum

def fragmentChecksum (fragment : Memory) : Memory :=
  let sum := fragmentSum fragment
  let sum := 65535 - (sum + sum / 65536) % 65536
  writeU8 (writeU8 fragment fragChecksum (UInt8.ofNat (sum / 256))) (fragChecksum + 1)
    (UInt8.ofNat sum)

/-- Wifi_DlPlayBeaconPublish: a table with too many fragments is refused. -/
def publish (beacon : BeaconInfo) : BeaconInfo :=
  if beacon.fragmentCount < 1 ∨ beacon.fragmentCount > beaconMaxFragments then beacon else
    { beacon with
      published := beacon.published ++
        [{ count := beacon.fragmentCount, fragment := beacon.fragments }] }

/-! The room. -/

def writeMember (fragment : Memory) (slot aid : Nat) (member : RoomMember) : Memory :=
  let nameLen := min member.nameLen.toNat hostNameLen
  let fragment := writeU8 fragment (slot + memberOfsColor)
    ((member.favoriteColor &&& 0x0F) ||| UInt8.ofNat (aid * 16))
  let fragment := writeU8 fragment (slot + memberOfsNameLen) (UInt8.ofNat nameLen)
  writeString fragment (slot + memberOfsName) ((List.ofFn member.name).take nameLen) hostNameLen

/-- One turn of the loop over the players of the fragment `v`: the fragment, and
the index of the next player. -/
def writeSlot (beacon : BeaconInfo) (v : Nat) (writing : Memory × Nat) (aid : Nat) : Memory × Nat :=
  let (fragment, index) := writing
  if !beacon.playerMask.getLsbD aid then writing else
    if index < v * membersPerFragment ∨ index ≥ v * membersPerFragment + membersPerFragment then
      (fragment, index + 1)
    else
      (writeMember fragment (fragMembers + (index - v * membersPerFragment) * memberSize) aid
        (beacon.members aid), index + 1)

def playerCount (mask : Mask) : Nat := (List.range 16).countP fun i => mask.getLsbD i

def volatileHeader (beacon : BeaconInfo) (v : Nat) : Memory :=
  let fragment : Memory := fun _ => 0
  let fragment := writeU8 fragment fragIndex (UInt8.ofNat (fixedFragmentCount + v))
  let fragment := writeU8 fragment fragSeqFixed beacon.seqFixed
  let fragment := writeU8 fragment fragTotal (UInt8.ofNat fixedFragmentCount)
  let fragment := writeU8 fragment fragSequenceEnd 2
  let fragment := writeU8 fragment fragConnected beacon.playerSequence
  let fragment := writeU8 fragment fragPlayerCount (UInt8.ofNat (playerCount beacon.playerMask))
  let fragment := writeU8 fragment fragPlayerFlags (UInt8.ofNat beacon.playerMask.toNat)
  let fragment := writeU8 fragment (fragPlayerFlags + 1) (UInt8.ofNat (beacon.playerMask.toNat / 256))
  let fragment := writeU8 fragment fragPlayerChanged (UInt8.ofNat beacon.playerChanged.toNat)
  writeU8 fragment (fragPlayerChanged + 1) (UInt8.ofNat (beacon.playerChanged.toNat / 256))

def volatileFragment (beacon : BeaconInfo) (v : Nat) : Memory :=
  let (fragment, _) := aids.foldl (writeSlot beacon v) (volatileHeader beacon v, 0)
  fragmentChecksum (copyBytes fragment fragUserVolat beacon.userVolat userVolatSize)

def writeVolatileFragments (beacon : BeaconInfo) : BeaconInfo :=
  { beacon with
    fragments := fun i =>
      if fixedFragmentCount ≤ i ∧ i < fixedFragmentCount + beacon.volatileCount then
        volatileFragment beacon (i - fixedFragmentCount)
      else beacon.fragments i }

def beaconResetPlayers (beacon : BeaconInfo) : BeaconInfo :=
  { beacon with
    playerMask := playerFlagHost
    playerChanged := 0
    playerSequence := 0
    members := fun _ => {}
    userVolat := fun _ => 0 }

/-! The record. -/

/-- Where the icon and the title that the caller left out are in the ROM. Sums
and pointers are u32. -/
structure BannerSources where
  bitmap : Option Nat := none
  palette : Option Nat := none
  title : Option Nat := none

def bannerOffset (rom : Rom) : Nat := readU32 rom.rom ndsHdrBannerOffset

def bannerSources (rom : Rom) (info : Info) : BannerSources :=
  if info.iconBitmap.isSome ∧ info.iconPalette.isSome then {} else
    let banner := bannerOffset rom
    if banner ≠ 0 ∧ (banner + ndsBannerIconPalette + iconPaletteSize) % 4294967296 ≤ rom.romSize then
      { bitmap :=
          if info.iconBitmap.isNone then some ((banner + ndsBannerIconBitmap) % 4294967296) else none
        palette :=
          if info.iconPalette.isNone then some ((banner + ndsBannerIconPalette) % 4294967296) else none
        title :=
          if (banner + ndsBannerTitleEnglish + ndsBannerTitleChars * 2) % 4294967296 ≤ rom.romSize then
            some ((banner + ndsBannerTitleEnglish) % 4294967296)
          else none }
    else {}

def romByte (rom : Rom) (pos : Nat) : UInt8 := rom.rom (pos % 4294967296)

def bannerChar (rom : Rom) (src i : Nat) : UInt16 :=
  UInt16.ofNat ((romByte rom (src + 2 * i)).toNat + 256 * (romByte rom (src + 2 * i + 1)).toNat)

/-- The title of the banner, up to the character that ends it. -/
def bannerTitle (rom : Rom) (src : Nat) : List UInt16 :=
  ((List.range ndsBannerTitleChars).map (bannerChar rom src)).takeWhile (· ≠ 0)

/-- The title and the description to announce. A title from the banner ends at
its first newline, and the rest describes it. -/
def announcedTitles (rom : Rom) (info : Info) : List UInt16 × List UInt16 :=
  match info.title, (bannerSources rom info).title with
  | some title, _ => (title, info.description.getD [])
  | none, none => ([], info.description.getD [])
  | none, some src =>
    let banner := bannerTitle rom src
    let firstLine := banner.findIdx (· = 10)
    (banner.take firstLine,
      if banner.length > firstLine + 1 then banner.drop (firstLine + 1)
      else info.description.getD [])

def announcedIcon (rom : Rom) (given : Option Memory) (src : Option Nat) : Memory :=
  match given, src with
  | some icon, _ => icon
  | none, some src => fun i => romByte rom (src + i)
  | none, none => fun _ => 0

def buildGameInfo (personal : PersonalData) (rom : Rom) (info : Info) (maxClients : Nat) : Memory :=
  let sources := bannerSources rom info
  let hostName := (info.hostName.getD (personal.name.take hostNameLen)).take hostNameLen
  let titles := announcedTitles rom info
  let record : Memory := fun _ => 0
  let record := copyBytes record infoIconPalette (announcedIcon rom info.iconPalette sources.palette)
    iconPaletteSize
  let record := copyBytes record infoIconBitmap (announcedIcon rom info.iconBitmap sources.bitmap)
    iconBitmapSize
  let record := writeU8 record infoHostNameLen (UInt8.ofNat hostName.length)
  let record := writeString record infoHostName hostName hostNameLen
  let record := writeU8 record infoHostPlayer (personal.theme &&& 0x0F)
  let record := writeU8 record infoMaxPlayers
    (UInt8.ofNat (if maxClients < 1 then dlplayMaxPlayers else maxClients + 1))
  let record := writeString record infoTitle titles.1 titleLen
  writeString record infoDescription titles.2 descLen

/-- How much of the record the fragment `i` carries. -/
def payloadLen (i : Nat) : Nat :=
  if i * fragPayloadMax ≥ gameInfoSize then 0
  else if i * fragPayloadMax + fragPayloadMax > gameInfoSize then gameInfoSize - i * fragPayloadMax
  else fragPayloadMax

def recordFragment (gameInfo : Memory) (seqFixed : UInt8) (i : Nat) : Memory :=
  let fragment : Memory := fun _ => 0
  let fragment := writeU8 fragment fragIndex (UInt8.ofNat i)
  let fragment := writeU8 fragment fragSeqFixed seqFixed
  let fragment := writeU8 fragment fragTotal (UInt8.ofNat fixedFragmentCount)
  let fragment := writeU8 fragment fragIndex2 (UInt8.ofNat i)
  let fragment := writeU8 fragment fragPayloadLen (UInt8.ofNat (payloadLen i))
  fragmentChecksum (copyBytes fragment fragPayload (fun j => gameInfo (i * fragPayloadMax + j))
    (payloadLen i))

def beaconSetInfo (personal : PersonalData) (rom : Rom) (info : Info) (maxClients : Nat)
    (beacon : BeaconInfo) : BeaconInfo :=
  let gameInfo := buildGameInfo personal rom info maxClients
  let volatileCount := volatileFragmentCount maxClients
  let seqFixed := beacon.seqFixed + 1
  publish (writeVolatileFragments
    { beacon with
      gameInfo
      volatileCount
      fragmentCount := fixedFragmentCount + volatileCount
      seqFixed
      fragments := fun i =>
        if i < fixedFragmentCount then recordFragment gameInfo seqFixed i else fun _ => 0 })

/-! The calls while the host runs. -/

def memberChanged (a b : RoomMember) : Bool :=
  a.favoriteColor ≠ b.favoriteColor ∨ a.nameLen ≠ b.nameLen ∨ a.name ≠ b.name

def playersChanged (beacon : BeaconInfo) (now : Mask) (members : Nat → RoomMember) : Bool :=
  now ≠ beacon.playerMask ∨
    aids.any fun aid => now.getLsbD aid && memberChanged (beacon.members aid) (members aid)

def beaconSetPlayers (clients : Mask) (members : Nat → RoomMember) (beacon : BeaconInfo) :
    BeaconInfo :=
  let now := clients ||| playerFlagHost
  if !playersChanged beacon now members then beacon else
    publish (writeVolatileFragments
      { beacon with
        playerChanged := now ^^^ beacon.playerMask
        playerMask := now
        playerSequence := beacon.playerSequence + 1
        members := fun aid => if aid ∈ aids then members aid else beacon.members aid })

def beaconSetUserVolatData (data : Option Memory) (beacon : BeaconInfo) : BeaconInfo :=
  let next := data.getD fun _ => 0
  if readBytes next 0 userVolatSize = readBytes beacon.userVolat 0 userVolatSize then beacon else
    publish (writeVolatileFragments { beacon with userVolat := next })

end Dswifi.DlPlay
