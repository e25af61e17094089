import Dswifi.TxQueueRefusal

/-! The sizes that the modes of a multiplayer game accept (arm9/ipc.c) against the
buffers that the ARM7 copies the frames to. The mode and the senders each add what
they know of the headers, in a size_t. -/

namespace Dswifi.TxQueue

open ByteMemory RingBuffer

def hdrTxSize : Nat := 12
def hdrDataMacSize : Nat := 24
def macCmdbufSize : Nat := macCmdbuf.stop - macCmdbuf.base
def macClientRxSize : Nat := macClientRx1.stop - macClientRx1.base
def wifiMaxMultiplayerClients : Int := 15

/-- DSWifi_Mode -/
inductive LibraryMode where
  | internet
  | multiplayerClient
  | multiplayerHost
  deriving DecidableEq, Repr

/-- The requested modes of WIFI_MODE. -/
inductive WifiMode where
  | normal
  | accessPoint
  deriving DecidableEq, Repr

/-- What the ARM9 asks the ARM7 for. `reqAllowClients` is a flag of reqFlags. -/
structure Request where
  reqLibraryMode : LibraryMode
  reqMode : WifiMode
  reqMaxClients : UInt8
  reqCmdDataSize : UInt16
  reqReplyDataSize : UInt16
  reqAllowClients : Bool
  deriving DecidableEq, Repr

/-- The IEEE header, the AID of the client, the data and the FCS. -/
def clientSize (clientPacketSize : UInt32) : Nat := u32 (hdrDataMacSize + 1 + clientPacketSize.toNat + 4)

/-- The IEEE header, the time and the bits of the clients, the data and the FCS. -/
def hostSize (hostPacketSize : UInt32) : Nat := u32 (hdrDataMacSize + 2 + 2 + hostPacketSize.toNat + 4)

/-- Wifi_MultiplayerClientMode; `none` is the -1 of the source. -/
def multiplayerClientMode (request : Request) (clientPacketSize : UInt32) : Option Request :=
  if clientSize clientPacketSize > macClientRxSize then none else
    some { request with
      reqLibraryMode := .multiplayerClient
      reqMode := .normal
      reqReplyDataSize := UInt16.ofNat (clientSize clientPacketSize) }

/-- Wifi_MultiplayerHostMode; `none` is the -1 of the source. -/
def multiplayerHostMode (request : Request) (maxClients : Int)
    (hostPacketSize clientPacketSize : UInt32) : Option Request :=
  let maxClients := if maxClients > wifiMaxMultiplayerClients then wifiMaxMultiplayerClients else maxClients
  let maxClients := if maxClients < 1 then 1 else maxClients
  if clientSize clientPacketSize > macClientRxSize then none
  else if u32 (hdrTxSize + hostSize hostPacketSize) > macCmdbufSize then none
  else
    some { request with
      reqLibraryMode := .multiplayerHost
      reqMaxClients := UInt8.ofNat maxClients.toNat
      reqCmdDataSize := UInt16.ofNat (hostSize hostPacketSize)
      reqReplyDataSize := UInt16.ofNat (clientSize clientPacketSize)
      reqMode := .accessPoint
      reqAllowClients := true }

/-- The packet of the frame is copied to its buffer, whichever of its kind that is,
wherever in the ring its size word is met. -/
def Passes (frame : Frame) : Prop :=
  ∀ (wTxbufReply2 : Nat) (ring : Buffer), readU32 ring.mem ring.read = frame.size ||| frame.kind.flags →
    (copyFirstData ring (destination wTxbufReply2 frame.kind)).2.isSome

/-- Everything of at most this size, built as a CMD frame. -/
def CmdsPass (station : Station) (size : UInt32) : Prop :=
  ∀ data : Payload, data.bytes.length ≤ size.toNat → Passes (multiplayerHostCmdTxFrame station data)

/-- Everything of at most this size, built as a reply. -/
def RepliesPass (station : Station) (size : UInt32) : Prop :=
  ∀ data : Payload, data.bytes.length ≤ size.toNat → Passes (multiplayerClientReplyTxFrame station data)

/-! The sizes of the frames. -/

theorem cmd_size (station : Station) (data : Payload) :
    (multiplayerHostCmdTxFrame station data).size = 44 + data.bytes.length := by
  have header : (multiplayerHostCmdTxFrame station data).header.length = 40 := rfl
  have trailer : (multiplayerHostCmdTxFrame station data).trailer = 4 := rfl
  have payload : (multiplayerHostCmdTxFrame station data).payload = data := rfl
  rw [Frame.size_eq, header, payload, trailer]
  omega

theorem reply_size (station : Station) (data : Payload) :
    (multiplayerClientReplyTxFrame station data).size = 42 + data.bytes.length := by
  have header : (multiplayerClientReplyTxFrame station data).header.length = 38 := rfl
  have trailer : (multiplayerClientReplyTxFrame station data).trailer = 4 := rfl
  have payload : (multiplayerClientReplyTxFrame station data).payload = data := rfl
  rw [Frame.size_eq, header, payload, trailer]
  omega

/-- A size word tells the size of a frame that is not huge. -/
theorem copied_size (frame : Frame) (small : frame.size < 268435456) :
    (frame.size ||| frame.kind.flags) &&& 0x0FFFFFFF = frame.size ∧
      frame.size ||| frame.kind.flags < 4294967296 := by
  let packet := frame.packet (List.replicate frame.size 0) List.length_replicate
  have length : packet.data.length = frame.size := List.length_replicate
  have word : sizeWord packet = frame.size ||| frame.kind.flags := by
    rw [sizeWord, length]
    rfl
  have size := wordSize_sizeWord packet (length ▸ small)
  have bound := sizeWord_lt packet (length ▸ small)
  rw [word] at size bound
  rw [length] at size
  exact ⟨size, bound⟩

theorem passes_iff (frame : Frame) (small : frame.size < 268435456) : Passes frame ↔ Fits frame := by
  obtain ⟨size, bound⟩ := copied_size frame small
  constructor
  · intro passes
    have copied := passes 0 ⟨writeU32 (fun _ => 0) 0 (frame.size ||| frame.kind.flags), 0, 0⟩
      (readU32_writeU32 _ _ _ bound)
    by_contra refused
    rw [Fits] at refused
    simp [copyFirstData, readU32_writeU32 _ _ _ bound, size, room_destination, refused] at copied
  · intro fits wTxbufReply2 ring word
    rw [Fits] at fits
    simp [copyFirstData, word, size, room_destination, fits]

theorem cmdsPass_iff (station : Station) (size : UInt32) : CmdsPass station size ↔ size.toNat ≤ 724 := by
  constructor
  · intro pass
    by_contra large
    let data : Payload := ⟨List.replicate 725 0, List.length_replicate.trans_lt (by decide)⟩
    have length : data.bytes.length = 725 := List.length_replicate
    have frame := cmd_size station data
    have fits := (passes_iff _ (by omega)).mp (pass data (by omega))
    have bound : (multiplayerHostCmdTxFrame station data).size ≤ 768 := fits
    omega
  · intro small data inside
    have frame := cmd_size station data
    refine (passes_iff _ (by omega)).mpr ?_
    change (multiplayerHostCmdTxFrame station data).size ≤ 768
    omega

theorem repliesPass_iff (station : Station) (size : UInt32) :
    RepliesPass station size ↔ size.toNat ≤ 214 := by
  constructor
  · intro pass
    by_contra large
    let data : Payload := ⟨List.replicate 215 0, List.length_replicate.trans_lt (by decide)⟩
    have length : data.bytes.length = 215 := List.length_replicate
    have frame := reply_size station data
    have fits := (passes_iff _ (by omega)).mp (pass data (by omega))
    have bound : (multiplayerClientReplyTxFrame station data).size ≤ 256 := fits
    omega
  · intro small data inside
    have frame := reply_size station data
    refine (passes_iff _ (by omega)).mpr ?_
    change (multiplayerClientReplyTxFrame station data).size ≤ 256
    omega

/-! What the modes accept. -/

/-- The sum of a size_t that goes past its end starts at 0 again. -/
def ReplyAccepted (size : UInt32) : Prop := size.toNat ≤ 227 ∨ 4294967267 ≤ size.toNat

def CmdAccepted (size : UInt32) : Prop := size.toNat ≤ 724 ∨ 4294967252 ≤ size.toNat

theorem clientMode_accepts (request : Request) (size : UInt32) :
    (∃ asked, multiplayerClientMode request size = some asked) ↔ ReplyAccepted size := by
  have bound := size.toNat_lt
  have accepted : ¬clientSize size > macClientRxSize ↔ ReplyAccepted size := by
    simp only [clientSize, u32, hdrDataMacSize, macClientRxSize, macClientRx1, ReplyAccepted]
    omega
  rw [multiplayerClientMode, ← accepted]
  split
  · rename_i large
    simpa using large
  · rename_i small
    exact iff_of_true ⟨_, rfl⟩ small

theorem hostMode_accepts (request : Request) (maxClients : Int) (cmdSize replySize : UInt32) :
    (∃ asked, multiplayerHostMode request maxClients cmdSize replySize = some asked) ↔
      ReplyAccepted replySize ∧ CmdAccepted cmdSize := by
  have bound := cmdSize.toNat_lt
  have bound' := replySize.toNat_lt
  have reply : ¬clientSize replySize > macClientRxSize ↔ ReplyAccepted replySize := by
    simp only [clientSize, u32, hdrDataMacSize, macClientRxSize, macClientRx1, ReplyAccepted]
    omega
  have cmd : ¬u32 (hdrTxSize + hostSize cmdSize) > macCmdbufSize ↔ CmdAccepted cmdSize := by
    simp only [hostSize, u32, hdrTxSize, hdrDataMacSize, macCmdbufSize, macCmdbuf, CmdAccepted]
    omega
  rw [multiplayerHostMode, ← reply, ← cmd]
  split
  · rename_i large
    exact iff_of_false (by simp) fun small => small.1 large
  · rename_i small
    split
    · rename_i large
      exact iff_of_false (by simp) fun fits => fits.2 large
    · rename_i fits
      exact iff_of_true ⟨_, rfl⟩ ⟨small, fits⟩

/-- Sizes that Wifi_MultiplayerHostMode accepts are sizes of frames that pass. -/
def HostSizesPass (station : Station) (cmdSize replySize : UInt32) : Prop :=
  ∀ request maxClients asked, multiplayerHostMode request maxClients cmdSize replySize = some asked →
    CmdsPass station cmdSize ∧ RepliesPass station replySize

/-- A size that Wifi_MultiplayerClientMode accepts is one of replies that pass. -/
def ClientSizePasses (station : Station) (replySize : UInt32) : Prop :=
  ∀ request asked, multiplayerClientMode request replySize = some asked → RepliesPass station replySize

def requestBefore : Request where
  reqLibraryMode := .internet
  reqMode := .normal
  reqMaxClients := 0
  reqCmdDataSize := 0
  reqReplyDataSize := 0
  reqAllowClients := false

/-- A reply is thirteen bytes longer than the modes count; CMD frames are as long as
they count, unless the sum goes past the end of a size_t. -/
theorem accepted_sizes_pass_iff (station : Station) (cmdSize hostReplySize replySize : UInt32) :
    HostSizesPass station cmdSize hostReplySize ∧ ClientSizePasses station replySize ↔
      (ReplyAccepted hostReplySize → CmdAccepted cmdSize →
        cmdSize.toNat ≤ 724 ∧ hostReplySize.toNat ≤ 214) ∧
      (ReplyAccepted replySize → replySize.toNat ≤ 214) := by
  refine and_congr ?_ ?_
  · simp only [HostSizesPass, cmdsPass_iff, repliesPass_iff]
    constructor
    · intro pass reply cmd
      obtain ⟨asked, accepted⟩ := (hostMode_accepts requestBefore 1 cmdSize hostReplySize).mpr ⟨reply, cmd⟩
      exact pass _ _ _ accepted
    · intro sizes request maxClients asked accepted
      obtain ⟨reply, cmd⟩ := (hostMode_accepts request maxClients _ _).mp ⟨asked, accepted⟩
      exact sizes reply cmd
  · simp only [ClientSizePasses, repliesPass_iff]
    constructor
    · intro pass reply
      obtain ⟨asked, accepted⟩ := (clientMode_accepts requestBefore replySize).mpr reply
      exact pass _ _ accepted
    · intro small request asked accepted
      exact small ((clientMode_accepts request _).mp ⟨asked, accepted⟩)

/-- A client that asks for the largest replies: the mode accepts 227 bytes, the frame of
which has 269. -/
theorem accepted_reply_refused : ¬∀ (station : Station) (cmdSize hostReplySize replySize : UInt32),
    HostSizesPass station cmdSize hostReplySize ∧ ClientSizePasses station replySize := by
  intro all
  let station : Station := ⟨(1, 2, 3), (4, 5, 6), 1, false, fun _ => none⟩
  obtain ⟨asked, accepted⟩ := (clientMode_accepts requestBefore 227).mpr (.inl (by decide))
  have pass := (all station 0 0 227).2 requestBefore asked accepted
  exact absurd ((repliesPass_iff station 227).mp pass) (by decide)

end Dswifi.TxQueue
