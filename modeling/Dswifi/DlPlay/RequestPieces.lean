import Dswifi.DlPlay.FileIds
import Dswifi.DlPlay.StationProgram

/-! The request of a console, put together from the pieces it sends in any order. -/

namespace Dswifi.DlPlay

open ByteMemory

def fileRequestSize : Nat := 29

/-- A file request as the console has it. -/
structure RequestBytes where
  bytes : List UInt8
  whole : bytes.length = fileRequestSize

/-- A reply that Wifi_DlPlayHandleFileRequest does not look at further. -/
def Ignored (reply : List UInt8) : Prop :=
  reply.length < 2 + reqPieceSize ∨ (byteAt reply 1).toNat ≥ reqPieceCount

/-- A piece of the request. The last piece has a byte more than what is left. -/
structure PieceOf (original : RequestBytes) (reply : List UInt8) : Prop where
  long : 2 + reqPieceSize ≤ reply.length
  known : (byteAt reply 1).toNat < reqPieceCount
  same : ∀ i < reqPieceSize, (byteAt reply 1).toNat * reqPieceSize + i < fileRequestSize →
    byteAt reply (2 + i) = byteAt original.bytes ((byteAt reply 1).toNat * reqPieceSize + i)

/-- Some reply was the piece. -/
def Arrived (replies : List (List UInt8)) (piece : Nat) : Prop :=
  ∃ reply ∈ replies, ¬Ignored reply ∧ (byteAt reply 1).toNat = piece

/-- What the bytes of a request say. -/
def requestOf (original : RequestBytes) (before : ClientRequest) : ClientRequest :=
  let bytes := original.bytes
  let nameLen := min (byteAt bytes 5).toNat hostNameLen
  let name := (List.range hostNameLen).map fun i => u16At bytes (6 + 2 * i)
  { before with
    valid := true
    isStation := decide (nameLen = hostNameLen ∧ name = List.replicate hostNameLen 0x20)
    gameId := u16At bytes 0 + 65536 * u16At bytes 2
    favoriteColor := byteAt bytes 4 &&& 0xF
    playerNo := byteAt bytes 4 >>> 4
    nameLen
    name
    version := u16At bytes 26
    fileId := byteAt bytes 28 }

/-! The record while the pieces come in. -/

/-- The record of a client that was `first`, after some pieces of its request. -/
structure Assembled (original : RequestBytes) (first client : Client) (pieces : Nat → Bool) : Prop where
  mask : ∀ piece, client.reqMask.getLsbD piece = pieces piece
  known : ∀ piece, pieces piece = true → piece < reqPieceCount
  stored : ∀ piece, pieces piece = true → ∀ i < reqPieceSize, piece * reqPieceSize + i < fileRequestSize →
    client.reqBuffer (piece * reqPieceSize + i) = byteAt original.bytes (piece * reqPieceSize + i)
  undecoded : (List.range reqPieceCount).all pieces = false → client.request = first.request
  decoded : (List.range reqPieceCount).all pieces = true →
    client.request = requestOf original first.request

def hearPiece (pieces : Nat → Bool) (reply : List UInt8) : Nat → Bool :=
  if reply.length < 2 + reqPieceSize ∨ (byteAt reply 1).toNat ≥ reqPieceCount then pieces
  else Function.update pieces (byteAt reply 1).toNat true

theorem hearPiece_iff (pieces : Nat → Bool) (reply : List UInt8) (piece : Nat) :
    hearPiece pieces reply piece = true ↔
      pieces piece = true ∨ ¬Ignored reply ∧ (byteAt reply 1).toNat = piece := by
  rw [hearPiece, Ignored]
  split
  · rename_i ignored
    simp [ignored]
  · rename_i heard
    by_cases same : piece = (byteAt reply 1).toNat
    · subst same
      simp [heard]
    · have apart : (byteAt reply 1).toNat ≠ piece := fun equal => same equal.symm
      simp [same, apart]

theorem hearPieces_iff (replies : List (List UInt8)) (pieces : Nat → Bool) (piece : Nat) :
    replies.foldl hearPiece pieces piece = true ↔ pieces piece = true ∨ Arrived replies piece := by
  induction replies generalizing pieces with
  | nil => simp [Arrived]
  | cons reply rest ih =>
      rw [List.foldl_cons, ih, hearPiece_iff]
      simp only [Arrived, List.mem_cons, or_and_right, exists_or, exists_eq_left, or_assoc]

/-- The pieces lie next to each other and cover the request. -/
theorem pieces_cover {original : RequestBytes} {client : Client} {pieces : Nat → Bool}
    (stored : ∀ piece, pieces piece = true → ∀ i < reqPieceSize,
      piece * reqPieceSize + i < fileRequestSize →
        client.reqBuffer (piece * reqPieceSize + i) = byteAt original.bytes (piece * reqPieceSize + i))
    (all : (List.range reqPieceCount).all pieces = true) {pos : Nat} (inside : pos < fileRequestSize) :
    client.reqBuffer pos = byteAt original.bytes pos := by
  simp only [fileRequestSize, reqPieceSize] at inside stored
  have place : pos / 6 * 6 + pos % 6 = pos := by omega
  have piece : pieces (pos / 6) = true := by
    refine List.all_eq_true.mp all _ (List.mem_range.mpr ?_)
    simp only [reqPieceCount]
    omega
  have same := stored (pos / 6) piece (pos % 6) (Nat.mod_lt _ (by decide)) (by omega)
  rwa [place] at same

theorem isStationName_requestOf (original : RequestBytes) (before : ClientRequest) :
    isStationName (requestOf original before) = (requestOf original before).isStation := by
  have spaces : ∀ name : List Nat, name.length = hostNameLen →
      (name.all (fun c => decide (c = 0x20)) = true ↔ name = List.replicate hostNameLen 0x20) := by
    intro name length
    rw [List.all_eq_true, List.eq_replicate_iff]
    simp [length]
  have length : (requestOf original before).name.length = hostNameLen := by
    rw [requestOf, List.length_map, List.length_range]
  have station : (requestOf original before).isStation = true ↔
      (requestOf original before).nameLen = hostNameLen ∧
        (requestOf original before).name = List.replicate hostNameLen 0x20 := decide_eq_true_iff
  have named : isStationName (requestOf original before) = true ↔
      (requestOf original before).nameLen = hostNameLen ∧
        (requestOf original before).name.all (fun c => decide (c = 0x20)) = true := decide_eq_true_iff
  rw [Bool.eq_iff_iff, named, station, spaces _ length]

/-- Decoding a buffer that holds the request. -/
theorem decodeRequest_requestOf {original : RequestBytes} {client : Client}
    (same : ∀ pos < fileRequestSize, client.reqBuffer pos = byteAt original.bytes pos) :
    { (decodeRequest client).request with
        isStation := isStationName (decodeRequest client).request } =
      requestOf original client.request := by
  have byte : ∀ pos, pos < 29 → client.reqBuffer pos = byteAt original.bytes pos := same
  have word : ∀ pos, pos + 1 < 29 → readU16 client.reqBuffer pos = u16At original.bytes pos := by
    intro pos inside
    rw [readU16, u16At, byte pos (by omega), byte (pos + 1) inside]
  have name : (List.range hostNameLen).map (fun i => readU16 client.reqBuffer (6 + 2 * i)) =
      (List.range hostNameLen).map fun i => u16At original.bytes (6 + 2 * i) := by
    refine List.map_congr_left fun i member => word _ ?_
    have below := List.mem_range.mp member
    simp only [hostNameLen] at below
    omega
  have game : readU32 client.reqBuffer 0 = u16At original.bytes 0 + 65536 * u16At original.bytes 2 := by
    simp only [readU32, u16At, byte 0 (by decide), byte (0 + 1) (by decide), byte (0 + 2) (by decide),
      byte (0 + 3) (by decide), Nat.zero_add, Nat.reduceAdd]
    omega
  have decoded : { (decodeRequest client).request with
      isStation := (requestOf original client.request).isStation } = requestOf original client.request := by
    simp only [decodeRequest, requestOf, byte 4 (by decide), byte 5 (by decide), byte 28 (by decide),
      word 26 (by decide), name, game]
  have station : isStationName (decodeRequest client).request =
      (requestOf original client.request).isStation := by
    rw [← isStationName_requestOf, ← decoded]
    rfl
  rw [station, decoded]

/-- Whatever comes when the last piece is there, the record says what the request says. -/
theorem completeRequest_requestOf {original : RequestBytes} {client : Client} {first : ClientRequest}
    (undecoded : first.valid = false)
    (same : ∀ pos < fileRequestSize, client.reqBuffer pos = byteAt original.bytes pos)
    (held : client.request = first ∨ client.request = requestOf original first) :
    (completeRequest client).request = requestOf original first := by
  rw [completeRequest_request]
  rcases held with held | held
  · rw [held, undecoded, if_neg (by decide), ← held]
    exact decodeRequest_requestOf same
  · rw [held, if_pos (show (requestOf original first).valid = true from rfl), isStationName_requestOf]

theorem completeRequest_buffer (client : Client) :
    (completeRequest client).reqBuffer = client.reqBuffer := by
  simp only [completeRequest]
  split <;> split <;> rfl

theorem handleFileRequest_ignored {client : Client} {reply : List UInt8} (ignored : Ignored reply) :
    handleFileRequest client reply = client := by
  rw [handleFileRequest]
  rcases ignored with short | unknown
  · rw [if_pos short]
  · dsimp only
    rw [if_pos unknown, ite_self]

theorem handleFileRequest_piece {client : Client} {reply : List UInt8} (taken : ¬Ignored reply) :
    handleFileRequest client reply =
      if (takePiece client (byteAt reply 1).toNat reply).reqMask = reqAllPieces then
        completeRequest (takePiece client (byteAt reply 1).toNat reply)
      else takePiece client (byteAt reply 1).toNat reply := by
  obtain ⟨long, known⟩ := not_or.mp taken
  rw [handleFileRequest, if_neg long]
  dsimp only
  rw [if_neg known]
  exact ite_not ..

section Piece
variable {original : RequestBytes} {first client : Client} {pieces : Nat → Bool} {reply : List UInt8}

theorem Assembled.known_piece (assembled : Assembled original first client pieces) (piece : PieceOf original reply) :
    ∀ other, Function.update pieces (byteAt reply 1).toNat true other = true → other < reqPieceCount := by
  intro other there
  by_cases same : other = (byteAt reply 1).toNat
  · exact same ▸ piece.known
  · rw [Function.update_of_ne same] at there
    exact assembled.known other there

theorem Assembled.stored_piece (assembled : Assembled original first client pieces) (piece : PieceOf original reply) :
    ∀ other, Function.update pieces (byteAt reply 1).toNat true other = true →
      ∀ i < reqPieceSize, other * reqPieceSize + i < fileRequestSize →
        (takePiece client (byteAt reply 1).toNat reply).reqBuffer (other * reqPieceSize + i) =
          byteAt original.bytes (other * reqPieceSize + i) := by
  intro other there i small fits
  simp only [takePiece, storePiece]
  by_cases same : other = (byteAt reply 1).toNat
  · subst same
    rw [if_pos ⟨Nat.le_add_right _ _, Nat.add_lt_add_left small _⟩, Nat.add_sub_cancel_left]
    exact piece.same i small fits
  · -- the other pieces are beside this one, and a repeated piece is the same again
    rw [Function.update_of_ne same] at there
    rw [if_neg (by simp only [reqPieceSize] at small ⊢; omega)]
    exact assembled.stored other there i small fits

/-- A piece that is missing now was missing before. -/
theorem missing_before {piece : Nat} (missing : ¬(List.range reqPieceCount).all (Function.update pieces piece true) = true) :
    (List.range reqPieceCount).all pieces = false := by
  rw [Bool.eq_false_iff]
  refine fun all => missing (List.all_eq_true.mpr fun other member => ?_)
  by_cases same : other = piece
  · rw [same, Function.update_self]
  · rw [Function.update_of_ne same]
    exact List.all_eq_true.mp all other member

/-- One reply. -/
theorem Assembled.hear (undecoded : first.request.valid = false)
    (assembled : Assembled original first client pieces) (part : PieceOf original reply ∨ Ignored reply) :
    Assembled original first (handleFileRequest client reply) (hearPiece pieces reply) := by
  rw [hearPiece]
  by_cases ignored : reply.length < 2 + reqPieceSize ∨ (byteAt reply 1).toNat ≥ reqPieceCount
  · rw [handleFileRequest_ignored ignored, if_pos ignored]
    exact assembled
  · have piece := part.resolve_right ignored
    have mask := takePiece_bits assembled.mask piece.known reply
    have inside := assembled.known_piece piece
    have stored := assembled.stored_piece piece
    have complete := reqMask_all_iff mask inside
    rw [handleFileRequest_piece ignored, if_neg ignored]
    by_cases full : (takePiece client (byteAt reply 1).toNat reply).reqMask = reqAllPieces
    · rw [if_pos full]
      have all := complete.mp full
      have held : client.request = first.request ∨ client.request = requestOf original first.request := by
        cases before : (List.range reqPieceCount).all pieces with
        | false => exact .inl (assembled.undecoded before)
        | true => exact .inr (assembled.decoded before)
      refine ⟨?_, inside, ?_, fun missing => absurd (all.symm.trans missing) (by decide), fun _ => ?_⟩
      · rw [completeRequest_mask]
        exact mask
      · rw [completeRequest_buffer]
        exact stored
      · exact completeRequest_requestOf undecoded (fun pos => pieces_cover stored all) held
    · rw [if_neg full]
      have missing := complete.not.mp full
      exact ⟨mask, inside, stored, fun _ => assembled.undecoded (missing_before missing), fun all => absurd all missing⟩

end Piece

theorem Assembled.hears {original : RequestBytes} {first client : Client} {pieces : Nat → Bool}
    (undecoded : first.request.valid = false) (assembled : Assembled original first client pieces)
    {replies : List (List UInt8)} (parts : ∀ reply ∈ replies, PieceOf original reply ∨ Ignored reply) :
    Assembled original first (replies.foldl handleFileRequest client) (replies.foldl hearPiece pieces) := by
  induction replies generalizing client pieces with
  | nil => exact assembled
  | cons reply rest ih =>
      exact ih (assembled.hear undecoded (parts reply List.mem_cons_self)) fun other member =>
        parts other (List.mem_cons_of_mem reply member)

/-- Nothing is decoded before all pieces have come, in whatever order and however often;
from then on the record says what the request says. -/
theorem request_reassembled (original : RequestBytes) {client : Client} (unheard : client.reqMask = 0)
    (undecoded : client.request.valid = false) {replies : List (List UInt8)}
    (parts : ∀ reply ∈ replies, PieceOf original reply ∨ Ignored reply) :
    let after := replies.foldl handleFileRequest client
    ((∃ piece < reqPieceCount, ¬Arrived replies piece) → after.request = client.request) ∧
      ((∀ piece < reqPieceCount, Arrived replies piece) →
        after.request = requestOf original client.request ∧
          (after.request.isStation = true ↔ after.request.nameLen = hostNameLen ∧
            after.request.name = List.replicate hostNameLen 0x20)) := by
  intro after
  have blank : Assembled original client client fun _ => false :=
    ⟨by simp [unheard], nofun, nofun, fun _ => rfl, nofun⟩
  have assembled := blank.hears undecoded parts
  have arrived : ∀ piece, replies.foldl hearPiece (fun _ => false) piece = true ↔ Arrived replies piece :=
    fun piece => (hearPieces_iff replies _ piece).trans (or_iff_right (by decide))
  refine ⟨fun ⟨piece, inside, missing⟩ => assembled.undecoded ?_, fun all => ?_⟩
  · rw [Bool.eq_false_iff]
    exact fun all => missing ((arrived piece).mp
      (List.all_eq_true.mp all piece (List.mem_range.mpr inside)))
  · have decoded : after.request = requestOf original client.request :=
      assembled.decoded (List.all_eq_true.mpr fun piece member =>
        (arrived piece).mpr (all piece (List.mem_range.mp member)))
    refine ⟨decoded, ?_⟩
    rw [decoded]
    simp only [requestOf, decide_eq_true_eq]

/-- The request of a station client, which gives ten spaces for its name. -/
def spacesRequest : RequestBytes where
  bytes := [1, 2, 3, 4, 0x25, 10] ++ (List.replicate 10 [0x20, 0]).flatten ++ [1, 0, 7]
  whole := rfl

/-- Its pieces in the order it sends them, the first again, and a piece that there is not. -/
def spacesReplies : List (List UInt8) :=
  [[7, 1, 0x20, 0, 0x20, 0, 0x20, 0], [7, 2, 0x20, 0, 0x20, 0, 0x20, 0], [7, 5, 0, 0, 0, 0, 0, 0],
    [7, 3, 0x20, 0, 0x20, 0, 0x20, 0], [7, 4, 0x20, 0, 1, 0, 7, 0], [7, 0, 1, 2, 3, 4, 0x25, 10],
    [7, 1, 0x20, 0, 0x20, 0, 0x20, 0]]

theorem station_request_reassembled :
    (spacesReplies.foldl handleFileRequest {}).request = requestOf spacesRequest {} := by
  have part : ∀ reply ∈ spacesReplies,
      2 + reqPieceSize ≤ reply.length ∧ (byteAt reply 1).toNat < reqPieceCount ∧
        (∀ i < reqPieceSize, (byteAt reply 1).toNat * reqPieceSize + i < fileRequestSize →
          byteAt reply (2 + i) =
            byteAt spacesRequest.bytes ((byteAt reply 1).toNat * reqPieceSize + i)) ∨
      (byteAt reply 1).toNat ≥ reqPieceCount := by decide
  have arrived : ∀ piece < reqPieceCount, ∃ reply ∈ spacesReplies,
      ¬(reply.length < 2 + reqPieceSize ∨ (byteAt reply 1).toNat ≥ reqPieceCount) ∧
        (byteAt reply 1).toNat = piece := by decide
  exact ((request_reassembled spacesRequest rfl rfl fun reply member =>
    (part reply member).imp (fun ⟨long, known, same⟩ => ⟨long, known, same⟩) .inr).2 arrived).1

end Dswifi.DlPlay
