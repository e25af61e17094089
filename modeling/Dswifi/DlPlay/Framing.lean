import Dswifi.DlPlay.Serving

/-! The frames the host lays out. A frame announces in its first byte how many
halfwords follow the two bytes of the header, and a receiver takes what comes
after them for the list of clients. -/

namespace Dswifi.DlPlay

open ByteMemory MpHost

/-! The messages of the senders, each with what its sender writes. -/

/-- What goes out on the multiboot port. -/
inductive Command where
  | start
  | dummy
  | fileInfo
  | block (block : Nat) (fileId : UInt8)
  | bootReq
  | app
  | sessionEnd
  deriving DecidableEq, Repr

def commandHeader : Command → UInt8
  | .sessionEnd => 0
  | _ => flagsNormal

/-- `none` is a block that the program does not have. -/
def commandPayload (host : Host) : Command → Option (List UInt8)
  | .start => some (shortPayload cmdOpSendstart)
  | .dummy => some (shortPayload 0)
  | .fileInfo => some (cmdOpDlFileinfo :: fileInfo host)
  | .block block fileId =>
    (romGetBlock host.rom block).map fun (data, size) =>
      blockPayload host block fileId (readBytes host.rom.rom data size)
  | .bootReq => some (shortPayload cmdOpBootreq)
  | .app => some (cmdOpApp :: host.appOut)
  | .sessionEnd => some []

/-- What goes out on the ports of a station. -/
inductive StationMessage where
  | length
  | chunk (size : Nat) (content : Nat → UInt8)
  | ending

def stationPort (station : StationClient) : StationMessage → Nat
  | .length => portStationName
  | _ => station.port

/-- What the sender writes: the padding of an odd chunk is there before. -/
def stationWritten (station : StationClient) : StationMessage → List UInt8
  | .length => u32Bytes station.size
  | .chunk size content => u16Bytes station.index ++ (List.range size).map content
  | .ending => stationEndPayload

def stationPayload (station : StationClient) : StationMessage → List UInt8
  | .chunk size content => stationChunkPayload station.index size content
  | message => stationWritten station message

inductive Message where
  | command (command : Command) (dest : Mask)
  | station (aid : Nat) (message : StationMessage)

/-- The frame that Wifi_DlPlayCmdStart or Wifi_DlPlayStationCmdStart and the sender
lay out; `none` where the builder refuses. -/
def messageFrame (world : World) : Message → Option (List UInt8)
  | .command command dest =>
    (commandPayload world.host command).bind fun payload => cmdStart world (commandHeader command) payload dest
  | .station aid message =>
    let station := (world.host.clients aid).station
    let payload := stationPayload station message
    (stationCmdStart world aid (stationPort station message) payload.length).map fun started =>
      stationFrame started aid (stationPort station message) payload

def messageWritten (world : World) : Message → List UInt8
  | .command command _ => (commandPayload world.host command).getD []
  | .station aid message => stationWritten (world.host.clients aid).station message

/-- The clients of `dest` that are associated. -/
def clientList (world : World) (dest : Mask) : List UInt8 :=
  u16Bytes (dest &&& associatedMask world.mp).toNat

/-- What belongs behind the payload. -/
def messageTrailer (world : World) : Message → List UInt8
  | .command command dest =>
    if commandHeader command &&& flagsHasFooter ≠ 0 then clientList world dest else []
  | .station aid message =>
    let station := (world.host.clients aid).station
    u16Bytes ((station.seq (stationPort station message) + 1) % 65536) ++ clientList world (bit 16 aid)

/-! What a receiver makes of a frame. -/

/-- The size that the first byte announces, in bytes. -/
def announced (frame : List UInt8) : Nat := 2 * (byteAt frame 0).toNat

/-- A receiver that goes by the announced size finds all that was written, and
what belongs behind it. -/
structure Framed (written trailer frame : List UInt8) : Prop where
  payload : written <+: (frame.drop 2).take (announced frame)
  trailer : frame.drop (2 + announced frame) = trailer

/-- The announced size rounds down: a payload of odd length loses its last byte. -/
theorem framed_iff (header : UInt8) {payload : List UInt8} (trailer : List UInt8)
    (short : payload.length < 512) :
    Framed payload trailer
        ([UInt8.ofNat (payload.length / 2), header] ++ payload ++ trailer) ↔
      payload.length % 2 = 0 := by
  have size : announced ([UInt8.ofNat (payload.length / 2), header] ++ payload ++ trailer) =
      2 * (payload.length / 2) := by
    simp only [announced, byteAt, List.cons_append, List.nil_append, List.getD_cons_zero,
      UInt8.toNat_ofNat']
    omega
  constructor
  · intro framed
    have inside := framed.payload.length_le
    rw [size, List.length_take] at inside
    omega
  · intro even
    have whole : 2 * (payload.length / 2) = payload.length := by omega
    refine ⟨?_, ?_⟩
    · rw [size, whole]
      simp
    · rw [size, whole, show 2 + payload.length = payload.length + 1 + 1 by omega]
      simp

/-- A byte of padding behind the payload keeps a receiver in step. -/
theorem Framed.of_padded {written padding trailer frame : List UInt8}
    (framed : Framed (written ++ padding) trailer frame) : Framed written trailer frame :=
  ⟨(List.prefix_append written padding).trans framed.payload, framed.trailer⟩

/-! The payloads. -/

@[simp] theorem shortPayload_length (opcode : UInt8) :
    (shortPayload opcode).length = cmdSizeShort := rfl

@[simp] theorem headerField_length (rom : Rom) (offset : Nat) :
    (headerField rom offset).length = 4 := by simp [headerField]

@[simp] theorem rsaBytes_length (rom : Rom) : (rsaBytes rom).length = ndsRsaSize := by
  unfold rsaBytes
  split
  · simp
  · simp

theorem userParamBytes_length (userParam : Option (List UInt8)) :
    (userParamBytes userParam).length = userParamSize := by
  rw [userParamBytes, List.length_map, List.length_range]

theorem u32Bytes_length (value : Nat) : (u32Bytes value).length = 4 := rfl

theorem gap_length : gap.length = 4 := rfl

theorem fileInfo_length (host : Host) : (fileInfo host).length = 0xE9 := by
  -- unfolding by the equation of the definition takes seconds
  delta fileInfo
  simp only [List.length_append, headerField_length, gap_length, u32Bytes_length,
    rsaBytes_length, userParamBytes_length, List.length_cons, List.length_nil, ndsRsaSize,
    userParamSize]

def payloadLength (host : Host) : Command → Nat
  | .start | .dummy | .bootReq => cmdSizeShort
  | .fileInfo => 0xEA
  | .block block _ => ((romGetBlock host.rom block).map Prod.snd).getD 0 + blockOverhead
  | .app => host.appOut.length + 1
  | .sessionEnd => 0

theorem commandPayload_length {host : Host} {command : Command} {payload : List UInt8}
    (built : commandPayload host command = some payload) :
    payload.length = payloadLength host command := by
  cases command with
  | block block fileId =>
      simp only [commandPayload, Option.map_eq_some_iff] at built
      obtain ⟨⟨data, size⟩, found, rfl⟩ := built
      simp [payloadLength, found, blockPayload, u16Bytes, blockOverhead]
  | fileInfo =>
      obtain rfl := Option.some.inj built
      simp [payloadLength, fileInfo_length]
  | _ =>
      obtain rfl := Option.some.inj built
      rfl

/-! The frames. -/

/-- A block of an even number of bytes, a message of an odd number; everything else
takes whole halfwords. -/
def WholeHalfwords (world : World) : Message → Prop
  | .command (.block block _) _ =>
    ∀ data size, romGetBlock world.host.rom block = some (data, size) → size % 2 = 0
  | .command .app _ => world.host.appOut.length % 2 = 1
  | _ => True

theorem cmdStart_framed {world : World} {header : UInt8} {payload frame : List UInt8} {dest : Mask}
    (listed : header &&& flagsHasFooter ≠ 0) (built : cmdStart world header payload dest = some frame) :
    Framed payload (clientList world dest) frame ↔ payload.length % 2 = 0 := by
  simp only [cmdStart, if_pos listed, Option.ite_none_left_eq_some, Option.some.injEq] at built
  obtain ⟨fits, rfl⟩ := built
  simp only [cmdFrameSize, cmdDataSize] at fits
  rw [clientList, associatedMask, ← BitVec.and_assoc]
  exact framed_iff header _ (by omega)

theorem sessionEnd_framed {world : World} {dest : Mask} {frame : List UInt8}
    (built : cmdStart world 0 [] dest = some frame) : Framed [] [] frame := by
  have same : some [0, 0] = some frame := by
    rw [← built]
    simp [cmdStart, flagsHasFooter, cmdFrameSize]
  obtain rfl := Option.some.inj same
  exact ⟨List.nil_prefix, rfl⟩

theorem command_framed_iff {world : World} {command : Command} {dest : Mask} {frame : List UInt8}
    (built : messageFrame world (.command command dest) = some frame) :
    Framed (messageWritten world (.command command dest))
        (messageTrailer world (.command command dest)) frame ↔
      WholeHalfwords world (.command command dest) := by
  simp only [messageFrame, Option.bind_eq_some_iff] at built
  obtain ⟨payload, laid, built⟩ := built
  have length := commandPayload_length laid
  simp only [messageWritten, laid, Option.getD_some, messageTrailer]
  cases command with
  | sessionEnd =>
      obtain rfl := Option.some.inj laid
      exact iff_of_true (sessionEnd_framed built) trivial
  | block block fileId =>
      have listed : commandHeader (.block block fileId) &&& flagsHasFooter ≠ 0 :=
        show flagsNormal &&& flagsHasFooter ≠ 0 by decide
      rw [if_pos listed, cmdStart_framed listed built, length]
      simp only [commandPayload, Option.map_eq_some_iff] at laid
      obtain ⟨⟨data, size⟩, found, -⟩ := laid
      simp only [payloadLength, WholeHalfwords, found, Option.map_some, Option.getD_some, Option.some.injEq,
        Prod.mk.injEq, blockOverhead]
      constructor
      · rintro even _ _ ⟨rfl, rfl⟩
        omega
      · intro even
        have := even data size ⟨rfl, rfl⟩
        omega
  | app =>
      rw [if_pos (by decide), cmdStart_framed (by decide) built, length]
      simp only [payloadLength, WholeHalfwords]
      omega
  | _ =>
      rw [if_pos (by decide), cmdStart_framed (by decide) built, length]
      exact iff_of_true (by simp [payloadLength, cmdSizeShort]) trivial

/-- The padding makes a payload of whole halfwords of every chunk. -/
theorem stationPayload_written (station : StationClient) (message : StationMessage) :
    ∃ padding, stationPayload station message = stationWritten station message ++ padding ∧
      (stationPayload station message).length % 2 = 0 := by
  cases message with
  | chunk size content =>
      refine ⟨List.replicate (size % 2) 0, rfl, ?_⟩
      simp only [stationPayload, stationChunkPayload, List.length_append, List.length_map,
        List.length_range, List.length_replicate, u16Bytes, List.length_cons, List.length_nil]
      omega
  | length => exact ⟨[], by simp [stationPayload], by simp [stationPayload, stationWritten, u32Bytes]⟩
  | ending =>
      exact ⟨[], by simp [stationPayload],
        by simp [stationPayload, stationWritten, stationEndPayload, u16Bytes]⟩

/-- The counter of the port has gone up when the frame is laid out. -/
theorem stationFrame_started {world started : World} {aid port size : Nat} (payload : List UInt8)
    (begun : stationCmdStart world aid port size = some started) :
    2 + size + 2 + 2 ≤ cmdFrameSize ∧ stationFrame started aid port payload =
      [UInt8.ofNat (payload.length / 2), UInt8.ofNat port ||| flagsHasFooter] ++ payload ++
        (u16Bytes (((world.host.clients aid).station.seq port + 1) % 65536) ++
          clientList world (bit 16 aid)) := by
  simp only [stationCmdStart, Option.ite_none_left_eq_some, Option.some.injEq] at begun
  obtain ⟨_, fits, rfl⟩ := begun
  refine ⟨Nat.le_of_not_lt fits, ?_⟩
  have counted : ((world.changeStation aid fun station => { station with
      seq := Function.update station.seq port ((station.seq port + 1) % 65536) }).host.clients
        aid).station.seq port = ((world.host.clients aid).station.seq port + 1) % 65536 := by simp
  rw [stationFrame, counted, clientList, associatedMask, ← BitVec.and_assoc, List.append_assoc]
  rfl

theorem station_framed {world : World} {aid : Nat} {message : StationMessage} {frame : List UInt8}
    (built : messageFrame world (.station aid message) = some frame) :
    Framed (messageWritten world (.station aid message))
      (messageTrailer world (.station aid message)) frame := by
  simp only [messageFrame, Option.map_eq_some_iff] at built
  obtain ⟨started, begun, rfl⟩ := built
  obtain ⟨fits, laid⟩ :=
    stationFrame_started (stationPayload (world.host.clients aid).station message) begun
  obtain ⟨padding, whole, even⟩ := stationPayload_written (world.host.clients aid).station message
  simp only [cmdFrameSize, cmdDataSize] at fits
  have short : (stationPayload (world.host.clients aid).station message).length < 512 := by omega
  have framed := (framed_iff (UInt8.ofNat (stationPort (world.host.clients aid).station message) |||
    flagsHasFooter) (messageTrailer world (.station aid message)) short).mpr even
  rw [laid]
  rw [whole] at framed ⊢
  exact framed.of_padded

theorem messages_framed_iff {world : World} {message : Message} {frame : List UInt8}
    (built : messageFrame world message = some frame) :
    Framed (messageWritten world message) (messageTrailer world message) frame ↔
      WholeHalfwords world message := by
  cases message with
  | command command dest => exact command_framed_iff built
  | station aid message => exact iff_of_true (station_framed built) trivial

end Dswifi.DlPlay
