import Dswifi.DlPlay.Replies

/-! The Download Station content protocol: a request is accepted, its length
announced, and the content sent chunk by chunk. -/

namespace Dswifi.DlPlay

open MpHost

def stationIndexSize : Nat := 2

def World.changeStation (world : World) (aid : Nat) (change : StationClient → StationClient) :
    World :=
  world.setClient aid { world.host.clients aid with station := change (world.host.clients aid).station }

/-- The transfer of a request that has just been accepted. -/
def startTransfer (station : StationClient) (size : Nat) (handle : UInt32) : StationClient :=
  let contentPort := stationStreamPort station.pendingStream
  { station with
    state := .sendDelay
    handle
    size
    port := contentPort
    stream := station.pendingStream
    chunk := if contentPort = portStationMenu then stationChunkPort14 else stationChunkPort15
    index := 0
    ended := false
    wait := 0 }

def stationAcceptRequest (pass : Pass) (world : World) (aid : Nat) : World :=
  let name := (world.host.clients aid).station.pendingName
  let world := world.changeStation aid fun station => { station with pending := false }
  match pass.stationOpen world.log.length name with
  | none => world
  | some (size, handle) =>
    if size = 0 then world else
      let world := world.changeStation aid fun station => startTransfer station size.toNat handle
      world.note (.stationAccepted aid (world.host.clients aid).station.port size.toNat handle)

/-- Wifi_DlPlayStationCmdStart as far as it changes the host: the client's
counter for the port goes up. `none` is the null pointer. -/
def stationCmdStart (world : World) (aid port payloadSize : Nat) : Option World :=
  if port > portStationFile ∨ payloadSize % 2 = 1 then none else
    if 2 + payloadSize + 2 + 2 > cmdFrameSize then none else
      some (world.changeStation aid fun station =>
        { station with
          seq := Function.update station.seq port ((station.seq port + 1) % 65536) })

/-- The frame Wifi_DlPlayStationCmdStart lays out around a payload, addressed to
one client. -/
def stationFrame (world : World) (aid port : Nat) (payload : List UInt8) : List UInt8 :=
  let clients : Mask := bit 16 aid &&& multiplayerGetClientMask world.mp &&& ~~~ 1#16
  [UInt8.ofNat (payload.length / 2), UInt8.ofNat port ||| flagsHasFooter] ++ payload ++
    u16Bytes ((world.host.clients aid).station.seq port) ++ u16Bytes clients.toNat

def stationSendLength (pass : Pass) (world : World) (aid : Nat) : World :=
  let payload := u32Bytes (world.host.clients aid).station.size
  match stationCmdStart world aid portStationName payload.length with
  | none => world
  | some world => (cmdSend pass world (stationFrame world aid portStationName payload)).1

def stationEndPayload : List UInt8 := u16Bytes stationIndexEnd

/-- A chunk after its index. The size byte counts halfwords, so an odd tail is
rounded up with a zero. -/
def stationChunkPayload (index size : Nat) (content : Nat → UInt8) : List UInt8 :=
  u16Bytes index ++ (List.range size).map content ++ List.replicate (size % 2) 0

def stationSendEnd (pass : Pass) (world : World) (aid : Nat) : World × Bool :=
  let port := (world.host.clients aid).station.port
  match stationCmdStart world aid port stationIndexSize with
  | none => (world, false)
  | some world =>
    let (world, queued) := cmdSend pass world (stationFrame world aid port stationEndPayload)
    if !queued then (world, false)
    else (world.changeStation aid fun station => { station with ended := true }, true)

/-- Sending a chunk is progress, so the clock that gives up on a stalled client
starts again. -/
def chunkSent (client : Client) : Client :=
  { client with
    waitCount := 0
    station := { client.station with index := (client.station.index + 1) % 65536 } }

/-- The last chunk is what remains. -/
def chunkSize (station : StationClient) (offset : Nat) : Nat :=
  let remaining := station.size - offset
  if remaining < station.chunk then remaining else station.chunk

def stationSendData (pass : Pass) (world : World) (aid offset : Nat) : World × Bool :=
  let station := (world.host.clients aid).station
  let size := chunkSize station offset
  match stationCmdStart world aid station.port (stationIndexSize + (size + 1) / 2 * 2) with
  | none => (world, false)
  | some world =>
    match pass.stationRead world.log.length station.handle offset size with
    | none => (world.changeStation aid fun station => { station with ended := true }, false)
    | some content =>
      let (world, queued) := cmdSend pass world
        (stationFrame world aid station.port (stationChunkPayload station.index size content))
      if !queued then (world, false)
      else
        ((world.setClient aid (chunkSent (world.host.clients aid))).note
          (.stationChunk aid station.index size), true)

def stationSendChunk (pass : Pass) (world : World) (aid : Nat) : World × Bool :=
  let station := (world.host.clients aid).station
  let offset := station.index * station.chunk
  if offset ≥ station.size then stationSendEnd pass world aid
  else stationSendData pass world aid offset

/-- The loop over DLPLAY_STATION_PER_UPDATE chunks. -/
def stationSendChunks (pass : Pass) (aid : Nat) : Nat → World → World × Bool
  | 0, world => (world, true)
  | count + 1, world =>
    if (world.host.clients aid).station.ended then (world, true) else
      let (world, sent) := stationSendChunk pass world aid
      if !sent then (world, false) else stationSendChunks pass aid count world

def stationServe (pass : Pass) (world : World) (aid : Nat) : World × Bool :=
  let world := world.note (.stationServe aid)
  let world :=
    if (world.host.clients aid).station.pending then stationAcceptRequest pass world aid else world
  let world := world.changeStation aid fun station => { station with wait := station.wait + 1 }
  let station := (world.host.clients aid).station
  match station.state with
  | .sendDelay =>
    if station.wait = 1 then (stationSendLength pass world aid, true)
    else if station.wait > stationSendDelay then
      (world.changeStation aid fun station => { station with wait := 0, state := .data }, false)
    else (world, false)
  | .data =>
    if station.ended then
      (world.changeStation aid fun station => { station with wait := 0, state := .done }, false)
    else stationSendChunks pass aid stationPerUpdate world
  | .idle | .done => (world, false)

end Dswifi.DlPlay
