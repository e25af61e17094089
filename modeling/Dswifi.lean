import Dswifi.Runs
import Dswifi.Fifo
import Dswifi.Circular
import Dswifi.ByteMemory
import Dswifi.MpHost
import Dswifi.MpHostTable
import Dswifi.KickRequests
import Dswifi.Ring
import Dswifi.RingLayout
import Dswifi.RingRefinement
import Dswifi.TxQueue
import Dswifi.TxQueueRefusal
import Dswifi.DlPlay.Rom
import Dswifi.DlPlay.Host
import Dswifi.DlPlay.Replies
import Dswifi.DlPlay.Station
import Dswifi.DlPlay.Update
import Dswifi.DlPlay.Sends
import Dswifi.DlPlay.Serving
import Dswifi.DlPlay.Turns
import Dswifi.DlPlay.Gathering
import Dswifi.DlPlay.Passes
import Dswifi.DlPlay.Records
import Dswifi.DlPlay.Stages
import Dswifi.DlPlay.Waiting
import Dswifi.DlPlay.BootSafety
import Dswifi.DlPlay.BlankRecords
import Dswifi.DlPlay.StationProgram
import Dswifi.Pieces
import Dswifi.DlPlay.RomBlocks
import Dswifi.DlPlay.BeaconInfo
import Dswifi.DlPlay.RomReads
import Dswifi.DlPlay.Frames
import Dswifi.DlPlay.Framing
import Dswifi.DlPlay.Addressing
import Dswifi.DlPlay.Polling
import Dswifi.DlPlay.AppMessages
import Dswifi.DlPlay.FileIds
import Dswifi.DlPlay.BootRequests
import Dswifi.DlPlay.GiveUp
import Dswifi.DlPlay.AnnouncedRoom
import Dswifi.Beacon
import Dswifi.MacRam
import Dswifi.SlotRing
import Dswifi.StickyTable
import Dswifi.BeaconPatches
import Dswifi.DlPlay.StationTurns
import Dswifi.DlPlay.StationVisits
import Dswifi.DlPlay.StationTransfers
import Dswifi.DlPlay.StationOverrun
import Dswifi.DlPlay.StationLengths
import Dswifi.DlPlay.StationSequence
import Dswifi.DlPlay.StationStream
import Dswifi.Lwip.Mailbox
import Dswifi.Reading
import Dswifi.BeaconFrame
import Dswifi.HostName
import Dswifi.Association
import Dswifi.AssociationRetries
import Dswifi.BeaconParse
import Dswifi.BeaconRoundTrip
import Dswifi.BeaconReads
import Dswifi.Lwip.Ethernet
import Dswifi.Twl.Wpa
import Dswifi.Twl.Handshake
import Dswifi.Twl.KeyState
import Dswifi.TxScheduler
import Dswifi.TxScheduling
import Dswifi.OnesComplement
import Dswifi.DlPlay.FragmentChecksum
import Dswifi.MultiplayerSizes
import Dswifi.DlPlay.RequestPieces
import Dswifi.AccessPoint
import Dswifi.KeyedSlots
import Dswifi.AccessPointHistory
import Dswifi.BeaconLengths
import Dswifi.Twl.BssInfo
import Dswifi.DlPlay.BlockPass
import Dswifi.DlPlay.BlockCursor
import Dswifi.DlPlay.BulkTurns
import Dswifi.DlPlay.WantedTurns
import Dswifi.DlPlay.BulkSharing
import Dswifi.CipherSuites
import Dswifi.TypedElements
import Dswifi.AssociationResponse
import Dswifi.AssociationRequest
import Dswifi.Lwip.ReceivedSizes
import Dswifi.LinkedNodes
import Dswifi.Lwip.Pbuf
import Dswifi.ProbeResponse
import Dswifi.CStrings
import Dswifi.Twl.Connect
import Dswifi.Twl.Disconnection
import Dswifi.Twl.CardMailbox
import Dswifi.Twl.KeyData
import Dswifi.ShiftRegister
import Dswifi.Random
import Dswifi.WfcSettings
import Dswifi.Twl.ScanChannels
import Dswifi.BigEndian
import Dswifi.Twl.PtkAgreement
import Dswifi.RingDrained
import Dswifi.Twl.FirmwareUpload
import Dswifi.Spinlock
import Dswifi.Twl.KeyWrap
import Dswifi.RxQueue
import Dswifi.Leases
import Dswifi.Joining
import Dswifi.MultiplayerFrames
import Dswifi.Scanning
import Dswifi.Bursts
import Dswifi.WfcProfiles
import Dswifi.Connecting
import Dswifi.ModeRequests
import Dswifi.ConnectReports
