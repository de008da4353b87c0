import VtpStreaming.SyncPacket
import VtpStreaming.RocEvents
import VtpStreaming.RocFifo
import VtpStreaming.RocRecord
import VtpStreaming.RocFile
import VtpStreaming.StatsSender
import VtpStreaming.Clib.Scan
import VtpStreaming.Clib.Print
import VtpStreaming.Clib.Lines
import VtpStreaming.Conf
import VtpStreaming.ReadConfigFile
import VtpStreaming.RoundTrip
import VtpStreaming.ReadAll
import VtpStreaming.Agreement
import VtpStreaming.ConfigPath
import VtpStreaming.NetFile
import VtpStreaming.FailedRead
import VtpStreaming.Reload
import VtpStreaming.InBounds
import VtpStreaming.DownloadAll
import VtpStreaming.UploadExact
import VtpStreaming.DownloadTwice
import VtpStreaming.StreamingReadBack
import VtpStreaming.TimeStamps
import VtpStreaming.SyncBytes
import VtpStreaming.SourceId
import VtpStreaming.SenderLife
import VtpStreaming.CrateMsg
import VtpStreaming.CrateStream
import VtpStreaming.CrateBounds
import VtpStreaming.CrateEndian
import VtpStreaming.PayloadMask
import VtpStreaming.SlotMask
import VtpStreaming.StreamCount
import VtpStreaming.UserToBoard
import VtpStreaming.MutexHealth
import VtpStreaming.SerdesLinks
import VtpStreaming.FrameRate
import VtpStreaming.PrestartChecks
import VtpStreaming.FrameLength
import VtpStreaming.StreamCounters
import VtpStreaming.UserEventFailure
import VtpStreaming.TriggerAck
import VtpStreaming.RocFileBounds
import VtpStreaming.RegisterAccess
import VtpStreaming.DownloadExact
import VtpStreaming.UploadReadable
import VtpStreaming.TriggerBank
import VtpStreaming.EventFifo
import VtpStreaming.FieldSetters
import VtpStreaming.HpsTriggers
import VtpStreaming.SingleTrigger
import VtpStreaming.MaskLines
import VtpStreaming.BlankLines
import VtpStreaming.UploadString
import VtpStreaming.FirmwareLoad
import VtpStreaming.LockBalance
import VtpStreaming.ByteCounter
import VtpStreaming.RocRun
import VtpStreaming.RunEvents
import VtpStreaming.ClockChip
import VtpStreaming.ProcessLock
import VtpStreaming.Clib.BusExec
import VtpStreaming.Clib.Latest
import VtpStreaming.RocEventBuilder
import VtpStreaming.RocList
import VtpStreaming.Clib.OpenedOnce
import VtpStreaming.DeviceTable
import VtpStreaming.Clib.Records
import VtpStreaming.RemoteRegisters
import VtpStreaming.Clib.Presented
import VtpStreaming.V7Config
import VtpStreaming.VmeConfig
import VtpStreaming.Clib.Ledger
import VtpStreaming.DmaMemory
import VtpStreaming.RocNet
