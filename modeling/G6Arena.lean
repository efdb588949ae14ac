import G6Arena.Lib.BoundedLoop
import G6Arena.Lib.ByteMem
import G6Arena.Lib.ByteRing
import G6Arena.Lib.Machine
import G6Arena.Lib.Checked
import G6Arena.Lib.SortedLog
import G6Arena.Link.Reply
import G6Arena.Link.Opcodes
import G6Arena.Link.Framing
import G6Arena.Link.Frames
import G6Arena.Link.Exact
import G6Arena.Link.Robust
import G6Arena.Telemetry.Ring
import G6Arena.Telemetry.Calls
import G6Arena.Telemetry.Entries
import G6Arena.Telemetry.Append
import G6Arena.Telemetry.Drain
import G6Arena.Telemetry.Reach
import G6Arena.Telemetry.Crash
import G6Arena.Telemetry.Queue
import G6Arena.Telemetry.Accounting
import G6Arena.Telemetry.Block
import G6Arena.Telemetry.Codec
import G6Arena.Telemetry.RoundTrip
import G6Arena.Telemetry.Host
import G6Arena.Lib.SortedInsert
import G6Arena.Board
import G6Arena.Panel.Crc
import G6Arena.Panel.Protocol
import G6Arena.Sd.Card
import G6Arena.Sd.Manager
import G6Arena.Sd.Calls
import G6Arena.Sd.OpenPattern
import G6Arena.Sd.Listing
import G6Arena.Sd.Reboot
import G6Arena.Sd.Refused
import G6Arena.Link.Source
import G6Arena.Panel.ErrorGlyph
import G6Arena.Panel.Spi
import G6Arena.Command.Env
import G6Arena.Command.Display
import G6Arena.Command.Transfers
import G6Arena.Command.Handlers
import G6Arena.Command.Dispatch
import G6Arena.Command.Machine
import G6Arena.Command.Effects
import G6Arena.Command.Steps
import G6Arena.Command.SameIndex
import G6Arena.Command.Targets
import G6Arena.Link.Client
import G6Arena.Command.Download
import G6Arena.Command.Service
import G6Arena.Command.Dark
import G6Arena.Command.AutoStop
import G6Arena.Link.Log
import G6Arena.Command.Log
import G6Arena.Command.Orderly
import G6Arena.Command.LoopPass
import G6Arena.Sd.Files
import G6Arena.Command.Bulk
import G6Arena.Command.Firmware
import G6Arena.Command.Storage
import G6Arena.Command.Uploads
import G6Arena.Telemetry.Guard
import G6Arena.Lib.DeltaSum
import G6Arena.Health.Record
import G6Arena.Health.Nesting
import G6Arena.Command.Paint
import G6Arena.Command.Timer
import G6Arena.Panel.Blocks
import G6Arena.Command.Blocks
import G6Arena.Command.Wire
import G6Arena.Panel.Spots
import G6Arena.Command.Loaded
import G6Arena.Command.FrameRecords
import G6Arena.Command.Playback
import G6Arena.Lib.WrapClock
import G6Arena.Command.Phase
import G6Arena.Command.Deadline
import G6Arena.Command.AoLut
import G6Arena.Lib.Zip
import G6Arena.Command.Archive
import G6Arena.Command.Sums
import G6Arena.Lib.Crc
import G6Arena.Panel.Checksums
import G6Arena.Panel.IspReply
import G6Arena.Panel.Isp
import G6Arena.Panel.IspSession
import G6Arena.Sd.Burst
import G6Arena.Sd.PatternFile
import G6Arena.Command.BufferSlot
import G6Arena.Command.Superseded
import G6Arena.Lib.Slot
import G6Arena.Command.Streaming
import G6Arena.Command.Coherence
