import SakuraTools.Lib.Parser
import SakuraTools.Lib.Index
import SakuraTools.ClassFile.Bytes
import SakuraTools.ClassFile.Editor
import SakuraTools.ClassFile.Layout
import SakuraTools.Team.TeamState
import SakuraTools.Team.Scoreboard
import SakuraTools.Team.Alias
import SakuraTools.ClassFile.Bytecode
import SakuraTools.ClassFile.RoundTrip
import SakuraTools.ClassFile.CodeAttribute
import SakuraTools.ClassFile.Edits
import SakuraTools.ClassFile.Prepend
import SakuraTools.ClassFile.Outcome
import SakuraTools.ClassFile.Built
import SakuraTools.Lib.Transition
import SakuraTools.Lib.Interning
import SakuraTools.Server.PacketPolicy
import SakuraTools.Server.RuntimeGate
import SakuraTools.Server.StopServer
import SakuraTools.Server.Relay
import SakuraTools.Server.LoginHandoff
import SakuraTools.Server.Session
import SakuraTools.Server.Moves
import SakuraTools.Server.Handover
import SakuraTools.Server.LoginPath
import SakuraTools.Server.Snapshot
import SakuraTools.Server.Teleport
import SakuraTools.Server.Ownership
import SakuraTools.Server.Target
import SakuraTools.ClassFile.AddConstants
import SakuraTools.ClassFile.Additions
import SakuraTools.ClassFile.ParseBounds
import SakuraTools.ClassFile.BuilderIndex
import SakuraTools.ClassFile.Agreement
import SakuraTools.ClassFile.Refused
import SakuraTools.Lib.Ledger
import SakuraTools.Server.SnapshotJob
import SakuraTools.Server.Buffering
import SakuraTools.Server.Decoder
import SakuraTools.Server.PendingPackets
import SakuraTools.Server.Stream
import SakuraTools.Server.RelayHandler
import SakuraTools.ClassFile.DebugTables
import SakuraTools.Lib.Fitting
import SakuraTools.Lib.Utf16
import SakuraTools.Server.StatusText
import SakuraTools.Lib.Deferred
import SakuraTools.Server.TeamPackets
import SakuraTools.Lib.Codec
import SakuraTools.Server.PlayerInfo
import SakuraTools.Lib.Registry
import SakuraTools.Server.Proxy
import SakuraTools.Server.StopStages
import SakuraTools.Server.StopSession
import SakuraTools.Server.Resident
import SakuraTools.Lib.Machine
import SakuraTools.ClassFile.Generated
import SakuraTools.ClassFile.Execution
import SakuraTools.ClassFile.Hook
import SakuraTools.ClassFile.Retransform
import SakuraTools.Lib.Memory
import SakuraTools.Loader.Image
import SakuraTools.Loader.Exports
import SakuraTools.Loader.Modules
import SakuraTools.Loader.Imports
import SakuraTools.Loader.Relocate
import SakuraTools.Loader.Reflective
import SakuraTools.Loader.Injection
import SakuraTools.Server.Capture
import SakuraTools.Server.SnapshotJni
