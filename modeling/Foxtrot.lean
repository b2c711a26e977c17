import Foxtrot.Foundation.TransitionSystem
import Foxtrot.Foundation.Ledger
import Foxtrot.Session.Manager
import Foxtrot.Session.Operations
import Foxtrot.Session.Ownership
import Foxtrot.Session.Interleaving
import Foxtrot.Foundation.LeaseBook
import Foxtrot.Session.Registry
import Foxtrot.Session.Calls
import Foxtrot.Session.Sequential
import Foxtrot.Session.Agreement
import Foxtrot.Session.Expiry
import Foxtrot.Session.UpdateThread
import Foxtrot.Session.Timely
import Foxtrot.Session.Shutdown
import Foxtrot.Foundation.LittleEndian
import Foxtrot.Foundation.Pieces
import Foxtrot.Wire.ByteArray
import Foxtrot.Server.Handler
import Foxtrot.Server.Harness
import Foxtrot.Server.FetchData
import Foxtrot.Server.StreamIsolation
import Foxtrot.Server.Flags
import Foxtrot.Server.InvokeCapability
import Foxtrot.Server.SessionProtection
import Foxtrot.Server.Workers
import Foxtrot.Server.Proceed
import Foxtrot.Devices.Harness
import Foxtrot.Devices.Ids
import Foxtrot.Devices.Exclusion
import Foxtrot.Server.Answered
import Foxtrot.Server.CompletionQueue
import Foxtrot.Autofill.FillLogic
import Foxtrot.Autofill.Overlap
import Foxtrot.Autofill.ClosedValve
import Foxtrot.Autofill.Reports
import Foxtrot.Autofill.OneFill
import Foxtrot.Foundation.Fallible
import Foxtrot.Wire.Messages
import Foxtrot.Wire.Decoding
import Foxtrot.Wire.Description
import Foxtrot.Wire.NullLogger
import Foxtrot.Wire.Registry
import Foxtrot.Wire.RoundTrip
import Foxtrot.Wire.Advertised
import Foxtrot.Foundation.Trace
import Foxtrot.Fsmd.CryoSystem
import Foxtrot.Fsmd.FillDuration
import Foxtrot.Fsmd.VacuumSystem
import Foxtrot.Server.AuthHandler
import Foxtrot.Server.Challenges
import Foxtrot.Server.Authentication
import Foxtrot.Foundation.PropertyTree
import Foxtrot.Server.Credentials
import Foxtrot.Server.CredentialsFile
import Foxtrot.Foundation.Base64
import Foxtrot.Foundation.Decimal
import Foxtrot.Apt.Messages
import Foxtrot.Apt.Framing
import Foxtrot.Archon.ConfigStore
import Foxtrot.Archon.Adoption
import Foxtrot.Archon.ListInvariants
import Foxtrot.Foundation.MachineArithmetic
import Foxtrot.Pfeiffer.Telegram
import Foxtrot.Pfeiffer.Checksum
import Foxtrot.Pfeiffer.Device
import Foxtrot.Pfeiffer.Tc110
import Foxtrot.Server.ChunkedTransfer
import Foxtrot.Client.SimpleValues
import Foxtrot.Foundation.HandleTable
import Foxtrot.Wire.Handles
import Foxtrot.Core.Capability
import Foxtrot.Python.TypeConversion
import Foxtrot.Python.RoundTrip
import Foxtrot.Python.Arguments
import Foxtrot.Foundation.Numbering
import Foxtrot.Core.Device
import Foxtrot.Core.Invocation
import Foxtrot.Server.Arguments
import Foxtrot.Client.FetchData
import Foxtrot.Apt.Structures
import Foxtrot.Apt.Device
import Foxtrot.Apt.BlockingMove
import Foxtrot.Apt.Parameters
import Foxtrot.Apt.Bsc203
import Foxtrot.Apt.Tim101
import Foxtrot.Apt.Encoders
import Foxtrot.Apt.M30x
import Foxtrot.Rly8.Frames
import Foxtrot.Rly8.Exchanges
import Foxtrot.Protocols.ScsiSerial
import Foxtrot.Protocols.SimpleTcp
import Foxtrot.Protocols.SerialPort
import Foxtrot.Apt.Tim101Status
import Foxtrot.Foundation.Hexadecimal
import Foxtrot.Archon.Modules
import Foxtrot.Archon.Timestamps
import Foxtrot.Archon.Exchange
import Foxtrot.Archon.Frames
import Foxtrot.Foundation.Histories
import Foxtrot.Aravis.ImageStore
import Foxtrot.DlpIor4.Relays
import Foxtrot.Cornerstone.Monochromator
import Foxtrot.Protocols.I2c
import Foxtrot.Chillers.PacedPort
import Foxtrot.Chillers.Uc170
import Foxtrot.Chillers.Pacing
import Foxtrot.Foundation.Occurrences
import Foxtrot.Newport.DataStore
import Foxtrot.Newport.Link
import Foxtrot.Newport.Readings
import Foxtrot.Foundation.IntelHex
import Foxtrot.Stellarnet.Firmware
import Foxtrot.ColdVision.Commands
import Foxtrot.ColdVision.Settings
import Foxtrot.ColdVision.ReadBack
import Foxtrot.Foundation.RefCount
import Foxtrot.Udev.ExternalRefCount
import Foxtrot.Foundation.Recording
import Foxtrot.Server.UnaryRpcs
import Foxtrot.Server.FlagService
import Foxtrot.Client.SharedFlags
import Foxtrot.Server.SessionRpcs
import Foxtrot.Server.SessionAnswers
import Foxtrot.Server.SessionService
import Foxtrot.Python.Sessions
import Foxtrot.Server.LiveDevices
import Foxtrot.Client.RemoteCalls
import Foxtrot.Client.Streams
import Foxtrot.Archon.SettingsStore
import Foxtrot.Server.DescribeServer
import Foxtrot.Python.DeviceTree
import Foxtrot.Server.AuthTool
