import HidHide.ForMathlib.Machine
import HidHide.ForMathlib.PastTime
import HidHide.ForMathlib.HandleCalls
import HidHide.ForMathlib.SearchTree
import HidHide.ForMathlib.ParentList
import HidHide.ForMathlib.LinkedRing
import HidHide.ForMathlib.MultiString
import HidHide.ForMathlib.CellMemory
import HidHide.ForMathlib.Numerals
import HidHide.ForMathlib.Json
import HidHide.ForMathlib.OrderedSet
import HidHide.ForMathlib.OrderedMultimap
import HidHide.ForMathlib.WriteThrough
import HidHide.ForMathlib.CachedCell
import HidHide.ForMathlib.ListBox
import HidHide.ForMathlib.SharedCopies
import HidHide.ForMathlib.Reader
import HidHide.Driver.Basic
import HidHide.Driver.ProcessTree
import HidHide.Driver.Framework
import HidHide.Driver.Property
import HidHide.Driver.ProcessId
import HidHide.Driver.Logic
import HidHide.Driver.Requests
import HidHide.Driver.CollectionEncoder
import HidHide.Driver.ListUpdate
import HidHide.Driver.Operations
import HidHide.Driver.AccessDecision
import HidHide.Driver.Executable
import HidHide.Driver.Lifetime
import HidHide.Driver.Interleaving
import HidHide.Driver.Stores
import HidHide.Driver.CacheCoherence
import HidHide.Driver.OverlappingOpens
import HidHide.Driver.SessionMemory
import HidHide.Driver.SessionBlacklist
import HidHide.Driver.LinkedDriver
import HidHide.Driver.ControlDevice
import HidHide.Driver.Completion
import HidHide.Driver.SessionHiding
import HidHide.Driver.SessionScan
import HidHide.Driver.RegistryKeys
import HidHide.Driver.GrantLog
import HidHide.Driver.Restart
import HidHide.Client.Utils
import HidHide.Client.CliParsing
import HidHide.Client.CliSyntax
import HidHide.Client.CliComposition
import HidHide.Client.FilterDriverProxy
import HidHide.Client.Commands
import HidHide.Client.Path
import HidHide.Client.Volume
import HidHide.Client.ImageNames
import HidHide.Client.Device
import HidHide.Client.Proxy
import HidHide.Client.StoreRefinement
import HidHide.Client.WriteThroughMode
import HidHide.Client.OwnEntry
import HidHide.Client.CommandInterpreter
import HidHide.Client.ListTransfer
import HidHide.Client.Scripts
import HidHide.Client.NestedVolumes
import HidHide.Client.Revocation
import HidHide.Client.MainApplication
import HidHide.Client.ProxyCalls
import HidHide.Client.ExclusiveAccess
import HidHide.Client.DumpRestore
import HidHide.Client.WhitelistDlg
import HidHide.Client.HidDevices
import HidHide.Client.JsonOutput
import HidHide.Client.BlacklistDlg
import HidHide.Client.BlacklistChange
import HidHide.Client.DevNodes
import HidHide.Client.PureContainers
import HidHide.Client.BlacklistPage
import HidHide.Client.HidHideClientDlg
import HidHide.Client.Logging
import HidHide.Watchdog.EtwTraceSession
import HidHide.Watchdog.StaleSessions
import HidHide.Watchdog.DiagnosticsTraceService
import HidHide.Watchdog.TraceHandle
import HidHide.Watchdog.TunedChannels
import HidHide.Watchdog.DiagnosticsTraceHandler
import HidHide.Watchdog.TraceSessions
import HidHide.Watchdog.TraceDownloads
import HidHide.Watchdog.WatchdogTask
