import NetworkProv.Security.Sec1Run
import NetworkProv.Security.NonInterference
import NetworkProv.Wifi.Overtaken
import NetworkProv.Wifi.Unproven
import NetworkProv.Wifi.FailedApply
import NetworkProv.Wifi.Persisted
import NetworkProv.Wifi.Attempts
import NetworkProv.Wifi.Progress
import NetworkProv.Security.Binding
import NetworkProv.Security.KeyAccounting
import NetworkProv.Manager.Lifecycle
import NetworkProv.Manager.PendingStop
import NetworkProv.Manager.Wait
import NetworkProv.Manager.WifiNet
import NetworkProv.Wifi.Agree
import NetworkProv.Manager.Cycles
import NetworkProv.Manager.AutoStop
import NetworkProv.Manager.Unwind
import NetworkProv.Thread.Config
import NetworkProv.Thread.World
import NetworkProv.Thread.Outcome
import NetworkProv.Thread.FailedApply
import NetworkProv.Core.CText
import NetworkProv.Transport.Http
import NetworkProv.Transport.Cookie
import NetworkProv.Transport.HttpIsolation
import NetworkProv.Transport.Console
import NetworkProv.Security.Lockstep
import NetworkProv.Core.Paging
import NetworkProv.Core.Sweep
import NetworkProv.Wifi.ScanRun
import NetworkProv.Thread.Scan
import NetworkProv.Thread.ScanRun
import NetworkProv.Scan.Results
import NetworkProv.Core.Slots
import NetworkProv.Manager.Endpoints
import NetworkProv.Manager.EndpointTable
import NetworkProv.Manager.EndpointRequests
import NetworkProv.Core.Json
import NetworkProv.Manager.AppInfo
import NetworkProv.Transport.Fallback
import NetworkProv.Wifi.Programmatic
import NetworkProv.Wifi.Fidelity
import NetworkProv.Wifi.Status
import NetworkProv.Manager.Calls
import NetworkProv.Core.Message
import NetworkProv.Proto.Messages
import NetworkProv.Wifi.Wire
import NetworkProv.Proto.Payload
import NetworkProv.Thread.Net
import NetworkProv.Thread.Wire
import NetworkProv.Stack.Backend
import NetworkProv.Stack.Serve
import NetworkProv.Stack.Wifi
import NetworkProv.Stack.Thread
import NetworkProv.Stack.Established
import NetworkProv.Stack.Unverified
import NetworkProv.Security.Security0
import NetworkProv.Stack.Plain
import NetworkProv.Transport.Gatt
import NetworkProv.Transport.GattRuns
import NetworkProv.Transport.GattIdentity
import NetworkProv.Security.Xport
import NetworkProv.Transport.Clients
import NetworkProv.Stack.Transports
import NetworkProv.Security.Seen
import NetworkProv.Transport.ConsoleRuns
import NetworkProv.Transport.HttpRuns
import NetworkProv.Transport.GattVerified
import NetworkProv.Thread.Commit
