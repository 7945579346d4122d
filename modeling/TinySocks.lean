import TinySocks.Core.Lts
import TinySocks.Core.Effect
import TinySocks.Core.Bytes
import TinySocks.Core.Base64
import TinySocks.Core.Http1
import TinySocks.Core.HeaderBlock
import TinySocks.Core.HttpResponse
import TinySocks.Core.Template
import TinySocks.Core.Text
import TinySocks.Core.Utf8
import TinySocks.Core.Reader
import TinySocks.Core.CommandLine
import TinySocks.Core.References
import TinySocks.Core.Systemd
import TinySocks.Core.FileSystem
import TinySocks.Core.Stages
import TinySocks.Core.Crash
import TinySocks.Core.ServiceManager
import TinySocks.L1Encoding.Net
import TinySocks.L1Encoding.Address
import TinySocks.L1Encoding.Libs
import TinySocks.L2Stream.Stats
import TinySocks.L2Stream.StatsHtml
import TinySocks.L2Stream.StatsPage
import TinySocks.L2Stream.Conn
import TinySocks.L2Stream.Advance
import TinySocks.L2Stream.RecentErrors
import TinySocks.L2Stream.Counter
import TinySocks.L2Stream.Prefixed
import TinySocks.L3Protocol.Config
import TinySocks.L3Protocol.Auth
import TinySocks.L3Protocol.Login
import TinySocks.L3Protocol.Socks
import TinySocks.L3Protocol.HttpHeaders
import TinySocks.L3Protocol.HeaderLists
import TinySocks.L3Protocol.Framing
import TinySocks.L3Protocol.HttpRequest
import TinySocks.L3Protocol.Segmentation
import TinySocks.L3Protocol.Target
import TinySocks.L4App.Tunnel
import TinySocks.L4App.Handler
import TinySocks.L4App.UdpAssociation
import TinySocks.L4App.UdpLive
import TinySocks.L4App.DualStack
import TinySocks.L4App.Http
import TinySocks.L4App.Accounting
import TinySocks.L4App.Credentials
import TinySocks.L4App.Gate
import TinySocks.L4App.Allowlist
import TinySocks.L4App.Loop
import TinySocks.L4App.ForwardedBlock
import TinySocks.L4App.Delivery
import TinySocks.L4App.Chain
import TinySocks.L4App.Session
import TinySocks.L4App.Outcome
import TinySocks.L4App.FrontEnd
import TinySocks.L4App.Answers
import TinySocks.L5Concurrency.Limiter
import TinySocks.L5Concurrency.Books
import TinySocks.L5Concurrency.Draining
import TinySocks.L5Concurrency.Shutdown
import TinySocks.L6Service.Cli
import TinySocks.L6Service.WindowsService
import TinySocks.L6Service.Unit
import TinySocks.L6Service.EnvFile
import TinySocks.L6Service.Install
import TinySocks.L6Service.Lifecycle
import TinySocks.L6Service.LinuxService
import TinySocks.L6Service.WindowsInstall
import TinySocks.L6Service.Worker
import TinySocks.L6Service.Stopping
