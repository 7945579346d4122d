import TinySocks.Core.Text

/-!
# Statistics calls (`stats.rs`)

The handle's update methods as data (`StatOp`), so that a connection's run
records which it called, and the counters they act on. The counters are
`AtomicU64`: every update is one atomic step and wraps at 2^64.
-/
namespace TinySocks.L2

open TinySocks.Core

/-- mirrors src/stats.rs:182-297, one constructor a method -/
inductive StatOp where
  | incTotalConnections
  | incActiveConnections
  | decActiveConnections
  | incSocks5Connections
  | incHttpConnections
  | incConnectionLimitRejections
  | addTcpBytes (up down : Nat)
  | incUdpAssociateSessions
  | addUdpBytesIn (n : Nat)
  | addUdpBytesOut (n : Nat)
  | incConnectFailures
  | incAuthFailures
  | incRelayFailures
  | recordError (message : Str)
  deriving DecidableEq, Repr

/-- What a connection's handler calls: not what counts connections, which is left
to the accept loop and the dispatch. -/
def StatOp.isHandlers : StatOp → Bool
  | .incTotalConnections | .incActiveConnections | .decActiveConnections
  | .incSocks5Connections | .incHttpConnections | .incConnectionLimitRejections => false
  | _ => true

/-- The counters of `StatsInner`.
mirrors src/stats.rs:25-48 -/
structure Counters where
  totalConnections : UInt64 := 0
  activeConnections : UInt64 := 0
  socks5Connections : UInt64 := 0
  httpConnections : UInt64 := 0
  connectionLimitRejections : UInt64 := 0
  tcpBytesUp : UInt64 := 0
  tcpBytesDown : UInt64 := 0
  udpAssociateSessions : UInt64 := 0
  udpBytesIn : UInt64 := 0
  udpBytesOut : UInt64 := 0
  connectFailures : UInt64 := 0
  authFailures : UInt64 := 0
  relayFailures : UInt64 := 0
  deriving DecidableEq, Repr

/-- One call on an enabled handle. `record_error` acts on the error buffer only.
mirrors src/stats.rs:182-297 -/
def StatOp.apply (c : Counters) : StatOp → Counters
  | .incTotalConnections => { c with totalConnections := c.totalConnections + 1 }
  | .incActiveConnections => { c with activeConnections := c.activeConnections + 1 }
  | .decActiveConnections => { c with activeConnections := c.activeConnections - 1 }
  | .incSocks5Connections => { c with socks5Connections := c.socks5Connections + 1 }
  | .incHttpConnections => { c with httpConnections := c.httpConnections + 1 }
  | .incConnectionLimitRejections =>
    { c with connectionLimitRejections := c.connectionLimitRejections + 1 }
  | .addTcpBytes up down =>
    { c with tcpBytesUp := c.tcpBytesUp + UInt64.ofNat up,
             tcpBytesDown := c.tcpBytesDown + UInt64.ofNat down }
  | .incUdpAssociateSessions => { c with udpAssociateSessions := c.udpAssociateSessions + 1 }
  | .addUdpBytesIn n => { c with udpBytesIn := c.udpBytesIn + UInt64.ofNat n }
  | .addUdpBytesOut n => { c with udpBytesOut := c.udpBytesOut + UInt64.ofNat n }
  | .incConnectFailures => { c with connectFailures := c.connectFailures + 1 }
  | .incAuthFailures => { c with authFailures := c.authFailures + 1 }
  | .incRelayFailures => { c with relayFailures := c.relayFailures + 1 }
  | .recordError _ => c

/-! ## What a call adds to the traffic counters -/

def StatOp.tcpUp : StatOp → Nat
  | .addTcpBytes up _ => up
  | _ => 0

def StatOp.tcpDown : StatOp → Nat
  | .addTcpBytes _ down => down
  | _ => 0

def StatOp.udpIn : StatOp → Nat
  | .addUdpBytesIn n => n
  | _ => 0

def StatOp.udpOut : StatOp → Nat
  | .addUdpBytesOut n => n
  | _ => 0

end TinySocks.L2
