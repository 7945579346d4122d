import TinySocks.Core.Ledger
import TinySocks.L2Stream.StatsPage

/-!
# The counters, one by one

`StatOp.apply` moves a counter by what the call weighs on it (`Counter.weight`), so a
sequence of calls moves it by a sum (`Counter.read_foldl`), whatever their order.
-/
namespace TinySocks.L2

open TinySocks.Core

/-- The atomics of `StatsInner`.
mirrors src/stats.rs:28-47 -/
inductive Counter where
  | totalConnections
  | activeConnections
  | socks5Connections
  | httpConnections
  | connectionLimitRejections
  | tcpBytesUp
  | tcpBytesDown
  | udpAssociateSessions
  | udpBytesIn
  | udpBytesOut
  | connectFailures
  | authFailures
  | relayFailures
  deriving DecidableEq, Repr

namespace Counter

def read (c : Counters) : Counter → UInt64
  | totalConnections => c.totalConnections
  | activeConnections => c.activeConnections
  | socks5Connections => c.socks5Connections
  | httpConnections => c.httpConnections
  | connectionLimitRejections => c.connectionLimitRejections
  | tcpBytesUp => c.tcpBytesUp
  | tcpBytesDown => c.tcpBytesDown
  | udpAssociateSessions => c.udpAssociateSessions
  | udpBytesIn => c.udpBytesIn
  | udpBytesOut => c.udpBytesOut
  | connectFailures => c.connectFailures
  | authFailures => c.authFailures
  | relayFailures => c.relayFailures

/-- What a call adds to the counter. -/
def weight : Counter → StatOp → Int
  | totalConnections => tally (· == .incTotalConnections)
  | activeConnections => fun op =>
    tally (· == .incActiveConnections) op - tally (· == .decActiveConnections) op
  | socks5Connections => tally (· == .incSocks5Connections)
  | httpConnections => tally (· == .incHttpConnections)
  | connectionLimitRejections => tally (· == .incConnectionLimitRejections)
  | tcpBytesUp => fun op => op.tcpUp
  | tcpBytesDown => fun op => op.tcpDown
  | udpAssociateSessions => tally (· == .incUdpAssociateSessions)
  | udpBytesIn => fun op => op.udpIn
  | udpBytesOut => fun op => op.udpOut
  | connectFailures => tally (· == .incConnectFailures)
  | authFailures => tally (· == .incAuthFailures)
  | relayFailures => tally (· == .incRelayFailures)

end Counter

theorem ofInt_natCast (n : Nat) : UInt64.ofInt n = .ofNat n := by
  have h : ((n : Int) % 2 ^ 64).toNat = n % UInt64.size := by
    simp only [UInt64.size]
    omega
  rw [UInt64.ofInt, h, UInt64.ofNat_mod_size]

/-- One call. -/
theorem Counter.read_apply (k : Counter) (op : StatOp) (c : Counters) :
    k.read (op.apply c) = k.read c + .ofInt (k.weight op) := by
  cases k with
  | activeConnections =>
    cases op with
    | incActiveConnections => rfl
    | decActiveConnections => exact UInt64.sub_eq_add_neg _ 1
    | _ => exact (UInt64.add_zero _).symm
  | tcpBytesUp | tcpBytesDown | udpBytesIn | udpBytesOut =>
    rw [Counter.weight, ofInt_natCast]
    cases op <;> first | rfl | exact (UInt64.add_zero _).symm
  | _ => cases op <;> first | rfl | exact (UInt64.add_zero _).symm

/-- Any number of them. -/
theorem Counter.read_foldl (k : Counter) (ops : List StatOp) (c : Counters) :
    k.read (ops.foldl StatOp.apply c) = k.read c + .ofInt (weigh k.weight ops) := by
  induction ops generalizing c with
  | nil => exact (UInt64.add_zero _).symm
  | cons op ops ih =>
    rw [List.foldl_cons, ih, k.read_apply, weigh_cons, UInt64.ofInt_add, UInt64.add_assoc]

/-- The five that the accept loop and the dispatch count. -/
def Counter.ofConnections : Counter → Bool
  | totalConnections | activeConnections | socks5Connections | httpConnections
  | connectionLimitRejections => true
  | _ => false

/-- Handlers do not count them. -/
theorem Counter.weight_handlers {k : Counter} (hk : k.ofConnections = true) {op : StatOp}
    (h : op.isHandlers = true) : k.weight op = 0 := by
  cases k with
  | totalConnections | activeConnections | socks5Connections | httpConnections
  | connectionLimitRejections => cases op <;> first | rfl | cases h
  | _ => cases hk

end TinySocks.L2
