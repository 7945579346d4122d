import TinySocks.Core.Base64
import TinySocks.Core.Http1
import TinySocks.Core.Utf8
import TinySocks.L1Encoding.Net

/-!
# The libraries the proxy is linked with

The parts of `httparse`, `http`, `base64`, `subtle` and `ipnet` the proxy
calls, as parameters: a theorem about the proxy holds for all of them, and
names what it relies on where it needs more (`CtEqExact`, `Base64Exact`,
`FamiliesApart`, `IpNetText`, `HeadStable`, `HeadLocal`, `ReadsHeads`).
`plainLibs` is an instance that has all of this.
-/
namespace TinySocks.L1

open TinySocks.Core

/-- `ipnet::IpNet` -/
structure IpNet where
  addr : IpAddr
  prefixLen : Nat
  deriving DecidableEq, Repr

/-- `httparse::Request` after `parse`; header values are bytes. -/
structure ParsedHead where
  method : Option Str
  path : Option Str
  version : Option Nat
  headers : List (Str × Bytes)
  deriving DecidableEq, Repr

/-- What `httparse::Request::parse` returns for a buffer. -/
inductive ParseStatus where
  | complete (headerEnd : Nat) (head : ParsedHead)
  | more
  | tooManyHeaders
  | bad
  deriving DecidableEq, Repr

/-- `http::uri::Authority`, as far as it is looked at. -/
structure Authority where
  host : Str
  portU16 : Option UInt16
  deriving DecidableEq, Repr

/-- `http::Uri` -/
structure Uri where
  schemeStr : Option Str
  authority : Option Authority
  pathAndQuery : Option Str
  deriving DecidableEq, Repr

structure Libs where
  /-- `Request::parse` with room for `MAX_HEADERS` headers -/
  httparse : Bytes → ParseStatus
  parseAuthority : Str → Option Authority
  parseUri : Str → Option Uri
  /-- `STANDARD.decode` -/
  base64Decode : Bytes → Option Bytes
  /-- `ConstantTimeEq::ct_eq` -/
  ctEq : Bytes → Bytes → Bool
  parseIpNet : Str → Option IpNet
  ipNetNew : IpAddr → Nat → Option IpNet
  ipNetContains : IpNet → IpAddr → Bool

/-! ## What the proxy relies on -/

/-- `subtle`: comparing in constant time is comparing. -/
def Libs.CtEqExact (L : Libs) : Prop := ∀ a b, L.ctEq a b = true ↔ a = b

/-- `ipnet`: no network contains an address of the other family. -/
def Libs.FamiliesApart (L : Libs) : Prop := ∀ net ip, L.ipNetContains net ip = true → (net.addr.IsV4 ↔ ip.IsV4)

/-- `ipnet`: a network is written as an address and the length of its prefix. -/
def Libs.IpNetText (L : Libs) : Prop :=
  ∀ s net, L.parseIpNet s = some net → '/' ∈ s ∧ ∀ c ∈ s, AddressChar c ∨ c = '/'

/-- `base64`: decoding undoes encoding. -/
def Libs.Base64Exact (L : Libs) : Prop := ∀ b, L.base64Decode (Base64.encode b) = some b

/-- `httparse`: the head of a request is reported the same whatever follows
it, and a part of it asks for more. -/
structure Libs.HeadStable (L : Libs) : Prop where
  le : ∀ {b n head}, L.httparse b = .complete n head → n ≤ b.length
  append : ∀ {b n head}, L.httparse b = .complete n head →
    ∀ ext, L.httparse (b ++ ext) = .complete n head
  take : ∀ {b n head}, L.httparse b = .complete n head →
    ∀ k, k < n → L.httparse (b.take k) = .more

/-- `httparse`: what it reports is decided by the head alone. -/
structure Libs.HeadLocal (L : Libs) : Prop extends L.HeadStable where
  block : ∀ {b n head}, L.httparse b = .complete n head → L.httparse (b.take n) = .complete n head
  empty : L.httparse [] = .more

/-- The most headers there is room for. -/
def MAX_HEADERS : Nat := 128

/-- What `httparse` makes of a well-formed head. -/
def headOf (h : Http1.Head) : ParsedHead where
  method := some (Utf8.ofAscii h.method)
  path := some (Utf8.ofAscii h.target)
  version := some (if h.minor = 0x31 then 1 else 0)
  headers := h.fields.map fun f => (Utf8.ofAscii f.name, f.value)

/-- `httparse` reads well-formed heads. -/
def Libs.ReadsHeads (L : Libs) : Prop :=
  ∀ h : Http1.Head, h.WellFormed → h.fields.length ≤ MAX_HEADERS → ∀ rest,
    L.httparse (h.print ++ rest) = .complete h.print.length (headOf h)

/-! ## An instance -/

def plainHttparse (b : Bytes) : ParseStatus :=
  match Http1.parse b with
  | .complete n method target minor fields =>
    if MAX_HEADERS < fields.length then .tooManyHeaders
    else .complete n {
      method := some (Utf8.ofAscii method)
      path := some (Utf8.ofAscii target)
      version := some (if minor = 0x31 then 1 else 0)
      headers := fields.map fun f => (Utf8.ofAscii f.1, f.2) }
  | .more => .more
  | .bad => .bad

/-- `host`, `host:port` or `[v6]:port`. -/
def plainAuthority (s : Str) : Option Authority :=
  let (host, rest) := match s with
    | '[' :: _ => ((s.takeWhile (· ≠ ']')) ++ "]", (s.dropWhile (· ≠ ']')).drop 1)
    | _ => (s.takeWhile (· ≠ ':'), s.dropWhile (· ≠ ':'))
  if s = [] ∨ s.any (fun c => c = '/' ∨ isWhitespace c) then none
  else
    match rest with
    | [] => some { host, portU16 := none }
    | ':' :: digits =>
      match readNumber 10 5 65535 true digits with
      | some (port, []) => some { host, portU16 := some (UInt16.ofNat port) }
      | _ => some { host, portU16 := none }
    | _ => none

/-- `scheme://authority` and what follows it. -/
def plainUri (s : Str) : Option Uri :=
  match s.dropWhile (· ≠ ':') with
  | ':' :: '/' :: '/' :: rest =>
    let path := rest.dropWhile fun c => c ≠ '/' ∧ c ≠ '?'
    (plainAuthority (rest.takeWhile fun c => c ≠ '/' ∧ c ≠ '?')).map fun authority =>
      { schemeStr := some (s.takeWhile (· ≠ ':'))
        authority := some authority
        pathAndQuery := if path = [] then none else some path }
  | _ => none

def ipValue : IpAddr → Nat
  | .v4 ip => ip.1.foldl (fun n b => n * 256 + b.toNat) 0
  | .v6 ip => ip.1.foldl (fun n b => n * 256 + b.toNat) 0

def maxPrefixLen : IpAddr → Nat
  | .v4 _ => 32
  | .v6 _ => 128

def plainIpNetNew (addr : IpAddr) (prefixLen : Nat) : Option IpNet :=
  if prefixLen ≤ maxPrefixLen addr then some { addr, prefixLen } else none

def plainParseIpNet (s : Str) : Option IpNet :=
  match parseIpAddr (s.takeWhile (· ≠ '/')), s.dropWhile (· ≠ '/') with
  | some addr, _ :: digits =>
    match readNumber 10 3 128 true digits with
    | some (prefixLen, []) => plainIpNetNew addr prefixLen
    | _ => none
  | _, _ => none

def plainIpNetContains (net : IpNet) (ip : IpAddr) : Bool :=
  let unit := 1 <<< (maxPrefixLen ip - net.prefixLen)
  maxPrefixLen net.addr == maxPrefixLen ip && ipValue net.addr / unit == ipValue ip / unit

def plainLibs : Libs where
  httparse := plainHttparse
  parseAuthority := plainAuthority
  parseUri := plainUri
  base64Decode := Base64.decode
  ctEq a b := a == b
  parseIpNet := plainParseIpNet
  ipNetNew := plainIpNetNew
  ipNetContains := plainIpNetContains

theorem plainLibs_ctEqExact : plainLibs.CtEqExact := fun _ _ => beq_iff_eq

theorem plainLibs_base64Exact : plainLibs.Base64Exact := Base64.decode_encode

theorem plainLibs_familiesApart : plainLibs.FamiliesApart := by
  intro net ip h
  have hlen : maxPrefixLen net.addr = maxPrefixLen ip := beq_iff_eq.1 (Bool.and_eq_true_iff.1 h).1
  cases hn : net.addr <;> cases ip <;> rw [hn] at hlen <;>
    first
      | exact Iff.rfl
      | cases hlen

theorem plainLibs_ipNetText : plainLibs.IpNetText := by
  intro s net h
  change plainParseIpNet s = some net at h
  unfold plainParseIpNet at h
  split at h
  · rename_i addr c digits haddr hrest
    split at h
    · rename_i prefixLen hn
      have hc : c = '/' := by
        have hhead := List.head?_dropWhile_not (fun c => decide (c ≠ '/')) s
        rw [hrest] at hhead
        simpa using hhead
      rw [← List.takeWhile_append_dropWhile (p := fun c => decide (c ≠ '/')) (l := s), hrest]
      refine ⟨by simp [hc], ?_⟩
      refine List.forall_mem_append.2 ⟨fun x hx => .inl (parseIpAddr_chars haddr x hx), ?_⟩
      refine List.forall_mem_cons.2 ⟨.inr hc, fun x hx => .inl ?_⟩
      exact (readsAddress_number (by decide) _ _ _ _ _ _ hn).all x hx
    · cases h
  · cases h

/-- A complete head comes from a complete head. -/
theorem plainHttparse_complete {b : Bytes} {n : Nat} {head : ParsedHead}
    (h : plainHttparse b = .complete n head) :
    ∃ method target minor fields, Http1.parse b = .complete n method target minor fields := by
  unfold plainHttparse at h
  cases hp : Http1.parse b with
  | complete m method target minor fields =>
    rw [hp] at h
    simp only at h
    split at h
    · cases h
    · cases h
      exact ⟨method, target, minor, fields, rfl⟩
  | more =>
    rw [hp] at h
    cases h
  | bad =>
    rw [hp] at h
    cases h

theorem plainLibs_headStable : plainLibs.HeadStable where
  le := by
    intro b n head h
    obtain ⟨_, _, _, _, hp⟩ := plainHttparse_complete h
    exact Http1.parse_le hp
  append := by
    intro b n head h ext
    obtain ⟨_, _, _, _, hp⟩ := plainHttparse_complete h
    have ha := Http1.parse_append hp (by simp) ext
    rw [← h]
    show plainHttparse (b ++ ext) = plainHttparse b
    unfold plainHttparse
    rw [hp, ha]
  take := by
    intro b n head h k hk
    obtain ⟨_, _, _, _, hp⟩ := plainHttparse_complete h
    show plainHttparse (b.take k) = .more
    unfold plainHttparse
    rw [Http1.parse_take hp hk]

theorem plainLibs_headLocal : plainLibs.HeadLocal where
  toHeadStable := plainLibs_headStable
  block := by
    intro b n head h
    obtain ⟨_, _, _, _, hp⟩ := plainHttparse_complete h
    rw [← h]
    show plainHttparse (b.take n) = plainHttparse b
    unfold plainHttparse
    rw [hp, Http1.parse_head hp]
  empty := rfl

theorem plainLibs_readsHeads : plainLibs.ReadsHeads := by
  intro h hw hlen rest
  show plainHttparse (h.print ++ rest) = _
  unfold plainHttparse
  rw [Http1.parse_print hw rest]
  simp only [List.length_map, if_neg (Nat.not_lt.2 hlen)]
  simp [headOf]

end TinySocks.L1
