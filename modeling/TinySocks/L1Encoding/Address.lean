import TinySocks.Core.Utf8
import TinySocks.L1Encoding.Net

/-!
# SOCKS addresses and the UDP datagram wrapper (`protocol.rs`)

`parseAddressBytes` and `writeAddress` are the decoder and the encoder of a
SOCKS address in a buffer; `parseUdpDatagram` and `encodeUdpDatagram` put
the three header bytes in front and the payload behind.

`Address.wire` is the encoding itself. The encoder emits it for every address
but a domain over 255 bytes (`writeAddress_eq`); the decoder reads it back and
reads nothing else, for every address but the empty domain
(`parseAddressBytes_wire`, `parseAddressBytes_cases`). On no input does the
decoder leave its buffer (`parseUdpDatagram_ne_panic`).
-/
namespace TinySocks.L1

open TinySocks.Core

def SOCKS_VERSION : UInt8 := 0x05
def SOCKS_AUTH_USER : UInt8 := 0x02
def SOCKS_NO_AUTH : UInt8 := 0x00
def SOCKS_CMD_CONNECT : UInt8 := 0x01
def SOCKS_CMD_UDP_ASSOCIATE : UInt8 := 0x03
def ATYP_IPV4 : UInt8 := 0x01
def ATYP_DOMAIN : UInt8 := 0x03
def ATYP_IPV6 : UInt8 := 0x04

/-- mirrors src/protocol.rs:41-46 -/
inductive Address where
  | v4 (ip : Octets 4) (port : UInt16)
  | v6 (ip : Octets 16) (port : UInt16)
  | domain (name : Str) (port : UInt16)
  deriving DecidableEq, Repr

/-- mirrors src/protocol.rs:58-61 -/
structure UdpDatagram where
  destination : Address
  payload : Bytes
  deriving DecidableEq, Repr

/-- mirrors src/protocol.rs:64-70 -/
def bracketIpv6 (host : Str) : Str :=
  if (parseIpv6 host).isSome then "[" ++ host ++ "]" else host

/-- mirrors src/protocol.rs:82-87 -/
def Address.fromSocketAddr : SocketAddr → Address
  | .v4 ip port => .v4 ip port
  | .v6 ip port _ _ => .v6 ip port

/-- mirrors src/protocol.rs:90-102 -/
def Address.toTargetString : Address → Str
  | .v4 ip port => (SocketAddr.new (.v4 ip) port).toStr
  | .v6 ip port => (SocketAddr.new (.v6 ip) port).toStr
  | .domain name port => bracketIpv6 name ++ ":" ++ decimal port.toNat

def invalidUdpPacket : Abort Str := .fail "SocksError::InvalidUdpPacket"

/-- mirrors src/protocol.rs:280-320; the address and its encoded length. -/
def parseAddressBytes (buf : Bytes) : Except (Abort Str) (Address × Nat) := do
  let atyp ← match buf.head? with
    | some b => pure b
    | none => throw invalidUdpPacket
  if atyp = ATYP_IPV4 then
    if buf.length < 1 + 4 + 2 then throw invalidUdpPacket
    else do
      let b1 ← getByte buf 1
      let b2 ← getByte buf 2
      let b3 ← getByte buf 3
      let b4 ← getByte buf 4
      let p0 ← getByte buf 5
      let p1 ← getByte buf 6
      pure (.v4 ⟨[b1, b2, b3, b4], rfl⟩ (fromBeBytes p0 p1), 1 + 4 + 2)
  else if atyp = ATYP_DOMAIN then do
    let len ← match buf[1]? with
      | some b => pure b.toNat
      | none => throw invalidUdpPacket
    if len = 0 ∨ buf.length < 1 + 1 + len + 2 then throw invalidUdpPacket
    else do
      let name ← slice buf 2 (2 + len)
      match Utf8.decode name with
      | none => throw invalidUdpPacket
      | some domain =>
        let p0 ← getByte buf (2 + len)
        let p1 ← getByte buf (2 + len + 1)
        pure (.domain domain (fromBeBytes p0 p1), 1 + 1 + len + 2)
  else if atyp = ATYP_IPV6 then
    if buf.length < 1 + 16 + 2 then throw invalidUdpPacket
    else do
      let ip ← copyFromSlice 16 (← slice buf 1 17)
      let p0 ← getByte buf 17
      let p1 ← getByte buf 18
      pure (.v6 ip (fromBeBytes p0 p1), 1 + 16 + 2)
  else throw invalidUdpPacket

/-- mirrors src/protocol.rs:323-346; the buffer after the address was appended. -/
def writeAddress (out : Bytes) : Address → Except Str Bytes
  | .v4 ip port => .ok (out ++ [ATYP_IPV4] ++ ip.1 ++ toBeBytes port)
  | .v6 ip port => .ok (out ++ [ATYP_IPV6] ++ ip.1 ++ toBeBytes port)
  | .domain name port =>
    if 255 < (Utf8.encode name).length then .error "SocksError::DomainTooLong"
    else .ok (out ++ [ATYP_DOMAIN] ++ [UInt8.ofNat (Utf8.encode name).length] ++ Utf8.encode name ++
      toBeBytes port)

/-- mirrors src/protocol.rs:349-355 -/
def addressEncodedLen : Address → Nat
  | .v4 _ _ => 1 + 4 + 2
  | .v6 _ _ => 1 + 16 + 2
  | .domain name _ => 1 + 1 + (Utf8.encode name).length + 2

/-- mirrors src/protocol.rs:248-268; `none` is a fragment. -/
def parseUdpDatagram (packet : Bytes) : Except (Abort Str) (Option UdpDatagram) := do
  if packet.length < 4 then throw invalidUdpPacket
  else if (← getByte packet 0) ≠ 0 ∨ (← getByte packet 1) ≠ 0 then throw invalidUdpPacket
  else if (← getByte packet 2) ≠ 0 then pure none
  else do
    let (destination, addressLen) ← parseAddressBytes (← sliceFrom packet 3)
    let payload ← sliceFrom packet (3 + addressLen)
    pure (some { destination, payload })

/-- mirrors src/protocol.rs:271-277 -/
def encodeUdpDatagram (source : Address) (payload : Bytes) : Except Str Bytes := do
  let packet ← writeAddress [0, 0, 0] source
  pure (packet ++ payload)

/-! ## The encoding -/

/-- The bytes of an address on the wire. -/
def Address.wire : Address → Bytes
  | .v4 ip port => ATYP_IPV4 :: (ip.1 ++ toBeBytes port)
  | .v6 ip port => ATYP_IPV6 :: (ip.1 ++ toBeBytes port)
  | .domain name port =>
    ATYP_DOMAIN :: UInt8.ofNat (Utf8.encode name).length :: (Utf8.encode name ++ toBeBytes port)

/-- The encoder has a length byte for it. -/
def Address.Encodable : Address → Prop
  | .domain name _ => (Utf8.encode name).length ≤ 255
  | _ => True

/-- The decoder accepts it as well: a domain is not empty. -/
def Address.Readable : Address → Prop
  | .domain name _ => 1 ≤ (Utf8.encode name).length ∧ (Utf8.encode name).length ≤ 255
  | _ => True

theorem Address.Readable.encodable {a : Address} (h : a.Readable) : a.Encodable := by
  cases a with
  | domain name port => exact h.2
  | _ => trivial

theorem wire_length (a : Address) : a.wire.length = addressEncodedLen a := by
  cases a with
  | v4 ip port => simp [Address.wire, addressEncodedLen, ip.2]
  | v6 ip port => simp [Address.wire, addressEncodedLen, ip.2]
  | domain name port =>
    simp [Address.wire, addressEncodedLen]
    omega

/-- The encoder appends `wire`, unless the domain is too long for its length byte. -/
theorem writeAddress_eq (out : Bytes) (a : Address) (h : a.Encodable) :
    writeAddress out a = .ok (out ++ a.wire) := by
  cases a with
  | domain name port =>
    have hl : ¬ 255 < (Utf8.encode name).length := Nat.not_lt.2 h
    simp [writeAddress, Address.wire, hl]
  | _ => simp [writeAddress, Address.wire]

theorem writeAddress_error (out : Bytes) (a : Address) (h : ¬ a.Encodable) :
    writeAddress out a = .error "SocksError::DomainTooLong".toList := by
  cases a with
  | domain name port => exact if_pos (Nat.not_le.1 h)
  | _ => exact absurd trivial h

theorem encodeUdpDatagram_eq (a : Address) (p : Bytes) (h : a.Encodable) :
    encodeUdpDatagram a p = .ok ([0, 0, 0] ++ a.wire ++ p) := by
  unfold encodeUdpDatagram
  rw [writeAddress_eq _ _ h]
  rfl

theorem encodeUdpDatagram_error (a : Address) (p : Bytes) (h : ¬ a.Encodable) :
    encodeUdpDatagram a p = .error "SocksError::DomainTooLong".toList := by
  unfold encodeUdpDatagram
  rw [writeAddress_error _ _ h]
  rfl

theorem encodeUdpDatagram_ok {a : Address} {p packet : Bytes}
    (h : encodeUdpDatagram a p = .ok packet) : a.Encodable ∧ packet = [0, 0, 0] ++ a.wire ++ p := by
  by_cases ha : a.Encodable
  · rw [encodeUdpDatagram_eq a p ha] at h
    cases h
    exact ⟨ha, rfl⟩
  · rw [encodeUdpDatagram_error a p ha] at h
    cases h

/-! ## The decoder reads the encoding -/

theorem parse_v4 (a b c d p q : UInt8) (rest : Bytes) :
    parseAddressBytes (ATYP_IPV4 :: a :: b :: c :: d :: p :: q :: rest) =
      .ok (.v4 ⟨[a, b, c, d], rfl⟩ (fromBeBytes p q), 1 + 4 + 2) := rfl

theorem parse_v6 (ip : Octets 16) (p q : UInt8) (rest : Bytes) :
    parseAddressBytes (ATYP_IPV6 :: (ip.1 ++ p :: q :: rest)) =
      .ok (.v6 ip (fromBeBytes p q), 1 + 16 + 2) := by
  obtain ⟨ip, hip⟩ := ip
  have hs : (slice ([ATYP_IPV6] ++ (ip ++ p :: q :: rest)) 1 17 : Except (Abort Str) Bytes) = .ok ip :=
    slice_append rfl (by omega)
  have hp : (getByte ((ATYP_IPV6 :: ip) ++ p :: q :: rest) 17 : Except (Abort Str) UInt8) = .ok p :=
    getByte_append (by simp [hip])
  have hq : (getByte ((ATYP_IPV6 :: ip ++ [p]) ++ q :: rest) 18 : Except (Abort Str) UInt8) = .ok q :=
    getByte_append (by simp [hip])
  have hl : ¬ (ATYP_IPV6 :: (ip ++ p :: q :: rest)).length < 1 + 16 + 2 := by
    simp [hip]
    omega
  simp only [List.cons_append, List.nil_append, List.append_assoc] at hs hp hq
  unfold parseAddressBytes
  rw [List.head?_cons, if_neg hl, hs, hp, hq]
  simp only [ok_bind, copyFromSlice_eq hip]
  rfl

theorem parse_domain {nb : Bytes} {len : UInt8} (hlen : nb.length = len.toNat) (h0 : len.toNat ≠ 0)
    (p q : UInt8) (rest : Bytes) :
    parseAddressBytes (ATYP_DOMAIN :: len :: (nb ++ p :: q :: rest)) =
      match Utf8.decode nb with
      | none => .error invalidUdpPacket
      | some domain => .ok (.domain domain (fromBeBytes p q), 1 + 1 + len.toNat + 2) := by
  have hs : (slice ([ATYP_DOMAIN, len] ++ (nb ++ p :: q :: rest)) 2 (2 + len.toNat) :
      Except (Abort Str) Bytes) = .ok nb := slice_append rfl (by omega)
  have hp : (getByte ((ATYP_DOMAIN :: len :: nb) ++ p :: q :: rest) (2 + len.toNat) :
      Except (Abort Str) UInt8) = .ok p := getByte_append (by simp; omega)
  have hq : (getByte ((ATYP_DOMAIN :: len :: nb ++ [p]) ++ q :: rest) (2 + len.toNat + 1) :
      Except (Abort Str) UInt8) = .ok q := getByte_append (by simp; omega)
  have hl : ¬ (len.toNat = 0 ∨
      (ATYP_DOMAIN :: len :: (nb ++ p :: q :: rest)).length < 1 + 1 + len.toNat + 2) := by
    simp
    omega
  simp only [List.cons_append, List.nil_append, List.append_assoc] at hs hp hq
  unfold parseAddressBytes
  simp only [List.head?_cons, List.getElem?_cons_succ, List.getElem?_cons_zero, pure, Except.pure,
    ok_bind, if_neg hl, hs, hp, hq]
  cases Utf8.decode nb <;> rfl

/-- The decoder reads back every encoding it has a length byte and a character
for, and reports its extent. -/
theorem parseAddressBytes_wire {a : Address} (h : a.Readable) (rest : Bytes) :
    parseAddressBytes (a.wire ++ rest) = .ok (a, addressEncodedLen a) := by
  cases a with
  | v4 ip port =>
    obtain ⟨ip, hip⟩ := ip
    match ip, hip with
    | [a, b, c, d], _ =>
      have := parse_v4 a b c d (UInt8.ofNat (port.toNat / 256)) (UInt8.ofNat (port.toNat % 256)) rest
      rw [fromBeBytes_toBeBytes] at this
      exact this
  | v6 ip port =>
    have := parse_v6 ip (UInt8.ofNat (port.toNat / 256)) (UInt8.ofNat (port.toNat % 256)) rest
    rw [fromBeBytes_toBeBytes] at this
    simpa [Address.wire, toBeBytes, addressEncodedLen] using this
  | domain name port =>
    have hlen : (Utf8.encode name).length = (UInt8.ofNat (Utf8.encode name).length).toNat := by
      rw [UInt8.toNat_ofNat']
      have := h.2
      omega
    have := parse_domain hlen (by have := h.1; omega) (UInt8.ofNat (port.toNat / 256))
      (UInt8.ofNat (port.toNat % 256)) rest
    rw [fromBeBytes_toBeBytes, Utf8.decode_encode, ← hlen] at this
    simpa [Address.wire, toBeBytes, addressEncodedLen] using this

/-- `buf` is rejected, or the encoding of an address is in front of it. -/
def Decided (buf : Bytes) : Prop :=
  parseAddressBytes buf = .error invalidUdpPacket ∨
    ∃ (a : Address) (rest : Bytes), a.Readable ∧ buf = a.wire ++ rest

theorem decided_v4 (tl : Bytes) : Decided (ATYP_IPV4 :: tl) := by
  match tl with
  | a :: b :: c :: d :: p :: q :: rest =>
    refine .inr ⟨.v4 ⟨[a, b, c, d], rfl⟩ (fromBeBytes p q), rest, trivial, ?_⟩
    simp [Address.wire, toBeBytes_fromBeBytes]
  | [] | [_] | [_, _] | [_, _, _] | [_, _, _, _] | [_, _, _, _, _] => exact .inl rfl

/-- `n` bytes and two more in front of a list that is long enough. -/
theorem split_port (tl : Bytes) (n : Nat) (h : n + 2 ≤ tl.length) :
    ∃ nb p q rest, nb.length = n ∧ tl = nb ++ p :: q :: rest := by
  refine ⟨tl.take n, tl[n], tl[n + 1], tl.drop (n + 2), ?_, ?_⟩
  · rw [List.length_take]
    omega
  · rw [List.getElem_cons_drop, List.getElem_cons_drop, List.take_append_drop]

theorem decided_domain (tl : Bytes) : Decided (ATYP_DOMAIN :: tl) := by
  cases tl with
  | nil => exact .inl rfl
  | cons len tl =>
    by_cases hl : len.toNat = 0 ∨ (ATYP_DOMAIN :: len :: tl).length < 1 + 1 + len.toNat + 2
    · left
      unfold parseAddressBytes
      simp only [List.head?_cons, List.getElem?_cons_succ, List.getElem?_cons_zero, pure,
        Except.pure, ok_bind, if_pos hl]
      rfl
    obtain ⟨h0, hlt⟩ := not_or.1 hl
    simp only [List.length_cons, Nat.not_lt] at hlt
    obtain ⟨nb, p, q, rest, hnb, rfl⟩ := split_port tl len.toNat (by omega)
    have hp := parse_domain hnb h0 p q rest
    cases hdec : Utf8.decode nb with
    | none =>
      rw [hdec] at hp
      exact .inl hp
    | some name =>
      obtain rfl := Utf8.decode_eq_some.1 hdec
      refine .inr ⟨.domain name (fromBeBytes p q), rest, ?_, ?_⟩
      · have := len.toNat_lt
        exact ⟨by omega, by omega⟩
      · simp [Address.wire, toBeBytes_fromBeBytes, hnb]

theorem decided_v6 (tl : Bytes) : Decided (ATYP_IPV6 :: tl) := by
  by_cases hl : (ATYP_IPV6 :: tl).length < 1 + 16 + 2
  · left
    unfold parseAddressBytes
    rw [List.head?_cons, if_pos hl]
    rfl
  · simp only [List.length_cons, Nat.not_lt] at hl
    obtain ⟨ip, p, q, rest, hip, rfl⟩ := split_port tl 16 (by omega)
    refine .inr ⟨.v6 ⟨ip, hip⟩ (fromBeBytes p q), rest, trivial, ?_⟩
    simp [Address.wire, toBeBytes_fromBeBytes]

/-- Everything `parseAddressBytes` can do: report an invalid packet, or read
the encoding of an address off the front. -/
theorem parseAddressBytes_cases (buf : Bytes) :
    parseAddressBytes buf = .error invalidUdpPacket ∨
      ∃ (a : Address) (rest : Bytes), a.Readable ∧ buf = a.wire ++ rest ∧
        parseAddressBytes buf = .ok (a, addressEncodedLen a) := by
  have hd : Decided buf := by
    cases buf with
    | nil => exact .inl rfl
    | cons atyp tl =>
      by_cases h4 : atyp = ATYP_IPV4
      · exact h4 ▸ decided_v4 tl
      by_cases h3 : atyp = ATYP_DOMAIN
      · exact h3 ▸ decided_domain tl
      by_cases h6 : atyp = ATYP_IPV6
      · exact h6 ▸ decided_v6 tl
      left
      unfold parseAddressBytes
      simp only [List.head?_cons, pure, Except.pure, ok_bind, if_neg h4, if_neg h3, if_neg h6]
      rfl
  rcases hd with h | ⟨a, rest, ha, rfl⟩
  · exact .inl h
  · exact .inr ⟨a, rest, ha, rfl, parseAddressBytes_wire ha rest⟩

/-! ## Datagrams -/

/-- The three header bytes decide before the address is looked at. -/
theorem parseUdpDatagram_header (x y z w : UInt8) (tl : Bytes) :
    parseUdpDatagram (x :: y :: z :: w :: tl) =
      if x ≠ 0 ∨ y ≠ 0 then .error invalidUdpPacket
      else if z ≠ 0 then .ok none
      else parseAddressBytes (w :: tl) >>= fun r =>
        sliceFrom (x :: y :: z :: w :: tl) (3 + r.2) >>= fun p => .ok (some ⟨r.1, p⟩) := by
  have hl : ¬ (x :: y :: z :: w :: tl).length < 4 := by simp
  have h0 : (getByte (x :: y :: z :: w :: tl) 0 : Except (Abort Str) UInt8) = .ok x := rfl
  have h1 : (getByte (x :: y :: z :: w :: tl) 1 : Except (Abort Str) UInt8) = .ok y := rfl
  have h2 : (getByte (x :: y :: z :: w :: tl) 2 : Except (Abort Str) UInt8) = .ok z := rfl
  have h3 : (sliceFrom (x :: y :: z :: w :: tl) 3 : Except (Abort Str) Bytes) = .ok (w :: tl) :=
    sliceFrom_append (a := [x, y, z]) rfl
  unfold parseUdpDatagram
  simp only [if_neg hl, h0, h1, h2, h3, ok_bind]
  rfl

theorem parseUdpDatagram_wire {a : Address} (ha : a.Readable) (p : Bytes) :
    parseUdpDatagram ([0, 0, 0] ++ a.wire ++ p) = .ok (some ⟨a, p⟩) := by
  have hs : (sliceFrom (([0, 0, 0] ++ a.wire) ++ p) (3 + addressEncodedLen a) :
      Except (Abort Str) Bytes) = .ok p := sliceFrom_append (by simp [wire_length]; omega)
  have hp := parseAddressBytes_wire ha p
  obtain ⟨w, tl, hw⟩ : ∃ w tl, a.wire = w :: tl := by cases a <;> exact ⟨_, _, rfl⟩
  rw [hw] at hs hp ⊢
  have hh := parseUdpDatagram_header 0 0 0 w (tl ++ p)
  simp only [List.cons_append, List.nil_append] at hs hp hh ⊢
  rw [hh, hp]
  simp [hs]

/-- Everything `parseUdpDatagram` can do: report an invalid packet, skip a
fragment, or take a datagram apart into its destination and its payload. -/
theorem parseUdpDatagram_cases (packet : Bytes) :
    parseUdpDatagram packet = .error invalidUdpPacket ∨ parseUdpDatagram packet = .ok none ∨
      ∃ (a : Address) (p : Bytes), a.Readable ∧ packet = [0, 0, 0] ++ a.wire ++ p ∧
        parseUdpDatagram packet = .ok (some ⟨a, p⟩) := by
  match packet with
  | [] | [_] | [_, _] | [_, _, _] => exact .inl rfl
  | x :: y :: z :: w :: tl =>
    rw [parseUdpDatagram_header]
    split
    · exact .inl rfl
    rename_i hxy
    split
    · exact .inr (.inl rfl)
    rename_i hz
    simp only [ne_eq, not_or, Decidable.not_not] at hxy hz
    obtain ⟨rfl, rfl⟩ := hxy
    subst hz
    rcases parseAddressBytes_cases (w :: tl) with h | ⟨a, p, ha, hw, -⟩
    · left
      rw [h]
      rfl
    · right; right
      have hp := parseUdpDatagram_wire ha p
      rw [List.append_assoc, ← hw] at hp
      have hh := parseUdpDatagram_header 0 0 0 w tl
      refine ⟨a, p, ha, by rw [List.append_assoc, ← hw]; rfl, ?_⟩
      simp only [ne_eq, not_true_eq_false, or_self, if_false] at hh ⊢
      rw [← hh]
      exact hp

/-- A datagram the parser returns is the encoding of what it returns. -/
theorem parseUdpDatagram_some {packet : Bytes} {a : Address} {p : Bytes}
    (h : parseUdpDatagram packet = .ok (some ⟨a, p⟩)) :
    a.Readable ∧ packet = [0, 0, 0] ++ a.wire ++ p := by
  rcases parseUdpDatagram_cases packet with h' | h' | ⟨a', p', ha, hp, h'⟩
  · rw [h'] at h
    cases h
  · rw [h'] at h
    cases h
  · rw [h'] at h
    cases h
    exact ⟨ha, hp⟩

/-- **Both directions of the codec.** -/
theorem parse_iff_encode (packet : Bytes) (a : Address) (p : Bytes) :
    parseUdpDatagram packet = .ok (some ⟨a, p⟩) ↔
      a.Readable ∧ encodeUdpDatagram a p = .ok packet := by
  constructor
  · intro h
    obtain ⟨ha, rfl⟩ := parseUdpDatagram_some h
    exact ⟨ha, encodeUdpDatagram_eq a p ha.encodable⟩
  · intro hx
    obtain ⟨ha, h⟩ := hx
    obtain ⟨-, rfl⟩ := encodeUdpDatagram_ok h
    exact parseUdpDatagram_wire ha p

/-- The decoder never leaves its buffer. -/
theorem parseUdpDatagram_ne_panic (packet : Bytes) : parseUdpDatagram packet ≠ .error .panic := by
  rcases parseUdpDatagram_cases packet with h | h | ⟨a, p, -, -, h⟩ <;> rw [h]
  · intro he
    cases he
  · intro he
    cases he
  · intro he
    cases he

theorem Address.not_encodable {a : Address} :
    ¬ a.Encodable ↔ ∃ name port, a = .domain name port ∧ 255 < (Utf8.encode name).length := by
  cases a <;> simp [Address.Encodable]

/-- What the encoder has a length byte for and the decoder refuses: the empty domain. -/
theorem Address.Encodable.not_readable {a : Address} (h : a.Encodable) :
    ¬ a.Readable ↔ ∃ port, a = .domain [] port := by
  cases a with
  | domain name port =>
    have hl : (Utf8.encode name).length ≤ 255 := h
    have h0 : (Utf8.encode name).length = 0 ↔ name = [] := by
      rw [List.length_eq_zero_iff, Utf8.encode_eq_nil]
    simp only [Address.Readable, Address.domain.injEq, exists_and_left, exists_eq', and_true, ← h0]
    omega
  | _ => simp [Address.Readable]

/-- **The UDP datagram codec is exact in both directions.** The parser returns
a datagram exactly for the encodings of V4 and V6 addresses and of domains of 1
to 255 bytes; the encoder fails exactly for longer domains, its output has the
computed length, and only its output for the empty domain is not read back; the
parser never accesses its buffer out of range. -/
theorem udp_codec_exact :
    (∀ (packet : Bytes) (a : Address) (p : Bytes),
      parseUdpDatagram packet = .ok (some ⟨a, p⟩) ↔
        (∀ name port, a = .domain name port →
          1 ≤ (Utf8.encode name).length ∧ (Utf8.encode name).length ≤ 255) ∧
        encodeUdpDatagram a p = .ok packet) ∧
    (∀ (a : Address) (p : Bytes), (∃ e, encodeUdpDatagram a p = .error e) ↔
      ∃ name port, a = .domain name port ∧ 255 < (Utf8.encode name).length) ∧
    (∀ (a : Address) (p packet : Bytes), encodeUdpDatagram a p = .ok packet →
      packet.length = 3 + addressEncodedLen a + p.length) ∧
    (∀ (a : Address) (p packet : Bytes), encodeUdpDatagram a p = .ok packet →
      (parseUdpDatagram packet ≠ .ok (some ⟨a, p⟩) ↔ ∃ port, a = .domain [] port)) ∧
    (∀ packet : Bytes, parseUdpDatagram packet ≠ .error .panic) := by
  refine ⟨fun packet a p => ?_, fun a p => ?_, fun a p packet h => ?_, fun a p packet h => ?_,
    parseUdpDatagram_ne_panic⟩
  · rw [parse_iff_encode]
    cases a <;> simp [Address.Readable]
  · rw [← Address.not_encodable]
    constructor
    · intro hx ha
      obtain ⟨e, he⟩ := hx
      rw [encodeUdpDatagram_eq a p ha] at he
      cases he
    · exact fun ha => ⟨_, encodeUdpDatagram_error a p ha⟩
  · obtain ⟨-, rfl⟩ := encodeUdpDatagram_ok h
    simp [wire_length]
    omega
  · have ha := (encodeUdpDatagram_ok h).1
    rw [← ha.not_readable, ne_eq, parse_iff_encode, and_iff_left h]

end TinySocks.L1
