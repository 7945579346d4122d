import TinySocks.L3Protocol.Auth

/-!
# The SOCKS5 messages (`protocol.rs`)

Method negotiation, the request and the reply, as readers and writers on a
connection. Each reader consumes exactly one message of its grammar
(`Greeting`, `Address.wire`, `RequestMessage`) and, in the other direction,
returns what the message says as soon as it has arrived.
-/
namespace TinySocks.L3

open TinySocks.Core TinySocks.L1 TinySocks.L2

/-- mirrors src/protocol.rs:25-29 -/
inductive AuthMethod where
  | noAuth
  | usernamePassword
  deriving DecidableEq, Repr

/-- mirrors src/protocol.rs:33-38 -/
def AuthMethod.asByte : AuthMethod → UInt8
  | .noAuth => SOCKS_NO_AUTH
  | .usernamePassword => SOCKS_AUTH_USER

/-- mirrors src/protocol.rs:48-52 -/
inductive Command where
  | connect (addr : Address)
  | udpAssociate (addr : Address)
  deriving DecidableEq, Repr

/-- mirrors src/protocol.rs:54-56 -/
structure SocksRequest where
  cmd : Command
  deriving DecidableEq, Repr

/-- mirrors src/protocol.rs:118-152 -/
def handshake (method : AuthMethod) : M Unit := do
  let buf ← readExactWithTimeout 2 "SOCKS handshake header read"
  if buf.byte 0 ≠ SOCKS_VERSION then bail "SocksError::InvalidProtocol"
  else do
    let methods ← readExactWithTimeout (buf.byte 1).toNat "SOCKS handshake methods read"
    let desired := method.asByte
    if desired ∉ methods.1 then do
      writeAllWithTimeout [SOCKS_VERSION, 0xFF] "SOCKS handshake reject method write"
      bail "SocksError::NoAcceptableAuthMethod"
    else writeAllWithTimeout [SOCKS_VERSION, desired] "SOCKS handshake selected method write"

/-- mirrors src/protocol.rs:226-233 -/
def readPort : M UInt16 := do
  let buf ← readExactWithTimeout 2 "SOCKS port read"
  pure (fromBeBytes (buf.byte 0) (buf.byte 1))

/-- mirrors src/protocol.rs:189-223 -/
def readAddress (atyp : UInt8) : M Address :=
  if atyp = ATYP_IPV4 then do
    let ip ← readExactWithTimeout 4 "SOCKS IPv4 address read"
    let port ← readPort
    pure (.v4 ip port)
  else if atyp = ATYP_DOMAIN then do
    let len ← readExactWithTimeout 1 "SOCKS domain length read"
    if len.only = 0 then bail "SocksError::InvalidProtocol"
    else do
      let domainBytes ← readExactWithTimeout (len.only).toNat "SOCKS domain body read"
      let port ← readPort
      match Utf8.decode domainBytes.1 with
      | some domain => pure (.domain domain port)
      | none => bail "SocksError::InvalidProtocol"
  else if atyp = ATYP_IPV6 then do
    let ip ← readExactWithTimeout 16 "SOCKS IPv6 address read"
    let port ← readPort
    pure (.v6 ip port)
  else bail "SocksError::InvalidProtocol"

/-- mirrors src/protocol.rs:155-186 -/
def readRequest : M SocksRequest := do
  let header ← readExactWithTimeout 4 "SOCKS request header read"
  let ver := header.byte 0
  let cmd := header.byte 1
  let rsv := header.byte 2
  let atyp := header.byte 3
  if ver ≠ SOCKS_VERSION then bail "SocksError::InvalidProtocol"
  else if rsv ≠ 0x00 then bail "SocksError::InvalidProtocol"
  else do
    let address ← readAddress atyp
    if cmd = SOCKS_CMD_CONNECT then pure { cmd := .connect address }
    else if cmd = SOCKS_CMD_UDP_ASSOCIATE then pure { cmd := .udpAssociate address }
    else bail "SocksError::UnsupportedCommand"

/-- mirrors src/protocol.rs:236-245 -/
def sendReply (rep : UInt8) (bound : Address) : M Unit := do
  let reply ← liftResult (writeAddress [SOCKS_VERSION, rep, 0x00] bound)
  writeAllWithTimeout reply "SOCKS reply write"

/-! ## Negotiation -/

/-- A greeting that offers the method. -/
def Greeting (method : AuthMethod) (c : Bytes) : Prop :=
  ∃ cm methods, IsField cm methods ∧ method.asByte ∈ methods ∧ c = SOCKS_VERSION :: cm

theorem handshake_ok {method : AuthMethod} {w w' : World} (h : handshake method w = .ok () w') :
    ∃ c, Advance c [SOCKS_VERSION, method.asByte] w w' ∧ Greeting method c := by
  obtain ⟨buf, w₁, h₁, h⟩ := bind_eq_ok.1 h
  split at h
  · cases h
  rename_i hver
  obtain ⟨methods, w₂, h₂, h⟩ := bind_eq_ok.1 h
  split at h
  · obtain ⟨_, _, _, h⟩ := bind_eq_ok.1 h
    cases h
  rename_i hmem
  refine ⟨_, ((readExactWithTimeout_ok h₁).trans (readExactWithTimeout_ok h₂)).trans
    (writeAllWithTimeout_ok h), _, methods.1, ⟨buf.byte 1, methods.2, rfl⟩, Decidable.not_not.1 hmem, ?_⟩
  rw [buf.two, Decidable.not_not.1 hver]
  simp

theorem reads_handshake {method : AuthMethod} {c : Bytes} (h : Greeting method c) :
    Reads (handshake method) c [SOCKS_VERSION, method.asByte] () := by
  obtain ⟨cm, methods, ⟨n, hn, rfl⟩, hmem, rfl⟩ := h
  have h3 : Reads (do
      let methods ← readExactWithTimeout n.toNat "SOCKS handshake methods read"
      if method.asByte ∉ methods.1 then do
        writeAllWithTimeout [SOCKS_VERSION, 0xFF] "SOCKS handshake reject method write"
        bail "SocksError::NoAcceptableAuthMethod"
      else writeAllWithTimeout [SOCKS_VERSION, method.asByte] "SOCKS handshake selected method write")
      methods [SOCKS_VERSION, method.asByte] () := by
    refine (reads_readExactWithTimeout ⟨methods, hn⟩ _).seq ?_ (List.append_nil _) rfl
    rw [if_neg (Decidable.not_not.2 hmem)]
    exact reads_writeAllWithTimeout _ _
  exact (reads_readExactWithTimeout ⟨[SOCKS_VERSION, n], rfl⟩ _).seq h3 rfl rfl

theorem keeps_handshake (method : AuthMethod) : Keeps Quiet (handshake method) := by
  refine Keeps.bind quiet_frame (keeps_readExactWithTimeout _ _) fun _ => ?_
  refine Keeps.ite (keeps_bail quiet_frame _) ?_
  refine Keeps.bind quiet_frame (keeps_readExactWithTimeout _ _) fun _ => ?_
  refine Keeps.ite ?_ (keeps_writeAllWithTimeout _ _)
  exact Keeps.bind quiet_frame (keeps_writeAllWithTimeout _ _) fun _ => keeps_bail quiet_frame _

/-! ## Addresses -/

theorem readPort_ok {w w' : World} {port : UInt16} (h : readPort w = .ok port w') :
    Advance (toBeBytes port) [] w w' := by
  obtain ⟨buf, w₁, h₁, h⟩ := bind_eq_ok.1 h
  cases h
  rw [toBeBytes_fromBeBytes, ← buf.two]
  exact readExactWithTimeout_ok h₁

theorem reads_readPort (port : UInt16) : Reads readPort (toBeBytes port) [] port := by
  refine (reads_readExactWithTimeout ⟨toBeBytes port, rfl⟩ _).seq ?_ (List.append_nil _) rfl
  show Reads (pure (fromBeBytes (UInt8.ofNat (port.toNat / 256)) (UInt8.ofNat (port.toNat % 256))))
    [] [] port
  rw [fromBeBytes_toBeBytes]
  exact Reads.pure port

theorem keeps_readPort : Keeps Quiet readPort :=
  Keeps.bind quiet_frame (keeps_readExactWithTimeout _ _) fun _ => Keeps.pure quiet_frame _

/-- What `readAddress` returns is the address whose encoding it consumed. -/
theorem readAddress_ok {atyp : UInt8} {w w' : World} {a : Address}
    (h : readAddress atyp w = .ok a w') :
    ∃ c, Advance c [] w w' ∧ a.Readable ∧ a.wire = atyp :: c := by
  unfold readAddress at h
  split at h
  · rename_i hv4
    obtain ⟨ip, w₁, h₁, h⟩ := bind_eq_ok.1 h
    obtain ⟨port, w₂, h₂, h⟩ := bind_eq_ok.1 h
    cases h
    exact ⟨_, (readExactWithTimeout_ok h₁).trans (readPort_ok h₂), trivial, by rw [hv4]; rfl⟩
  split at h
  · rename_i hdom
    obtain ⟨len, w₁, h₁, h⟩ := bind_eq_ok.1 h
    split at h
    · cases h
    rename_i h0
    obtain ⟨nb, w₂, h₂, h⟩ := bind_eq_ok.1 h
    obtain ⟨port, w₃, h₃, h⟩ := bind_eq_ok.1 h
    cases hd : Utf8.decode nb.1 with
    | none =>
      rw [hd] at h
      cases h
    | some name =>
      rw [hd] at h
      cases h
      have hnb := Utf8.decode_eq_some.1 hd
      have hl : (Utf8.encode name).length = (len.only).toNat := by rw [← hnb, nb.2]
      have hlt := (len.only).toNat_lt
      have hpos : (len.only).toNat ≠ 0 := fun h => h0 (UInt8.toNat_inj.1 h)
      refine ⟨_, ((readExactWithTimeout_ok h₁).trans (readExactWithTimeout_ok h₂)).trans
        (readPort_ok h₃), ⟨by omega, by omega⟩, ?_⟩
      rw [hdom, len.one, hnb]
      simp [Address.wire, hl]
  split at h
  · rename_i hv6
    obtain ⟨ip, w₁, h₁, h⟩ := bind_eq_ok.1 h
    obtain ⟨port, w₂, h₂, h⟩ := bind_eq_ok.1 h
    cases h
    exact ⟨_, (readExactWithTimeout_ok h₁).trans (readPort_ok h₂), trivial, by rw [hv6]; rfl⟩
  · cases h

theorem reads_readAddress {a : Address} {atyp : UInt8} {c : Bytes} (ha : a.Readable)
    (hw : a.wire = atyp :: c) : Reads (readAddress atyp) c [] a := by
  cases a with
  | v4 ip port =>
    obtain ⟨rfl, rfl⟩ := List.cons_eq_cons.1 hw
    have hport : Reads (readPort >>= fun port => pure (Address.v4 ip port)) (toBeBytes port) []
        (.v4 ip port) := (reads_readPort port).seq (Reads.pure _) (List.append_nil _) rfl
    exact (reads_readExactWithTimeout ip _).seq hport rfl rfl
  | v6 ip port =>
    obtain ⟨rfl, rfl⟩ := List.cons_eq_cons.1 hw
    have hport : Reads (readPort >>= fun port => pure (Address.v6 ip port)) (toBeBytes port) []
        (.v6 ip port) := (reads_readPort port).seq (Reads.pure _) (List.append_nil _) rfl
    exact (reads_readExactWithTimeout ip _).seq hport rfl rfl
  | domain name port =>
    obtain ⟨rfl, rfl⟩ := List.cons_eq_cons.1 hw
    have hl : (Utf8.encode name).length = (UInt8.ofNat (Utf8.encode name).length).toNat := by
      rw [UInt8.toNat_ofNat']
      have := ha.2
      omega
    have h0 : UInt8.ofNat (Utf8.encode name).length ≠ 0 := by
      intro h
      rw [h] at hl
      have h1 : 1 ≤ (Utf8.encode name).length := ha.1
      have hz : (0 : UInt8).toNat = 0 := rfl
      omega
    have hend : Reads (do
        let port ← readPort
        match Utf8.decode (Utf8.encode name) with
        | some domain => pure (Address.domain domain port)
        | none => bail "SocksError::InvalidProtocol") (toBeBytes port) [] (Address.domain name port) := by
      refine (reads_readPort port).seq ?_ (List.append_nil _) rfl
      rw [Utf8.decode_encode]
      exact Reads.pure _
    have hbody := (reads_readExactWithTimeout ⟨Utf8.encode name, hl⟩ "SOCKS domain body read").seq
      (f := fun domainBytes => do
        let port ← readPort
        match Utf8.decode domainBytes.1 with
        | some domain => pure (Address.domain domain port)
        | none => bail "SocksError::InvalidProtocol") hend rfl rfl
    have hlen : Octets.only ⟨[UInt8.ofNat (Utf8.encode name).length], rfl⟩ ≠ 0 := h0
    refine (reads_readExactWithTimeout ⟨[UInt8.ofNat (Utf8.encode name).length], rfl⟩ _).seq
      ((if_neg hlen).symm ▸ hbody) rfl rfl

theorem keeps_readAddress (atyp : UInt8) : Keeps Quiet (readAddress atyp) := by
  refine Keeps.ite ?_ (Keeps.ite ?_ (Keeps.ite ?_ (keeps_bail quiet_frame _)))
  · refine Keeps.bind quiet_frame (keeps_readExactWithTimeout _ _) fun _ => ?_
    exact Keeps.bind quiet_frame keeps_readPort fun _ => Keeps.pure quiet_frame _
  · refine Keeps.bind quiet_frame (keeps_readExactWithTimeout _ _) fun _ => ?_
    refine Keeps.ite (keeps_bail quiet_frame _) ?_
    refine Keeps.bind quiet_frame (keeps_readExactWithTimeout _ _) fun _ => ?_
    refine Keeps.bind quiet_frame keeps_readPort fun _ => ?_
    split
    · exact Keeps.pure quiet_frame _
    · exact keeps_bail quiet_frame _
  · refine Keeps.bind quiet_frame (keeps_readExactWithTimeout _ _) fun _ => ?_
    exact Keeps.bind quiet_frame keeps_readPort fun _ => Keeps.pure quiet_frame _

/-! ## The two readers of addresses -/

/-- `readAddress` returns `a` and takes `n` bytes off the client's stream. -/
def ReadsAddress (atyp : UInt8) (w : World) (a : Address) (n : Nat) : Prop :=
  ∃ c w', readAddress atyp w = .ok a w' ∧ Advance c [] w w' ∧ c.length = n

/-- What the stream reader takes in is in front of what the buffer reader takes in. -/
theorem parse_of_readsAddress {atyp : UInt8} {w : World} {a : Address} {n : Nat}
    (h : ReadsAddress atyp w a n) : parseAddressBytes (atyp :: w.stream.unread) = .ok (a, n + 1) := by
  obtain ⟨c, w', hok, hc, rfl⟩ := h
  obtain ⟨c', hc', ha, hwire⟩ := readAddress_ok hok
  have hsame : c'.length = c.length := by
    have hlen := congrArg List.length (hc'.unread.symm.trans hc.unread)
    rw [List.length_append, List.length_append] at hlen
    omega
  have hextent : addressEncodedLen a = c.length + 1 := by
    rw [← wire_length, hwire, List.length_cons, hsame]
  rw [hc'.unread, ← List.cons_append, ← hwire, parseAddressBytes_wire ha, hextent]

/-- What the buffer reader takes in, the stream reader takes in byte by byte. -/
theorem readsAddress_of_parse {atyp : UInt8} {w : World} (he : w.env.ClientReliable) {a : Address}
    {k : Nat} (h : parseAddressBytes (atyp :: w.stream.unread) = .ok (a, k)) :
    ∃ n, k = n + 1 ∧ ReadsAddress atyp w a n := by
  rcases parseAddressBytes_cases (atyp :: w.stream.unread) with herr | ⟨a', rest, ha, hbuf, hok⟩
  · rw [herr] at h
    cases h
  · obtain ⟨rfl, rfl⟩ := Prod.mk.inj (Except.ok.inj (hok.symm.trans h))
    obtain ⟨c, hwire⟩ : ∃ c, a'.wire = atyp :: c := by
      cases hw : a'.wire with
      | nil => cases a' <;> cases hw
      | cons b c =>
        rw [hw] at hbuf
        exact ⟨c, by rw [(List.cons.inj hbuf).1]⟩
    rw [hwire, List.cons_append] at hbuf
    obtain ⟨w', hread, hadv⟩ := reads_readAddress ha hwire w rest he (List.cons.inj hbuf).2
    refine ⟨c.length, ?_, c, w', hread, hadv, rfl⟩
    rw [← wire_length, hwire, List.length_cons]

/-- On a stream that ends where the buffer does, both return the same address,
take in the same bytes, and fail together. -/
theorem address_readers_agree {atyp : UInt8} {w : World} (he : w.env.ClientReliable) :
    (∀ a n, ReadsAddress atyp w a n ↔ parseAddressBytes (atyp :: w.stream.unread) = .ok (a, n + 1)) ∧
      (∀ a, parseAddressBytes (atyp :: w.stream.unread) ≠ .ok (a, 0)) ∧
      ((∃ e w', readAddress atyp w = .error e w') ↔
        parseAddressBytes (atyp :: w.stream.unread) = .error invalidUdpPacket) := by
  refine ⟨fun a n => ⟨parse_of_readsAddress, fun h => ?_⟩, fun a h => ?_, fun h => ?_, fun h => ?_⟩
  · obtain ⟨m, hm, hread⟩ := readsAddress_of_parse he h
    obtain rfl := Nat.succ.inj hm
    exact hread
  · obtain ⟨m, hm, -⟩ := readsAddress_of_parse he h
    cases hm
  · obtain ⟨e, w', herr⟩ := h
    rcases parseAddressBytes_cases (atyp :: w.stream.unread) with hp | ⟨a, rest, -, -, hp⟩
    · exact hp
    · obtain ⟨m, -, c, w'', hok, -⟩ := readsAddress_of_parse he hp
      rw [herr] at hok
      cases hok
  · cases hr : readAddress atyp w with
    | error e w' => exact ⟨e, w', rfl⟩
    | ok a w' =>
      obtain ⟨c, hadv, -⟩ := readAddress_ok hr
      rw [parse_of_readsAddress ⟨c, w', hr, hadv, rfl⟩] at h
      cases h

/-- A name that is cut short, one byte after the other. -/
theorem address_readers_agree_cut :
    (∃ e w', readAddress ATYP_DOMAIN
        (.accepted { Env.calm [] [] with readLen := fun _ => 1 } [0x02, 0x61]) = .error e w') ↔
      parseAddressBytes (ATYP_DOMAIN :: (World.accepted { Env.calm [] [] with readLen := fun _ => 1 }
        [0x02, 0x61]).stream.unread) = .error invalidUdpPacket :=
  (address_readers_agree ⟨fun _ => rfl, fun _ => ⟨_, rfl⟩, fun _ => rfl, fun _ _ => rfl⟩).2.2

/-! ## Requests -/

def Command.code : Command → UInt8
  | .connect _ => SOCKS_CMD_CONNECT
  | .udpAssociate _ => SOCKS_CMD_UDP_ASSOCIATE

def Command.addr : Command → Address
  | .connect addr => addr
  | .udpAssociate addr => addr

/-- The request for a command: version, code, zero, and the address. -/
def RequestMessage (cmd : Command) (c : Bytes) : Prop :=
  cmd.addr.Readable ∧ c = SOCKS_VERSION :: cmd.code :: 0x00 :: cmd.addr.wire

theorem readRequest_ok {w w' : World} {req : SocksRequest} (h : readRequest w = .ok req w') :
    ∃ c, Advance c [] w w' ∧ RequestMessage req.cmd c := by
  obtain ⟨header, w₁, h₁, h⟩ := bind_eq_ok.1 h
  have ha₁ := readExactWithTimeout_ok h₁
  split at h
  · cases h
  rename_i hver
  split at h
  · cases h
  rename_i hrsv
  obtain ⟨a, w₂, h₂, h⟩ := bind_eq_ok.1 h
  obtain ⟨c, ha₂, hread, hwire⟩ := readAddress_ok h₂
  have ha := ha₁.trans ha₂
  rw [header.four, Decidable.not_not.1 hver, Decidable.not_not.1 hrsv] at ha
  split at h
  · rename_i hcmd
    cases h
    exact ⟨_, ha, hread, by simp [Command.code, Command.addr, hwire, hcmd]⟩
  split at h
  · rename_i hcmd
    cases h
    exact ⟨_, ha, hread, by simp [Command.code, Command.addr, hwire, hcmd]⟩
  · cases h

theorem reads_readRequest {cmd : Command} {c : Bytes} (h : RequestMessage cmd c) :
    Reads readRequest c [] { cmd } := by
  obtain ⟨hread, rfl⟩ := h
  obtain ⟨atyp, c, hwire⟩ : ∃ atyp c, cmd.addr.wire = atyp :: c := by
    cases cmd.addr <;> exact ⟨_, _, rfl⟩
  rw [hwire]
  have hend : Reads (do
      let address ← readAddress atyp
      if cmd.code = SOCKS_CMD_CONNECT then pure (SocksRequest.mk (.connect address))
      else if cmd.code = SOCKS_CMD_UDP_ASSOCIATE then pure (SocksRequest.mk (.udpAssociate address))
      else bail "SocksError::UnsupportedCommand") c [] ⟨cmd⟩ := by
    refine (reads_readAddress hread hwire).seq ?_ (List.append_nil _) rfl
    cases cmd with
    | connect a => exact Reads.pure _
    | udpAssociate a => exact Reads.pure _
  exact (reads_readExactWithTimeout ⟨[SOCKS_VERSION, cmd.code, 0x00, atyp], rfl⟩ _).seq hend rfl rfl

theorem keeps_readRequest : Keeps Quiet readRequest := by
  refine Keeps.bind quiet_frame (keeps_readExactWithTimeout _ _) fun _ => ?_
  refine Keeps.ite (keeps_bail quiet_frame _) (Keeps.ite (keeps_bail quiet_frame _) ?_)
  refine Keeps.bind quiet_frame (keeps_readAddress _) fun _ => ?_
  refine Keeps.ite (Keeps.pure quiet_frame _) (Keeps.ite (Keeps.pure quiet_frame _) ?_)
  exact keeps_bail quiet_frame _

/-! ## Replies -/

theorem fromSocketAddr_encodable (addr : SocketAddr) : (Address.fromSocketAddr addr).Encodable := by
  cases addr <;> trivial

theorem sendReply_eq (rep : UInt8) {bound : Address} (h : bound.Encodable) :
    sendReply rep bound =
      writeAllWithTimeout ([SOCKS_VERSION, rep, 0x00] ++ bound.wire) "SOCKS reply write" := by
  unfold sendReply
  rw [writeAddress_eq _ _ h]
  rfl

end TinySocks.L3
