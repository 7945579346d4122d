import TinySocks.Core.Text

/-!
# Internet addresses

The standard library's address types with the parts the proxy relies on:
equality, construction, `Display` and `FromStr`. A V6 socket address carries
its flow information and scope, which take part in equality; `SocketAddr.new`
sets both to zero.
-/
namespace TinySocks.L1

open TinySocks.Core

inductive IpAddr where
  | v4 (ip : Octets 4)
  | v6 (ip : Octets 16)
  deriving DecidableEq, Repr

theorem ipv4_length (a b c d : UInt8) : [a, b, c, d].length = 4 := rfl

/-- `Ipv4Addr::new` -/
def ipv4 (a b c d : UInt8) : IpAddr := .v4 ⟨[a, b, c, d], ipv4_length a b c d⟩

inductive SocketAddr where
  | v4 (ip : Octets 4) (port : UInt16)
  | v6 (ip : Octets 16) (port : UInt16) (flowinfo scopeId : UInt32)
  deriving DecidableEq, Repr

namespace SocketAddr

def new : IpAddr → UInt16 → SocketAddr
  | .v4 ip, port => .v4 ip port
  | .v6 ip, port => .v6 ip port 0 0

def ip : SocketAddr → IpAddr
  | .v4 ip _ => .v4 ip
  | .v6 ip _ _ _ => .v6 ip

def port : SocketAddr → UInt16
  | .v4 _ port => port
  | .v6 _ port _ _ => port

@[simp] theorem ip_new (ip : IpAddr) (port : UInt16) : (new ip port).ip = ip := by
  cases ip <;> rfl

end SocketAddr

/-! ## IPv4 addresses as IPv6 ones -/

/-- The first twelve bytes of an IPv4-mapped address. -/
def MAPPED : Bytes := List.replicate 10 0 ++ [0xFF, 0xFF]

theorem mapped_length (ip : Octets 4) : (MAPPED ++ ip.1).length = 16 := by
  rw [List.length_append, ip.2]
  rfl

/-- `Ipv4Addr::to_ipv6_mapped` -/
def IpAddr.toMapped : IpAddr → IpAddr
  | .v4 ip => .v6 ⟨MAPPED ++ ip.1, mapped_length ip⟩
  | .v6 ip => .v6 ip

def IpAddr.IsV4 : IpAddr → Prop
  | .v4 _ => True
  | .v6 _ => False

namespace SocketAddr

/-- How a dual-stack socket reports an IPv4 peer. -/
def toMapped : SocketAddr → SocketAddr
  | .v4 ip port => .v6 ⟨MAPPED ++ ip.1, mapped_length ip⟩ port 0 0
  | .v6 ip port flowinfo scopeId => .v6 ip port flowinfo scopeId

/-- `IpAddr::to_canonical`: the IPv4 address that a mapped one stands for. -/
def toCanonical : SocketAddr → SocketAddr
  | .v4 ip port => .v4 ip port
  | .v6 ip port flowinfo scopeId =>
    if ip.1.take 12 = MAPPED then .v4 (Octets.fill 4 (ip.1.drop 12)) port
    else .v6 ip port flowinfo scopeId

def IsV4 : SocketAddr → Prop
  | .v4 _ _ => True
  | .v6 _ _ _ _ => False

theorem toCanonical_toMapped {a : SocketAddr} (h : a.IsV4) : a.toMapped.toCanonical = a := by
  cases a with
  | v4 ip port =>
    have hpre : (MAPPED ++ ip.1).take 12 = MAPPED := List.take_left' rfl
    have hip : (MAPPED ++ ip.1).drop 12 = ip.1 := List.drop_left' rfl
    show (if (MAPPED ++ ip.1).take 12 = MAPPED
      then SocketAddr.v4 (Octets.fill 4 ((MAPPED ++ ip.1).drop 12)) port
      else .v6 ⟨MAPPED ++ ip.1, mapped_length ip⟩ port 0 0) = .v4 ip port
    rw [if_pos hpre, hip, Octets.fill_eq ip.2]
  | v6 ip port flowinfo scopeId => cases h

theorem toMapped_not_v4 (a : SocketAddr) : ¬ a.toMapped.IsV4 := by
  cases a <;> exact id

theorem toMapped_injective {a b : SocketAddr} (ha : a.IsV4) (hb : b.IsV4) (h : a.toMapped = b.toMapped) :
    a = b := by
  rw [← toCanonical_toMapped ha, h, toCanonical_toMapped hb]

theorem ip_toMapped (a : SocketAddr) : a.toMapped.ip = a.ip.toMapped := by
  cases a <;> rfl

theorem ip_toMapped_injective {a b : SocketAddr} (ha : a.IsV4) (hb : b.IsV4)
    (h : a.toMapped.ip = b.toMapped.ip) : a.ip = b.ip := by
  cases a with
  | v6 ip port flowinfo scopeId => cases ha
  | v4 ip port =>
    cases b with
    | v6 ip' port' flowinfo scopeId => cases hb
    | v4 ip' port' =>
      have hv : MAPPED ++ ip.1 = MAPPED ++ ip'.1 := congrArg Subtype.val (IpAddr.v6.inj h)
      exact congrArg IpAddr.v4 (Subtype.ext (List.append_cancel_left hv))

end SocketAddr

/-! ## Display -/

def joinWith (sep : Str) (parts : List Str) : Str := sep.intercalate parts

def showV4 (ip : Bytes) : Str := joinWith "." (ip.map fun b => decimal b.toNat)

/-- The eight 16-bit groups of a V6 address. -/
def segments : Bytes → List Nat
  | hi :: lo :: rest => (hi.toNat * 256 + lo.toNat) :: segments rest
  | _ => []

/-- The longest run of zero groups: `(start, length)`, the first one on a tie.
`cur` is the run that ends just before group `i`. -/
def longestZeroes : List Nat → Nat → Nat × Nat → Nat × Nat → Nat × Nat
  | [], _, _, best => best
  | s :: rest, i, cur, best =>
    if s = 0 then
      let cur := if cur.2 = 0 then (i, 1) else (cur.1, cur.2 + 1)
      longestZeroes rest (i + 1) cur (if best.2 < cur.2 then cur else best)
    else longestZeroes rest (i + 1) (0, 0) best

def showSegments (s : List Nat) : Str := joinWith ":" (s.map (Nat.toDigits 16))

def showV6 (ip : Bytes) : Str :=
  if ip.take 12 = List.replicate 10 0 ++ [0xFF, 0xFF] then "::ffff:" ++ showV4 (ip.drop 12)
  else
    let segs := segments ip
    let (start, len) := longestZeroes segs 0 (0, 0) (0, 0)
    if 1 < len then
      showSegments (segs.take start) ++ "::" ++ showSegments (segs.drop (start + len))
    else showSegments segs

def IpAddr.toStr : IpAddr → Str
  | .v4 ip => showV4 ip.1
  | .v6 ip => showV6 ip.1

def SocketAddr.toStr : SocketAddr → Str
  | .v4 ip port => showV4 ip.1 ++ ":" ++ decimal port.toNat
  | .v6 ip port _ scope =>
    if scope = 0 then "[" ++ showV6 ip.1 ++ "]:" ++ decimal port.toNat
    else "[" ++ showV6 ip.1 ++ "%" ++ decimal scope.toNat ++ "]:" ++ decimal port.toNat

/-! ## FromStr

A parser takes a prefix off the text, or fails without taking anything. -/

def digitVal (radix : Nat) (c : Char) : Option Nat :=
  let v := if '0' ≤ c ∧ c ≤ '9' then c.toNat - '0'.toNat
    else if 'a' ≤ c ∧ c ≤ 'f' then c.toNat - 'a'.toNat + 10
    else if 'A' ≤ c ∧ c ≤ 'F' then c.toNat - 'A'.toNat + 10
    else radix
  if v < radix then some v else none

/-- The leading digits: their value and number, and the rest of the text. -/
def takeDigits (radix : Nat) : Str → Nat → Nat → Nat × Nat × Str
  | c :: s, v, n =>
    match digitVal radix c with
    | some d => takeDigits radix s (v * radix + d) (n + 1)
    | none => (v, n, c :: s)
  | [], v, n => (v, n, [])

def readNumber (radix maxDigits limit : Nat) (zeroPrefix : Bool) (s : Str) : Option (Nat × Str) :=
  let (v, n, rest) := takeDigits radix s 0 0
  if n = 0 ∨ maxDigits < n ∨ limit < v then none
  else if !zeroPrefix && s.head? == some '0' && 1 < n then none
  else some (v, rest)

/-- `str::parse::<u64>()`: a plus sign may stand in front. -/
def parseU64 (s : Str) : Option UInt64 :=
  let digits := match s with
    | '+' :: rest => rest
    | _ => s
  match takeDigits 10 digits 0 0 with
  | (v, n, []) => if n = 0 ∨ UInt64.size ≤ v then none else some (UInt64.ofNat v)
  | _ => none

def readSeparator {α : Type} (sep : Char) (i : Nat) (inner : Str → Option (α × Str)) (s : Str) :
    Option (α × Str) :=
  if i = 0 then inner s
  else
    match s with
    | c :: s => if c = sep then inner s else none
    | [] => none

/-- Octets `i`, `i + 1`, .. of a dotted address, `n` of them. -/
def readOctets : Nat → Nat → Str → Option (Bytes × Str)
  | 0, _, s => some ([], s)
  | n + 1, i, s => do
    let (v, s) ← readSeparator '.' i (readNumber 10 3 255 false) s
    let (ip, s) ← readOctets n (i + 1) s
    some (UInt8.ofNat v :: ip, s)

/-- Up to `n` groups from group `i` on, with an embedded V4 address allowed
for the last two: the groups, whether they end in one, and the rest. -/
def readGroups : Nat → Nat → Str → List Nat × Bool × Str
  | 0, _, s => ([], false, s)
  | n + 1, i, s =>
    match if 0 < n then readSeparator ':' i (readOctets 4 0) s else none with
    | some (ip, s) => (segments ip, true, s)
    | none =>
      match readSeparator ':' i (readNumber 16 4 0xFFFF true) s with
      | some (g, s) =>
        let (gs, v4, s) := readGroups n (i + 1) s
        (g :: gs, v4, s)
      | none => ([], false, s)

def readV6 (s : Str) : Option (List Nat × Str) :=
  let (head, headV4, s) := readGroups 8 0 s
  if head.length = 8 then some (head, s)
  else if headV4 then none
  else
    match s with
    | ':' :: ':' :: s =>
      let (tail, _, s) := readGroups (8 - (head.length + 1)) 0 s
      some (head ++ List.replicate (8 - head.length - tail.length) 0 ++ tail, s)
    | _ => none

/-- `str::parse::<Ipv4Addr>()`: at most 15 characters, all of them used. -/
def parseIpv4 (s : Str) : Option (Octets 4) :=
  if 15 < s.length then none
  else
    match readOctets 4 0 s with
    | some (ip, []) => some (Octets.fill 4 ip)
    | _ => none

/-- `str::parse::<Ipv6Addr>()` -/
def parseIpv6 (s : Str) : Option (Octets 16) :=
  match readV6 s with
  | some (segs, []) =>
    some (Octets.fill 16 (segs.flatMap fun g => toBeBytes (UInt16.ofNat g)))
  | _ => none

/-- `str::parse::<IpAddr>()` -/
def parseIpAddr (s : Str) : Option IpAddr :=
  match parseIpv4 s with
  | some ip => some (.v4 ip)
  | none => (parseIpv6 s).map .v6

/-! ## Decimal numbers -/

/-- A number written in ASCII digits. -/
def IsDigits (s : Str) : Prop := s ≠ [] ∧ ∀ c ∈ s, c.isDigit = true

instance (s : Str) : Decidable (IsDigits s) :=
  decidable_of_iff (s ≠ [] ∧ s.all Char.isDigit = true) (and_congr_right fun _ => List.all_eq_true)

/-- The number that digits denote, behind digits that denote `v`. -/
def digitsValueFrom (v : Nat) (s : Str) : Nat := s.foldl (fun v c => v * 10 + (c.toNat - '0'.toNat)) v

def digitsValue (s : Str) : Nat := digitsValueFrom 0 s

/-- The number that all of a text denotes, below `size`. -/
def readDigits (size : Nat) (s : Str) : Option Nat :=
  match takeDigits 10 s 0 0 with
  | (v, n, []) => if n = 0 ∨ size ≤ v then none else some v
  | _ => none

/-- `str::parse` for the unsigned integers below `size`: a plus sign may stand in front. -/
def parseUnsigned (size : Nat) (s : Str) : Option Nat :=
  readDigits size (match s with
    | '+' :: rest => rest
    | _ => s)

theorem digitVal_ten {c : Char} {d : Nat} :
    digitVal 10 c = some d ↔ c.isDigit = true ∧ d = c.toNat - '0'.toNat := by
  have hiff : c.isDigit = true ↔ '0' ≤ c ∧ c ≤ '9' := by
    simp only [Char.isDigit, Bool.and_eq_true, decide_eq_true_eq]
    rfl
  have h0 : '0'.toNat = 48 := rfl
  rw [hiff]
  unfold digitVal
  simp only
  split
  · rename_i h
    have h9 : c.toNat ≤ 57 := UInt32.le_iff_toNat_le.1 h.2
    rw [if_pos (by omega), Option.some.injEq, and_iff_right h]
    exact eq_comm
  · rename_i h
    rw [if_neg]
    · constructor
      · intro h'
        cases h'
      · exact fun h' => absurd h'.1 h
    · split
      · omega
      · split
        · omega
        · omega

/-- All of it is digits exactly if nothing is left. -/
theorem takeDigits_ten {s : Str} : ∀ {v n v' n' : Nat}, takeDigits 10 s v n = (v', n', []) ↔
    (∀ c ∈ s, c.isDigit = true) ∧ v' = digitsValueFrom v s ∧ n' = n + s.length := by
  induction s with
  | nil =>
    intro v n v' n'
    constructor
    · intro h
      cases h
      exact ⟨by simp, rfl, rfl⟩
    · intro hx
      obtain ⟨-, rfl, rfl⟩ := hx
      rfl
  | cons c s ih =>
    intro v n v' n'
    unfold takeDigits
    cases hd : digitVal 10 c with
    | none =>
      have hc : ¬ c.isDigit = true := by
        intro h
        rw [digitVal_ten.2 ⟨h, rfl⟩] at hd
        cases hd
      simp [hc]
    | some d =>
      obtain ⟨hc, rfl⟩ := digitVal_ten.1 hd
      simp only [ih, List.mem_cons, forall_eq_or_imp, hc, true_and, List.length_cons]
      refine and_congr_right fun _ => and_congr_right fun _ => ?_
      omega

theorem IsDigits.noPlus {s : Str} (h : IsDigits s) : s.head? ≠ some '+' := by
  intro hp
  cases s with
  | nil => cases hp
  | cons c s =>
    obtain rfl := Option.some.inj hp
    cases h.2 '+' (.head _)

theorem readDigits_iff {size n : Nat} {s : Str} :
    readDigits size s = some n ↔ IsDigits s ∧ digitsValue s = n ∧ n < size := by
  unfold readDigits IsDigits digitsValue
  cases ht : takeDigits 10 s 0 0 with
  | mk v r =>
    obtain ⟨m, rest⟩ := r
    cases rest with
    | nil =>
      obtain ⟨hd, rfl, hm⟩ := takeDigits_ten.1 ht
      have hlen : m = 0 ↔ s = [] := by
        rw [hm, Nat.zero_add, List.length_eq_zero_iff]
      simp only [hlen]
      split
      · rename_i h
        constructor
        · intro h'
          cases h'
        · intro hx
          obtain ⟨⟨hne, -⟩, rfl, hlt⟩ := hx
          rcases h with h | h
          · exact absurd h hne
          · exact absurd hlt (Nat.not_lt.2 h)
      · rename_i h
        rw [not_or, Nat.not_le] at h
        constructor
        · intro h'
          cases h'
          exact ⟨⟨h.1, hd⟩, rfl, h.2⟩
        · intro hx
          obtain ⟨-, rfl, -⟩ := hx
          rfl
    | cons c rest =>
      constructor
      · intro h
        cases h
      · intro hx
        obtain ⟨⟨-, hd⟩, -⟩ := hx
        have hall : takeDigits 10 s 0 0 = (digitsValueFrom 0 s, s.length, []) :=
          takeDigits_ten.2 ⟨hd, rfl, (Nat.zero_add _).symm⟩
        rw [hall] at ht
        cases ht

/-- What is parsed: digits, with a plus sign or without, for a number below the bound. -/
theorem parseUnsigned_iff {size n : Nat} {s : Str} : parseUnsigned size s = some n ↔
    ∃ d, (s = d ∨ s = '+' :: d) ∧ IsDigits d ∧ digitsValue d = n ∧ n < size := by
  unfold parseUnsigned
  rw [readDigits_iff]
  split
  · rename_i rest
    constructor
    · exact fun h => ⟨rest, .inr rfl, h⟩
    · intro hx
      rcases hx with ⟨d, rfl | h, hd⟩
      · exact absurd rfl hd.1.noPlus
      · obtain rfl := (List.cons.inj h).2
        exact hd
  · rename_i hne
    constructor
    · exact fun h => ⟨s, .inl rfl, h⟩
    · intro hx
      rcases hx with ⟨d, rfl | h, hd⟩
      · exact hd
      · exact absurd h (hne d)

/-- The number is read as it was written. -/
theorem parseUnsigned_decimal {size n : Nat} (h : n < size) : parseUnsigned size (decimal n) = some n := by
  refine parseUnsigned_iff.2
    ⟨decimal n, .inl rfl, ⟨Nat.toDigits_ne_nil, fun c hc => isDigit_decimal hc⟩, ?_, h⟩
  have hv := @Nat.ofDigitChars_ten_toDigits n
  rw [Nat.ofDigitChars_eq_foldl] at hv
  unfold digitsValue digitsValueFrom decimal
  simpa only [Nat.mul_comm] using hv

theorem parseU64_eq (s : Str) : parseU64 s = (parseUnsigned UInt64.size s).map UInt64.ofNat := by
  unfold parseU64 parseUnsigned readDigits
  simp only
  generalize takeDigits 10 _ 0 0 = r
  obtain ⟨v, n, rest⟩ := r
  cases rest with
  | nil =>
    simp only
    split
    · rfl
    · rfl
  | cons c rest => rfl

/-! ## What an address is written in -/

/-- A hexadecimal digit, or what separates the parts of an address. -/
def AddressChar (c : Char) : Prop := (digitVal 16 c).isSome = true ∨ c = '.' ∨ c = ':'

instance (c : Char) : Decidable (AddressChar c) := inferInstanceAs (Decidable (_ ∨ _))

/-- What was taken off the text is a part of an address. -/
def TakesAddress (s rest : Str) : Prop := ∃ p, s = p ++ rest ∧ ∀ c ∈ p, AddressChar c

theorem takesAddress_refl (s : Str) : TakesAddress s s := ⟨[], rfl, by simp⟩

theorem TakesAddress.trans {s s' s'' : Str} (h : TakesAddress s s') (h' : TakesAddress s' s'') :
    TakesAddress s s'' := by
  obtain ⟨p, rfl, hp⟩ := h
  obtain ⟨p', rfl, hp'⟩ := h'
  exact ⟨p ++ p', by simp, List.forall_mem_append.2 ⟨hp, hp'⟩⟩

theorem takesAddress_cons {c : Char} {s s' : Str} (hc : AddressChar c) (h : TakesAddress s s') :
    TakesAddress (c :: s) s' := by
  obtain ⟨p, rfl, hp⟩ := h
  exact ⟨c :: p, rfl, List.forall_mem_cons.2 ⟨hc, hp⟩⟩

/-- A reader takes parts of addresses only. -/
def ReadsAddress {α : Type} (inner : Str → Option (α × Str)) : Prop :=
  ∀ s a rest, inner s = some (a, rest) → TakesAddress s rest

theorem digitVal_addressChar {radix : Nat} {c : Char} {d : Nat} (h : digitVal radix c = some d)
    (hr : radix ≤ 16) : AddressChar c := by
  unfold digitVal at h
  simp only [Option.ite_none_right_eq_some] at h
  obtain ⟨hlt, -⟩ := h
  refine .inl ?_
  unfold digitVal
  simp only
  rw [if_pos]
  · rfl
  -- the value does not depend on the radix, unless there is none
  split
  · rw [if_pos ‹_›] at hlt
    omega
  rw [if_neg ‹_›] at hlt
  split
  · rw [if_pos ‹_›] at hlt
    omega
  rw [if_neg ‹_›] at hlt
  split
  · rw [if_pos ‹_›] at hlt
    omega
  · rw [if_neg ‹_›] at hlt
    omega

theorem takeDigits_takes {radix : Nat} (hr : radix ≤ 16) : ∀ (s : Str) (v n : Nat),
    TakesAddress s (takeDigits radix s v n).2.2 := by
  intro s
  induction s with
  | nil => exact fun v n => takesAddress_refl []
  | cons c s ih =>
    intro v n
    unfold takeDigits
    cases hd : digitVal radix c with
    | none => exact takesAddress_refl _
    | some d => exact takesAddress_cons (digitVal_addressChar hd hr) (ih _ _)

theorem readsAddress_number {radix : Nat} (hr : radix ≤ 16) (maxDigits limit : Nat) (zeroPrefix : Bool) :
    ReadsAddress (readNumber radix maxDigits limit zeroPrefix) := by
  intro s a rest h
  have ht := takeDigits_takes hr s 0 0
  unfold readNumber at h
  generalize takeDigits radix s 0 0 = r at h ht
  obtain ⟨v, n, rest'⟩ := r
  simp only at h
  split at h
  · cases h
  split at h
  · cases h
  · cases h
    exact ht

theorem readsAddress_separator {α : Type} {inner : Str → Option (α × Str)} (hi : ReadsAddress inner)
    {sep : Char} (hsep : AddressChar sep) (i : Nat) : ReadsAddress (readSeparator sep i inner) := by
  intro s a rest h
  unfold readSeparator at h
  split at h
  · exact hi s a rest h
  · cases s with
    | nil => cases h
    | cons c s =>
      simp only at h
      split at h
      · rename_i hc
        exact takesAddress_cons (hc ▸ hsep) (hi s a rest h)
      · cases h

theorem addressChar_dot : AddressChar '.' := .inr (.inl rfl)

theorem addressChar_colon : AddressChar ':' := .inr (.inr rfl)

theorem readsAddress_octets : ∀ n i, ReadsAddress (readOctets n i) := by
  intro n
  induction n with
  | zero =>
    intro i s a rest h
    cases h
    exact takesAddress_refl _
  | succ n ih =>
    intro i s a rest h
    rw [readOctets, Option.bind_eq_bind, Option.bind_eq_some_iff] at h
    obtain ⟨⟨v, s'⟩, h₁, h⟩ := h
    rw [Option.bind_eq_bind, Option.bind_eq_some_iff] at h
    obtain ⟨⟨ip, s''⟩, h₂, h⟩ := h
    cases h
    exact (readsAddress_separator (readsAddress_number (by decide) _ _ _) addressChar_dot i s _ _ h₁).trans
      (ih _ s' _ _ h₂)

theorem readGroups_takes : ∀ n i s, TakesAddress s (readGroups n i s).2.2 := by
  intro n
  induction n with
  | zero => exact fun i s => takesAddress_refl s
  | succ n ih =>
    intro i s
    unfold readGroups
    split
    · rename_i ip s' h
      split at h
      · exact readsAddress_separator (readsAddress_octets 4 0) addressChar_colon i s ip s' h
      · cases h
    · split
      · rename_i g s' h
        exact (readsAddress_separator (readsAddress_number (by decide) _ _ _) addressChar_colon i s g s' h).trans
          (ih _ _)
      · exact takesAddress_refl s

theorem readsAddress_v6 : ReadsAddress readV6 := by
  intro s a rest h
  have ht := readGroups_takes 8 0 s
  unfold readV6 at h
  generalize readGroups 8 0 s = r at h ht
  obtain ⟨head, headV4, s'⟩ := r
  simp only at h
  split at h
  · cases h
    exact ht
  split at h
  · cases h
  split at h
  · rename_i s''
    have ht' := readGroups_takes (8 - (head.length + 1)) 0 s''
    cases h
    exact ht.trans (takesAddress_cons addressChar_colon (takesAddress_cons addressChar_colon ht'))
  · cases h

theorem TakesAddress.all {s : Str} (h : TakesAddress s []) : ∀ c ∈ s, AddressChar c := by
  obtain ⟨p, rfl, hp⟩ := h
  rwa [List.append_nil]

/-- An address is written in digits, dots and colons. -/
theorem parseIpAddr_chars {s : Str} {ip : IpAddr} (h : parseIpAddr s = some ip) :
    ∀ c ∈ s, AddressChar c := by
  unfold parseIpAddr at h
  split at h
  · rename_i ip' h4
    unfold parseIpv4 at h4
    split at h4
    · cases h4
    split at h4
    · exact (readsAddress_octets 4 0 s _ _ ‹_›).all
    · cases h4
  · rw [Option.map_eq_some_iff] at h
    obtain ⟨ip', h6, -⟩ := h
    unfold parseIpv6 at h6
    split at h6
    · exact (readsAddress_v6 s _ _ ‹_›).all
    · cases h6

end TinySocks.L1
