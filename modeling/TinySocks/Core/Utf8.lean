import TinySocks.Core.Text

/-!
# UTF-8

Encoding and the two decoders of the standard library: `decode` rejects
ill-formed bytes, `decodeLossy` replaces each maximal ill-formed piece by
U+FFFD. Both walk the bytes once; the counter is the number of bytes of the
current character (or ill-formed piece) still to be passed over.

Single characters are coded by `String.utf8EncodeChar` and
`ByteArray.utf8DecodeChar?`; `byChar` is the induction along an input: empty,
ill-formed at its start, or a character followed by more.
-/
namespace TinySocks.Core.Utf8

def encode (s : Str) : Bytes := s.flatMap String.utf8EncodeChar

/-- The character whose encoding the bytes start with. -/
def decodeChar (b : Bytes) : Option Char := b.toByteArray.utf8DecodeChar? 0

def decodeFrom : Nat → Bytes → Option Str
  | _, [] => some []
  | k + 1, _ :: bs => decodeFrom k bs
  | 0, b :: bs =>
    match decodeChar (b :: bs) with
    | some c => (decodeFrom (c.utf8Size - 1) bs).map (c :: ·)
    | none => none

/-- `str::from_utf8`. -/
def decode (b : Bytes) : Option Str := decodeFrom 0 b

/-- The replacement character. -/
def replacement : Char := '\uFFFD'

def isContinuation (b : UInt8) : Bool := 0x80 ≤ b && b ≤ 0xBF

/-- Whether `x` may follow the first byte `b` of a character of three or four
bytes (overlong forms, surrogates and values above U+10FFFF are excluded here). -/
def secondOk (b x : UInt8) : Bool :=
  if b == 0xE0 then 0xA0 ≤ x && x ≤ 0xBF
  else if b == 0xED then 0x80 ≤ x && x ≤ 0x9F
  else if b == 0xF0 then 0x90 ≤ x && x ≤ 0xBF
  else if b == 0xF4 then 0x80 ≤ x && x ≤ 0x8F
  else isContinuation x

/-- The length of the ill-formed piece at the start of the bytes: the first
byte and as many after it as a well-formed character could have started with. -/
def invalidLen : Bytes → Nat
  | b :: x :: y :: _ =>
    if 0xE0 ≤ b && b ≤ 0xF4 && secondOk b x then
      if 0xF0 ≤ b && isContinuation y then 3 else 2
    else 1
  | [b, x] => if 0xE0 ≤ b && b ≤ 0xF4 && secondOk b x then 2 else 1
  | _ => 1

def lossyFrom : Nat → Bytes → Str
  | _, [] => []
  | k + 1, _ :: bs => lossyFrom k bs
  | 0, b :: bs =>
    match decodeChar (b :: bs) with
    | some c => c :: lossyFrom (c.utf8Size - 1) bs
    | none => replacement :: lossyFrom (invalidLen (b :: bs) - 1) bs

/-- `String::from_utf8_lossy`. -/
def decodeLossy (b : Bytes) : Str := lossyFrom 0 b

@[simp] theorem encode_nil : encode [] = [] := rfl

@[simp] theorem encode_cons (c : Char) (s : Str) :
    encode (c :: s) = String.utf8EncodeChar c ++ encode s := rfl

@[simp] theorem encode_append (s t : Str) : encode (s ++ t) = encode s ++ encode t := by
  simp [encode]

/-! ## One character -/

theorem decodeChar_append (c : Char) (r : Bytes) :
    decodeChar (String.utf8EncodeChar c ++ r) = some c := by
  unfold decodeChar
  rw [List.toByteArray_append]
  exact ByteArray.utf8DecodeChar?_utf8EncodeChar_append

theorem eq_append_of_decodeChar {b : Bytes} {c : Char} (h : decodeChar b = some c) :
    ∃ r, b = String.utf8EncodeChar c ++ r := by
  obtain ⟨l, hl⟩ := ByteArray.exists_of_utf8DecodeChar?_eq_some h
  refine ⟨l.data.toList, ?_⟩
  have := congrArg (fun x : ByteArray => x.data.toList) hl
  simpa [List.utf8Encode] using this

theorem encodeChar_ne_nil (c : Char) : String.utf8EncodeChar c ≠ [] := by
  intro h
  have hl := congrArg List.length h
  rw [String.length_utf8EncodeChar] at hl
  have := c.utf8Size_pos
  simp at hl
  omega

theorem encode_eq_nil {s : Str} : encode s = [] ↔ s = [] := by
  cases s with
  | nil => simp
  | cons c s => simp

/-- The encoding of a character is a byte and `utf8Size - 1` more. -/
theorem encodeChar_cons (c : Char) :
    ∃ b bs, String.utf8EncodeChar c = b :: bs ∧ bs.length = c.utf8Size - 1 := by
  obtain ⟨b, bs, hb⟩ := List.exists_cons_of_ne_nil (encodeChar_ne_nil c)
  refine ⟨b, bs, hb, ?_⟩
  have hl := congrArg List.length hb
  rw [String.length_utf8EncodeChar] at hl
  simp at hl
  omega

theorem decodeFrom_skip (l r : Bytes) : decodeFrom l.length (l ++ r) = decodeFrom 0 r := by
  induction l with
  | nil => rfl
  | cons b l ih => exact ih

theorem lossyFrom_skip (l r : Bytes) : lossyFrom l.length (l ++ r) = lossyFrom 0 r := by
  induction l with
  | nil => rfl
  | cons b l ih => exact ih

theorem decode_char (c : Char) (r : Bytes) :
    decode (String.utf8EncodeChar c ++ r) = (decode r).map (c :: ·) := by
  have hd := decodeChar_append c r
  obtain ⟨b, bs, hb, hl⟩ := encodeChar_cons c
  rw [hb] at hd ⊢
  unfold decode
  simp only [List.cons_append] at hd ⊢
  rw [decodeFrom, hd]
  simp only [← hl, decodeFrom_skip]

theorem decodeLossy_char (c : Char) (r : Bytes) :
    decodeLossy (String.utf8EncodeChar c ++ r) = c :: decodeLossy r := by
  have hd := decodeChar_append c r
  obtain ⟨b, bs, hb, hl⟩ := encodeChar_cons c
  rw [hb] at hd ⊢
  unfold decodeLossy
  simp only [List.cons_append] at hd ⊢
  rw [lossyFrom, hd]
  simp only [← hl, lossyFrom_skip]

theorem decode_bad {b : Bytes} (hne : b ≠ []) (h : decodeChar b = none) : decode b = none := by
  obtain ⟨x, xs, rfl⟩ := List.exists_cons_of_ne_nil hne
  unfold decode
  rw [decodeFrom, h]

theorem decodeLossy_bad {b : Bytes} (hne : b ≠ []) (h : decodeChar b = none) :
    decodeLossy b = replacement :: lossyFrom (invalidLen b - 1) b.tail := by
  obtain ⟨x, xs, rfl⟩ := List.exists_cons_of_ne_nil hne
  unfold decodeLossy
  rw [lossyFrom, h]
  rfl

/-- Induction along an input. -/
theorem byChar {P : Bytes → Prop} (nil : P [])
    (bad : ∀ b, b ≠ [] → decodeChar b = none → P b)
    (char : ∀ c r, P r → P (String.utf8EncodeChar c ++ r)) : ∀ b, P b := by
  intro b
  induction hn : b.length using Nat.strongRecOn generalizing b with
  | _ n ih =>
    by_cases hb : b = []
    · subst hb
      exact nil
    cases hc : decodeChar b with
    | none => exact bad b hb hc
    | some c =>
      obtain ⟨r, rfl⟩ := eq_append_of_decodeChar hc
      refine char c r (ih r.length ?_ r rfl)
      have := List.length_pos_iff.2 (encodeChar_ne_nil c)
      rw [List.length_append] at hn
      omega

/-! ## Whole inputs -/

theorem decode_encode_append (s : Str) (r : Bytes) :
    decode (encode s ++ r) = (decode r).map (s ++ ·) := by
  induction s with
  | nil => simp
  | cons c s ih =>
    rw [encode_cons, List.append_assoc, decode_char, ih, Option.map_map]
    rfl

/-- Text survives the trip through bytes. -/
@[simp] theorem decode_encode (s : Str) : decode (encode s) = some s := by
  have h := decode_encode_append s []
  simpa [decode, decodeFrom] using h

/-- Bytes that decode are the encoding of what they decode to. -/
theorem encode_of_decode {b : Bytes} : ∀ {s : Str}, decode b = some s → encode s = b := by
  induction b using byChar with
  | nil =>
    intro s h
    cases h
    rfl
  | bad b hb hc =>
    intro s h
    rw [decode_bad hb hc] at h
    cases h
  | char c r ih =>
    intro s h
    rw [decode_char] at h
    obtain ⟨t, ht, rfl⟩ := Option.map_eq_some_iff.1 h
    rw [encode_cons, ih ht]

theorem decode_eq_some {b : Bytes} {s : Str} : decode b = some s ↔ b = encode s :=
  ⟨fun h => (encode_of_decode h).symm, fun h => h ▸ decode_encode s⟩

theorem encode_injective {s t : Str} (h : encode s = encode t) : s = t := by
  have := decode_encode s
  rw [h, decode_encode] at this
  exact (Option.some.inj this).symm

theorem decodeLossy_encode_append (s : Str) (r : Bytes) :
    decodeLossy (encode s ++ r) = s ++ decodeLossy r := by
  induction s with
  | nil => rfl
  | cons c s ih => rw [encode_cons, List.append_assoc, decodeLossy_char, ih, List.cons_append]

/-- On well-formed bytes the lossy decoder loses nothing. -/
@[simp] theorem decodeLossy_encode (s : Str) : decodeLossy (encode s) = s := by
  have h := decodeLossy_encode_append s []
  simpa [decodeLossy, lossyFrom] using h

/-- Without a replacement character in the result, nothing was replaced. -/
theorem encode_decodeLossy {b : Bytes} :
    replacement ∉ decodeLossy b → encode (decodeLossy b) = b := by
  induction b using byChar with
  | nil => exact fun _ => rfl
  | bad b hb hc =>
    intro h
    rw [decodeLossy_bad hb hc] at h
    exact absurd List.mem_cons_self h
  | char c r ih =>
    intro h
    rw [decodeLossy_char] at h ⊢
    rw [encode_cons, ih fun hr => h (List.mem_cons_of_mem _ hr)]

theorem decodeChar_ff (r : Bytes) : decodeChar (0xFF :: r) = none := by
  have hz : (List.toByteArray (0xFF :: r)).size = r.length + 1 := by simp
  have h0 : (List.toByteArray (0xFF :: r))[0] = 0xFF := by simp
  have hp : ByteArray.utf8DecodeChar?.parseFirstByte 0xFF = .invalid := rfl
  unfold decodeChar ByteArray.utf8DecodeChar?
  rw [dif_pos (by omega)]
  split <;> first | rfl | (rename_i h; rw [h0, hp] at h; cases h)

/-- `FF` never occurs in UTF-8; the lossy decoder replaces it alone. -/
theorem decodeLossy_ff (r : Bytes) : decodeLossy (0xFF :: r) = replacement :: decodeLossy r := by
  rw [decodeLossy_bad (by simp) (decodeChar_ff r)]
  have h1 : invalidLen (0xFF :: r) = 1 := by
    unfold invalidLen
    split
    · rename_i heq
      cases heq
      rfl
    · rename_i heq
      cases heq
      rfl
    · rfl
  rw [h1]
  rfl

/-- A text with U+FFFD is also what a shorter, malformed byte string decodes to. -/
theorem exists_malformed {s : Str} (h : replacement ∈ s) :
    ∃ b, b.length < (encode s).length ∧ decodeLossy b = s := by
  obtain ⟨x, y, rfl⟩ := List.append_of_mem h
  refine ⟨encode x ++ 0xFF :: encode y, ?_, ?_⟩
  · have hr : (String.utf8EncodeChar replacement).length = 3 := by decide
    simp only [encode_append, encode_cons, List.length_append, List.length_cons, hr]
    omega
  · rw [decodeLossy_encode_append, decodeLossy_ff, decodeLossy_encode]

/-- A text without it is what one byte string decodes to. -/
theorem decodeLossy_eq_iff {s : Str} (h : replacement ∉ s) {b : Bytes} :
    s = decodeLossy b ↔ b = encode s := by
  constructor
  · intro he
    subst he
    exact (encode_decodeLossy h).symm
  · intro he
    subst he
    exact (decodeLossy_encode s).symm

/-! ## ASCII -/

/-- ASCII bytes as text. -/
def ofAscii (b : Bytes) : Str := b.map fun c => Char.ofNat c.toNat

theorem encodeChar_ascii : ∀ n, n < 128 →
    String.utf8EncodeChar (Char.ofNat n) = [UInt8.ofNat n] := by decide

theorem encode_ofAscii {b : Bytes} (h : ∀ c ∈ b, c < 0x80) : encode (ofAscii b) = b := by
  induction b with
  | nil => rfl
  | cons c b ih =>
    have hc : c.toNat < 128 := UInt8.lt_iff_toNat_lt.1 (h c (.head _))
    show encode (Char.ofNat c.toNat :: ofAscii b) = c :: b
    rw [encode_cons, encodeChar_ascii _ hc, ih fun d hd => h d (.tail _ hd), UInt8.ofNat_toNat]
    rfl

/-- An ASCII byte of a text is a character of its own. -/
theorem mem_encodeChar {c : Char} {b : UInt8} (h : b ∈ String.utf8EncodeChar c) (hb : b < 0x80) :
    c.toNat = b.toNat := by
  have hb' : b.toNat < 128 := UInt8.lt_iff_toNat_lt.1 hb
  have hpart : ∀ n, 128 ≤ n → n < 256 → b ≠ UInt8.ofNat n := by
    intro n h₁ h₂ he
    subst he
    rw [UInt8.toNat_ofNat', Nat.mod_eq_of_lt h₂] at hb'
    omega
  have hv : c.val.toNat = c.toNat := rfl
  unfold String.utf8EncodeChar at h
  simp only [hv] at h
  split at h
  · rename_i hle
    obtain rfl := List.mem_singleton.1 h
    rw [UInt8.toNat_ofNat', Nat.mod_eq_of_lt (by omega)]
  -- the bytes of a longer encoding are 128 and more
  all_goals
    refine absurd h ?_
    try split
    all_goals
      try split
      all_goals
        simp only [List.mem_cons, List.not_mem_nil, or_false, not_or]
        repeat' constructor
        all_goals exact hpart _ (by omega) (by omega)

theorem mem_encode {s : Str} {b : UInt8} (h : b ∈ encode s) (hb : b < 0x80) :
    ∃ c ∈ s, c.toNat = b.toNat := by
  obtain ⟨c, hc, hm⟩ := List.mem_flatMap.1 h
  exact ⟨c, hc, mem_encodeChar hm hb⟩

theorem not_mem_encode {s : Str} {c : Char} (h : c ∉ s) (hc : c.toNat < 128) :
    UInt8.ofNat c.toNat ∉ encode s := by
  have hn : (UInt8.ofNat c.toNat).toNat = c.toNat := by
    rw [UInt8.toNat_ofNat', Nat.mod_eq_of_lt (by omega)]
  intro hm
  obtain ⟨d, hd, he⟩ := mem_encode hm (UInt8.lt_iff_toNat_lt.2 (by rw [hn]; exact hc))
  rw [hn] at he
  exact h (Char.toNat_inj.1 he ▸ hd)

/-- The first byte is one of the first character. -/
theorem head?_encode {s : Str} {b : UInt8} (h : b ∈ (encode s).head?) (hb : b < 0x80) :
    ∃ c ∈ s.head?, c.toNat = b.toNat := by
  cases s with
  | nil => cases h
  | cons c s =>
    obtain ⟨x, xs, hx, -⟩ := encodeChar_cons c
    have hm : x ∈ String.utf8EncodeChar c := hx ▸ List.mem_cons_self
    rw [encode_cons, hx] at h
    obtain rfl : x = b := Option.some.inj h
    exact ⟨c, rfl, mem_encodeChar hm hb⟩

theorem getLast?_encode {s : Str} {b : UInt8} (h : b ∈ (encode s).getLast?) (hb : b < 0x80) :
    ∃ c ∈ s.getLast?, c.toNat = b.toNat := by
  rcases List.eq_nil_or_concat s with rfl | ⟨s, c, rfl⟩
  · cases h
  · obtain ⟨xs, x, hx⟩ := (List.eq_nil_or_concat _).resolve_left (encodeChar_ne_nil c)
    have hm : x ∈ String.utf8EncodeChar c := by simp [hx]
    have he : encode (s.concat c) = (encode s ++ xs) ++ [x] := by simp [hx]
    rw [he, List.getLast?_concat] at h
    obtain rfl : x = b := Option.some.inj h
    exact ⟨c, by simp, mem_encodeChar hm hb⟩

/-! ## Byte positions -/

/-- `str::char_indices`: every character with the position of its first byte. -/
def charIndicesFrom : Nat → Str → List (Nat × Char)
  | _, [] => []
  | i, c :: s => (i, c) :: charIndicesFrom (i + (String.utf8EncodeChar c).length) s

def charIndices (s : Str) : List (Nat × Char) := charIndicesFrom 0 s

/-- `&s[..end]`: a position that is not between two characters is out of range. -/
def sliceTo {ε : Type} (s : Str) (i : Nat) : Except (Abort ε) Str :=
  if i ≤ (encode s).length then
    match decode ((encode s).take i) with
    | some t => .ok t
    | none => .error .panic
  else .error .panic

theorem charIndicesFrom_getElem? {s : Str} : ∀ {i n : Nat}, (charIndicesFrom i s)[n]? =
    s[n]?.map fun c => (i + (encode (s.take n)).length, c) := by
  induction s with
  | nil => exact rfl
  | cons c s ih =>
    intro i n
    cases n with
    | zero => rfl
    | succ n =>
      simp only [charIndicesFrom, List.getElem?_cons_succ, ih, List.take_succ_cons, encode_cons,
        List.length_append, Nat.add_assoc]

theorem charIndices_getElem? (s : Str) (n : Nat) :
    (charIndices s)[n]? = s[n]?.map fun c => ((encode (s.take n)).length, c) := by
  rw [charIndices, charIndicesFrom_getElem?]
  simp only [Nat.zero_add]

/-- Every character ends at such a position. -/
theorem sliceTo_take {ε : Type} (s : Str) (n : Nat) :
    (sliceTo s (encode (s.take n)).length : Except (Abort ε) Str) = .ok (s.take n) := by
  have hs : encode s = encode (s.take n) ++ encode (s.drop n) := by
    rw [← encode_append, List.take_append_drop]
  unfold sliceTo
  rw [hs, List.take_left, decode_encode, if_pos (by simp)]

theorem length_le_encode (s : Str) : s.length ≤ (encode s).length := by
  induction s with
  | nil => exact Nat.le_refl 0
  | cons c s ih =>
    have hc := List.length_pos_iff.2 (encodeChar_ne_nil c)
    rw [encode_cons, List.length_append, List.length_cons]
    omega

end TinySocks.Core.Utf8
