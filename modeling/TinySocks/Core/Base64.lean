import TinySocks.Core.Bytes

/-!
# Base64

The standard alphabet with padding. `decode` accepts canonical input only: a
padded group is the last one, and the bits it leaves over are zero.
-/
namespace TinySocks.Core.Base64

def PAD : UInt8 := 0x3D

/-- The digit of a value below 64. -/
def digit (n : Nat) : UInt8 :=
  if n < 26 then UInt8.ofNat (0x41 + n)
  else if n < 52 then UInt8.ofNat (0x61 + (n - 26))
  else if n < 62 then UInt8.ofNat (0x30 + (n - 52))
  else if n = 62 then 0x2B
  else 0x2F

def value (c : UInt8) : Option Nat :=
  if 0x41 ≤ c ∧ c ≤ 0x5A then some (c.toNat - 0x41)
  else if 0x61 ≤ c ∧ c ≤ 0x7A then some (c.toNat - 0x61 + 26)
  else if 0x30 ≤ c ∧ c ≤ 0x39 then some (c.toNat - 0x30 + 52)
  else if c = 0x2B then some 62
  else if c = 0x2F then some 63
  else none

def encode : Bytes → Bytes
  | a :: b :: c :: rest =>
    digit (a.toNat / 4) :: digit (a.toNat % 4 * 16 + b.toNat / 16) ::
      digit (b.toNat % 16 * 4 + c.toNat / 64) :: digit (c.toNat % 64) :: encode rest
  | [a, b] =>
    [digit (a.toNat / 4), digit (a.toNat % 4 * 16 + b.toNat / 16), digit (b.toNat % 16 * 4), PAD]
  | [a] => [digit (a.toNat / 4), digit (a.toNat % 4 * 16), PAD, PAD]
  | [] => []

def decode : Bytes → Option Bytes
  | w :: x :: y :: z :: rest => do
    let i ← value w
    let j ← value x
    if y = PAD then
      if z = PAD ∧ rest = [] ∧ j % 16 = 0 then some [UInt8.ofNat (i * 4 + j / 16)] else none
    else do
      let k ← value y
      if z = PAD then
        if rest = [] ∧ k % 4 = 0 then
          some [UInt8.ofNat (i * 4 + j / 16), UInt8.ofNat (j % 16 * 16 + k / 4)]
        else none
      else do
        let l ← value z
        let tail ← decode rest
        some (UInt8.ofNat (i * 4 + j / 16) :: UInt8.ofNat (j % 16 * 16 + k / 4) ::
          UInt8.ofNat (k % 4 * 64 + l) :: tail)
  | [] => some []
  | _ => none

theorem value_digit : ∀ n, n < 64 → value (digit n) = some n := by decide

theorem digit_ne_pad : ∀ n, n < 64 → digit n ≠ PAD := by decide

theorem digit_visible : ∀ n, n < 64 → 0x21 ≤ digit n ∧ digit n ≤ 0x7E := by decide

/-- **Decoding undoes encoding.** -/
theorem decode_encode (b : Bytes) : decode (encode b) = some b := by
  induction b using encode.induct with
  | case1 a b c rest ih =>
    have ha := a.toNat_lt
    have hb := b.toNat_lt
    have hc := c.toNat_lt
    rw [encode, decode]
    simp only [value_digit _ (show a.toNat / 4 < 64 by omega),
      value_digit _ (show a.toNat % 4 * 16 + b.toNat / 16 < 64 by omega),
      value_digit _ (show b.toNat % 16 * 4 + c.toNat / 64 < 64 by omega),
      value_digit _ (show c.toNat % 64 < 64 by omega),
      if_neg (digit_ne_pad _ (show b.toNat % 16 * 4 + c.toNat / 64 < 64 by omega)),
      if_neg (digit_ne_pad _ (show c.toNat % 64 < 64 by omega)), ih]
    simp only [Option.bind_eq_bind, Option.bind_some, Option.some.injEq, List.cons.injEq, and_true,
      ← UInt8.toNat_inj, UInt8.toNat_ofNat']
    omega
  | case2 a b =>
    have ha := a.toNat_lt
    have hb := b.toNat_lt
    rw [encode, decode]
    simp only [value_digit _ (show a.toNat / 4 < 64 by omega),
      value_digit _ (show a.toNat % 4 * 16 + b.toNat / 16 < 64 by omega),
      value_digit _ (show b.toNat % 16 * 4 < 64 by omega),
      if_neg (digit_ne_pad _ (show b.toNat % 16 * 4 < 64 by omega))]
    simp only [Option.bind_eq_bind, Option.bind_some, if_true]
    rw [if_pos ⟨trivial, by omega⟩]
    simp only [Option.some.injEq, List.cons.injEq, and_true, ← UInt8.toNat_inj, UInt8.toNat_ofNat']
    omega
  | case3 a =>
    have ha := a.toNat_lt
    rw [encode, decode]
    simp only [value_digit _ (show a.toNat / 4 < 64 by omega),
      value_digit _ (show a.toNat % 4 * 16 < 64 by omega)]
    simp only [Option.bind_eq_bind, Option.bind_some, if_true]
    rw [if_pos ⟨trivial, trivial, by omega⟩]
    simp only [Option.some.injEq, List.cons.injEq, and_true, ← UInt8.toNat_inj, UInt8.toNat_ofNat']
    omega
  | case4 => rfl

/-- Every byte of an encoding is a digit or the padding. -/
theorem mem_encode {b : Bytes} {c : UInt8} (hc : c ∈ encode b) :
    (∃ n, n < 64 ∧ c = digit n) ∨ c = PAD := by
  induction b using encode.induct with
  | case1 x y z rest ih =>
    have hx := x.toNat_lt
    have hy := y.toNat_lt
    have hz := z.toNat_lt
    simp only [encode, List.mem_cons] at hc
    rcases hc with rfl | rfl | rfl | rfl | hc
    · exact .inl ⟨_, by omega, rfl⟩
    · exact .inl ⟨_, by omega, rfl⟩
    · exact .inl ⟨_, by omega, rfl⟩
    · exact .inl ⟨_, by omega, rfl⟩
    · exact ih hc
  | case2 x y =>
    have hx := x.toNat_lt
    have hy := y.toNat_lt
    simp only [encode, List.mem_cons, List.not_mem_nil, or_false] at hc
    rcases hc with rfl | rfl | rfl | rfl
    · exact .inl ⟨_, by omega, rfl⟩
    · exact .inl ⟨_, by omega, rfl⟩
    · exact .inl ⟨_, by omega, rfl⟩
    · exact .inr rfl
  | case3 x =>
    have hx := x.toNat_lt
    simp only [encode, List.mem_cons, List.not_mem_nil, or_false] at hc
    rcases hc with rfl | rfl | rfl | rfl
    · exact .inl ⟨_, by omega, rfl⟩
    · exact .inl ⟨_, by omega, rfl⟩
    · exact .inr rfl
    · exact .inr rfl
  | case4 => cases hc

/-- An encoding is visible ASCII: no blanks, no line ends. -/
theorem encode_visible {b : Bytes} {c : UInt8} (hc : c ∈ encode b) : 0x21 ≤ c ∧ c ≤ 0x7E := by
  rcases mem_encode hc with ⟨n, hn, rfl⟩ | rfl
  · exact digit_visible n hn
  · decide

end TinySocks.Core.Base64
