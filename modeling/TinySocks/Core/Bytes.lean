/-!
# Bytes

Byte strings as lists, arrays of a known length as `Octets n`, and slice
access the way a bounds-checked language does it: an index or a range outside
the slice ends the function with `Abort.panic`, which is a different outcome
from an error it reports itself (`Abort.fail`).
-/
namespace TinySocks.Core

abbrev Bytes := List UInt8

/-- `[u8; n]`. -/
abbrev Octets (n : Nat) := { b : Bytes // b.length = n }

/-- A zeroed buffer of `n` bytes after `b` was copied to its start. -/
def Octets.fill (n : Nat) (b : Bytes) : Octets n :=
  ⟨(b ++ List.replicate n 0).take n, by simp⟩

theorem Octets.fill_eq {n : Nat} {b : Bytes} (h : b.length = n) : Octets.fill n b = ⟨b, h⟩ := by
  apply Subtype.ext
  simp only [Octets.fill]
  rw [List.take_append_of_le_length (by omega), List.take_of_length_le (by omega)]

/-- `b[i]` for a constant `i` within the array. -/
def Octets.byte {n : Nat} (b : Octets n) (i : Fin n) : UInt8 := b.1.get (i.cast b.2.symm)

/-- The byte of a one-byte array. -/
def Octets.only (b : Octets 1) : UInt8 := b.byte 0

theorem Octets.one (b : Octets 1) : b.1 = [b.only] := by
  obtain ⟨b, hb⟩ := b
  match b, hb with
  | [_], _ => rfl

theorem Octets.two (b : Octets 2) : b.1 = [b.byte 0, b.byte 1] := by
  obtain ⟨b, hb⟩ := b
  match b, hb with
  | [_, _], _ => rfl

theorem Octets.four (b : Octets 4) : b.1 = [b.byte 0, b.byte 1, b.byte 2, b.byte 3] := by
  obtain ⟨b, hb⟩ := b
  match b, hb with
  | [_, _, _, _], _ => rfl

/-- A space or a tab. -/
def isBlank (b : UInt8) : Bool := b == 0x20 || b == 0x09

/-! ## Checked access -/

/-- How a function ends without a value: an error of its own, or an access
out of range. -/
inductive Abort (ε : Type) where
  | fail (e : ε)
  | panic
  deriving DecidableEq, Repr

variable {ε : Type}

/-- `b[i]` -/
def getByte (b : Bytes) (i : Nat) : Except (Abort ε) UInt8 :=
  match b[i]? with
  | some x => .ok x
  | none => .error .panic

/-- `&b[i..j]` -/
def slice (b : Bytes) (i j : Nat) : Except (Abort ε) Bytes :=
  if i ≤ j ∧ j ≤ b.length then .ok ((b.take j).drop i) else .error .panic

/-- `&b[i..]` -/
def sliceFrom (b : Bytes) (i : Nat) : Except (Abort ε) Bytes :=
  if i ≤ b.length then .ok (b.drop i) else .error .panic

/-- `copy_from_slice` into an array of `n` bytes. -/
def copyFromSlice (n : Nat) (b : Bytes) : Except (Abort ε) (Octets n) :=
  if h : b.length = n then .ok ⟨b, h⟩ else .error .panic

theorem getByte_eq {b : Bytes} {i : Nat} (h : i < b.length) :
    (getByte b i : Except (Abort ε) UInt8) = .ok b[i] := by
  unfold getByte
  rw [List.getElem?_eq_getElem h]

theorem slice_eq {b : Bytes} {i j : Nat} (hij : i ≤ j) (hj : j ≤ b.length) :
    (slice b i j : Except (Abort ε) Bytes) = .ok ((b.take j).drop i) := if_pos ⟨hij, hj⟩

theorem sliceFrom_eq {b : Bytes} {i : Nat} (h : i ≤ b.length) :
    (sliceFrom b i : Except (Abort ε) Bytes) = .ok (b.drop i) := if_pos h

theorem copyFromSlice_eq {n : Nat} {b : Bytes} (h : b.length = n) :
    (copyFromSlice n b : Except (Abort ε) (Octets n)) = .ok ⟨b, h⟩ := dif_pos h

/-! ### Access behind a known prefix -/

theorem getByte_append {l r : Bytes} {x : UInt8} {i : Nat} (h : l.length = i) :
    (getByte (l ++ x :: r) i : Except (Abort ε) UInt8) = .ok x := by
  subst h
  rw [getByte_eq (by simp)]
  simp

theorem slice_append {a b c : Bytes} {i j : Nat} (ha : a.length = i) (hb : i + b.length = j) :
    (slice (a ++ (b ++ c)) i j : Except (Abort ε) Bytes) = .ok b := by
  subst ha hb
  rw [slice_eq (by omega) (by simp), ← List.append_assoc, List.take_left' (by simp)]
  simp

theorem sliceFrom_append {a b : Bytes} {i : Nat} (h : a.length = i) :
    (sliceFrom (a ++ b) i : Except (Abort ε) Bytes) = .ok b := by
  subst h
  rw [sliceFrom_eq (by simp)]
  simp

/-! ## Lists -/

/-- What holds of every element of a list is decided one by one, over any type. -/
theorem forall_mem_of_all {α : Type} {p : α → Prop} [DecidablePred p] {l : List α}
    (h : (l.all fun a => decide (p a)) = true) : ∀ a ∈ l, p a :=
  fun a ha => of_decide_eq_true (List.all_eq_true.1 h a ha)

theorem toNat_eq_ite (b : Bool) : b.toNat = if b then 1 else 0 := by
  cases b <;> rfl

/-- Counting again after one element was replaced. -/
theorem countP_replace {α : Type} {p : α → Bool} {l : List α} {i : Nat} {t : α} (h : l[i]? = some t)
    (t' : α) : (l.set i t').countP p + (p t).toNat = l.countP p + (p t').toNat := by
  obtain ⟨hi, rfl⟩ := List.getElem?_eq_some_iff.1 h
  have hle := List.boole_getElem_le_countP (p := p) hi
  rw [List.countP_set hi, toNat_eq_ite, toNat_eq_ite]
  omega

/-- Where the first hit is: none, or behind a part without one. -/
theorem findIdx?_cases {α : Type} (p : α → Bool) (l : List α) :
    (l.findIdx? p = none ∧ ∀ x ∈ l, p x = false) ∨
      ∃ a x b, l = a ++ x :: b ∧ (∀ y ∈ a, p y = false) ∧ p x = true ∧
        l.findIdx? p = some a.length := by
  induction l with
  | nil => exact .inl ⟨rfl, by simp⟩
  | cons y l ih =>
    cases hy : p y with
    | true => exact .inr ⟨[], y, l, rfl, by simp, hy, by simp [List.findIdx?_cons, hy]⟩
    | false =>
      rcases ih with ⟨hn, hl⟩ | ⟨a, x, b, rfl, ha, hx, hi⟩
      · exact .inl ⟨by simp [List.findIdx?_cons, hy, hn], by simpa [hy] using hl⟩
      · exact .inr ⟨y :: a, x, b, rfl, by simpa [hy] using ha, hx,
          by simp [List.findIdx?_cons, hy, hi]⟩

/-- A separator that occurs in neither front part splits a list in one way. -/
theorem append_sep_inj {α : Type} {x : α} {l l' r r' : List α} (hl : x ∉ l) (hl' : x ∉ l')
    (h : l ++ x :: r = l' ++ x :: r') : l = l' ∧ r = r' := by
  induction l generalizing l' with
  | nil =>
    cases l' with
    | nil => exact ⟨rfl, (List.cons.inj h).2⟩
    | cons y l' => exact absurd (List.cons.inj h).1 (by simp at hl'; exact hl'.1)
  | cons y l ih =>
    cases l' with
    | nil => exact absurd (List.cons.inj h).1.symm (by simp at hl; exact hl.1)
    | cons y' l' =>
      simp only [List.mem_cons, not_or] at hl hl'
      obtain ⟨rfl, ht⟩ := List.cons.inj h
      obtain ⟨rfl, rfl⟩ := ih hl.2 hl'.2 ht
      exact ⟨rfl, rfl⟩

/-- The leading elements with `p`, and the rest. -/
theorem exists_span {α : Type} (p : α → Bool) (l : List α) :
    ∃ a b, l = a ++ b ∧ (∀ x ∈ a, p x = true) ∧ ∀ x ∈ b.head?, p x = false := by
  induction l with
  | nil => exact ⟨[], [], rfl, by simp, by simp⟩
  | cons y l ih =>
    cases hy : p y with
    | false => exact ⟨[], y :: l, rfl, by simp, by simpa using hy⟩
    | true =>
      obtain ⟨a, b, rfl, ha, hb⟩ := ih
      exact ⟨y :: a, b, rfl, by simpa [hy] using ha, hb⟩

theorem span_inj {α : Type} {p : α → Bool} {a a' b b' : List α} (ha : ∀ x ∈ a, p x = true)
    (ha' : ∀ x ∈ a', p x = true) (hb : ∀ x ∈ b.head?, p x = false)
    (hb' : ∀ x ∈ b'.head?, p x = false) (h : a ++ b = a' ++ b') : a = a' ∧ b = b' := by
  induction a generalizing a' with
  | nil =>
    cases a' with
    | nil => exact ⟨rfl, h⟩
    | cons y a' =>
      obtain rfl : b = y :: (a' ++ b') := h
      have := hb y rfl
      simp [ha' y] at this
  | cons y a ih =>
    cases a' with
    | nil =>
      obtain rfl : y :: (a ++ b) = b' := h
      have := hb' y rfl
      simp [ha y] at this
    | cons y' a' =>
      obtain ⟨rfl, ht⟩ := List.cons.inj h
      obtain ⟨rfl, rfl⟩ := ih (fun x hx => ha x (.tail _ hx)) (fun x hx => ha' x (.tail _ hx)) ht
      exact ⟨rfl, rfl⟩

theorem dropWhile_all {α : Type} {p : α → Bool} {a b : List α} (ha : ∀ x ∈ a, p x = true)
    (hb : ∀ x ∈ b.head?, p x = false) : (a ++ b).dropWhile p = b := by
  rw [List.dropWhile_append_of_pos ha]
  cases b with
  | nil => rfl
  | cons x b => exact List.dropWhile_cons_of_neg (by simp [hb x rfl])

theorem takeWhile_all {α : Type} {p : α → Bool} {a b : List α} (ha : ∀ x ∈ a, p x = true)
    (hb : ∀ x ∈ b.head?, p x = false) : (a ++ b).takeWhile p = a := by
  rw [List.takeWhile_append_of_pos ha]
  cases b with
  | nil => exact List.append_nil _
  | cons x b =>
    rw [List.takeWhile_cons_of_neg (by simp [hb x rfl])]
    exact List.append_nil _

@[simp] theorem ok_bind {α β : Type} (a : α) (f : α → Except ε β) : (.ok a >>= f) = f a := rfl

/-! ## Network order -/

/-- `u16::to_be_bytes` -/
def toBeBytes (p : UInt16) : Bytes :=
  [UInt8.ofNat (p.toNat / 256), UInt8.ofNat (p.toNat % 256)]

/-- `u16::from_be_bytes` -/
def fromBeBytes (hi lo : UInt8) : UInt16 := UInt16.ofNat (hi.toNat * 256 + lo.toNat)

@[simp] theorem toBeBytes_length (p : UInt16) : (toBeBytes p).length = 2 := rfl

theorem fromBeBytes_toBeBytes (p : UInt16) :
    fromBeBytes (UInt8.ofNat (p.toNat / 256)) (UInt8.ofNat (p.toNat % 256)) = p := by
  have hp := p.toNat_lt
  apply UInt16.toNat_inj.1
  simp only [fromBeBytes, UInt16.toNat_ofNat', UInt8.toNat_ofNat']
  omega

theorem toBeBytes_fromBeBytes (hi lo : UInt8) : toBeBytes (fromBeBytes hi lo) = [hi, lo] := by
  have hh := hi.toNat_lt
  have hl := lo.toNat_lt
  have hv : (fromBeBytes hi lo).toNat = hi.toNat * 256 + lo.toNat := by
    simp only [fromBeBytes, UInt16.toNat_ofNat']
    omega
  unfold toBeBytes
  rw [hv]
  congr 1
  · apply UInt8.toNat_inj.1
    rw [UInt8.toNat_ofNat']
    omega
  · congr 1
    apply UInt8.toNat_inj.1
    rw [UInt8.toNat_ofNat']
    omega

end TinySocks.Core
