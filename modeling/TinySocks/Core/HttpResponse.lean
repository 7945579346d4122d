import TinySocks.Core.HeaderBlock
import TinySocks.Core.Utf8

/-!
# HTTP/1 responses

`Response.print` writes a response. `readResponse` is a recipient that takes one from the
front of what a connection carries: the status line, the fields, and as much of a body as
they say. An answer to CONNECT (`tunnel`) has none, if it is one of success.

* `readResponse_print`: what was written is read back, and what follows it is left alone.
* `readResponse_take`: less than all of it is not taken for a response.
-/
namespace TinySocks.Core.Http1

structure Response where
  /-- the digit behind `HTTP/1.` -/
  minor : UInt8
  status : Nat
  reason : Bytes
  fields : List (Bytes × Bytes)
  body : Bytes
  deriving DecidableEq, Repr

/-! ## Writing -/

def digitByte (n : Nat) : UInt8 := .ofNat (0x30 + n)

def statusText (status : Nat) : Bytes :=
  [digitByte (status / 100), digitByte (status / 10 % 10), digitByte (status % 10)]

/-- A field, with one blank in front of its value. -/
def plainField (f : Bytes × Bytes) : Field := { name := f.1, lead := [SP], value := f.2, trail := [] }

namespace Response

def statusLine (r : Response) : Bytes := versionText r.minor ++ SP :: (statusText r.status ++ SP :: r.reason)

def lines (r : Response) : List Bytes := r.statusLine :: (r.fields.map plainField).map Field.line

def head (r : Response) : Bytes := r.lines.flatMap crlf ++ [CR, LF]

def print (r : Response) : Bytes := r.head ++ r.body

end Response

/-! ## Reading -/

def isDigitByte (b : UInt8) : Bool := 0x30 ≤ b && b ≤ 0x39

def readStatus : Bytes → Option Nat
  | [a, b, c] =>
    if isDigitByte a && isDigitByte b && isDigitByte c then
      some (100 * (a.toNat - 0x30) + 10 * (b.toNat - 0x30) + (c.toNat - 0x30))
    else none
  | _ => none

def readStatusLine (line : Bytes) : Option (UInt8 × Nat × Bytes) := do
  let (version, rest) ← cut SP line
  let (status, reason) ← cut SP rest
  let minor ← parseVersion version
  let status ← readStatus status
  some (minor, status, reason)

/-- Whether there is no body, whatever the fields say. -/
def bodyless (tunnel : Bool) (status : Nat) : Bool :=
  status < 200 || status == 204 || status == 304 || tunnel && status / 100 == 2

def isNamed (name : Str) (field : Bytes × Bytes) : Bool :=
  (Utf8.decode field.1).any fun s => eqIgnoreAsciiCase s name

def contentLengths (fields : List (Bytes × Bytes)) : List Bytes :=
  (fields.filter (isNamed "content-length")).map Prod.snd

def readLength (value : Bytes) : Option Nat := do
  let s ← Utf8.decode value
  if s ≠ [] ∧ s.all Char.isDigit then some (Nat.ofDigitChars 10 s 0) else none

/-- The body, and what is behind it. Without a length it ends with the connection. -/
def readBody (tunnel : Bool) (status : Nat) (fields : List (Bytes × Bytes)) (rest : Bytes) :
    Option (Bytes × Bytes) :=
  if bodyless tunnel status then some ([], rest)
  else match contentLengths fields with
    | [] => some (rest, [])
    | [value] => do
      let n ← readLength value
      if n ≤ rest.length then some (rest.take n, rest.drop n) else none
    | _ => none

/-- The response at the front of a buffer, and what is behind it. -/
def readResponse (tunnel : Bool) (b : Bytes) : Option (Response × Bytes) := do
  let (lines, rest) ← scanLf b [] []
  match lines with
  | [] => none
  | start :: lines => do
    let (minor, status, reason) ← readStatusLine start
    let fields ← readFields lines
    let (body, rest) ← readBody tunnel status fields rest
    some ({ minor, status, reason, fields, body }, rest)

/-- A response that says how long it is. -/
structure Response.Sound (tunnel : Bool) (r : Response) : Prop where
  minor : r.minor = 0x30 ∨ r.minor = 0x31
  status : r.status < 1000
  reason : CR ∉ r.reason ∧ LF ∉ r.reason
  fields : ∀ f ∈ r.fields, (plainField f).Sound
  framed : if bodyless tunnel r.status then r.body = []
    else contentLengths r.fields = [Utf8.encode (decimal r.body.length)]

/-! ## Reading inverts writing -/

theorem digitByte_toNat {n : Nat} (h : n < 10) : (digitByte n).toNat = 0x30 + n := by
  unfold digitByte
  rw [UInt8.toNat_ofNat']
  omega

theorem isDigitByte_digitByte {n : Nat} (h : n < 10) : isDigitByte (digitByte n) = true := by
  have hn := digitByte_toNat h
  unfold isDigitByte
  rw [Bool.and_eq_true_iff, decide_eq_true_iff, decide_eq_true_iff, UInt8.le_iff_toNat_le,
    UInt8.le_iff_toNat_le, hn]
  exact ⟨Nat.le_add_right _ _, show 0x30 + n ≤ 0x39 by omega⟩

theorem readStatus_statusText {status : Nat} (h : status < 1000) :
    readStatus (statusText status) = some status := by
  have h₁ : status / 100 < 10 := by omega
  have h₂ : status / 10 % 10 < 10 := Nat.mod_lt _ (by decide)
  have h₃ : status % 10 < 10 := Nat.mod_lt _ (by decide)
  unfold readStatus statusText
  simp only [isDigitByte_digitByte h₁, isDigitByte_digitByte h₂, isDigitByte_digitByte h₃, digitByte_toNat h₁,
    digitByte_toNat h₂, digitByte_toNat h₃, Bool.and_self, if_true, Option.some.injEq]
  omega

theorem readLength_decimal (n : Nat) : readLength (Utf8.encode (decimal n)) = some n := by
  have hd : (decimal n).all Char.isDigit = true := List.all_eq_true.2 fun c hc => isDigit_decimal hc
  unfold readLength
  simp only [Utf8.decode_encode, Option.bind_eq_bind, Option.bind_some]
  rw [if_pos ⟨Nat.toDigits_ne_nil, hd⟩]
  exact congrArg some Nat.ofDigitChars_ten_toDigits

section
variable {tunnel : Bool} {r : Response}

theorem not_mem_statusText {b : UInt8} (hb : isDigitByte b = false) {status : Nat} (h : status < 1000) :
    b ∉ statusText status := by
  have hdigit : ∀ {n : Nat}, n < 10 → b ≠ digitByte n := by
    intro n hn he
    rw [he, isDigitByte_digitByte hn] at hb
    cases hb
  simp only [statusText, List.mem_cons, List.not_mem_nil, or_false, not_or]
  exact ⟨hdigit (by omega), hdigit (by omega), hdigit (by omega)⟩

theorem readStatusLine_statusLine (h : r.Sound tunnel) :
    readStatusLine r.statusLine = some (r.minor, r.status, r.reason) := by
  have hv : SP ∉ versionText r.minor ∧ parseVersion (versionText r.minor) = some r.minor := by
    rcases h.minor with hm | hm
    · rw [hm]
      exact ⟨by decide, rfl⟩
    · rw [hm]
      exact ⟨by decide, rfl⟩
  unfold readStatusLine Response.statusLine
  simp only [cut_append hv.1, cut_append (not_mem_statusText (by decide : isDigitByte SP = false) h.status), hv.2,
    readStatus_statusText h.status, Option.bind_eq_bind, Option.bind_some]

theorem Response.Sound.lines (h : r.Sound tunnel) : ∀ l ∈ r.lines, LF ∉ l ∧ l ≠ [] := by
  intro l hl
  rcases List.mem_cons.1 hl with rfl | hl
  · refine ⟨?_, by simp [Response.statusLine, versionText]⟩
    have hv : LF ∉ versionText r.minor := by
      rcases h.minor with hm | hm
      · rw [hm]
        decide
      · rw [hm]
        decide
    have hs : LF ∉ statusText r.status := not_mem_statusText (by decide) h.status
    simp only [Response.statusLine, List.mem_append, List.mem_cons, not_or]
    exact ⟨hv, by decide, hs, by decide, h.reason.2⟩
  · obtain ⟨f, hf, rfl⟩ := List.mem_map.1 hl
    obtain ⟨p, hp, rfl⟩ := List.mem_map.1 hf
    exact (h.fields p hp).line

theorem scanLf_print (h : r.Sound tunnel) (rest : Bytes) :
    scanLf (r.head ++ rest) [] [] = some (r.lines, rest) := by
  unfold Response.head
  rw [List.append_assoc, scanLf_lines h.lines]
  rfl

theorem readFields_plain (h : r.Sound tunnel) :
    readFields ((r.fields.map plainField).map Field.line) = some r.fields := by
  rw [readFields_lines]
  · rw [List.map_map]
    exact congrArg some (List.map_id _)
  · intro f hf
    obtain ⟨p, hp, rfl⟩ := List.mem_map.1 hf
    exact h.fields p hp

/-- What the reader does once it has the head. -/
theorem readResponse_head (h : r.Sound tunnel) (rest : Bytes) :
    readResponse tunnel (r.head ++ rest) = (readBody tunnel r.status r.fields rest).map fun p =>
      ({ r with body := p.1 }, p.2) := by
  unfold readResponse
  rw [scanLf_print h, Response.lines]
  simp only [Option.bind_eq_bind, Option.bind_some, readStatusLine_statusLine h, readFields_plain h]
  cases readBody tunnel r.status r.fields rest <;> rfl

/-- **Reading inverts writing**, whatever follows. -/
theorem readResponse_print (h : r.Sound tunnel) (rest : Bytes) :
    readResponse tunnel (r.print ++ rest) = some (r, rest) := by
  have hframed := h.framed
  unfold Response.print
  rw [List.append_assoc, readResponse_head h, readBody]
  split
  · rename_i hb
    rw [if_pos hb] at hframed
    rw [hframed, List.nil_append, Option.map_some, ← hframed]
  · rename_i hb
    rw [if_neg hb] at hframed
    simp only [hframed, readLength_decimal, Option.bind_eq_bind, Option.bind_some]
    rw [if_pos (by simp), List.take_left, List.drop_left]
    rfl

/-! ## Less than a response -/

/-- Reading stops at the end of the head. -/
theorem scanLf_append {b rest : Bytes} (ext : Bytes) {lines : List Bytes} :
    ∀ {cur : Bytes} {acc : List Bytes}, scanLf b cur acc = some (lines, rest) →
      scanLf (b ++ ext) cur acc = some (lines, rest ++ ext) := by
  induction b with
  | nil => exact fun h => nomatch h
  | cons c b ih =>
    intro cur acc h
    rw [List.cons_append, scanLf]
    rw [scanLf] at h
    split at h
    · rename_i hc
      rw [if_pos hc]
      split at h
      · rename_i hl
        cases h
        rw [if_pos hl]
      · rename_i hl
        rw [if_neg hl]
        exact ih h
    · rename_i hc
      rw [if_neg hc]
      exact ih h

/-- A part of the head has no end. -/
theorem scanLf_take (h : r.Sound tunnel) {k : Nat} (hk : k < r.head.length) :
    scanLf (r.head.take k) [] [] = none := by
  cases hs : scanLf (r.head.take k) [] [] with
  | none => rfl
  | some p =>
    obtain ⟨lines, rest⟩ := p
    have hall := scanLf_append (r.head.drop k) hs
    have hprint := scanLf_print h []
    rw [List.append_nil] at hprint
    rw [List.take_append_drop, hprint] at hall
    injection hall with hall
    have hdrop := (List.append_eq_nil_iff.1 (Prod.mk.inj hall).2.symm).2
    rw [List.drop_eq_nil_iff] at hdrop
    omega

/-- **Nothing less is taken for it.** -/
theorem readResponse_take (h : r.Sound tunnel) {k : Nat} (hk : k < r.print.length) :
    readResponse tunnel (r.print.take k) = none := by
  have hframed := h.framed
  unfold Response.print at hk ⊢
  rw [List.length_append] at hk
  by_cases hhead : k < r.head.length
  · rw [List.take_append_of_le_length (Nat.le_of_lt hhead), readResponse, scanLf_take h hhead]
    rfl
  · have hle := Nat.le_of_not_lt hhead
    rw [List.take_append, List.take_of_length_le hle, readResponse_head h, readBody]
    split
    · rename_i hb
      rw [if_pos hb] at hframed
      rw [hframed, List.length_nil] at hk
      omega
    · rename_i hb
      rw [if_neg hb] at hframed
      simp only [hframed, readLength_decimal, Option.bind_eq_bind, Option.bind_some]
      rw [if_neg, Option.map_none]
      rw [List.length_take]
      omega

end
end TinySocks.Core.Http1
