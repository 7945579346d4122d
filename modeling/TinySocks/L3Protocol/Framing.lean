import TinySocks.Core.Effect
import TinySocks.L3Protocol.HttpHeaders

/-!
# Accepted framing (`http.rs`)

`validateMessageFraming` is to reject what two recipients could frame in two
ways. Behaviour (http.rs:153-193): the elements of `Content-Length` are parsed
as `u64`, which takes a plus sign in front of the digits, and a
`Transfer-Encoding` header counts only if one of its elements is `chunked`.

Spec (comment at http.rs:189): "A request must not describe the body length
through both CL and TE."; a length is a string of digits.

* `accepted_unambiguous_iff`: what is accepted is `Unambiguous` exactly if no
  length has a plus sign, and no `Transfer-Encoding` without `chunked` stands
  beside a `Content-Length`.
* `ambiguous_accepted`: both kinds are accepted.
-/
namespace TinySocks.L3

open TinySocks.Core TinySocks.L1

def isContentLength (h : Str × Str) : Bool := isNamed "content-length" h

def isTransferEncoding (h : Str × Str) : Bool := isNamed "transfer-encoding" h

/-- The elements of all `Content-Length` headers. -/
def lengthParts (headers : Headers) : List Str :=
  (headers.filter isContentLength).flatMap fun h => h.2.splitOn ','

/-- There is one way to tell how long the body is. -/
structure Unambiguous (headers : Headers) : Prop where
  digits : ∀ part ∈ lengthParts headers, IsDigits (trim part)
  same : ∃ n < UInt64.size, ∀ part ∈ lengthParts headers, digitsValue (trim part) = n
  single : (∃ h ∈ headers, isContentLength h = true) → ∀ h ∈ headers, isTransferEncoding h = false

/-- An element of the list is `chunked`. -/
def isChunked (h : Str × Str) : Bool := (h.2.splitOn ',').any isChunkedItem

/-! ## What is accepted -/

theorem checkLengthParts_ok {parts : List Str} : ∀ {len len' : Option UInt64},
    checkLengthParts len parts = .ok len' →
      (∀ n, len = some n → len' = some n) ∧ ∀ part ∈ parts, ∃ n, len' = some n ∧ parseU64 (trim part) = some n := by
  induction parts with
  | nil =>
    intro len len' h
    cases h
    exact ⟨fun n hn => hn, by simp⟩
  | cons part parts ih =>
    intro len len' h
    unfold checkLengthParts at h
    simp only at h
    split at h
    · cases h
    cases hp : parseU64 (trim part) with
    | none =>
      rw [hp] at h
      cases h
    | some n =>
      rw [hp] at h
      cases len with
      | none =>
        obtain ⟨hkeep, hall⟩ := ih h
        refine ⟨by simp, ?_⟩
        intro q hx
        rcases hx with _ | ⟨_, hq⟩
        · exact ⟨n, hkeep n rfl, hp⟩
        · exact hall q hq
      | some prev =>
        simp only at h
        split at h
        · cases h
        · rename_i heq
          obtain rfl := Classical.not_not.1 heq
          obtain ⟨hkeep, hall⟩ := ih h
          refine ⟨hkeep, ?_⟩
          intro q hx
          rcases hx with _ | ⟨_, hq⟩
          · exact ⟨prev, hkeep prev rfl, hp⟩
          · exact hall q hq

/-- A header is not named in two ways. -/
theorem isTransferEncoding_of_isContentLength {h : Str × Str} (hc : isContentLength h = true) :
    isTransferEncoding h = false := by
  unfold isTransferEncoding isNamed
  rw [eqIgnoreAsciiCase_congr hc]
  rfl

theorem scanFraming_ok {headers : Headers} : ∀ {len len' : Option UInt64} {chunked chunked' : Bool},
    scanFraming len chunked headers = .ok (len', chunked') →
      (∀ n, len = some n → len' = some n) ∧
      (∀ part ∈ lengthParts headers, ∃ n, len' = some n ∧ parseU64 (trim part) = some n) ∧
      (chunked' = (chunked || headers.any fun h => isTransferEncoding h && isChunked h)) := by
  induction headers with
  | nil =>
    intro len len' chunked chunked' h
    cases h
    exact ⟨fun n hn => hn, by simp [lengthParts], by simp⟩
  | cons hd headers ih =>
    obtain ⟨name, value⟩ := hd
    intro len len' chunked chunked' h
    unfold scanFraming at h
    split at h
    · rename_i hc
      obtain ⟨len₁, h₁, h⟩ := except_bind_eq_ok.1 h
      obtain ⟨hkeep₁, hall₁⟩ := checkLengthParts_ok h₁
      obtain ⟨hkeep, hall, hch⟩ := ih h
      have hc' : isContentLength (name, value) = true := hc
      refine ⟨fun n hn => hkeep n (hkeep₁ n hn), fun part hm => ?_, ?_⟩
      · unfold lengthParts at hm
        rw [List.filter_cons_of_pos hc', List.flatMap_cons] at hm
        rcases List.mem_append.1 hm with hm | hm
        · obtain ⟨n, hn, hp⟩ := hall₁ part hm
          exact ⟨n, hkeep n hn, hp⟩
        · exact hall part hm
      · rw [hch, List.any_cons, isTransferEncoding_of_isContentLength hc']
        rfl
    · rename_i hc
      have hparts : lengthParts ((name, value) :: headers) = lengthParts headers := by
        unfold lengthParts
        rw [List.filter_cons_of_neg (show ¬ isContentLength (name, value) = true from hc)]
      rw [hparts]
      split at h
      · rename_i ht
        obtain ⟨hkeep, hall, hch⟩ := ih h
        refine ⟨hkeep, hall, ?_⟩
        have ht' : (isTransferEncoding (name, value) && isChunked (name, value)) = true := ht
        rw [hch, List.any_cons, ht']
        simp
      · rename_i ht
        obtain ⟨hkeep, hall, hch⟩ := ih h
        refine ⟨hkeep, hall, ?_⟩
        have ht' : (isTransferEncoding (name, value) && isChunked (name, value)) = false :=
          Bool.eq_false_iff.2 ht
        rw [hch, List.any_cons, ht', Bool.false_or]

/-- All lengths of an accepted list are parsed as one number, and with a length
there is no `chunked`. -/
theorem validateMessageFraming_ok {headers : Headers} (h : validateMessageFraming headers = .ok ()) :
    (∃ n, ∀ part ∈ lengthParts headers, parseU64 (trim part) = some n) ∧
      ((∃ h ∈ headers, isContentLength h = true) →
        ∀ h ∈ headers, isTransferEncoding h = true → isChunked h = false) := by
  obtain ⟨⟨len, chunked⟩, hs, h⟩ := except_bind_eq_ok.1 h
  obtain ⟨-, hall, hch⟩ := scanFraming_ok hs
  rw [Bool.false_or] at hch
  refine ⟨?_, ?_⟩
  · cases len with
    | none =>
      refine ⟨0, fun part hm => ?_⟩
      obtain ⟨n, hn, -⟩ := hall part hm
      cases hn
    | some n =>
      refine ⟨n, fun part hm => ?_⟩
      obtain ⟨m, hm, hp⟩ := hall part hm
      rw [hp, Option.some.inj hm]
  · intro hx t ht hte
    obtain ⟨c, hc, hcl⟩ := hx
    obtain ⟨part, parts, hparts⟩ := List.exists_cons_of_ne_nil (List.splitOn_ne_nil ',' c.2)
    have hm : part ∈ lengthParts headers := by
      refine List.mem_flatMap.2 ⟨c, List.mem_filter.2 ⟨hc, hcl⟩, ?_⟩
      rw [hparts]
      exact .head _
    obtain ⟨n, rfl, -⟩ := hall part hm
    cases hk : isChunked t with
    | false => rfl
    | true =>
      have hany : chunked = true := by
        rw [hch, List.any_eq_true]
        exact ⟨t, ht, by rw [hte, hk]; rfl⟩
      rw [hany] at h
      cases h

/-! ## The exact condition -/

theorem isDigits_of_parseU64 {s : Str} {n : UInt64} (h : parseU64 s = some n) (hp : s.head? ≠ some '+') :
    IsDigits s ∧ digitsValue s = n.toNat := by
  rw [parseU64_eq, Option.map_eq_some_iff] at h
  obtain ⟨v, hv, rfl⟩ := h
  obtain ⟨d, rfl | rfl, hd, rfl, hlt⟩ := parseUnsigned_iff.1 hv
  · exact ⟨hd, (UInt64.toNat_ofNat_of_lt hlt).symm⟩
  · exact absurd rfl hp

/-- **What is accepted is unambiguous exactly if** no length starts with a plus
sign, and with a length every `Transfer-Encoding` header has a `chunked`
element (which is what is looked for). -/
theorem accepted_unambiguous_iff {headers : Headers} (h : validateMessageFraming headers = .ok ()) :
    Unambiguous headers ↔ (∀ part ∈ lengthParts headers, (trim part).head? ≠ some '+') ∧
      ((∃ h ∈ headers, isContentLength h = true) →
        ∀ h ∈ headers, isTransferEncoding h = true → isChunked h = true) := by
  obtain ⟨⟨n, hn⟩, hch⟩ := validateMessageFraming_ok h
  constructor
  · intro hu
    refine ⟨fun part hm => (hu.digits part hm).noPlus, fun hc t ht hte => ?_⟩
    rw [hu.single hc t ht] at hte
    cases hte
  · intro hx
    obtain ⟨hplus, hte⟩ := hx
    refine ⟨fun part hm => (isDigits_of_parseU64 (hn part hm) (hplus part hm)).1, ⟨n.toNat, n.toNat_lt, ?_⟩, ?_⟩
    · exact fun part hm => (isDigits_of_parseU64 (hn part hm) (hplus part hm)).2
    · intro hc t ht
      cases hk : isTransferEncoding t with
      | false => rfl
      | true =>
        have := hch hc t ht hk
        rw [hte hc t ht hk] at this
        cases this

/-- A list of one length, said twice. -/
theorem accepted_unambiguous_iff_twice :
    let headers : Headers := [("Content-Length".toList, "5, 5".toList)]
    Unambiguous headers ↔ (∀ part ∈ lengthParts headers, (trim part).head? ≠ some '+') ∧
      ((∃ h ∈ headers, isContentLength h = true) →
        ∀ h ∈ headers, isTransferEncoding h = true → isChunked h = true) :=
  accepted_unambiguous_iff rfl

def plusLength : Headers := [("Content-Length".toList, "+5".toList)]

def lengthAndGzip : Headers :=
  [("Content-Length".toList, "5".toList), ("Transfer-Encoding".toList, "gzip".toList)]

/-- **A length with a plus sign is accepted, and a length beside a transfer coding.** -/
theorem ambiguous_accepted :
    (validateMessageFraming plusLength = .ok () ∧ ¬ Unambiguous plusLength) ∧
      validateMessageFraming lengthAndGzip = .ok () ∧ ¬ Unambiguous lengthAndGzip := by
  refine ⟨⟨rfl, fun h => ?_⟩, rfl, fun h => ?_⟩
  · exact absurd (h.digits "+5".toList (by decide)) (by decide)
  · have := h.single ⟨("Content-Length".toList, "5".toList), .head _, rfl⟩
      ("Transfer-Encoding".toList, "gzip".toList) (.tail _ (.head _))
    cases this

end TinySocks.L3
