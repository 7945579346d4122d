import TinySocks.L3Protocol.Framing

/-!
# Header lists as recipients read them (`http.rs`)

A header list says the same when its headers come in another order, when names
are spelled in another letter case, and when several headers with a list for
their value are joined into one, or one is taken apart at a comma
(`SameHeaders`). The checks fold over the list with early exits and an
accumulator (http.rs:152-209, 425-450); what they decide depends only on which
elements the headers of a name have (`items`), and these stay.

* `header_decisions_same`: the same verdict on the framing, the same names to
  drop, and the same hops, for lists that say the same.
-/
namespace TinySocks.L3

open TinySocks.Core TinySocks.L1

/-- The headers whose values are lists of elements. -/
def LIST_HEADERS : List Str := ["content-length", "transfer-encoding", "connection", "via"]

/-- The two header lists say the same. -/
inductive SameHeaders : Headers → Headers → Prop where
  | perm {hs hs' : Headers} : hs.Perm hs' → SameHeaders hs hs'
  | recase {name name' value : Str} {hs : Headers} : eqIgnoreAsciiCase name name' = true →
      SameHeaders ((name, value) :: hs) ((name', value) :: hs)
  /-- two values in one, with blanks around the comma between them -/
  | join {name : Str} {h h' : Str × Str} {a b : Str} {hs : Headers} : name ∈ LIST_HEADERS →
      isNamed name h = true → isNamed name h' = true → (∀ c ∈ a, isWhitespace c = true) →
      (∀ c ∈ b, isWhitespace c = true) →
      SameHeaders (h :: h' :: hs) ((h.1, h.2 ++ a ++ ',' :: (b ++ h'.2)) :: hs)
  | symm {hs hs' : Headers} : SameHeaders hs hs' → SameHeaders hs' hs
  | trans {hs hs' hs'' : Headers} : SameHeaders hs hs' → SameHeaders hs' hs'' → SameHeaders hs hs''

/-- The elements of all headers of a name, trimmed. -/
def items (name : Str) (headers : Headers) : List Str :=
  (headers.filter (isNamed name)).flatMap fun h => listItems h.2

section
variable {name : Str} {headers headers' : Headers}

theorem items_cons_pos {h : Str × Str} (hn : isNamed name h = true) :
    items name (h :: headers) = listItems h.2 ++ items name headers := by
  unfold items
  rw [List.filter_cons_of_pos hn, List.flatMap_cons]

theorem items_cons_neg {h : Str × Str} (hn : ¬ isNamed name h = true) :
    items name (h :: headers) = items name headers := by
  unfold items
  rw [List.filter_cons_of_neg hn]

theorem mem_items {x : Str} : x ∈ items name headers ↔
    ∃ h ∈ headers, isNamed name h = true ∧ ∃ part ∈ h.2.splitOn ',', trim part = x := by
  simp only [items, listItems, List.mem_flatMap, List.mem_filter, List.mem_map, and_assoc]

/-- A name is not two of the names in the list. -/
theorem listHeaders_distinct : ∀ n ∈ LIST_HEADERS, ∀ m ∈ LIST_HEADERS,
    toAsciiLowercase n = toAsciiLowercase m → n = m := by
  decide

theorem listHeaders_unique {n : Str} {h : Str × Str} (hm : name ∈ LIST_HEADERS) (hm' : n ∈ LIST_HEADERS)
    (hn : isNamed name h = true) (hn' : isNamed n h = true) : name = n := by
  refine listHeaders_distinct name hm n hm' ?_
  rw [← eqIgnoreAsciiCase_iff.1 hn, ← eqIgnoreAsciiCase_iff.1 hn']

/-- What says the same has the same elements, in some order. -/
theorem SameHeaders.items (h : SameHeaders headers headers') (hm : name ∈ LIST_HEADERS) :
    (items name headers).Perm (items name headers') := by
  induction h with
  | perm hp => exact (hp.filter _).flatMap_right _
  | @recase n n' value hs he =>
    have hn : isNamed name (n, value) = isNamed name (n', value) := eqIgnoreAsciiCase_congr he
    by_cases hc : isNamed name (n, value) = true
    · rw [items_cons_pos hc, items_cons_pos (hn ▸ hc)]
    · rw [items_cons_neg hc, items_cons_neg (hn ▸ hc)]
  | @join n h h' a b hs hl hn hn' ha hb =>
    by_cases hc : isNamed name h = true
    · obtain rfl := listHeaders_unique hm hl hc hn
      have hj : isNamed name (h.1, h.2 ++ a ++ ',' :: (b ++ h'.2)) = true := hc
      rw [items_cons_pos hc, items_cons_pos hn', items_cons_pos hj, listItems_comma,
        listItems_append_blank ha, listItems_blank_append hb, List.append_assoc]
    · have hc' : ¬ isNamed name h' = true := fun h₂ => by
        obtain rfl := listHeaders_unique hm hl h₂ hn'
        exact hc hn
      have hj : ¬ isNamed name (h.1, h.2 ++ a ++ ',' :: (b ++ h'.2)) = true := hc
      rw [items_cons_neg hc, items_cons_neg hc', items_cons_neg hj]
  | symm _ ih => exact ih.symm
  | trans _ _ ih ih' => exact ih.trans ih'

end

/-! ## What the functions look at -/

section
variable {headers : Headers}

theorem checkLengthParts_same {n : UInt64} {parts : List Str}
    (h : ∀ part ∈ parts, parseU64 (trim part) = some n) : ∀ {len : Option UInt64},
    (∀ m, len = some m → m = n) →
      ∃ len', checkLengthParts len parts = .ok len' ∧ ∀ m, len' = some m → m = n := by
  induction parts with
  | nil => exact fun hl => ⟨_, rfl, hl⟩
  | cons part parts ih =>
    intro len hl
    have hp := h part (.head _)
    have hne : trim part ≠ [] := fun he => by
      rw [he] at hp
      cases hp
    have hrest : ∀ q ∈ parts, parseU64 (trim q) = some n := fun q hq => h q (.tail _ hq)
    unfold checkLengthParts
    simp only [if_neg hne, hp]
    cases len with
    | none => exact ih hrest fun m hm => (Option.some.inj hm).symm
    | some prev =>
      obtain rfl := hl prev rfl
      simp only [ne_eq, not_true_eq_false, if_false]
      exact ih hrest hl

/-- Lengths that are all the same are no reason to stop; without one there is none in the end. -/
theorem scanFraming_same {n : UInt64} (h : ∀ part ∈ lengthParts headers, parseU64 (trim part) = some n) :
    ∀ {len : Option UInt64} {chunked : Bool}, (∀ m, len = some m → m = n) →
      ∃ len' chunked', scanFraming len chunked headers = .ok (len', chunked') ∧
        (lengthParts headers = [] → len' = len) := by
  induction headers with
  | nil => exact fun _ => ⟨_, _, rfl, fun _ => rfl⟩
  | cons hd headers ih =>
    obtain ⟨name, value⟩ := hd
    intro len chunked hl
    unfold scanFraming
    split
    · rename_i hc
      have hcons : lengthParts ((name, value) :: headers) = value.splitOn ',' ++ lengthParts headers := by
        unfold lengthParts
        rw [List.filter_cons_of_pos (show isContentLength (name, value) = true from hc), List.flatMap_cons]
      rw [hcons] at h ⊢
      obtain ⟨len', hok, hl'⟩ := checkLengthParts_same (fun part hp => h part (List.mem_append_left _ hp)) hl
      obtain ⟨len'', chunked', hs, -⟩ := ih (fun part hp => h part (List.mem_append_right _ hp)) hl'
      rw [hok]
      exact ⟨len'', chunked', hs, fun he => absurd (List.append_eq_nil_iff.1 he).1 (List.splitOn_ne_nil _ _)⟩
    · rename_i hc
      have hcons : lengthParts ((name, value) :: headers) = lengthParts headers := by
        unfold lengthParts
        rw [List.filter_cons_of_neg (show ¬ isContentLength (name, value) = true from hc)]
      rw [hcons] at h ⊢
      split
      · exact ih h hl
      · exact ih h hl

theorem mem_lengthParts {x : Str} :
    x ∈ items "content-length" headers ↔ ∃ part ∈ lengthParts headers, trim part = x := by
  simp only [mem_items, lengthParts, isContentLength, List.mem_flatMap, List.mem_filter]
  constructor
  · intro hx
    obtain ⟨h, hm, hn, part, hp, rfl⟩ := hx
    exact ⟨part, ⟨h, ⟨hm, hn⟩, hp⟩, rfl⟩
  · intro hx
    obtain ⟨part, ⟨h, ⟨hm, hn⟩, hp⟩, rfl⟩ := hx
    exact ⟨h, hm, hn, part, hp, rfl⟩

theorem mem_chunked : (∃ h ∈ headers, isTransferEncoding h = true ∧ isChunked h = true) ↔
    ∃ x ∈ items "transfer-encoding" headers, eqIgnoreAsciiCase x "chunked" = true := by
  simp only [mem_items, isTransferEncoding, isChunked, isChunkedItem, List.any_eq_true]
  constructor
  · intro hx
    obtain ⟨h, hm, hn, part, hp, hc⟩ := hx
    exact ⟨_, ⟨h, hm, hn, part, hp, rfl⟩, hc⟩
  · intro hx
    obtain ⟨x, ⟨h, hm, hn, part, hp, rfl⟩, hc⟩ := hx
    exact ⟨h, hm, hn, part, hp, hc⟩

/-- What is accepted, in terms of the elements. -/
theorem validateMessageFraming_iff : validateMessageFraming headers = .ok () ↔
    (∃ n, ∀ x ∈ items "content-length" headers, parseU64 x = some n) ∧
      (items "content-length" headers ≠ [] →
        ¬ ∃ x ∈ items "transfer-encoding" headers, eqIgnoreAsciiCase x "chunked" = true) := by
  constructor
  · intro h
    obtain ⟨⟨n, hn⟩, hch⟩ := validateMessageFraming_ok h
    refine ⟨⟨n, fun x hx => ?_⟩, fun hne => ?_⟩
    · obtain ⟨part, hp, rfl⟩ := mem_lengthParts.1 hx
      exact hn part hp
    · obtain ⟨x, hx⟩ := List.exists_mem_of_ne_nil _ hne
      obtain ⟨c, hc, hcn, -⟩ := mem_items.1 hx
      rw [← mem_chunked]
      intro hcase
      obtain ⟨t, ht, htn, hk⟩ := hcase
      rw [hch ⟨c, hc, hcn⟩ t ht htn] at hk
      cases hk
  · intro hcase
    obtain ⟨⟨n, hn⟩, hch⟩ := hcase
    have hparts : ∀ part ∈ lengthParts headers, parseU64 (trim part) = some n :=
      fun part hp => hn _ (mem_lengthParts.2 ⟨part, hp, rfl⟩)
    obtain ⟨len, chunked, hs, hnone⟩ : ∃ len chunked, scanFraming none false headers = .ok (len, chunked) ∧
      (lengthParts headers = [] → len = none) := scanFraming_same hparts (by simp)
    obtain ⟨-, -, hchunked⟩ := scanFraming_ok hs
    unfold validateMessageFraming
    rw [hs]
    refine if_neg fun hboth => ?_
    rw [Bool.and_eq_true, hchunked, Bool.false_or, List.any_eq_true] at hboth
    obtain ⟨⟨t, ht, hk⟩, hlen⟩ := hboth
    refine hch (fun he => ?_) (mem_chunked.1 ⟨t, ht, Bool.and_eq_true_iff.1 hk⟩)
    -- without a length element there is no length
    have hempty : lengthParts headers = [] := by
      rw [List.eq_nil_iff_forall_not_mem]
      intro part hp
      have hm := mem_lengthParts.2 ⟨part, hp, rfl⟩
      rw [he] at hm
      cases hm
    rw [hnone hempty] at hlen
    cases hlen

theorem mem_connectionHeaderNames {n : Str} : n ∈ connectionHeaderNames headers ↔
    ∃ x ∈ items "connection" headers, x ≠ [] ∧ toAsciiLowercase x = n := by
  simp only [connectionHeaderNames, mem_items, List.mem_map, List.mem_filter, List.mem_flatMap]
  constructor
  · intro hx
    obtain ⟨x, ⟨⟨part, ⟨h, ⟨hm, hn⟩, hp⟩, rfl⟩, hne⟩, rfl⟩ := hx
    exact ⟨_, ⟨h, hm, hn, part, hp, rfl⟩, by simpa using hne, rfl⟩
  · intro hx
    obtain ⟨x, ⟨h, hm, hn, part, hp, rfl⟩, hne, rfl⟩ := hx
    exact ⟨_, ⟨⟨part, ⟨h, ⟨hm, hn⟩, hp⟩, rfl⟩, by simpa using hne⟩, rfl⟩

theorem shouldDrop_same {name : Str} {l l' : List Str} (h : ∀ n, n ∈ l ↔ n ∈ l') :
    shouldDropForwardHeader name l = shouldDropForwardHeader name l' := by
  have hany : (l.any fun header => eqIgnoreAsciiCase header name) =
      l'.any fun header => eqIgnoreAsciiCase header name := by
    rw [Bool.eq_iff_iff, List.any_eq_true, List.any_eq_true]
    exact exists_congr fun n => and_congr_left fun _ => h n
  unfold shouldDropForwardHeader
  rw [hany]

theorem hasProxyVia_items {via : Str} : hasProxyVia headers via = true ↔
    ∃ x ∈ items "via" headers, (splitWhitespace x)[1]? = some via := by
  simp only [hasProxyVia_iff, mem_items]
  constructor
  · intro hx
    obtain ⟨h, hm, hn, hop, hp, hv⟩ := hx
    exact ⟨_, ⟨h, hm, hn, hop, hp, rfl⟩, by rw [splitWhitespace_trim, hv]⟩
  · intro hx
    obtain ⟨x, ⟨h, hm, hn, hop, hp, rfl⟩, hv⟩ := hx
    rw [splitWhitespace_trim] at hv
    exact ⟨h, hm, hn, hop, hp, hv⟩

end

/-- **Header lists that say the same are treated the same**: both are accepted or
none is, the same names are dropped, and a hop is found in both or in none. -/
theorem header_decisions_same {headers headers' : Headers} (h : SameHeaders headers headers') :
    (validateMessageFraming headers = .ok () ↔ validateMessageFraming headers' = .ok ()) ∧
    (∀ name, name ∈ connectionHeaderNames headers ↔ name ∈ connectionHeaderNames headers') ∧
    (∀ name, shouldDropForwardHeader name (connectionHeaderNames headers) =
      shouldDropForwardHeader name (connectionHeaderNames headers')) ∧
    ∀ via, hasProxyVia headers via = hasProxyVia headers' via := by
  have hmem : ∀ name ∈ LIST_HEADERS, ∀ x, x ∈ items name headers ↔ x ∈ items name headers' :=
    fun name hm x => (h.items hm).mem_iff
  have hlen := hmem "content-length" (by simp [LIST_HEADERS])
  have hcoding := hmem "transfer-encoding" (by simp [LIST_HEADERS])
  have hconn := hmem "connection" (by simp [LIST_HEADERS])
  have hvia := hmem "via" (by simp [LIST_HEADERS])
  have hnames : ∀ name, name ∈ connectionHeaderNames headers ↔ name ∈ connectionHeaderNames headers' := by
    intro name
    rw [mem_connectionHeaderNames, mem_connectionHeaderNames]
    exact exists_congr fun x => and_congr_left fun _ => hconn x
  refine ⟨?_, hnames, fun name => shouldDrop_same hnames, fun via => ?_⟩
  · have hnil : items "content-length" headers = [] ↔ items "content-length" headers' = [] := by
      simp only [List.eq_nil_iff_forall_not_mem, hlen]
    rw [validateMessageFraming_iff, validateMessageFraming_iff]
    simp only [hlen, hcoding, ne_eq, hnil]
  · rw [Bool.eq_iff_iff, hasProxyVia_items, hasProxyVia_items]
    exact exists_congr fun x => and_congr_left fun _ => hvia x

/-- Two lengths in another letter case, joined, and the headers in another order. -/
theorem header_decisions_same_joined :
    let headers : Headers := [("Content-Length".toList, "5".toList), ("content-length".toList, "5".toList),
      ("Via".toList, "1.1 a".toList)]
    let headers' : Headers := [("VIA".toList, "1.1 a".toList), ("Content-Length".toList, "5, 5".toList)]
    (validateMessageFraming headers = .ok () ↔ validateMessageFraming headers' = .ok ()) ∧
    (∀ name, name ∈ connectionHeaderNames headers ↔ name ∈ connectionHeaderNames headers') ∧
    (∀ name, shouldDropForwardHeader name (connectionHeaderNames headers) =
      shouldDropForwardHeader name (connectionHeaderNames headers')) ∧
    ∀ via, hasProxyVia headers via = hasProxyVia headers' via :=
  header_decisions_same (.trans (.join (a := []) (b := [' '])
    (by decide : "content-length".toList ∈ LIST_HEADERS) rfl rfl (by simp) (forall_mem_of_all (by decide)))
    (.trans (.perm (List.Perm.swap _ _ _)) (.recase rfl)))

end TinySocks.L3
