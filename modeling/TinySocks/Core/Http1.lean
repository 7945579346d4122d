import TinySocks.Core.Bytes

/-!
# HTTP/1 message heads

A head is a request line and field lines, each ended by CR LF, and an empty
line. `Head.print` writes one; `parse` reads one off the front of a buffer, or
asks for more. Reading inverts writing (`parse_print`), does not depend on what
follows the head (`parse_append`) and needs all of it (`parse_take`).
-/
namespace TinySocks.Core.Http1

def CR : UInt8 := 0x0D
def LF : UInt8 := 0x0A
def SP : UInt8 := 0x20
def COLON : UInt8 := 0x3A

/-- A field line: blanks may stand around the value. -/
structure Field where
  name : Bytes
  lead : Bytes
  value : Bytes
  trail : Bytes
  deriving DecidableEq, Repr

structure Head where
  method : Bytes
  target : Bytes
  /-- the digit behind `HTTP/1.` -/
  minor : UInt8
  fields : List Field
  deriving DecidableEq, Repr

/-! ## Writing -/

def crlf (line : Bytes) : Bytes := line ++ [CR, LF]

def versionText (minor : UInt8) : Bytes := [0x48, 0x54, 0x54, 0x50, 0x2F, 0x31, 0x2E, minor]

def Field.line (f : Field) : Bytes := f.name ++ COLON :: (f.lead ++ (f.value ++ f.trail))

def Head.startLine (h : Head) : Bytes := h.method ++ SP :: (h.target ++ SP :: versionText h.minor)

def Head.lines (h : Head) : List Bytes := h.startLine :: h.fields.map Field.line

def Head.print (h : Head) : Bytes := h.lines.flatMap crlf ++ [CR, LF]

/-! ## Reading -/

inductive Status where
  /-- method, target, version digit and fields, and the length of the head -/
  | complete (headEnd : Nat) (method target : Bytes) (minor : UInt8) (fields : List (Bytes × Bytes))
  | more
  | bad
  deriving DecidableEq, Repr

/-- The lines up to the first empty one, and what follows it. `cur` is the
line read so far, backwards, and `acc` the lines before it, backwards. -/
def scan : Bytes → Bytes → List Bytes → Option (List Bytes × Bytes)
  | [], _, _ => none
  | c :: rest, cur, acc =>
    if c = LF ∧ cur.head? = some CR then
      if cur.tail = [] then some (acc.reverse, rest)
      else scan rest [] (cur.tail.reverse :: acc)
    else scan rest (c :: cur) acc

/-- Before and behind the first `sep`. -/
def cut (sep : UInt8) : Bytes → Option (Bytes × Bytes)
  | [] => none
  | c :: rest => if c = sep then some ([], rest) else (cut sep rest).map fun p => (c :: p.1, p.2)

def trimBlanks (b : Bytes) : Bytes := ((b.dropWhile isBlank).reverse.dropWhile isBlank).reverse

def isVisible (b : UInt8) : Bool := 0x21 ≤ b && b ≤ 0x7E

def parseField (line : Bytes) : Option (Bytes × Bytes) :=
  match cut COLON line with
  | some (name, value) =>
    if name ≠ [] ∧ name.all isVisible then some (name, trimBlanks value) else none
  | none => none

def parseVersion (version : Bytes) : Option UInt8 :=
  if version = versionText 0x30 then some 0x30
  else if version = versionText 0x31 then some 0x31
  else none

def parseStart (line : Bytes) : Option (Bytes × Bytes × UInt8) := do
  let (method, rest) ← cut SP line
  let (target, version) ← cut SP rest
  let minor ← parseVersion version
  if method ≠ [] ∧ target ≠ [] ∧ method.all isVisible ∧ target.all isVisible then
    some (method, target, minor)
  else none

def parseFields : List Bytes → Option (List (Bytes × Bytes))
  | [] => some []
  | line :: lines => do
    let f ← parseField line
    let fs ← parseFields lines
    some (f :: fs)

def parseLines (headEnd : Nat) : List Bytes → Status
  | [] => .bad
  | start :: lines =>
    match parseStart start, parseFields lines with
    | some (method, target, minor), some fields => .complete headEnd method target minor fields
    | _, _ => .bad

def parse (b : Bytes) : Status :=
  match scan b [] [] with
  | some (lines, rest) => parseLines (b.length - rest.length) lines
  | none => .more

/-! ## What can be written -/

/-- Visible, and not one of these. -/
def Word (excluded b : Bytes) : Prop := b ≠ [] ∧ ∀ c ∈ b, isVisible c = true ∧ c ∉ excluded

/-- What a token may not contain: `"(),/:;<=>?@[\]{}`. -/
def DELIMITERS : Bytes :=
  [0x22, 0x28, 0x29, 0x2C, 0x2F, 0x3A, 0x3B, 0x3C, 0x3D, 0x3E, 0x3F, 0x40, 0x5B, 0x5C, 0x5D, 0x7B, 0x7D]

/-- What a URI may not contain. -/
def NOT_IN_URI : Bytes := [0x22, 0x3C, 0x3E, 0x5C, 0x5E, 0x60, 0x7B, 0x7C, 0x7D]

/-- A byte of a field value: no control character but the tab. -/
def isFieldByte (b : UInt8) : Bool := b == 0x09 || (0x20 ≤ b && b != 0x7F)

structure Field.WellFormed (f : Field) : Prop where
  name : Word DELIMITERS f.name
  lead : ∀ b ∈ f.lead, isBlank b = true
  trail : ∀ b ∈ f.trail, isBlank b = true
  value : ∀ b ∈ f.value, isFieldByte b = true
  first : ∀ b ∈ f.value.head?, isBlank b = false
  last : ∀ b ∈ f.value.getLast?, isBlank b = false

structure Head.WellFormed (h : Head) : Prop where
  method : Word DELIMITERS h.method
  target : Word NOT_IN_URI h.target
  minor : h.minor = 0x30 ∨ h.minor = 0x31
  fields : ∀ f ∈ h.fields, f.WellFormed

/-! ## Lines -/

theorem scan_skip {l rest cur : Bytes} {acc : List Bytes} (hl : CR ∉ l) (hc : cur.head? ≠ some CR) :
    scan (l ++ rest) cur acc = scan rest (l.reverse ++ cur) acc := by
  induction l generalizing cur with
  | nil => rfl
  | cons c l ih =>
    simp only [List.mem_cons, not_or] at hl
    rw [List.cons_append, scan, if_neg (fun h => hc h.2), ih hl.2]
    · simp
    · simpa using Ne.symm hl.1

/-- A line is read off at its end. -/
theorem scan_line {l : Bytes} (hl : CR ∉ l) (rest : Bytes) (acc : List Bytes) :
    scan (crlf l ++ rest) [] acc =
      if l = [] then some (acc.reverse, rest) else scan rest [] (l :: acc) := by
  rw [crlf, List.append_assoc, scan_skip hl (by simp), List.append_nil]
  rw [List.cons_append, scan, if_neg (fun h => absurd h.1 (by decide)), List.cons_append, scan,
    if_pos ⟨rfl, rfl⟩]
  simp

theorem scan_lines {rest : Bytes} : ∀ {lines acc : List Bytes}, (∀ l ∈ lines, CR ∉ l ∧ l ≠ []) →
    scan (lines.flatMap crlf ++ ([CR, LF] ++ rest)) [] acc = some (acc.reverse ++ lines, rest) := by
  intro lines
  induction lines with
  | nil =>
    intro acc _
    have := scan_line (l := []) (by simp) rest acc
    simpa [crlf] using this
  | cons l lines ih =>
    intro acc h
    obtain ⟨hl, hne⟩ := h l (.head _)
    rw [List.flatMap_cons, List.append_assoc, scan_line hl, if_neg hne,
      ih fun m hm => h m (.tail _ hm)]
    simp

/-- Reading stops at the end of the head. -/
theorem scan_append {b rest : Bytes} (ext : Bytes) {lines : List Bytes} :
    ∀ {cur : Bytes} {acc : List Bytes},
    scan b cur acc = some (lines, rest) → scan (b ++ ext) cur acc = some (lines, rest ++ ext) := by
  induction b with
  | nil => intro cur acc h; cases h
  | cons c b ih =>
    intro cur acc h
    rw [List.cons_append]
    unfold scan at h ⊢
    split at h
    · rename_i hc
      rw [if_pos hc]
      split at h
      · rename_i ht
        cases h
        rw [if_pos ht]
      · rename_i ht
        rw [if_neg ht]
        exact ih h
    · rename_i hc
      rw [if_neg hc]
      exact ih h

/-! ## Reading does not depend on what follows -/

theorem parseLines_headEnd {n m : Nat} {lines : List Bytes} {method target : Bytes} {minor : UInt8}
    {fields : List (Bytes × Bytes)} (h : parseLines n lines = .complete m method target minor fields) :
    m = n := by
  cases lines with
  | nil => cases h
  | cons start lines =>
    simp only [parseLines] at h
    split at h
    · cases h
      rfl
    · cases h

/-- A decision stays, whatever is appended. -/
theorem parse_append {b : Bytes} {s : Status} (h : parse b = s) (hs : s ≠ .more) (ext : Bytes) :
    parse (b ++ ext) = s := by
  unfold parse at h ⊢
  cases hscan : scan b [] [] with
  | none =>
    rw [hscan] at h
    exact absurd h.symm hs
  | some p =>
    obtain ⟨lines, rest⟩ := p
    rw [hscan] at h
    simp only [scan_append ext hscan]
    rw [← h]
    congr 1
    simp only [List.length_append]
    omega

theorem parse_complete {b method target : Bytes} {n : Nat} {minor : UInt8}
    {fields : List (Bytes × Bytes)} (h : parse b = .complete n method target minor fields) :
    ∃ lines rest, scan b [] [] = some (lines, rest) ∧ n = b.length - rest.length := by
  unfold parse at h
  cases hscan : scan b [] [] with
  | none =>
    rw [hscan] at h
    cases h
  | some p =>
    rw [hscan] at h
    exact ⟨p.1, p.2, rfl, parseLines_headEnd h⟩

theorem parse_le {b method target : Bytes} {n : Nat} {minor : UInt8}
    {fields : List (Bytes × Bytes)} (h : parse b = .complete n method target minor fields) :
    n ≤ b.length := by
  obtain ⟨_, _, -, rfl⟩ := parse_complete h
  omega

/-- Less than the head is not enough. -/
theorem parse_take {b method target : Bytes} {n : Nat} {minor : UInt8}
    {fields : List (Bytes × Bytes)} (h : parse b = .complete n method target minor fields) {k : Nat}
    (hk : k < n) : parse (b.take k) = .more := by
  obtain ⟨lines, rest, hscan, rfl⟩ := parse_complete h
  cases hs : scan (b.take k) [] [] with
  | none =>
    unfold parse
    rw [hs]
  | some p =>
    have ha := scan_append (b.drop k) hs
    rw [List.take_append_drop, hscan] at ha
    have hr := congrArg List.length (Prod.mk.inj (Option.some.inj ha)).2
    simp only [List.length_append, List.length_drop] at hr
    omega

/-- What was read is a head of its own. -/
theorem scan_split {b rest : Bytes} {lines : List Bytes} : ∀ {cur : Bytes} {acc : List Bytes},
    scan b cur acc = some (lines, rest) → ∃ c, b = c ++ rest ∧ scan c cur acc = some (lines, []) := by
  induction b with
  | nil => intro cur acc h; cases h
  | cons c b ih =>
    intro cur acc h
    unfold scan at h
    split at h
    · rename_i hc
      split at h
      · rename_i ht
        cases h
        refine ⟨[c], rfl, ?_⟩
        rw [scan, if_pos hc, if_pos ht]
      · rename_i ht
        obtain ⟨d, rfl, hd⟩ := ih h
        refine ⟨c :: d, rfl, ?_⟩
        rw [scan, if_pos hc, if_neg ht, hd]
    · rename_i hc
      obtain ⟨d, rfl, hd⟩ := ih h
      refine ⟨c :: d, rfl, ?_⟩
      rw [scan, if_neg hc, hd]

/-- The head alone is enough. -/
theorem parse_head {b method target : Bytes} {n : Nat} {minor : UInt8}
    {fields : List (Bytes × Bytes)} (h : parse b = .complete n method target minor fields) :
    parse (b.take n) = .complete n method target minor fields := by
  obtain ⟨lines, rest, hscan, rfl⟩ := parse_complete h
  obtain ⟨c, rfl, hc⟩ := scan_split hscan
  unfold parse at h ⊢
  rw [hscan] at h
  simp only [List.length_append, Nat.add_sub_cancel, List.take_left'] at h ⊢
  simp only [hc, List.length_nil, Nat.sub_zero]
  exact h

/-! ## Reading inverts writing -/

theorem cut_append {sep : UInt8} {l r : Bytes} (hl : sep ∉ l) : cut sep (l ++ sep :: r) = some (l, r) := by
  induction l with
  | nil => simp [cut]
  | cons c l ih =>
    simp only [List.mem_cons, not_or] at hl
    simp [cut, Ne.symm hl.1, ih hl.2]

theorem trimBlanks_eq {lead v trail : Bytes} (hl : ∀ b ∈ lead, isBlank b = true)
    (ht : ∀ b ∈ trail, isBlank b = true) (hf : ∀ b ∈ v.head?, isBlank b = false)
    (he : ∀ b ∈ v.getLast?, isBlank b = false) : trimBlanks (lead ++ (v ++ trail)) = v := by
  unfold trimBlanks
  cases v with
  | nil =>
    have hb : ∀ b ∈ lead ++ trail, isBlank b = true := by
      intro b hm
      rcases List.mem_append.1 hm with hm | hm
      · exact hl b hm
      · exact ht b hm
    have := dropWhile_all (b := []) hb (by simp)
    rw [List.append_nil] at this
    simp [this]
  | cons c v =>
    have hr : ∀ b ∈ (c :: v).reverse.head?, isBlank b = false := by
      rw [List.head?_reverse]
      exact he
    rw [dropWhile_all (b := c :: v ++ trail) hl hf, List.reverse_append, dropWhile_all (by simpa using ht) hr,
      List.reverse_reverse]

theorem Word.not_mem {excluded b : Bytes} (h : Word excluded b) {c : UInt8} (hc : isVisible c = false) :
    c ∉ b := by
  intro hm
  have := (h.2 c hm).1
  rw [hc] at this
  cases this

theorem Word.all {excluded b : Bytes} (h : Word excluded b) : b.all isVisible = true :=
  List.all_eq_true.2 fun c hc => (h.2 c hc).1

theorem Field.WellFormed.noColon {f : Field} (h : f.WellFormed) : COLON ∉ f.name :=
  fun hm => (h.name.2 COLON hm).2 (by decide)

theorem Field.WellFormed.noCr {f : Field} (h : f.WellFormed) : CR ∉ f.value := by
  intro hm
  have := h.value CR hm
  revert this
  decide

theorem parseField_line {f : Field} (h : f.WellFormed) : parseField f.line = some (f.name, f.value) := by
  unfold parseField Field.line
  simp only [cut_append h.noColon, trimBlanks_eq h.lead h.trail h.first h.last]
  exact if_pos ⟨h.name.1, h.name.all⟩

theorem parseFields_lines {fs : List Field} (h : ∀ f ∈ fs, f.WellFormed) :
    parseFields (fs.map Field.line) = some (fs.map fun f => (f.name, f.value)) := by
  induction fs with
  | nil => rfl
  | cons f fs ih =>
    rw [List.map_cons, parseFields, parseField_line (h f (.head _)), ih fun g hg => h g (.tail _ hg)]
    rfl

theorem parseStart_line {h : Head} (hw : h.WellFormed) :
    parseStart h.startLine = some (h.method, h.target, h.minor) := by
  have hv : parseVersion (versionText h.minor) = some h.minor := by
    rcases hw.minor with hm | hm <;> rw [hm] <;> rfl
  have h1 : SP ∉ h.method := hw.method.not_mem rfl
  have h2 : SP ∉ h.target := hw.target.not_mem rfl
  unfold parseStart Head.startLine
  simp only [cut_append h1, cut_append h2, hv, Option.bind_eq_bind, Option.bind_some]
  exact if_pos ⟨hw.method.1, hw.target.1, hw.method.all, hw.target.all⟩

theorem Field.WellFormed.line {f : Field} (h : f.WellFormed) : CR ∉ f.line ∧ f.line ≠ [] := by
  have hb : ∀ {l : Bytes}, (∀ b ∈ l, isBlank b = true) → CR ∉ l := by
    intro l hl hm
    have := hl CR hm
    revert this
    decide
  refine ⟨?_, by simp [Field.line]⟩
  simp only [Field.line, List.mem_append, List.mem_cons, not_or]
  exact ⟨h.name.not_mem rfl, by decide, hb h.lead, h.noCr, hb h.trail⟩

theorem Head.WellFormed.lines {h : Head} (hw : h.WellFormed) : ∀ l ∈ h.lines, CR ∉ l ∧ l ≠ [] := by
  intro l hl
  rcases List.mem_cons.1 hl with rfl | hl
  · refine ⟨?_, by simp [Head.startLine]⟩
    have hm : CR ≠ h.minor := by
      rcases hw.minor with hm | hm <;> rw [hm] <;> decide
    simp only [Head.startLine, versionText, List.mem_append, List.mem_cons, List.not_mem_nil, not_or,
      or_false]
    exact ⟨hw.method.not_mem rfl, by decide, hw.target.not_mem rfl, by decide,
      by decide, by decide, by decide, by decide, by decide, by decide, by decide, hm⟩
  · obtain ⟨f, hf, rfl⟩ := List.mem_map.1 hl
    exact (hw.fields f hf).line

/-- **Reading inverts writing**, whatever follows. -/
theorem parse_print {h : Head} (hw : h.WellFormed) (rest : Bytes) :
    parse (h.print ++ rest) =
      .complete h.print.length h.method h.target h.minor (h.fields.map fun f => (f.name, f.value)) := by
  unfold parse Head.print
  rw [List.append_assoc, scan_lines hw.lines]
  simp only [Head.lines, List.reverse_nil, List.nil_append, parseLines, parseStart_line hw,
    parseFields_lines hw.fields]
  congr 1
  simp only [List.length_append]
  omega

/-- What was written says what was written first. -/
theorem print_inj {h k : Head} (hw : h.WellFormed) (kw : k.WellFormed) {rest rest' : Bytes}
    (he : h.print ++ rest = k.print ++ rest') :
    h.fields.map (fun f => (f.name, f.value)) = k.fields.map fun f => (f.name, f.value) := by
  have hh := parse_print hw rest
  rw [he, parse_print kw rest'] at hh
  injection hh with _ _ _ _ hf
  exact hf.symm

/-! ## Messages -/

structure Message where
  head : Head
  body : Bytes
  deriving DecidableEq, Repr

def Message.wire (m : Message) : Bytes := m.head.print ++ m.body

/-- Messages one behind the other on a connection. -/
def stream (ms : List Message) : Bytes := ms.flatMap Message.wire

theorem stream_cons (m : Message) (ms : List Message) :
    stream (m :: ms) = m.head.print ++ (m.body ++ stream ms) := by
  simp [stream, Message.wire]

end TinySocks.Core.Http1
