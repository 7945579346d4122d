import TinySocks.Core.Http1

/-!
# Header blocks, as a tolerant recipient reads them

`parse` ends a line at CR LF only. Recipients are more tolerant: they end a line at
LF, with or without a CR in front of it, and take any byte but these two for
part of a field value. `readBlock` is such a recipient; it still insists on
tokens for the method and the field names, and on a target without spaces and
control characters.

What `Head.print` writes is read back in full by it, whatever follows
(`readBlock_print`), under conditions that allow for more than `WellFormed`:
`Head.Sound` only keeps CR and LF out of the values.
-/
namespace TinySocks.Core.Http1

def isTokenByte (b : UInt8) : Bool := isVisible b && !DELIMITERS.contains b

/-- A byte of a target: neither a space nor a control character. -/
def isTargetByte (b : UInt8) : Bool := 0x20 < b && b != 0x7F

/-- What was read of a header block. -/
structure Block where
  method : Bytes
  target : Bytes
  /-- the digit behind `HTTP/1.` -/
  minor : UInt8
  fields : List (Bytes × Bytes)
  deriving DecidableEq, Repr

/-- A line, backwards, without the CR at its end. -/
def dropCr : Bytes → Bytes
  | c :: cur => if c = CR then cur else c :: cur
  | [] => []

/-- The lines up to the first empty one, and what follows it. `cur` is the line read
so far, backwards, and `acc` the lines before it, backwards. -/
def scanLf : Bytes → Bytes → List Bytes → Option (List Bytes × Bytes)
  | [], _, _ => none
  | c :: rest, cur, acc =>
    if c = LF then
      if dropCr cur = [] then some (acc.reverse, rest)
      else scanLf rest [] ((dropCr cur).reverse :: acc)
    else scanLf rest (c :: cur) acc

def readField (line : Bytes) : Option (Bytes × Bytes) :=
  match cut COLON line with
  | some (name, value) =>
    if name ≠ [] ∧ name.all isTokenByte ∧ CR ∉ value then some (name, trimBlanks value) else none
  | none => none

def readFields : List Bytes → Option (List (Bytes × Bytes))
  | [] => some []
  | line :: lines => do
    let f ← readField line
    let fs ← readFields lines
    some (f :: fs)

def readStart (line : Bytes) : Option (Bytes × Bytes × UInt8) := do
  let (method, rest) ← cut SP line
  let (target, version) ← cut SP rest
  let minor ← parseVersion version
  if method ≠ [] ∧ target ≠ [] ∧ method.all isTokenByte ∧ target.all isTargetByte then
    some (method, target, minor)
  else none

/-- The block at the front of a buffer, and what is behind it. -/
def readBlock (b : Bytes) : Option (Block × Bytes) := do
  let (lines, rest) ← scanLf b [] []
  match lines with
  | [] => none
  | start :: lines => do
    let (method, target, minor) ← readStart start
    let fields ← readFields lines
    some ({ method, target, minor, fields }, rest)

/-! ## What may be written -/

def IsToken (b : Bytes) : Prop := b ≠ [] ∧ ∀ c ∈ b, isTokenByte c = true

instance (b : Bytes) : Decidable (IsToken b) :=
  decidable_of_iff (b ≠ [] ∧ b.all isTokenByte = true) (and_congr_right fun _ => List.all_eq_true)

/-- A field of the block: the value may be any line of text. -/
structure Field.Sound (f : Field) : Prop where
  name : IsToken f.name
  lead : ∀ b ∈ f.lead, isBlank b = true
  trail : ∀ b ∈ f.trail, isBlank b = true
  value : CR ∉ f.value ∧ LF ∉ f.value
  first : ∀ b ∈ f.value.head?, isBlank b = false
  last : ∀ b ∈ f.value.getLast?, isBlank b = false

structure Head.Sound (h : Head) : Prop where
  method : IsToken h.method
  target : h.target ≠ [] ∧ ∀ c ∈ h.target, isTargetByte c = true
  minor : h.minor = 0x30 ∨ h.minor = 0x31
  fields : ∀ f ∈ h.fields, f.Sound

theorem isTokenByte_ne {b c : UInt8} (h : isTokenByte b = true) (hc : isTokenByte c = false) : b ≠ c := by
  intro he
  subst he
  rw [h] at hc
  cases hc

theorem IsToken.not_mem {b : Bytes} (h : IsToken b) {c : UInt8} (hc : isTokenByte c = false) : c ∉ b :=
  fun hm => isTokenByte_ne (h.2 c hm) hc rfl

/-! ## Lines -/

theorem scanLf_skip {l rest cur : Bytes} {acc : List Bytes} (hl : LF ∉ l) :
    scanLf (l ++ rest) cur acc = scanLf rest (l.reverse ++ cur) acc := by
  induction l generalizing cur with
  | nil => rfl
  | cons c l ih =>
    simp only [List.mem_cons, not_or] at hl
    rw [List.cons_append, scanLf, if_neg (Ne.symm hl.1), ih hl.2]
    simp

/-- A line is read off at its end. -/
theorem scanLf_line {l : Bytes} (hl : LF ∉ l) (rest : Bytes) (acc : List Bytes) :
    scanLf (crlf l ++ rest) [] acc =
      if l = [] then some (acc.reverse, rest) else scanLf rest [] (l :: acc) := by
  have hcr : LF ∉ l ++ [CR] := by
    simp only [List.mem_append, List.mem_singleton, not_or]
    exact ⟨hl, by decide⟩
  have hsplit : crlf l ++ rest = (l ++ [CR]) ++ LF :: rest := by simp [crlf]
  rw [hsplit, scanLf_skip hcr, scanLf, if_pos rfl]
  simp [dropCr]

theorem scanLf_lines {rest : Bytes} : ∀ {lines acc : List Bytes}, (∀ l ∈ lines, LF ∉ l ∧ l ≠ []) →
    scanLf (lines.flatMap crlf ++ ([CR, LF] ++ rest)) [] acc = some (acc.reverse ++ lines, rest) := by
  intro lines
  induction lines with
  | nil =>
    intro acc _
    have := scanLf_line (l := []) (by simp) rest acc
    simpa [crlf] using this
  | cons l lines ih =>
    intro acc h
    obtain ⟨hl, hne⟩ := h l (.head _)
    rw [List.flatMap_cons, List.append_assoc, scanLf_line hl, if_neg hne,
      ih fun m hm => h m (.tail _ hm)]
    simp

/-! ## Reading inverts writing -/

theorem not_mem_blanks {l : Bytes} (hl : ∀ b ∈ l, isBlank b = true) {c : UInt8} (hc : isBlank c = false) :
    c ∉ l := by
  intro hm
  rw [hl c hm] at hc
  cases hc

theorem Field.Sound.line {f : Field} (h : f.Sound) : LF ∉ f.line ∧ f.line ≠ [] := by
  refine ⟨?_, by simp [Field.line]⟩
  simp only [Field.line, List.mem_append, List.mem_cons, not_or]
  exact ⟨h.name.not_mem rfl, by decide, not_mem_blanks h.lead rfl, h.value.2, not_mem_blanks h.trail rfl⟩

theorem readField_line {f : Field} (h : f.Sound) : readField f.line = some (f.name, f.value) := by
  have hcr : CR ∉ f.lead ++ (f.value ++ f.trail) := by
    simp only [List.mem_append, not_or]
    exact ⟨not_mem_blanks h.lead rfl, h.value.1, not_mem_blanks h.trail rfl⟩
  unfold readField Field.line
  simp only [cut_append (h.name.not_mem (c := COLON) rfl), trimBlanks_eq h.lead h.trail h.first h.last]
  exact if_pos ⟨h.name.1, List.all_eq_true.2 h.name.2, hcr⟩

theorem readFields_lines {fs : List Field} (h : ∀ f ∈ fs, f.Sound) :
    readFields (fs.map Field.line) = some (fs.map fun f => (f.name, f.value)) := by
  induction fs with
  | nil => rfl
  | cons f fs ih =>
    rw [List.map_cons, readFields, readField_line (h f (.head _)), ih fun g hg => h g (.tail _ hg)]
    rfl

theorem Head.Sound.noSpace {h : Head} (hs : h.Sound) : SP ∉ h.method ∧ SP ∉ h.target := by
  refine ⟨hs.method.not_mem rfl, fun hm => ?_⟩
  have := hs.target.2 SP hm
  revert this
  decide

theorem readStart_line {h : Head} (hs : h.Sound) :
    readStart h.startLine = some (h.method, h.target, h.minor) := by
  have hv : parseVersion (versionText h.minor) = some h.minor := by
    rcases hs.minor with hm | hm <;> rw [hm] <;> rfl
  unfold readStart Head.startLine
  simp only [cut_append hs.noSpace.1, cut_append hs.noSpace.2, hv, Option.bind_eq_bind, Option.bind_some]
  exact if_pos ⟨hs.method.1, hs.target.1, List.all_eq_true.2 hs.method.2, List.all_eq_true.2 hs.target.2⟩

theorem Head.Sound.lines {h : Head} (hs : h.Sound) : ∀ l ∈ h.lines, LF ∉ l ∧ l ≠ [] := by
  intro l hl
  rcases List.mem_cons.1 hl with rfl | hl
  · refine ⟨?_, by simp [Head.startLine]⟩
    have ht : LF ∉ h.target := by
      intro hm
      have := hs.target.2 LF hm
      revert this
      decide
    have hv : LF ∉ versionText h.minor := by
      rcases hs.minor with hm | hm <;> rw [hm] <;> decide
    simp only [Head.startLine, List.mem_append, List.mem_cons, not_or]
    exact ⟨hs.method.not_mem rfl, by decide, ht, by decide, hv⟩
  · obtain ⟨f, hf, rfl⟩ := List.mem_map.1 hl
    exact (hs.fields f hf).line

/-- What was written is read back, and reading stops where it ends. -/
theorem readBlock_print {h : Head} (hs : h.Sound) (rest : Bytes) :
    readBlock (h.print ++ rest) = some ({
      method := h.method
      target := h.target
      minor := h.minor
      fields := h.fields.map fun f => (f.name, f.value) }, rest) := by
  unfold readBlock Head.print
  rw [List.append_assoc, scanLf_lines hs.lines]
  simp [Head.lines, readStart_line hs, readFields_lines hs.fields]

/-! ## The strict reader on such a block -/

theorem IsToken.visible {b : Bytes} (h : IsToken b) : b.all isVisible = true :=
  List.all_eq_true.2 fun c hc => (Bool.and_eq_true_iff.1 (h.2 c hc)).1

theorem Head.Sound.noCr {h : Head} (hs : h.Sound) : ∀ l ∈ h.lines, CR ∉ l ∧ l ≠ [] := by
  intro l hl
  refine ⟨?_, (hs.lines l hl).2⟩
  rcases List.mem_cons.1 hl with rfl | hl
  · have ht : CR ∉ h.target := by
      intro hm
      have := hs.target.2 CR hm
      revert this
      decide
    have hv : CR ∉ versionText h.minor := by
      rcases hs.minor with hm | hm <;> rw [hm] <;> decide
    simp only [Head.startLine, List.mem_append, List.mem_cons, not_or]
    exact ⟨hs.method.not_mem rfl, by decide, ht, by decide, hv⟩
  · obtain ⟨f, hf, rfl⟩ := List.mem_map.1 hl
    have hf := hs.fields f hf
    simp only [Field.line, List.mem_append, List.mem_cons, not_or]
    exact ⟨hf.name.not_mem rfl, by decide, not_mem_blanks hf.lead rfl, hf.value.1, not_mem_blanks hf.trail rfl⟩

theorem parseFields_sound {fs : List Field} (h : ∀ f ∈ fs, f.Sound) :
    parseFields (fs.map Field.line) = some (fs.map fun f => (f.name, f.value)) := by
  induction fs with
  | nil => rfl
  | cons f fs ih =>
    have hf := h f (.head _)
    have hfield : parseField f.line = some (f.name, f.value) := by
      unfold parseField Field.line
      simp only [cut_append (hf.name.not_mem (c := COLON) rfl), trimBlanks_eq hf.lead hf.trail hf.first hf.last]
      exact if_pos ⟨hf.name.1, hf.name.visible⟩
    rw [List.map_cons, parseFields, hfield, ih fun g hg => h g (.tail _ hg)]
    rfl

theorem parseStart_sound {h : Head} (hs : h.Sound) {method target : Bytes} {minor : UInt8}
    (hp : parseStart h.startLine = some (method, target, minor)) :
    method = h.method ∧ target = h.target ∧ minor = h.minor ∧ h.target.all isVisible = true := by
  have hv : parseVersion (versionText h.minor) = some h.minor := by
    rcases hs.minor with hm | hm <;> rw [hm] <;> rfl
  unfold parseStart Head.startLine at hp
  simp only [cut_append hs.noSpace.1, cut_append hs.noSpace.2, hv, Option.bind_eq_bind, Option.bind_some] at hp
  split at hp
  · rename_i hall
    cases hp
    exact ⟨rfl, rfl, rfl, hall.2.2.2⟩
  · cases hp

/-- If the strict reader takes the block, it reads what was written. -/
theorem parse_sound {h : Head} (hs : h.Sound) {rest method target : Bytes} {n : Nat} {minor : UInt8}
    {fields : List (Bytes × Bytes)} (hp : parse (h.print ++ rest) = .complete n method target minor fields) :
    n = h.print.length ∧ method = h.method ∧ target = h.target ∧ minor = h.minor ∧
      fields = h.fields.map (fun f => (f.name, f.value)) ∧ h.target.all isVisible = true := by
  have hlen : (h.print ++ rest).length - rest.length = h.print.length := by
    rw [List.length_append]
    omega
  unfold parse at hp
  rw [Head.print, List.append_assoc, scan_lines hs.noCr] at hp
  simp only [List.reverse_nil, List.nil_append, Head.lines, parseLines, parseFields_sound hs.fields] at hp
  cases hstart : parseStart h.startLine with
  | none =>
    rw [hstart] at hp
    cases hp
  | some r =>
    obtain ⟨hm, ht, hv, hall⟩ := parseStart_sound hs (hstart.trans rfl)
    rw [hstart] at hp
    injection hp with hn hm' ht' hv' hf'
    refine ⟨?_, hm' ▸ hm, ht' ▸ ht, hv' ▸ hv, hf'.symm, hall⟩
    rw [← hn, ← hlen, Head.print, Head.lines, List.append_assoc]

end TinySocks.Core.Http1
