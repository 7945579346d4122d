import TinySocks.Core.Bytes

/-!
# Text

A `str` is the list of its characters; the operations below are those of the
standard `str` type, character by character. ASCII case folding is
`Char.toLower`, which leaves every character outside `A`–`Z` alone.
-/
namespace TinySocks.Core

abbrev Str := List Char

instance : Coe String Str := ⟨String.toList⟩

/-- The Unicode `White_Space` property. -/
def isWhitespace (c : Char) : Bool :=
  (0x9 ≤ c.toNat && c.toNat ≤ 0xD) || c.toNat == 0x20 || c.toNat == 0x85 || c.toNat == 0xA0 ||
    c.toNat == 0x1680 || (0x2000 ≤ c.toNat && c.toNat ≤ 0x200A) || c.toNat == 0x2028 ||
    c.toNat == 0x2029 || c.toNat == 0x202F || c.toNat == 0x205F || c.toNat == 0x3000

def trimStart (s : Str) : Str := s.dropWhile isWhitespace

def trim (s : Str) : Str := (trimStart (trimStart s).reverse).reverse

/-- The maximal runs of characters that are not white space. -/
def splitWhitespace (s : Str) : List Str := (s.splitOnP isWhitespace).filter (· ≠ [])

def toAsciiLowercase (s : Str) : Str := s.map Char.toLower

def eqIgnoreAsciiCase (a b : Str) : Bool := toAsciiLowercase a == toAsciiLowercase b

theorem eqIgnoreAsciiCase_iff {a b : Str} :
    eqIgnoreAsciiCase a b = true ↔ toAsciiLowercase a = toAsciiLowercase b := by
  simp [eqIgnoreAsciiCase]

theorem eqIgnoreAsciiCase_congr {a b c : Str} (h : eqIgnoreAsciiCase a b = true) :
    eqIgnoreAsciiCase a c = eqIgnoreAsciiCase b c := by
  unfold eqIgnoreAsciiCase
  rw [eqIgnoreAsciiCase_iff.1 h]

theorem toNat_toLower {c : Char} (h : c.val ≥ 'A'.val ∧ c.val ≤ 'Z'.val) :
    c.toLower.toNat = c.toNat + 32 ∧ 65 ≤ c.toNat ∧ c.toNat ≤ 90 := by
  have h1 : 65 ≤ c.toNat := UInt32.le_iff_toNat_le.1 h.1
  have h2 : c.toNat ≤ 90 := UInt32.le_iff_toNat_le.1 h.2
  have hv : c.toLower.val = c.val + 32 := by
    unfold Char.toLower
    rw [dif_pos h]
    rfl
  refine ⟨?_, h1, h2⟩
  show c.toLower.val.toNat = c.val.toNat + 32
  have hc : c.val.toNat ≤ 90 := h2
  rw [hv, UInt32.toNat_add, show (32 : UInt32).toNat = 32 from rfl]
  omega

/-- Only letters come from other characters. -/
theorem eq_of_toLower_eq {c d : Char} (h : c.toLower = d) (hd : d.toNat < 97) : c = d := by
  by_cases hc : c.val ≥ 'A'.val ∧ c.val ≤ 'Z'.val
  · obtain ⟨hn, h1, -⟩ := toNat_toLower hc
    rw [h] at hn
    omega
  · have hself : c.toLower = c := dif_neg hc
    rw [← h, hself]

theorem toLower_toLower (c : Char) : c.toLower.toLower = c.toLower := by
  by_cases h : c.val ≥ 'A'.val ∧ c.val ≤ 'Z'.val
  · obtain ⟨hn, h1, -⟩ := toNat_toLower h
    refine dif_neg fun h' => ?_
    have := (toNat_toLower h').2.2
    omega
  · have hc : c.toLower = c := dif_neg h
    rw [hc, hc]

theorem toAsciiLowercase_idem (s : Str) : toAsciiLowercase (toAsciiLowercase s) = toAsciiLowercase s := by
  unfold toAsciiLowercase
  rw [List.map_map]
  exact List.map_congr_left fun c _ => toLower_toLower c

theorem toLower_of_isWhitespace {c : Char} (h : isWhitespace c = true) : c.toLower = c := by
  refine dif_neg ?_
  intro hx
  obtain ⟨h1, h2⟩ := hx
  have h1' : 65 ≤ c.toNat := UInt32.le_iff_toNat_le.1 h1
  have h2' : c.toNat ≤ 90 := UInt32.le_iff_toNat_le.1 h2
  simp only [isWhitespace, Bool.or_eq_true, Bool.and_eq_true, decide_eq_true_eq, beq_iff_eq] at h
  omega

theorem trim_eq_self {s : Str} (h : ∀ c ∈ s, isWhitespace c = false) : trim s = s := by
  have hd : ∀ {l : Str}, (∀ c ∈ l, isWhitespace c = false) → trimStart l = l := by
    intro l hl
    cases l with
    | nil => rfl
    | cons c l => exact List.dropWhile_cons_of_neg (by simp [hl c (.head _)])
  unfold trim
  rw [hd h, hd (by simpa using h), List.reverse_reverse]

/-- A trimmed text neither starts nor ends with white space. -/
theorem trim_ends (s : Str) : (∀ c ∈ (trim s).head?, isWhitespace c = false) ∧
    ∀ c ∈ (trim s).getLast?, isWhitespace c = false := by
  have hstart : ∀ l : Str, ∀ c ∈ (trimStart l).head?, isWhitespace c = false := by
    intro l c hc
    have := List.head?_dropWhile_not isWhitespace l
    rw [show (l.dropWhile isWhitespace).head? = some c from hc] at this
    exact this
  unfold trim
  constructor
  · intro c hc
    obtain ⟨r, hr⟩ : trimStart (trimStart s).reverse <:+ (trimStart s).reverse :=
      List.dropWhile_suffix _
    have hp := congrArg List.reverse hr
    rw [List.reverse_append, List.reverse_reverse] at hp
    refine hstart s c ?_
    rw [← hp, List.head?_append, hc]
    rfl
  · intro c hc
    rw [List.getLast?_reverse] at hc
    exact hstart _ c hc

/-- A spelling of a word without white space has none either. -/
theorem trim_spelling {s w : Str} (h : eqIgnoreAsciiCase s w = true)
    (hw : ∀ c ∈ toAsciiLowercase w, isWhitespace c = false) : trim s = s := by
  refine trim_eq_self fun c hc => ?_
  cases hs : isWhitespace c with
  | false => rfl
  | true =>
    have hm : c ∈ toAsciiLowercase w := by
      rw [← eqIgnoreAsciiCase_iff.1 h]
      exact List.mem_map.2 ⟨c, hc, toLower_of_isWhitespace hs⟩
    rw [← hs, hw c hm]

/-- Decimal digits, without leading zeros. -/
def decimal (n : Nat) : Str := Nat.toDigits 10 n

theorem isDigit_decimal {n : Nat} {c : Char} (hc : c ∈ decimal n) : c.isDigit = true :=
  Nat.isDigit_of_mem_toDigits (by decide) (by decide) hc

/-- One lower-case hexadecimal digit. -/
def hexDigit (n : Nat) : Char := "0123456789abcdef".toList.getD n '0'

/-- Sixteen lower-case hexadecimal digits, padded with zeros. -/
def hex16 (h : UInt64) : Str :=
  (List.range 16).map fun i => hexDigit ((h.toNat >>> (4 * (15 - i))) % 16)

theorem hexDigit_mem : ∀ n, n < 16 → hexDigit n ∈ "0123456789abcdef".toList := by decide

theorem mem_hex16 {h : UInt64} {c : Char} (hc : c ∈ hex16 h) :
    c ∈ "0123456789abcdef".toList := by
  simp only [hex16, List.mem_map, List.mem_range] at hc
  obtain ⟨i, -, rfl⟩ := hc
  exact hexDigit_mem _ (Nat.mod_lt _ (by decide))

/-! ## Literals -/

/-- The characters of string literals, as the elaborator reads them. -/
inductive Literals : List String → List Str → Prop where
  | nil : Literals [] []
  | cons {s l ls} : Literals l ls → Literals (String.ofList s :: l) (s :: ls)

/-- What is to hold of literals is checked on their characters, so that none of
them is decoded. -/
theorem Literals.forall {P : Str → Prop} {l : List String} {ls : List Str} (h : Literals l ls)
    (hs : ∀ s ∈ ls, P s) : ∀ s ∈ l, P s.toList := by
  induction h with
  | nil => simp
  | cons _ ih =>
    rw [List.forall_mem_cons] at hs ⊢
    rw [String.toList_ofList]
    exact ⟨hs.1, ih hs.2⟩

/-! ## Words -/

/-- Two words with one space between them. -/
theorem splitWhitespace_two {v w : Str} (hv : ∀ c ∈ v, isWhitespace c = false) (hve : v ≠ [])
    (hw : ∀ c ∈ w, isWhitespace c = false) (hwe : w ≠ []) :
    splitWhitespace (v ++ ' ' :: w) = [v, w] := by
  unfold splitWhitespace
  rw [List.splitOnP_append_cons_of_forall_mem hv ' ' (by decide), List.splitOnP_eq_singleton hw]
  simp [hve, hwe]

/-! ## White space around a text -/

section
variable {a b s : Str}

theorem trimStart_blank_append (ha : ∀ c ∈ a, isWhitespace c = true) : trimStart (a ++ s) = trimStart s :=
  List.dropWhile_append_of_pos ha

/-- Blanks behind a text are left, unless there is nothing else. -/
theorem trimStart_append_blank (hb : ∀ c ∈ b, isWhitespace c = true) :
    trimStart (s ++ b) = if trimStart s = [] then [] else trimStart s ++ b := by
  have hnil : trimStart b = [] := by
    rw [← List.append_nil b, trimStart_blank_append hb]
    rfl
  unfold trimStart at *
  rw [List.dropWhile_append]
  simp only [List.isEmpty_iff, hnil]

theorem trim_append_blank (hb : ∀ c ∈ b, isWhitespace c = true) : trim (s ++ b) = trim s := by
  unfold trim
  rw [trimStart_append_blank hb]
  split
  · rename_i hs
    rw [hs]
  · rw [List.reverse_append, trimStart_blank_append fun c hc => hb c (List.mem_reverse.1 hc)]

theorem trim_blank_append (ha : ∀ c ∈ a, isWhitespace c = true) : trim (a ++ s) = trim s := by
  unfold trim
  rw [trimStart_blank_append ha]

/-- What is trimmed away is white space. -/
theorem exists_trim (s : Str) : ∃ a b, s = a ++ (trim s ++ b) ∧ (∀ c ∈ a, isWhitespace c = true) ∧
    ∀ c ∈ b, isWhitespace c = true := by
  have hmem : ∀ l : Str, ∀ c ∈ l.takeWhile isWhitespace, isWhitespace c = true :=
    fun l => List.all_eq_true.1 List.all_takeWhile
  refine ⟨s.takeWhile isWhitespace, ((trimStart s).reverse.takeWhile isWhitespace).reverse, ?_, hmem s,
    fun c hc => hmem _ c (List.mem_reverse.1 hc)⟩
  have hend := congrArg List.reverse
    (List.takeWhile_append_dropWhile (p := isWhitespace) (l := (trimStart s).reverse))
  rw [List.reverse_append, List.reverse_reverse] at hend
  rw [show trim s = (List.dropWhile isWhitespace (trimStart s).reverse).reverse from rfl, hend]
  exact List.takeWhile_append_dropWhile.symm

theorem splitWhitespace_cons {c : Char} (hc : isWhitespace c = true) :
    splitWhitespace (c :: s) = splitWhitespace s := by
  unfold splitWhitespace
  rw [← List.nil_append (c :: s), List.splitOnP_append_cons [] s hc, List.splitOnP_nil]
  rfl

theorem splitWhitespace_blank_append (ha : ∀ c ∈ a, isWhitespace c = true) :
    splitWhitespace (a ++ s) = splitWhitespace s := by
  induction a with
  | nil => rfl
  | cons c a ih =>
    rw [List.cons_append, splitWhitespace_cons (ha c (.head _)), ih fun d hd => ha d (.tail _ hd)]

theorem splitWhitespace_append_blank (hb : ∀ c ∈ b, isWhitespace c = true) :
    splitWhitespace (s ++ b) = splitWhitespace s := by
  cases b with
  | nil => rw [List.append_nil]
  | cons c b =>
    have hnil := splitWhitespace_blank_append (s := []) fun d hd => hb d (.tail _ hd)
    rw [List.append_nil] at hnil
    unfold splitWhitespace at *
    rw [List.splitOnP_append_cons s b (hb c (.head _)), List.filter_append, hnil]
    exact List.append_nil _

theorem splitWhitespace_trim (s : Str) : splitWhitespace (trim s) = splitWhitespace s := by
  obtain ⟨a, b, hs, ha, hb⟩ := exists_trim s
  conv => rhs; rw [hs]
  rw [splitWhitespace_blank_append ha, splitWhitespace_append_blank hb]

end

/-! ## Elements of a list -/

/-- The elements of a comma-separated list, trimmed. -/
def listItems (s : Str) : List Str := (s.splitOn ',').map trim

section
variable {a b s : Str}

theorem listItems_single (h : ',' ∉ s) : listItems s = [trim s] := by
  unfold listItems List.splitOn
  rw [List.splitOnP_eq_singleton (by
    intro c hc
    rw [beq_eq_false_iff_ne]
    intro he
    subst he
    exact h hc)]
  rfl

theorem listItems_comma (s t : Str) : listItems (s ++ ',' :: t) = listItems s ++ listItems t := by
  unfold listItems
  rw [← List.map_append]
  exact congrArg (List.map trim) (List.splitOnP_append_cons s t (beq_self_eq_true ','))

theorem listItems_append_blank (hb : ∀ c ∈ b, isWhitespace c = true) :
    listItems (s ++ b) = listItems s := by
  have hcb : ',' ∉ b := fun h => by cases hb _ h
  by_cases hs : ',' ∈ s
  · -- only what is behind the last comma is trimmed
    obtain ⟨l, r, hl, hr⟩ := List.eq_append_cons_of_mem (List.mem_reverse.2 hs)
    obtain rfl : s = r.reverse ++ ',' :: l.reverse := by
      rw [← List.reverse_reverse s, hl]
      simp
    have hr' : ',' ∉ l.reverse := by simpa using hr
    have hrb : ',' ∉ l.reverse ++ b := by simp [hr, hcb]
    rw [List.append_assoc, List.cons_append, listItems_comma, listItems_comma, listItems_single hr',
      listItems_single hrb, trim_append_blank hb]
  · have hsb : ',' ∉ s ++ b := by simp [hs, hcb]
    rw [listItems_single hs, listItems_single hsb, trim_append_blank hb]

theorem listItems_blank_append (ha : ∀ c ∈ a, isWhitespace c = true) :
    listItems (a ++ s) = listItems s := by
  have hca : ',' ∉ a := fun h => by cases ha _ h
  by_cases hs : ',' ∈ s
  · obtain ⟨l, r, rfl, hl⟩ := List.eq_append_cons_of_mem hs
    have hal : ',' ∉ a ++ l := by simp [hl, hca]
    rw [← List.append_assoc, listItems_comma, listItems_comma, listItems_single hl,
      listItems_single hal, trim_blank_append ha]
  · have has : ',' ∉ a ++ s := by simp [hs, hca]
    rw [listItems_single hs, listItems_single has, trim_blank_append ha]

end

end TinySocks.Core
