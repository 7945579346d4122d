import TinySocks.Core.Text

/-!
# Command lines

A subcommand, and behind it a positional argument, flags and options with a
value. `Lawful` says how a parser reads such a line, and where a word that looks
like an option spoils it; what rests on these laws holds of every parser that
obeys them. `parse` is one.
-/
namespace TinySocks.Core.CommandLine

/-- The word is taken for an option, never for a value. -/
def OptionLike (w : Str) : Prop := w.head? = some '-' ∧ 1 < w.length

instance (w : Str) : Decidable (OptionLike w) := inferInstanceAs (Decidable (_ ∧ _))

/-- The word behind which there are no options any more. -/
def ESCAPE : Str := "--"

/-- An option as it is written. -/
def long (n : Str) : Str := "--" ++ n

structure Spec where
  commands : List Str
  flags : List Str
  options : List Str
  commands_plain : ∀ c ∈ commands, ¬ OptionLike c
  named : ∀ n ∈ flags ++ options, n ≠ []
  apart : ∀ n ∈ options, n ∉ flags

/-- What stands behind a subcommand. -/
inductive Item where
  | positional (value : Str)
  | flag (name : Str)
  | option (name value : Str)
  deriving DecidableEq, Repr

namespace Item

def words : Item → List Str
  | positional v => [v]
  | flag n => [long n]
  | option n v => [long n, v]

/-- A flag or option may be given once, and so may the positional argument. -/
def name : Item → Option Str
  | positional _ => none
  | flag n => some n
  | option n _ => some n

def Fits (spec : Spec) : Item → Prop
  | positional v => ¬ OptionLike v
  | flag n => n ∈ spec.flags
  | option n v => n ∈ spec.options ∧ ¬ OptionLike v

end Item

/-- What a parser found. -/
structure Matches where
  command : Option Str := none
  items : List Item := []
  deriving DecidableEq, Repr

namespace Matches

def positional (m : Matches) : Option Str := m.items.findSome? fun
  | .positional v => some v
  | _ => none

def flag (m : Matches) (n : Str) : Bool := decide (.flag n ∈ m.items)

def value (m : Matches) (n : Str) : Option Str := m.items.findSome? fun
  | .option n' v => if n' = n then some v else none
  | _ => none

theorem mem_of_positional {m : Matches} {v : Str} (h : m.positional = some v) :
    .positional v ∈ m.items := by
  obtain ⟨i, hi, hv⟩ := List.exists_of_findSome?_eq_some h
  cases i with
  | positional v' =>
    cases hv
    exact hi
  | flag n => cases hv
  | option n v' => cases hv

end Matches

/-- A parser of the words behind the program's name; none is an error. -/
abbrev Parser := List Str → Option Matches

structure Lawful (spec : Spec) (parse : Parser) : Prop where
  /-- what is written as declared is found -/
  reads : ∀ command ∈ spec.commands, ∀ items : List Item, (∀ i ∈ items, i.Fits spec) →
    (items.map Item.name).Nodup →
    parse (command :: items.flatMap Item.words) = some { command := some command, items }
  /-- an option does not take what looks like one -/
  option_like : ∀ pre n v post, ESCAPE ∉ pre → n ∈ spec.options → OptionLike v →
    parse (pre ++ long n :: v :: post) = none
  /-- nor does the positional argument, unless it stands behind the escape -/
  positional_plain : ∀ ws m, ESCAPE ∉ ws → parse ws = some m →
    ∀ v, .positional v ∈ m.items → ¬ OptionLike v
  /-- of which there is one -/
  escaped : ∀ pre v v' post, ESCAPE ∉ pre → parse (pre ++ ESCAPE :: v :: v' :: post) = none

theorem optionLike_long {n : Str} : OptionLike (long n) :=
  ⟨rfl, by simp [long]⟩

theorem long_injective {n n' : Str} (h : long n = long n') : n = n' :=
  List.append_cancel_left h

theorem drop_long (n : Str) : (long n).drop 2 = n := rfl

theorem long_ne_escape {n : Str} (h : n ≠ []) : long n ≠ ESCAPE := by
  intro he
  have : long n = long [] := he
  exact h (long_injective this)

theorem optionLike_escape : OptionLike ESCAPE := by decide

theorem not_escape_cons {w : Str} {ws : List Str} (h : ESCAPE ∉ w :: ws) : w ≠ ESCAPE ∧ ESCAPE ∉ ws := by
  refine ⟨?_, fun hm => h (.tail _ hm)⟩
  intro he
  subst he
  exact h (.head _)

/-! ## A parser -/

section
variable {spec : Spec}

/-- Behind the escape there is room for the positional argument only. -/
def afterEscape : List Str → Matches → Option Matches
  | [], m => some m
  | [v], m =>
    if none ∈ m.items.map Item.name then none else some { m with items := m.items ++ [.positional v] }
  | _, _ => none

/-- Word for word; the first argument is the option that waits for its value. -/
def go (spec : Spec) : Option Str → List Str → Matches → Option Matches
  | none, [], m => some m
  | some _, [], _ => none
  | some n, w :: ws, m =>
    if OptionLike w then none else go spec none ws { m with items := m.items ++ [.option n w] }
  | none, w :: ws, m =>
    if w = ESCAPE then afterEscape ws m
    else if OptionLike w then
      if some (w.drop 2) ∈ m.items.map Item.name then none
      else if w ∈ spec.flags.map long then
        go spec none ws { m with items := m.items ++ [.flag (w.drop 2)] }
      else if w ∈ spec.options.map long then go spec (some (w.drop 2)) ws m
      else none
    else if none ∈ m.items.map Item.name then none
    else go spec none ws { m with items := m.items ++ [.positional w] }

def parse (spec : Spec) : Parser
  | c :: ws => if c ∈ spec.commands then go spec none ws { command := some c } else go spec none (c :: ws) {}
  | [] => some {}

theorem mem_long {n : Str} {ns : List Str} : long n ∈ ns.map long ↔ n ∈ ns := by
  rw [List.mem_map]
  constructor
  · intro hx
    obtain ⟨n', hn', h⟩ := hx
    rwa [← long_injective h]
  · exact fun h => ⟨n, h, rfl⟩

/-- One item is read, unless its name was there before. -/
theorem go_item {i : Item} (hi : i.Fits spec) {m : Matches} (hm : i.name ∉ m.items.map Item.name)
    (ws : List Str) :
    go spec none (i.words ++ ws) m = go spec none ws { m with items := m.items ++ [i] } := by
  cases i with
  | positional v =>
    have hne : v ≠ ESCAPE := by
      intro he
      subst he
      exact hi optionLike_escape
    show go spec none (v :: ws) m = _
    have hm' : none ∉ m.items.map Item.name := hm
    rw [go, if_neg hne, if_neg hi, if_neg hm']
  | flag n =>
    have hne : long n ≠ ESCAPE := long_ne_escape (spec.named n (List.mem_append_left _ hi))
    show go spec none (long n :: ws) m = _
    have hm' : some n ∉ m.items.map Item.name := hm
    rw [go, if_neg hne, if_pos optionLike_long, drop_long, if_neg hm', if_pos (mem_long.2 hi)]
  | option n v =>
    have hne : long n ≠ ESCAPE := long_ne_escape (spec.named n (List.mem_append_right _ hi.1))
    have hflag : long n ∉ spec.flags.map long := fun h => spec.apart n hi.1 (mem_long.1 h)
    show go spec none (long n :: v :: ws) m = _
    have hm' : some n ∉ m.items.map Item.name := hm
    rw [go, if_neg hne, if_pos optionLike_long, drop_long, if_neg hm', if_neg hflag,
      if_pos (mem_long.2 hi.1), go, if_neg hi.2]

theorem go_items : ∀ {items : List Item}, (∀ i ∈ items, i.Fits spec) → ∀ {m : Matches},
    ((m.items ++ items).map Item.name).Nodup →
    go spec none (items.flatMap Item.words) m = some { m with items := m.items ++ items } := by
  intro items
  induction items with
  | nil =>
    intro _ m _
    rw [List.append_nil]
    rfl
  | cons i items ih =>
    intro hfit m hnd
    obtain ⟨hi, hitems⟩ := List.forall_mem_cons.1 hfit
    have hm : i.name ∉ m.items.map Item.name := by
      rw [List.map_append, List.map_cons, List.nodup_append] at hnd
      exact fun h => hnd.2.2 _ h _ (.head _) rfl
    rw [List.flatMap_cons, go_item hi hm, ih hitems]
    · simp
    · simpa using hnd

/-- Whatever was read, an option does not take what looks like one. -/
theorem go_option_like {n v : Str} (hn : n ∈ spec.options) (hv : OptionLike v) (post : List Str) :
    ∀ (pre : List Str) (pending : Option Str) (m : Matches), ESCAPE ∉ pre →
      go spec pending (pre ++ long n :: v :: post) m = none := by
  intro pre
  induction pre with
  | nil =>
    intro pending m _
    have hne : long n ≠ ESCAPE := long_ne_escape (spec.named n (List.mem_append_right _ hn))
    have hflag : long n ∉ spec.flags.map long := fun h => spec.apart n hn (mem_long.1 h)
    cases pending with
    | some n' => rw [List.nil_append, go, if_pos optionLike_long]
    | none =>
      rw [List.nil_append, go, if_neg hne, if_pos optionLike_long, drop_long]
      by_cases hm : some n ∈ m.items.map Item.name
      · rw [if_pos hm]
      · rw [if_neg hm, if_neg hflag, if_pos (mem_long.2 hn), go, if_pos hv]
  | cons w pre ih =>
    intro pending m he
    obtain ⟨hw, hpre⟩ := not_escape_cons he
    cases pending with
    | some n' =>
      rw [List.cons_append, go]
      split
      · rfl
      · exact ih _ _ hpre
    | none =>
      rw [List.cons_append, go, if_neg hw]
      repeat' split
      all_goals first
        | rfl
        | exact ih _ _ hpre

theorem go_escaped (v v' : Str) (post : List Str) :
    ∀ (pre : List Str) (pending : Option Str) (m : Matches), ESCAPE ∉ pre →
      go spec pending (pre ++ ESCAPE :: v :: v' :: post) m = none := by
  intro pre
  induction pre with
  | nil =>
    intro pending m _
    cases pending with
    | some n' => rw [List.nil_append, go, if_pos optionLike_escape]
    | none =>
      rw [List.nil_append, go, if_pos rfl]
      rfl
  | cons w pre ih =>
    intro pending m he
    obtain ⟨hw, hpre⟩ := not_escape_cons he
    cases pending with
    | some n' =>
      rw [List.cons_append, go]
      split
      · rfl
      · exact ih _ _ hpre
    | none =>
      rw [List.cons_append, go, if_neg hw]
      repeat' split
      all_goals first
        | rfl
        | exact ih _ _ hpre

/-- No positional argument looks like an option. -/
def Plain (m : Matches) : Prop := ∀ v, .positional v ∈ m.items → ¬ OptionLike v

theorem plain_none {command : Option Str} : Plain { command } := fun _ hv => nomatch hv

theorem Plain.append {m : Matches} (h : Plain m) {i : Item} (hi : ∀ v, .positional v = i → ¬ OptionLike v) :
    Plain { m with items := m.items ++ [i] } := by
  intro v hv
  rcases List.mem_append.1 hv with hv | hv
  · exact h v hv
  · exact hi v (List.mem_singleton.1 hv)

theorem go_plain : ∀ (ws : List Str) (pending : Option Str) {m m' : Matches}, ESCAPE ∉ ws → Plain m →
    go spec pending ws m = some m' → Plain m' := by
  intro ws
  induction ws with
  | nil =>
    intro pending m m' _ hm h
    cases pending with
    | some n => cases h
    | none =>
      cases h
      exact hm
  | cons w ws ih =>
    intro pending m m' he hm h
    obtain ⟨hw, hws⟩ := not_escape_cons he
    cases pending with
    | some n =>
      rw [go] at h
      split at h
      · cases h
      · exact ih none hws (hm.append fun v hv => by cases hv) h
    | none =>
      rw [go, if_neg hw] at h
      split at h
      · split at h
        · cases h
        split at h
        · exact ih none hws (hm.append fun v hv => by cases hv) h
        split at h
        · exact ih _ hws hm h
        · cases h
      · rename_i hplain
        split at h
        · cases h
        · refine ih none hws (hm.append ?_) h
          intro v hv
          cases hv
          exact hplain

/-- A first word that is no subcommand is read like the others. -/
theorem parse_cons_of_optionLike {w : Str} (h : OptionLike w) (ws : List Str) :
    parse spec (w :: ws) = go spec none (w :: ws) {} := by
  rw [parse, if_neg fun hc => spec.commands_plain w hc h]

theorem parse_lawful (spec : Spec) : Lawful spec (parse spec) where
  reads := by
    intro command hc items hfit hnd
    rw [parse, if_pos hc]
    exact go_items hfit hnd
  option_like := by
    intro pre n v post he hn hv
    cases pre with
    | nil => exact (parse_cons_of_optionLike optionLike_long _).trans (go_option_like hn hv post [] _ _ he)
    | cons w pre =>
      rw [List.cons_append, parse]
      split
      · exact go_option_like hn hv post pre _ _ (not_escape_cons he).2
      · exact go_option_like hn hv post (w :: pre) _ _ he
  positional_plain := by
    intro ws m he h
    cases ws with
    | nil =>
      cases h
      exact nofun
    | cons w ws =>
      rw [parse] at h
      split at h
      · exact go_plain ws none (not_escape_cons he).2 plain_none h
      · exact go_plain (w :: ws) none he plain_none h
  escaped := by
    intro pre v v' post he
    cases pre with
    | nil => exact (parse_cons_of_optionLike optionLike_escape _).trans (go_escaped v v' post [] _ _ he)
    | cons w pre =>
      rw [List.cons_append, parse]
      split
      · exact go_escaped v v' post pre _ _ (not_escape_cons he).2
      · exact go_escaped v v' post (w :: pre) _ _ he

end

end TinySocks.Core.CommandLine
