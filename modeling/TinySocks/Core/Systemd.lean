import TinySocks.Core.References

/-!
# How systemd reads its files

The rules a writer of unit files and environment files relies on. A unit is read
line by line. A command line is split into words, with escapes in double quotes;
then specifiers are resolved in each word, and after them variables. An
environment file has one assignment a line, with its value in double quotes.
-/
namespace TinySocks.Core.Systemd

/-! ## Lines -/

def lines (text : Str) : List Str := text.splitOn '\n'

/-- The values of all lines for a name. -/
def settings (name : Str) (ls : List Str) : List Str := ls.filterMap fun l =>
  if (name ++ "=").isPrefixOf l then some (l.drop (name.length + 1)) else none

theorem lines_single {l : Str} (h : '\n' ∉ l) : lines l = [l] := by
  unfold lines List.splitOn
  rw [List.splitOnP_eq_singleton]
  intro c hc
  rw [beq_eq_false_iff_ne]
  intro he
  subst he
  exact h hc

theorem lines_cons {l : Str} (h : '\n' ∉ l) (s : Str) : lines (l ++ '\n' :: s) = l :: lines s := by
  have happ : lines (l ++ '\n' :: s) = lines l ++ lines s :=
    List.splitOnP_append_cons l s (beq_self_eq_true '\n')
  rw [happ, lines_single h]
  rfl

/-- A text of lines, each with its end. -/
def unlines (ls : List Str) : Str := ls.flatMap fun l => l ++ "\n"

/-- A text that is written line by line is read so. -/
theorem lines_unlines {ls : List Str} (h : ∀ l ∈ ls, '\n' ∉ l) : lines (unlines ls) = ls ++ [[]] := by
  induction ls with
  | nil => rfl
  | cons l ls ih =>
    obtain ⟨hl, hls⟩ := List.forall_mem_cons.1 h
    unfold unlines at ih ⊢
    rw [List.flatMap_cons, List.append_assoc]
    exact (lines_cons hl _).trans (congrArg (List.cons l) (ih hls))

/-! ## Words -/

def isSeparator (c : Char) : Bool := c == ' ' || c == '\t' || c == '\n' || c == '\r'

/-- The character behind a backslash. -/
def unescape : Char → Option Char
  | '\\' => some '\\'
  | '"' => some '"'
  | 'n' => some '\n'
  | 't' => some '\t'
  | _ => none

/-- Where in a command line a reader is, with the word it has begun. -/
inductive Reading where
  | between
  | bare (w : Str)
  | quoted (w : Str)
  | escaped (w : Str)
  | closed (w : Str)

/-- The words of the rest of a command line. -/
def wordsFrom : Reading → Str → Option (List Str)
  | .between, [] => some []
  | .between, c :: s =>
    if isSeparator c then wordsFrom .between s
    else if c = '"' then wordsFrom (.quoted []) s
    else wordsFrom (.bare [c]) s
  | .bare w, [] => some [w]
  | .bare w, c :: s =>
    if isSeparator c then (wordsFrom .between s).map (w :: ·) else wordsFrom (.bare (w ++ [c])) s
  | .quoted _, [] => none
  | .quoted w, c :: s =>
    if c = '"' then wordsFrom (.closed w) s
    else if c = '\\' then wordsFrom (.escaped w) s
    else wordsFrom (.quoted (w ++ [c])) s
  | .escaped _, [] => none
  | .escaped w, c :: s =>
    match unescape c with
    | some d => wordsFrom (.quoted (w ++ [d])) s
    | none => none
  | .closed w, [] => some [w]
  | .closed w, c :: s => if isSeparator c then (wordsFrom .between s).map (w :: ·) else none

def words (line : Str) : Option (List Str) := wordsFrom .between line

/-- A character and what stands for it in quotes. -/
def EscapedAs (c : Char) (text : Str) : Prop :=
  text = [c] ∧ c ≠ '"' ∧ c ≠ '\\' ∨ ∃ d, text = ['\\', d] ∧ unescape d = some c

/-- A word and how it is written. -/
inductive Written : Str → Str → Prop where
  | bare {w : Str} (hne : w ≠ []) (hw : ∀ c ∈ w, isSeparator c = false ∧ c ≠ '"') : Written w w
  | quoted {w : Str} {f : Char → Str} (hw : ∀ c ∈ w, EscapedAs c (f c)) :
      Written ('"' :: (w.flatMap f ++ "\"")) w

theorem wordsFrom_bare {v : Str} (hv : ∀ c ∈ v, isSeparator c = false ∧ c ≠ '"') (w s : Str) :
    wordsFrom (.bare w) (v ++ s) = wordsFrom (.bare (w ++ v)) s := by
  induction v generalizing w with
  | nil => rw [List.append_nil, List.nil_append]
  | cons c v ih =>
    obtain ⟨hc, hv⟩ := List.forall_mem_cons.1 hv
    rw [List.cons_append, wordsFrom, hc.1, ih hv, List.append_assoc]
    rfl

theorem wordsFrom_quoted {v : Str} {f : Char → Str} (hv : ∀ c ∈ v, EscapedAs c (f c)) (w s : Str) :
    wordsFrom (.quoted w) (v.flatMap f ++ s) = wordsFrom (.quoted (w ++ v)) s := by
  induction v generalizing w with
  | nil => rw [List.append_nil, List.flatMap_nil, List.nil_append]
  | cons c v ih =>
    obtain ⟨hc, hv⟩ := List.forall_mem_cons.1 hv
    have hrest := ih hv (w ++ [c])
    rw [List.append_assoc] at hrest
    rw [List.flatMap_cons, List.append_assoc]
    rcases hc with ⟨he, hq, hb⟩ | ⟨d, he, hd⟩
    · rw [he, List.singleton_append, wordsFrom, if_neg hq, if_neg hb]
      exact hrest
    · have hq : ('\\' : Char) ≠ '"' := by decide
      rw [he, List.cons_append, List.singleton_append, wordsFrom, if_neg hq, if_pos rfl, wordsFrom, hd]
      exact hrest

/-- A word that is written first is read first. -/
theorem wordsFrom_written {text w : Str} (h : Written text w) (s : Str) :
    wordsFrom .between text = some [w] ∧
      wordsFrom .between (text ++ ' ' :: s) = (wordsFrom .between s).map (w :: ·) := by
  cases h with
  | bare hne hw =>
    cases text with
    | nil => exact absurd rfl hne
    | cons c w =>
      obtain ⟨hc, hw⟩ := List.forall_mem_cons.1 hw
      have hstep : ∀ t, wordsFrom .between (c :: w ++ t) = wordsFrom (.bare (c :: w)) t := by
        intro t
        rw [List.cons_append, wordsFrom, hc.1, if_neg (by decide), if_neg hc.2, wordsFrom_bare hw]
        rfl
      refine ⟨?_, hstep (' ' :: s)⟩
      have hnil := hstep []
      rw [List.append_nil] at hnil
      rw [hnil]
      rfl
  | @quoted _ f hw =>
    have hstep : ∀ t, wordsFrom .between ('"' :: (w.flatMap f ++ '"' :: t)) = wordsFrom (.closed w) t := by
      intro t
      show wordsFrom (.quoted []) (w.flatMap f ++ '"' :: t) = _
      rw [wordsFrom_quoted hw]
      rfl
    refine ⟨hstep [], ?_⟩
    show wordsFrom .between ('"' :: (w.flatMap f ++ "\"" ++ ' ' :: s)) = _
    rw [List.append_assoc]
    exact hstep (' ' :: s)

/-- Words that are written with blanks between them are read so. -/
theorem words_intercalate {f : Str → Str} : ∀ {ws : List Str}, (∀ w ∈ ws, Written (f w) w) →
    words (" ".toList.intercalate (ws.map f)) = some ws := by
  intro ws
  induction ws with
  | nil => exact fun _ => rfl
  | cons w ws ih =>
    intro h
    obtain ⟨hw, hws⟩ := List.forall_mem_cons.1 h
    have hrest := ih hws
    cases ws with
    | nil =>
      simp only [List.map_cons, List.map_nil, List.intercalate_singleton]
      exact (wordsFrom_written hw []).1
    | cons v ws =>
      rw [List.map_cons, List.map_cons, List.intercalate_cons_cons, List.append_assoc]
      refine (wordsFrom_written hw _).2.trans ?_
      rw [← List.map_cons]
      exact congrArg (Option.map (w :: ·)) hrest

/-! ## Specifiers and variables -/

/-- What the references of a command line stand for. -/
structure Host where
  /-- the characters that name a specifier -/
  known : Char → Bool
  specifier : Char → Str
  environment : Str → Option Str

/-- `%%`, or `%` with the name of a specifier. -/
def findSpecifier (known : Char → Bool) : Str → Option (Option Char × Str)
  | '%' :: c :: s => if c = '%' then some (none, s) else if known c then some (some c, s) else none
  | _ => none

def isNameStart (c : Char) : Bool := c.isAlpha || c == '_'

def isNameChar (c : Char) : Bool := c.isAlphanum || c == '_'

/-- The name of a variable at the front of a text. -/
def takeName : Str → Option (Str × Str)
  | c :: s => if isNameStart c then some (c :: s.takeWhile isNameChar, s.dropWhile isNameChar) else none
  | [] => none

/-- `$$`, `${NAME}`, or `$NAME`. -/
def findVariable : Str → Option (Option Str × Str)
  | '$' :: c :: s =>
    if c = '$' then some (none, s)
    else if c = '\x7b' then
      match takeName s with
      | some (name, '\x7d' :: rest) => some (some name, rest)
      | _ => none
    else (takeName (c :: s)).map fun (name, rest) => (some name, rest)
  | _ => none

theorem takeName_shorter {s name rest : Str} (h : takeName s = some (name, rest)) :
    rest.length < s.length := by
  cases s with
  | nil => cases h
  | cons c s =>
    rw [takeName] at h
    split at h
    · cases h
      exact Nat.lt_succ_of_le (List.dropWhile_suffix _).length_le
    · cases h

/-- A specifier takes two characters. -/
theorem findSpecifier_length {known : Char → Bool} {s rest : Str} {r : Option Char}
    (h : findSpecifier known s = some (r, rest)) : s.length = rest.length + 2 := by
  unfold findSpecifier at h
  split at h
  · split at h
    · cases h
      rfl
    · split at h
      · cases h
        rfl
      · cases h
  · cases h

/-- A variable takes at least two. -/
theorem findVariable_length {s rest : Str} {r : Option Str} (h : findVariable s = some (r, rest)) :
    rest.length + 2 ≤ s.length := by
  unfold findVariable at h
  split at h
  · split at h
    · cases h
      exact Nat.le_refl _
    split at h
    · split at h
      · rename_i hn
        have := takeName_shorter hn
        cases h
        simp only [List.length_cons] at this ⊢
        omega
      · cases h
    · obtain ⟨⟨name, rest'⟩, hn, he⟩ := Option.map_eq_some_iff.1 h
      have := takeName_shorter hn
      cases he
      simp only [List.length_cons] at this ⊢
      omega
  · cases h

def specifiers (known : Char → Bool) : References (Option Char) where
  find := findSpecifier known
  shorter _ _ _ h := by
    rw [findSpecifier_length h]
    omega

def variableUses : References (Option Str) where
  find := findVariable
  shorter _ _ _ h := by
    have := findVariable_length h
    omega

namespace Host

def specifierValue (host : Host) : Option Char → Str
  | none => "%"
  | some c => host.specifier c

/-- A variable that is not set is empty. -/
def variableValue (host : Host) : Option Str → Str
  | none => "$"
  | some name => (host.environment name).getD []

/-- A word with its references resolved. -/
def resolve (host : Host) (w : Str) : Str :=
  variableUses.expand host.variableValue ((specifiers host.known).expand host.specifierValue w)

/-- The command a line stands for. -/
def commandLine (host : Host) (line : Str) : Option (List Str) := (words line).map (·.map host.resolve)

end Host

/-- A word without references. -/
def Verbatim (known : Char → Bool) (w : Str) : Prop := (specifiers known).Free w ∧ variableUses.Free w

theorem resolve_of_verbatim {host : Host} {w : Str} (h : Verbatim host.known w) : host.resolve w = w := by
  unfold Host.resolve
  rw [References.expand_of_free h.1, References.expand_of_free h.2]

theorem free_of_not_mem {ρ : Type} {R : References ρ} {o : Char} (hR : ∀ c s, c ≠ o → R.find (c :: s) = none)
    {w : Str} (h : o ∉ w) : R.Free w := by
  intro t ht
  cases t with
  | nil => exact References.find_nil
  | cons c t =>
    refine hR c t ?_
    intro he
    subst he
    exact h (ht.subset (.head _))

/-- References begin with a percent sign or a dollar. -/
theorem verbatim_of_not_mem {known : Char → Bool} {w : Str} (hs : '%' ∉ w) (hv : '$' ∉ w) :
    Verbatim known w := by
  constructor
  · refine free_of_not_mem (fun c s hc => ?_) hs
    show findSpecifier known (c :: s) = none
    unfold findSpecifier
    split
    · rename_i he
      exact absurd (List.cons.inj he).1 hc
    · rfl
  · refine free_of_not_mem (fun c s hc => ?_) hv
    show findVariable (c :: s) = none
    unfold findVariable
    split
    · rename_i he
      exact absurd (List.cons.inj he).1 hc
    · rfl

/-- A host on which everything is empty. -/
def emptyHost (known : Char → Bool) : Host where
  known := known
  specifier _ := []
  environment _ := none

/-- There only a word without references stays as it is. -/
theorem verbatim_of_resolve {known : Char → Bool} {w : Str} (h : (emptyHost known).resolve w = w) :
    Verbatim known w := by
  have hspec : (specifiers known).Shrinks (emptyHost known).specifierValue := by
    intro s r rest hf
    rw [findSpecifier_length hf]
    cases r with
    | none =>
      show 1 + rest.length < rest.length + 2
      omega
    | some c =>
      show 0 + rest.length < rest.length + 2
      omega
  have hvar : variableUses.Shrinks (emptyHost known).variableValue := by
    intro s r rest hf
    have hlen := findVariable_length hf
    cases r with
    | none =>
      show 1 + rest.length < s.length
      omega
    | some name =>
      show 0 + rest.length < s.length
      omega
  obtain ⟨hle, hfree⟩ := References.expand_length hspec w
  obtain ⟨hle', -⟩ := References.expand_length hvar
    ((specifiers known).expand (emptyHost known).specifierValue w)
  have hlen : (variableUses.expand (emptyHost known).variableValue
      ((specifiers known).expand (emptyHost known).specifierValue w)).length = w.length :=
    congrArg List.length h
  have hspecfree := hfree (by omega)
  refine ⟨hspecfree, ?_⟩
  rw [References.expand_of_free hspecfree] at hlen
  exact (References.expand_length hvar w).2 hlen

/-! ## Environment files -/

/-- What a backslash may stand before, to be dropped. -/
def isEscapable (c : Char) : Bool := c == '\\' || c == '"' || c == '$' || c == '\x60'

/-- The rest of a value, up to the quote that closes it at the end of the line; the
first argument says whether a backslash was read. -/
def unquoteFrom : Bool → Str → Option Str
  | _, [] => none
  | false, c :: s =>
    if c = '"' then if s = [] then some [] else none
    else if c = '\\' then unquoteFrom true s
    else (unquoteFrom false s).map (c :: ·)
  | true, c :: s =>
    (unquoteFrom false s).map fun v => if isEscapable c then c :: v else '\\' :: c :: v

def unquote (s : Str) : Option Str := unquoteFrom false s

/-- The name and the value of a line. -/
def assignment (line : Str) : Option (Str × Str) :=
  match line.dropWhile (· ≠ '=') with
  | '=' :: '"' :: s => (unquote s).map fun v => (line.takeWhile (· ≠ '='), v)
  | _ => none

/-- Empty lines and comments assign nothing. -/
def isAssignment (line : Str) : Bool := !(line == [] || line.head? == some '#' || line.head? == some ';')

def environmentFile (text : Str) : Option (List (Str × Str)) :=
  ((lines text).filter isAssignment).mapM assignment

/-- A quoted value is read as it was, if what closes it or opens an escape was escaped. -/
theorem unquote_escaped {f : Char → Str} {v : Str} (h : ∀ c ∈ v, f c = [c] ∧ c ≠ '"' ∧ c ≠ '\\' ∨
    f c = ['\\', c] ∧ isEscapable c = true) : unquote (v.flatMap f ++ "\"") = some v := by
  induction v with
  | nil => rfl
  | cons c v ih =>
    obtain ⟨hc, hv⟩ := List.forall_mem_cons.1 h
    have hrest : unquoteFrom false (v.flatMap f ++ "\"") = some v := ih hv
    rw [List.flatMap_cons, List.append_assoc]
    unfold unquote
    rcases hc with ⟨he, hq, hb⟩ | ⟨he, hc⟩
    · rw [he, List.singleton_append, unquoteFrom, if_neg hq, if_neg hb, hrest]
      rfl
    · have hq : ('\\' : Char) ≠ '"' := by decide
      rw [he, List.cons_append, List.singleton_append, unquoteFrom, if_neg hq, if_pos rfl, unquoteFrom, hrest,
        Option.map_some, if_pos hc]

/-- A line of a name and a value. -/
theorem assignment_quoted {name text v : Str} (hn : '=' ∉ name) (hv : unquote text = some v) :
    assignment (name ++ '=' :: '"' :: text) = some (name, v) := by
  have hne : ∀ c ∈ name, (decide (c ≠ '=')) = true := by
    intro c hc
    rw [decide_eq_true_eq]
    intro he
    subst he
    exact hn hc
  unfold assignment
  rw [List.dropWhile_append_of_pos hne, List.takeWhile_append_of_pos hne]
  simp [hv]

end TinySocks.Core.Systemd
