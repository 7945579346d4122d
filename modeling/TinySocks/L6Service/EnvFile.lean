import TinySocks.Core.Systemd
import TinySocks.Core.Template
import TinySocks.L3Protocol.Config

/-!
# The environment file of a service (`service/linux.rs`)

The credentials of a service stand in a file of two assignments. `quote_env_value`
escapes backslashes first and quotes second, so that the backslashes before the
quotes are not escaped again: together, each character is escaped on its own
(`escape_twice`).

* `env_file_round_trip`: the file cannot be built exactly if a line would end in a
  credential; otherwise systemd reads the two credentials, and nothing else.
-/
namespace TinySocks.L6

open TinySocks.Core TinySocks.Core.Systemd TinySocks.L3

/-- mirrors src/service/linux.rs:55-62 -/
def quoteEnvValue (value : Str) : Except Str Str :=
  if '\x00' ∈ value ∨ '\n' ∈ value ∨ '\r' ∈ value then
    .error "service environment values cannot contain NUL or newline characters"
  else
    let escaped := replace ['"'] "\\\"" (replace ['\\'] "\\\\" value)
    .ok ("\"" ++ escaped ++ "\"")

/-- mirrors src/service/linux.rs:65-75 -/
def buildEnvFile (options : RuntimeOptions) : Except Str (Option Str) :=
  match options.username, options.password with
  | some username, some password => do
    let username ← quoteEnvValue username
    let password ← quoteEnvValue password
    pure (some ("PROXY_USERNAME=" ++ username ++ "\nPROXY_PASSWORD=" ++ password ++ "\n"))
  | _, _ => .ok none

def escapeEnvChar (c : Char) : Str :=
  if c = '\\' then ['\\', '\\'] else if c = '"' then ['\\', '"'] else [c]

/-- A value that would end its line. -/
def EndsLine (value : Str) : Prop := '\x00' ∈ value ∨ '\n' ∈ value ∨ '\r' ∈ value

instance (value : Str) : Decidable (EndsLine value) := inferInstanceAs (Decidable (_ ∨ _ ∨ _))

/-- The second replacement leaves what the first one put in. -/
theorem escape_twice (value : Str) :
    replace ['"'] "\\\"" (replace ['\\'] "\\\\" value) = value.flatMap escapeEnvChar := by
  rw [replace_single, replace_single, List.flatMap_assoc]
  refine congrArg (value.flatMap ·) (funext fun c => ?_)
  unfold escapeEnvChar
  by_cases hb : c = '\\'
  · subst hb
    rfl
  · rw [if_neg hb, if_neg hb, List.flatMap_singleton]
    rfl

theorem quoteEnvValue_error {value : Str} (h : EndsLine value) :
    ∃ message, quoteEnvValue value = .error message :=
  ⟨_, if_pos h⟩

theorem quoteEnvValue_ok {value : Str} (h : ¬ EndsLine value) :
    quoteEnvValue value = .ok ('"' :: (value.flatMap escapeEnvChar ++ "\"")) := by
  unfold EndsLine at h
  unfold quoteEnvValue
  rw [if_neg h, escape_twice]
  rfl

theorem unquote_escapeEnvChar (value : Str) :
    unquote (value.flatMap escapeEnvChar ++ "\"") = some value := by
  refine unquote_escaped fun c _ => ?_
  unfold escapeEnvChar
  by_cases hb : c = '\\'
  · subst hb
    exact .inr ⟨rfl, rfl⟩
  by_cases hq : c = '"'
  · subst hq
    exact .inr ⟨rfl, rfl⟩
  · rw [if_neg hb, if_neg hq]
    exact .inl ⟨rfl, hq, hb⟩

theorem newline_not_mem_escaped {value : Str} (h : '\n' ∉ value) : '\n' ∉ value.flatMap escapeEnvChar := by
  intro hm
  obtain ⟨c, hc, hm⟩ := List.mem_flatMap.1 hm
  unfold escapeEnvChar at hm
  split at hm
  · revert hm
    decide
  split at hm
  · revert hm
    decide
  · exact h (List.mem_singleton.1 hm ▸ hc)

/-- A line of the file. -/
def envLine (name value : Str) : Str := name ++ '=' :: '"' :: (value.flatMap escapeEnvChar ++ "\"")

def envLines (username password : Str) : List Str :=
  [envLine "PROXY_USERNAME" username, envLine "PROXY_PASSWORD" password]

theorem envLine_read {name value : Str} (hn : '=' ∉ name) (hl : '\n' ∉ name) (h : ¬ EndsLine value) :
    '\n' ∉ envLine name value ∧ assignment (envLine name value) = some (name, value) := by
  have hv : '\n' ∉ value := fun hm => h (.inr (.inl hm))
  refine ⟨?_, assignment_quoted hn (unquote_escapeEnvChar value)⟩
  refine List.not_mem_append hl ?_
  simp [newline_not_mem_escaped hv]

section
variable {options : RuntimeOptions} {username password : Str}

theorem buildEnvFile_ok (hu : options.username = some username) (hp : options.password = some password)
    (hlu : ¬ EndsLine username) (hlp : ¬ EndsLine password) :
    buildEnvFile options = .ok (some (unlines (envLines username password))) := by
  unfold buildEnvFile
  rw [hu, hp]
  simp only [quoteEnvValue_ok hlu, quoteEnvValue_ok hlp]
  refine congrArg (fun text => Except.ok (some text)) ?_
  simp [unlines, envLines, envLine]

theorem buildEnvFile_error (hu : options.username = some username) (hp : options.password = some password)
    (h : EndsLine username ∨ EndsLine password) : ∃ message, buildEnvFile options = .error message := by
  unfold buildEnvFile
  rw [hu, hp]
  by_cases hlu : EndsLine username
  · obtain ⟨message, hm⟩ := quoteEnvValue_error hlu
    exact ⟨message, by simp only [hm]; rfl⟩
  · obtain ⟨message, hm⟩ := quoteEnvValue_error (h.resolve_left hlu)
    exact ⟨message, by simp only [quoteEnvValue_ok hlu, hm]; rfl⟩

theorem environmentFile_envLines (hlu : ¬ EndsLine username) (hlp : ¬ EndsLine password) :
    environmentFile (unlines (envLines username password)) =
      some [("PROXY_USERNAME".toList, username), ("PROXY_PASSWORD".toList, password)] := by
  obtain ⟨hnu, hau⟩ : _ ∧ assignment (envLine "PROXY_USERNAME" username) = _ :=
    envLine_read (by decide) (by decide) hlu
  obtain ⟨hnp, hap⟩ : _ ∧ assignment (envLine "PROXY_PASSWORD" password) = _ :=
    envLine_read (by decide) (by decide) hlp
  have hlines : lines (unlines (envLines username password)) = envLines username password ++ [[]] :=
    lines_unlines (List.forall_mem_cons.2 ⟨hnu, List.forall_mem_cons.2 ⟨hnp, fun _ h => nomatch h⟩⟩)
  have hfilter : (envLines username password ++ [[]]).filter isAssignment = envLines username password := rfl
  unfold environmentFile
  rw [hlines, hfilter, envLines, List.mapM_cons, List.mapM_cons, hau, hap]
  rfl

end

/-- **The credentials file round-trips.** It cannot be built exactly if a credential
has a NUL or the end of a line in it. Otherwise it is read as two assignments with
the original strings, whatever else is in them. -/
theorem env_file_round_trip (options : RuntimeOptions) (username password : Str) :
    ((∃ message, buildEnvFile { options with username := some username, password := some password } =
        .error message) ↔ EndsLine username ∨ EndsLine password) ∧
    (¬ (EndsLine username ∨ EndsLine password) → ∃ text,
      buildEnvFile { options with username := some username, password := some password } =
        .ok (some text) ∧
      environmentFile text =
        some [("PROXY_USERNAME".toList, username), ("PROXY_PASSWORD".toList, password)]) := by
  by_cases h : EndsLine username ∨ EndsLine password
  · exact ⟨iff_of_true (buildEnvFile_error rfl rfl h) h, fun hn => absurd h hn⟩
  · have hlu : ¬ EndsLine username := fun hl => h (.inl hl)
    have hlp : ¬ EndsLine password := fun hl => h (.inr hl)
    have hok := @buildEnvFile_ok { options with username := some username, password := some password }
      username password rfl rfl hlu hlp
    refine ⟨iff_of_false ?_ h, fun _ => ⟨_, hok, environmentFile_envLines hlu hlp⟩⟩
    intro hx
    obtain ⟨message, he⟩ := hx
    cases hok.symm.trans he

end TinySocks.L6
