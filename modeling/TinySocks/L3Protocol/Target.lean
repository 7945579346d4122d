import TinySocks.L3Protocol.HttpRequest

/-!
# Where a request goes (`http.rs`)

The texts of an authority and of an absolute target, and what the proxy makes
of them. The `http` crate splits them (`Libs.AuthorityExact`,
`Libs.UriSplits`); the port comes from its `port_u16`, which is `None` for a port
that is missing and for one that is not a `u16`.

Behaviour (http.rs:511-518): `None` becomes the default port. Behaviour
(http.rs:468,502-509): a target counts as absolute if it starts with `http://`
or `https://`; any other goes by its `Host` header, so that the branch that
rejects other schemes is never reached.

* `named_port_iff`: the port that is used is the one the request names exactly
  if what stands behind the colon is a number below 65536, or nothing.
* `out_of_range_port_replaced`: `CONNECT h:99999` goes to port 443.
* `absolute_by_itself_iff`: an absolute target goes by itself alone exactly if
  its scheme is `http` or `https`.
* `ftp_routed_by_host`: `ftp://a/` goes where `Host` says.
-/
namespace TinySocks.L1

open TinySocks.Core

/-! ## Texts -/

/-- `userinfo@host:port`; the host may be a literal in brackets. -/
structure AuthorityText where
  userinfo : Option Str
  host : Str
  port : Option Str
  hostForm : '@' ∉ host ∧ ((':' ∉ host ∧ host.head? ≠ some '[') ∨
    ∃ literal, host = '[' :: (literal ++ "]".toList) ∧ ']' ∉ literal)
  portForm : ∀ p ∈ port, '@' ∉ p ∧ ':' ∉ p

namespace AuthorityText

/-- What stands in front of the host. -/
def before (t : AuthorityText) : Str :=
  match t.userinfo with
  | some u => u ++ "@"
  | none => []

/-- What stands behind it. -/
def after (t : AuthorityText) : Str :=
  match t.port with
  | some p => ':' :: p
  | none => []

def text (t : AuthorityText) : Str := t.before ++ (t.host ++ t.after)

end AuthorityText

/-- The end of an authority in a longer text. -/
def endsAuthority (c : Char) : Bool := c == '/' || c == '?' || c == '#'

def isSchemeChar (c : Char) : Bool := c.isAlphanum || c == '+' || c == '-' || c == '.'

/-- `scheme://authority` and what follows it. -/
structure AbsoluteText where
  scheme : Str
  authority : Str
  rest : Str
  schemeForm : (∃ c ∈ scheme.head?, c.isAlpha = true) ∧ ∀ c ∈ scheme, isSchemeChar c = true
  authorityForm : ∀ c ∈ authority, endsAuthority c = false
  restForm : ∀ c ∈ rest.head?, endsAuthority c = true

def AbsoluteText.text (t : AbsoluteText) : Str := t.scheme ++ "://" ++ (t.authority ++ t.rest)

/-- The path and the query, without a fragment. -/
def AbsoluteText.pathAndQuery (t : AbsoluteText) : Str := t.rest.takeWhile (· ≠ '#')

/-- The path and the query as the next server is asked for them. -/
def AbsoluteText.ownPath (t : AbsoluteText) : Str :=
  match t.pathAndQuery with
  | [] => "/"
  | '?' :: query => '/' :: '?' :: query
  | path => path

/-- `str::parse::<u16>()` -/
def parseU16 (s : Str) : Option UInt16 := (parseUnsigned UInt16.size s).map UInt16.ofNat

/-! ## What the `http` crate makes of them -/

/-- `Authority`: `host` is the host, and `port_u16` the port if it is a `u16`. -/
structure Libs.AuthorityExact (L : Libs) : Prop where
  parts : ∀ {t : AuthorityText} {a}, L.parseAuthority t.text = some a →
    a.host = t.host ∧ a.portU16 = t.port.bind parseU16

/-- `Uri`: an absolute target has a scheme (in its own or lower case), an
authority, and a path, which is `/` if there is none. -/
structure Libs.UriSplits (L : Libs) : Prop where
  scheme : ∀ {t : AbsoluteText} {uri}, L.parseUri t.text = some uri →
    ∃ s, uri.schemeStr = some s ∧ eqIgnoreAsciiCase s t.scheme = true
  authority : ∀ {t : AbsoluteText} {uri}, L.parseUri t.text = some uri →
    uri.authority = L.parseAuthority t.authority
  path : ∀ {t : AbsoluteText} {uri}, L.parseUri t.text = some uri →
    uri.pathAndQuery = some (if t.pathAndQuery = [] then "/".toList else t.pathAndQuery)

/-- `Authority`: a name of letters and digits is a host. -/
def Libs.TakesNames (L : Libs) : Prop :=
  ∀ s : Str, s ≠ [] → (∀ c ∈ s, c.isAlphanum = true) → ∃ a, L.parseAuthority s = some a ∧ a.host = s

/-! ## An instance -/

/-- A host ends at a colon, or at its closing bracket. -/
def splitHost (s : Str) : Str × Str :=
  match s with
  | '[' :: _ => (s.takeWhile (· ≠ ']') ++ "]", (s.dropWhile (· ≠ ']')).drop 1)
  | _ => (s.takeWhile (· ≠ ':'), s.dropWhile (· ≠ ':'))

/-- The host starts behind the last `@`. -/
def exactAuthority (s : Str) : Option Authority :=
  let (host, rest) := splitHost (s.reverse.takeWhile (· ≠ '@')).reverse
  if s = [] then none
  else
    match rest with
    | [] => some { host, portU16 := none }
    | ':' :: port => some { host, portU16 := parseU16 port }
    | _ => none

def exactUri (s : Str) : Option Uri :=
  match s.dropWhile (· ≠ ':') with
  | ':' :: '/' :: '/' :: rest =>
    let path := (rest.dropWhile (!endsAuthority ·)).takeWhile (· ≠ '#')
    (exactAuthority (rest.takeWhile (!endsAuthority ·))).map fun authority =>
      { schemeStr := some (s.takeWhile (· ≠ ':'))
        authority := some authority
        pathAndQuery := some (if path = [] then "/" else path) }
  | _ => none

def exactLibs : Libs := { plainLibs with parseAuthority := exactAuthority, parseUri := exactUri }

theorem AuthorityText.hostPort (t : AuthorityText) :
    (t.text.reverse.takeWhile (· ≠ '@')).reverse = t.host ++ t.after := by
  have hafter : '@' ∉ t.after := by
    unfold AuthorityText.after
    split
    · rename_i p hp
      exact fun hm => (t.portForm p hp).1 ((List.mem_cons.1 hm).resolve_left (by decide))
    · simp
  have hall : ∀ c ∈ (t.host ++ t.after).reverse, decide (c ≠ '@') = true := by
    intro c hc
    rw [List.mem_reverse, List.mem_append] at hc
    refine decide_eq_true fun he => ?_
    subst he
    exact hc.elim t.hostForm.1 hafter
  have hbefore : ∀ c ∈ t.before.reverse.head?, decide (c ≠ '@') = false := by
    intro c hc
    unfold AuthorityText.before at hc
    split at hc
    · rw [List.head?_reverse, List.getLast?_append] at hc
      cases hc
      decide
    · cases hc
  unfold AuthorityText.text
  rw [List.reverse_append, takeWhile_all hall hbefore, List.reverse_reverse]

theorem AuthorityText.after_head (t : AuthorityText) : ∀ c ∈ t.after.head?, c = ':' := by
  intro c hc
  unfold AuthorityText.after at hc
  split at hc
  · exact (Option.some.inj hc).symm
  · cases hc

theorem AuthorityText.splitHost_eq (t : AuthorityText) :
    splitHost (t.host ++ t.after) = (t.host, t.after) := by
  rcases t.hostForm.2 with ⟨hcolon, hne⟩ | ⟨literal, hhost, hlit⟩
  · have hall : ∀ c ∈ t.host, decide (c ≠ ':') = true := by
      intro c hc
      refine decide_eq_true fun he => ?_
      subst he
      exact hcolon hc
    have hstop : ∀ c ∈ t.after.head?, decide (c ≠ ':') = false := by
      intro c hc
      rw [t.after_head c hc]
      decide
    unfold splitHost
    split
    · rename_i tail he
      refine absurd (congrArg List.head? he) ?_
      rw [List.head?_append]
      cases hh : t.host with
      | nil =>
        intro hc
        cases t.after_head '[' hc
      | cons c host =>
        rw [hh] at hne
        exact hne
    · rw [takeWhile_all hall hstop, dropWhile_all hall hstop]
  · have hall : ∀ c ∈ '[' :: literal, decide (c ≠ ']') = true := by
      intro c hc
      refine decide_eq_true fun he => ?_
      subst he
      exact hlit ((List.mem_cons.1 hc).resolve_left (by decide))
    have hstop : ∀ c ∈ (']' :: t.after).head?, decide (c ≠ ']') = false := by
      intro c hc
      cases hc
      decide
    have htext : t.host ++ t.after = '[' :: literal ++ ']' :: t.after := by
      rw [hhost, List.cons_append, List.append_assoc]
      rfl
    rw [htext]
    show (_ ++ _, _) = _
    rw [takeWhile_all hall hstop, dropWhile_all hall hstop, hhost]
    rfl

theorem exactAuthority_text {t : AuthorityText} (hne : t.text ≠ []) :
    exactAuthority t.text = some { host := t.host, portU16 := t.port.bind parseU16 } := by
  unfold exactAuthority
  simp only [AuthorityText.hostPort, AuthorityText.splitHost_eq, if_neg hne]
  unfold AuthorityText.after
  cases t.port <;> rfl

theorem exactLibs_authorityExact : exactLibs.AuthorityExact := by
  constructor
  intro t a h
  by_cases hne : t.text = []
  · rw [hne] at h
    cases h
  · rw [show exactLibs.parseAuthority t.text = _ from exactAuthority_text hne] at h
    cases h
    exact ⟨rfl, rfl⟩

theorem isAlphanum_ne {d : Char} (hd : d.isAlphanum = false) {c : Char} (h : c.isAlphanum = true) :
    c ≠ d := by
  intro he
  subst he
  rw [h] at hd
  cases hd

theorem exactLibs_takesNames : exactLibs.TakesNames := by
  intro s hne hs
  let t : AuthorityText := {
    userinfo := none
    host := s
    port := none
    hostForm := by
      refine ⟨fun hm => isAlphanum_ne (by decide) (hs _ hm) rfl, .inl ⟨fun hm => ?_, fun hm => ?_⟩⟩
      · exact isAlphanum_ne (by decide) (hs _ hm) rfl
      · exact isAlphanum_ne (by decide) (hs _ (List.mem_of_mem_head? hm)) rfl
    portForm := by simp }
  have htext : t.text = s := List.append_nil s
  have ha := exactAuthority_text (t := t) (by rwa [htext])
  rw [htext] at ha
  exact ⟨_, ha, rfl⟩

theorem exactLibs_uriSplits : exactLibs.UriSplits := by
  have hparts : ∀ {t : AbsoluteText} {uri}, exactUri t.text = some uri → ∃ a,
      exactAuthority t.authority = some a ∧ uri = {
        schemeStr := some t.scheme
        authority := some a
        pathAndQuery := some (if t.pathAndQuery = [] then "/" else t.pathAndQuery) } := by
    intro t uri h
    have hscheme : ∀ c ∈ t.scheme, decide (c ≠ ':') = true := by
      intro c hc
      refine decide_eq_true fun he => ?_
      subst he
      exact absurd (t.schemeForm.2 _ hc) (by decide)
    have hcolon : ∀ r : Str, ∀ c ∈ (':' :: r).head?, decide (c ≠ ':') = false := by
      intro r c hc
      cases hc
      decide
    have hauthority : ∀ c ∈ t.authority, (!endsAuthority c) = true := by
      intro c hc
      rw [t.authorityForm c hc]
      rfl
    have hrest : ∀ c ∈ t.rest.head?, (!endsAuthority c) = false := by
      intro c hc
      rw [t.restForm c hc]
      rfl
    have htext : t.text = t.scheme ++ ':' :: '/' :: '/' :: (t.authority ++ t.rest) := by
      unfold AbsoluteText.text
      rw [List.append_assoc]
      rfl
    unfold exactUri at h
    rw [htext, dropWhile_all hscheme (hcolon _), takeWhile_all hscheme (hcolon _)] at h
    simp only [dropWhile_all hauthority hrest, takeWhile_all hauthority hrest] at h
    obtain ⟨a, ha, rfl⟩ := Option.map_eq_some_iff.1 h
    exact ⟨a, ha, rfl⟩
  refine ⟨fun h => ?_, fun h => ?_, fun h => ?_⟩
  · obtain ⟨a, -, rfl⟩ := hparts h
    exact ⟨_, rfl, eqIgnoreAsciiCase_iff.2 rfl⟩
  · obtain ⟨a, ha, rfl⟩ := hparts h
    exact ha.symm
  · obtain ⟨a, -, rfl⟩ := hparts h
    rfl

end TinySocks.L1

namespace TinySocks.L3

open TinySocks.Core TinySocks.L1

/-! ## Prefixes -/

theorem colon_not_mem_lower {s : Str} (h : ':' ∉ s) : ':' ∉ toAsciiLowercase s := by
  intro hm
  obtain ⟨c, hc, he⟩ := List.mem_map.1 hm
  exact h (eq_of_toLower_eq he (by decide) ▸ hc)

theorem colon_not_mem_scheme (t : AbsoluteText) : ':' ∉ t.scheme :=
  fun hm => absurd (t.schemeForm.2 _ hm) (by decide)

/-- The prefix test looks at the scheme. -/
theorem prefix_iff {w : Str} (hw : ':' ∉ w) (t : AbsoluteText) :
    eqIgnoreAsciiCase (t.text.take (w.length + 3)) (w ++ "://") = true ↔
      eqIgnoreAsciiCase t.scheme w = true := by
  have hlower : ∀ s r : Str, toAsciiLowercase (s ++ "://" ++ r) =
      toAsciiLowercase s ++ ':' :: ("//".toList ++ toAsciiLowercase r) := by
    intro s r
    simp only [toAsciiLowercase, List.map_append, List.append_assoc]
    rfl
  have hsep : toAsciiLowercase (w ++ "://") = toAsciiLowercase w ++ ':' :: "//".toList := by
    simp only [toAsciiLowercase, List.map_append]
    rfl
  have htake : toAsciiLowercase (t.text.take (w.length + 3)) =
      (toAsciiLowercase t.text).take (w.length + 3) := List.map_take
  rw [eqIgnoreAsciiCase_iff, eqIgnoreAsciiCase_iff, htake, hsep, AbsoluteText.text, hlower]
  constructor
  · intro h
    have hall := List.take_append_drop (w.length + 3)
      (toAsciiLowercase t.scheme ++ ':' :: ("//".toList ++ toAsciiLowercase (t.authority ++ t.rest)))
    rw [h, List.append_assoc] at hall
    exact (append_sep_inj (colon_not_mem_lower hw)
      (colon_not_mem_lower (colon_not_mem_scheme t)) hall).1.symm
  · intro h
    rw [h, ← List.cons_append, ← List.append_assoc]
    refine List.take_left' ?_
    simp [toAsciiLowercase]

theorem isAbsoluteHttpTarget_iff (t : AbsoluteText) : isAbsoluteHttpTarget t.text = true ↔
    eqIgnoreAsciiCase t.scheme "http" = true ∨ eqIgnoreAsciiCase t.scheme "https" = true := by
  unfold isAbsoluteHttpTarget
  rw [Bool.or_eq_true]
  exact or_congr (prefix_iff (w := "http") (by decide) t) (prefix_iff (w := "https") (by decide) t)

/-! ## The port -/

/-- The port a request for `t` names. -/
def NamesPort (t : AuthorityText) (defaultPort port : UInt16) : Prop :=
  match t.port with
  | none | some [] => port = defaultPort
  | some p => IsDigits p ∧ digitsValue p = port.toNat

/-- What stands behind the colon, if anything, is a number below 65536. -/
def PortInRange (t : AuthorityText) : Prop :=
  ∀ p ∈ t.port, p ≠ [] → IsDigits p ∧ digitsValue p < UInt16.size

theorem authorityHostPort_port {L : Libs} (hA : L.AuthorityExact) {t : AuthorityText} {a : Authority}
    (h : L.parseAuthority t.text = some a) {defaultPort port : UInt16} {host : Str}
    (hok : authorityHostPort a defaultPort = .ok (host, port)) :
    port = (t.port.bind parseU16).getD defaultPort := by
  rw [← (hA.parts h).2]
  exact (authorityHostPort_ok hok).2

theorem parseU16_of_digits {p : Str} (h : IsDigits p) (hlt : digitsValue p < UInt16.size) :
    parseU16 p = some (UInt16.ofNat (digitsValue p)) := by
  unfold parseU16
  rw [parseUnsigned_iff.2 ⟨p, .inl rfl, h, rfl, hlt⟩]
  rfl

/-- The port that comes out is the one that is named, exactly if it is in range. -/
theorem namesPort_iff {t : AuthorityText} {defaultPort port : UInt16}
    (h : port = (t.port.bind parseU16).getD defaultPort) :
    NamesPort t defaultPort port ↔ PortInRange t := by
  unfold NamesPort PortInRange
  cases hp : t.port with
  | none =>
    rw [hp] at h
    exact ⟨fun _ => by simp, fun _ => h⟩
  | some p =>
    rw [hp] at h
    cases p with
    | nil => exact ⟨fun _ => by simp, fun _ => h⟩
    | cons c p =>
      simp only [Option.mem_some_iff, forall_eq']
      constructor
      · intro hx _
        obtain ⟨hd, hv⟩ := hx
        exact ⟨hd, hv ▸ port.toNat_lt⟩
      · intro hr
        obtain ⟨hd, hlt⟩ := hr (by simp)
        refine ⟨hd, ?_⟩
        rw [h, Option.bind_some, parseU16_of_digits hd hlt, Option.getD_some]
        exact (UInt16.toNat_ofNat_of_lt' hlt).symm

/-- The three ways a request names the authority `t`. -/
inductive RequestForm (t : AuthorityText) where
  | connect
  | absolute (target : AbsoluteText) (named : target.authority = t.text)
      (scheme : eqIgnoreAsciiCase target.scheme "http" = true) (hostHeader : Option Str)
  | origin (target : Str) (form : isAbsoluteHttpTarget target = false)

namespace RequestForm

variable {t : AuthorityText}

/-- The host and the port the proxy finds. -/
def resolve (L : Libs) (originPort : UInt16) : RequestForm t → Except Str (Str × UInt16)
  | connect => parseConnectTarget L t.text
  | absolute target _ _ hostHeader =>
    (splitTarget L target.text hostHeader originPort).map fun r => (r.1, r.2.1)
  | origin target _ => (splitTarget L target t.text originPort).map fun r => (r.1, r.2.1)

def defaultPort (originPort : UInt16) : RequestForm t → UInt16
  | connect => 443
  | absolute .. => 80
  | origin .. => originPort

/-- Whatever the form, `authority_host_port` decides. -/
theorem resolve_ok {L : Libs} (hU : L.UriSplits) {originPort : UInt16} {form : RequestForm t}
    {host : Str} {port : UInt16} (h : form.resolve L originPort = .ok (host, port)) :
    ∃ a, L.parseAuthority t.text = some a ∧
      authorityHostPort a (form.defaultPort originPort) = .ok (host, port) := by
  cases form with
  | connect =>
    unfold resolve parseConnectTarget at h
    cases ha : L.parseAuthority t.text with
    | none =>
      rw [ha] at h
      cases h
    | some a =>
      rw [ha] at h
      exact ⟨a, rfl, h⟩
  | absolute target named scheme hostHeader =>
    obtain ⟨r, hr, he⟩ := except_map_eq_ok.1 h
    cases he
    rcases splitTarget_ok hr with ⟨-, habs⟩ | ⟨hnot, -⟩
    · obtain ⟨uri, _, a, hu, -, -, ha, hok, -⟩ := parseAbsoluteTarget_ok habs
      rw [hU.authority hu, named] at ha
      exact ⟨a, ha, hok⟩
    · rw [(isAbsoluteHttpTarget_iff target).2 (.inl scheme)] at hnot
      cases hnot
  | origin target form =>
    obtain ⟨r, hr, he⟩ := except_map_eq_ok.1 h
    cases he
    rcases splitTarget_ok hr with ⟨habs, -⟩ | ⟨-, _, a, hv, ha, hok, -⟩
    · rw [form] at habs
      cases habs
    · cases hv
      exact ⟨a, ha, hok⟩

end RequestForm

/-- The port that is used is the one the request names exactly if what stands
behind the colon is a number below 65536, or nothing. -/
theorem named_port_iff {L : Libs} (hA : L.AuthorityExact) (hU : L.UriSplits) {t : AuthorityText}
    (form : RequestForm t) {originPort port : UInt16} {host : Str}
    (h : form.resolve L originPort = .ok (host, port)) :
    NamesPort t (form.defaultPort originPort) port ↔ PortInRange t := by
  obtain ⟨a, ha, hok⟩ := form.resolve_ok hU h
  exact namesPort_iff (authorityHostPort_port hA ha hok)

/-- `u:p@[::1]:8080` -/
def bracketed : AuthorityText where
  userinfo := some "u:p"
  host := "[::1]"
  port := some "8080"
  hostForm := ⟨by decide, .inr ⟨"::1".toList, by decide, by decide⟩⟩
  portForm := by decide

theorem named_port_iff_bracketed : NamesPort bracketed 443 8080 ↔ PortInRange bracketed :=
  named_port_iff exactLibs_authorityExact exactLibs_uriSplits (.connect : RequestForm bracketed)
    (show RequestForm.resolve exactLibs 80 .connect = .ok ("::1".toList, 8080) from rfl)

/-- `h:99999` -/
def tooWide : AuthorityText where
  userinfo := none
  host := "h"
  port := some "99999"
  hostForm := ⟨by decide, .inl ⟨by decide, by decide⟩⟩
  portForm := by decide

/-- `CONNECT h:99999` goes to port 443. -/
theorem out_of_range_port_replaced :
    (RequestForm.connect : RequestForm tooWide).resolve exactLibs 80 = .ok ("h".toList, 443) ∧
      ¬ NamesPort tooWide 443 443 :=
  ⟨rfl, fun h => absurd h.2 (by decide)⟩

/-! ## Absolute targets -/

/-- What `splitTarget` found is the target's own, or nothing. -/
def OwnResult (L : Libs) (t : AbsoluteText) (r : Except Str (Str × UInt16 × Str)) : Prop :=
  ∀ host port path, r = .ok (host, port, path) →
    eqIgnoreAsciiCase t.scheme "http" = true ∧ ∃ a, L.parseAuthority t.authority = some a ∧
      host = normalizeHost a.host ∧ port = a.portU16.getD 80 ∧ path = t.ownPath

theorem ownPath_eq (t : AbsoluteText) : normalizePathAndQuery
    (some (if t.pathAndQuery = [] then "/".toList else t.pathAndQuery)) = t.ownPath := by
  unfold AbsoluteText.ownPath
  cases t.pathAndQuery with
  | nil => rfl
  | cons c path =>
    rw [if_neg (List.cons_ne_nil c path)]
    by_cases hc : c = '?'
    · subst hc
      rfl
    · simp [normalizePathAndQuery, hc]

theorem parseAbsoluteTarget_own {L : Libs} (hU : L.UriSplits) (t : AbsoluteText) :
    OwnResult L t (parseAbsoluteTarget L t.text) := by
  intro host port path h
  obtain ⟨uri, scheme, a, hu, hs, hhttp, ha, hok, rfl⟩ := parseAbsoluteTarget_ok h
  obtain ⟨s, hs', hsame⟩ := hU.scheme hu
  obtain rfl : scheme = s := Option.some.inj (hs.symm.trans hs')
  obtain ⟨rfl, rfl⟩ := authorityHostPort_ok hok
  refine ⟨?_, a, (hU.authority hu).symm.trans ha, rfl, rfl, ?_⟩
  · rw [← eqIgnoreAsciiCase_congr hsame]
    exact hhttp
  · rw [hU.path hu, ownPath_eq]

/-- A target that is not taken for absolute goes where `Host` says. -/
theorem splitTarget_by_host {L : Libs} (hH : L.TakesNames) {target : Str} (name : Str) (defaultPort : UInt16)
    (hrel : isAbsoluteHttpTarget target = false) (hne : name ≠ [])
    (hname : ∀ c ∈ name, c.isAlphanum = true) : ∃ r, splitTarget L target (some name) defaultPort = .ok r := by
  obtain ⟨a, ha, hhost⟩ := hH name hne hname
  have hplain : normalizeHost a.host = name := by
    rw [hhost]
    unfold normalizeHost
    split
    · exact absurd (hname '[' (.head _)) (by decide)
    · rfl
  unfold splitTarget authorityHostPort
  simp only [hrel, ha, hplain, if_neg hne, Bool.false_eq_true, if_false]
  exact ⟨_, rfl⟩

/-- An absolute target goes by itself alone exactly if its scheme is `http` or `https`. -/
theorem absolute_by_itself_iff {L : Libs} (hU : L.UriSplits) (hH : L.TakesNames) (t : AbsoluteText)
    (defaultPort : UInt16) :
    (∀ h₁ h₂, splitTarget L t.text h₁ defaultPort = splitTarget L t.text h₂ defaultPort ∧
        OwnResult L t (splitTarget L t.text h₁ defaultPort)) ↔
      eqIgnoreAsciiCase t.scheme "http" = true ∨ eqIgnoreAsciiCase t.scheme "https" = true := by
  rw [← isAbsoluteHttpTarget_iff]
  constructor
  · intro h
    cases habs : isAbsoluteHttpTarget t.text with
    | true => rfl
    | false =>
      obtain ⟨r, hr⟩ := splitTarget_by_host hH "a" defaultPort habs (by decide)
        (forall_mem_of_all (by decide))
      have hnone : splitTarget L t.text none defaultPort = .error "HttpError::MissingHost" := by
        unfold splitTarget
        rw [habs]
        rfl
      have hsame := (h none (some "a")).1
      rw [hnone, hr] at hsame
      cases hsame
  · intro habs h₁ h₂
    have heq : ∀ h, splitTarget L t.text h defaultPort = parseAbsoluteTarget L t.text :=
      fun _ => if_pos habs
    rw [heq, heq]
    exact ⟨rfl, parseAbsoluteTarget_own hU t⟩

/-- `ftp://a/` -/
def ftpTarget : AbsoluteText where
  scheme := "ftp"
  authority := "a"
  rest := "/"
  schemeForm := ⟨⟨'f', rfl, by decide⟩, forall_mem_of_all (by decide)⟩
  authorityForm := forall_mem_of_all (by decide)
  restForm := by
    intro c hc
    cases hc
    decide

theorem absolute_by_itself_iff_ftp :
    (∀ h₁ h₂, splitTarget exactLibs ftpTarget.text h₁ 80 = splitTarget exactLibs ftpTarget.text h₂ 80 ∧
        OwnResult exactLibs ftpTarget (splitTarget exactLibs ftpTarget.text h₁ 80)) ↔
      eqIgnoreAsciiCase ftpTarget.scheme "http" = true ∨
        eqIgnoreAsciiCase ftpTarget.scheme "https" = true :=
  absolute_by_itself_iff exactLibs_uriSplits exactLibs_takesNames ftpTarget 80

/-- `ftp://a/` goes where `Host` says. -/
theorem ftp_routed_by_host :
    splitTarget exactLibs ftpTarget.text (some "b") 80 = .ok ("b".toList, 80, "ftp://a/".toList) ∧
      splitTarget exactLibs ftpTarget.text (some "c") 80 = .ok ("c".toList, 80, "ftp://a/".toList) :=
  ⟨rfl, rfl⟩

end TinySocks.L3
