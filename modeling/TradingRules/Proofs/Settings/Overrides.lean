import TradingRules.Proofs.Dialogue
import TradingRules.Proofs.Settings.RoundTrip

namespace TradingRules

inductive Variable
  | path
  | url
  | token
  | owner
  deriving DecidableEq

def Variable.name : Variable → String
  | .path => "STRATEGY_DB_PATH"
  | .url => "STRATEGY_API_URL"
  | .token => "STRATEGY_API_TOKEN"
  | .owner => "STRATEGY_OWNER"

/-- What an environment, by the names of its variables, overrides. -/
def Overrides.of (env : String → Option String) : Overrides :=
  ⟨env Variable.path.name, env Variable.url.name, env Variable.token.name,
    env Variable.owner.name⟩

theorem Program.perform_overrides {σ : Type} {answer : (q : Host.Question) → σ → Host.Answer q × σ}
    {extra : List (String × String)} {env : String → Option String}
    (henv : ∀ name st, (answer (.variable name) st).1.or (extra.lookup name) = env name) (st : σ) :
    (Dialogue.perform answer (overrides extra) st).1 = .of env := by
  have hlookup (name : String) (st : σ) :
      (Dialogue.perform answer (EnvFile.lookup extra name) st).1 = env name := henv name st
  simp only [overrides, Dialogue.perform_bind, Dialogue.perform_pure, hlookup]
  rfl

namespace Settings

def kind : Settings → Kind
  | .remote _ => .remote
  | .localTable _ => .localTable

def remotePart : Settings → RemoteSettings
  | .remote r => r
  | .localTable _ => .default

def localPart : Settings → LocalSettings
  | .localTable l => l
  | .remote _ => .default

def selected (o : Overrides) (s : Settings) : Kind :=
  if o.path.isSome then .localTable else if o.url.isSome then .remote else s.kind

/-- Whether a variable counts, given the others. -/
def Applies (o : Overrides) (s : Settings) : Variable → Prop
  | .path => True
  | .url => o.path = none
  | .token => selected o s = .remote
  | .owner => selected o s = .localTable

variable {o : Overrides} {s : Settings}

theorem override_of_remote (h : selected o s = .remote) :
    s.override o = .remote ⟨o.url.getD s.remotePart.baseUrl, o.token.or s.remotePart.token,
      s.remotePart.timeoutSeconds, s.remotePart.maxRetries⟩ := by
  obtain ⟨path, url, token, owner⟩ := o
  cases path <;> cases url <;> cases s <;> cases h <;> rfl

theorem override_of_local (h : selected o s = .localTable) :
    s.override o = .localTable ⟨o.path.getD s.localPart.path, o.owner.getD s.localPart.owner,
      s.localPart.backup⟩ := by
  obtain ⟨path, url, token, owner⟩ := o
  cases path <;> cases url <;> cases s <;> cases h <;> rfl

theorem kind_override (o : Overrides) (s : Settings) : (s.override o).kind = selected o s := by
  cases h : selected o s with
  | remote => rw [override_of_remote h, kind]
  | localTable => rw [override_of_local h, kind]

theorem path_eq_none_of_selected (h : selected o s = .remote) : o.path = none := by
  unfold selected at h
  split at h
  · cases h
  · next hpath => exact Option.not_isSome_iff_eq_none.mp hpath

theorem selected_override (o : Overrides) (s : Settings) :
    selected o (s.override o) = selected o s := by
  have hkind := kind_override o s
  unfold selected at hkind ⊢
  rw [hkind]
  split
  · rfl
  · split <;> rfl

theorem override_override (o : Overrides) (s : Settings) :
    (s.override o).override o = s.override o := by
  have hselected := selected_override o s
  cases h : selected o s with
  | remote =>
    rw [h] at hselected
    rw [override_of_remote hselected, override_of_remote h, remotePart]
    cases o.url <;> cases o.token <;> rfl
  | localTable =>
    rw [h] at hselected
    rw [override_of_local hselected, override_of_local h, localPart]
    cases o.path <;> cases o.owner <;> rfl

theorem override_congr {env env' : String → Option String}
    (h : ∀ v, Applies (.of env) s v → env' v.name = env v.name) :
    s.override (.of env') = s.override (.of env) := by
  have hpath : (Overrides.of env').path = (Overrides.of env).path := h .path trivial
  have hselected : selected (.of env') s = selected (.of env) s := by
    unfold selected
    rw [hpath]
    cases hnone : (Overrides.of env).path with
    | some path => rfl
    | none =>
      have hurl : (Overrides.of env').url = (Overrides.of env).url := h .url hnone
      rw [hurl]
  cases hkind : selected (.of env) s with
  | remote =>
    have hurl : (Overrides.of env').url = (Overrides.of env).url :=
      h .url (path_eq_none_of_selected hkind)
    have htoken : (Overrides.of env').token = (Overrides.of env).token := h .token hkind
    rw [override_of_remote (hselected.trans hkind), override_of_remote hkind, hurl, htoken]
  | localTable =>
    have howner : (Overrides.of env').owner = (Overrides.of env).owner := h .owner hkind
    rw [override_of_local (hselected.trans hkind), override_of_local hkind, hpath, howner]

/-- The environment selects the kind of store and overrides what applies to it; the rest stays or
takes its usual value. Variables that do not apply do not count, a second time nothing changes, and
the result is read back from its text. -/
theorem environment_overrides_settings (s : Settings) (env : String → Option String) :
    let result := s.override (.of env)
    (result.kind = if (env "STRATEGY_DB_PATH").isSome then .localTable
      else if (env "STRATEGY_API_URL").isSome then .remote else s.kind) ∧
    (∀ r, result = .remote r →
      r.baseUrl = (env "STRATEGY_API_URL").getD s.remotePart.baseUrl ∧
      r.token = (env "STRATEGY_API_TOKEN").or s.remotePart.token ∧
      r.timeoutSeconds = s.remotePart.timeoutSeconds ∧ r.maxRetries = s.remotePart.maxRetries) ∧
    (∀ l, result = .localTable l →
      l.path = (env "STRATEGY_DB_PATH").getD s.localPart.path ∧
      l.owner = (env "STRATEGY_OWNER").getD s.localPart.owner ∧ l.backup = s.localPart.backup) ∧
    (∀ env' : String → Option String, (∀ v, Applies (.of env) s v → env' v.name = env v.name) →
      s.override (.of env') = result) ∧
    result.override (.of env) = result ∧
    decoder.ofText result.toJson.compact = .ok result ∧
    ∀ {σ : Type} (answer : (q : Host.Question) → σ → Host.Answer q × σ)
      (extra : List (String × String)),
      (∀ name st, (answer (.variable name) st).1.or (extra.lookup name) = env name) →
      ∀ st, (Dialogue.perform answer (Program.overrides extra) st).1 = .of env := by
  intro result
  have hkind : result.kind = selected (.of env) s := kind_override (.of env) s
  refine ⟨hkind, fun r hr ↦ ?_, fun l hl ↦ ?_, fun env' h ↦ override_congr h,
    override_override (.of env) s, ofText_toJson result,
    fun answer extra henv ↦ Program.perform_overrides henv⟩
  · have hremote : selected (.of env) s = .remote := hkind.symm.trans (congrArg kind hr)
    obtain rfl := Settings.remote.inj (hr.symm.trans (override_of_remote hremote))
    exact ⟨rfl, rfl, rfl, rfl⟩
  · have hlocal : selected (.of env) s = .localTable := hkind.symm.trans (congrArg kind hl)
    obtain rfl := Settings.localTable.inj (hl.symm.trans (override_of_local hlocal))
    exact ⟨rfl, rfl, rfl⟩

end Settings

end TradingRules
