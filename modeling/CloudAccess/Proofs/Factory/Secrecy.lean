/-
# Calls that differ in a credential

A credential comes to a call of the factory as its argument, as a setting of the provider, or as a
property among the overrides.  Two calls may differ in any of these and in nothing else
(`CallsAlike`).  Then they resolve alike specs, or fail with the same fault (`resolve_alike`), and
what is logged, shown and told of them is the same (`createSpec_alike`, `createBuilder_alike`).
-/
import CloudAccess.Proofs.Assembly.Secrecy

namespace CloudAccess

variable {flavour : Flavour} {provider : Text}

/-! ## 1. Builders and capabilities -/

namespace Registry

open Configuration (settingNames)

/-- The builders of a bundled pair. -/
def pair (flavour : Flavour) : Builders := ⟨.bundled .properties flavour, .bundled .context flavour⟩

variable {c d : Configuration}

theorem resolveSetting_alike (h : Alike flavour provider c.get? d.get?) (r : Registry)
    {setting : Text} (kind : Kind) (hsetting : setting ∈ settingNames)
    (hne : setting ≠ "credential") :
    r.resolveSetting c provider setting kind = r.resolveSetting d provider setting kind := by
  rw [resolveSetting, resolveSetting, Configuration.get, Configuration.get,
    h.others _ (not_isCredentialKey_key provider provider hsetting hne)]

theorem resolveBuilders_alike (h : Alike flavour provider c.get? d.get?) (r : Registry) :
    r.resolveBuilders provider c = r.resolveBuilders provider d := by
  rw [resolveBuilders, resolveBuilders,
    r.resolveSetting_alike h .contextBuilder (by simp [settingNames]) (by decide),
    r.resolveSetting_alike h .propertiesBuilder (by simp [settingNames]) (by decide)]

theorem resolveCapabilities_alike (h : Alike flavour provider c.get? d.get?) (r : Registry) :
    r.resolveCapabilities provider c = r.resolveCapabilities provider d := by
  rw [resolveCapabilities, resolveCapabilities,
    r.resolveSetting_alike h .capability (by simp [settingNames]) (by decide),
    r.resolveSetting_alike h .capability (by simp [settingNames]) (by decide)]

end Registry

/-! ## 2. Calls -/

namespace Factory

/-- Two calls that differ in nothing but interchangeable credentials of a provider. -/
structure CallsAlike (flavour : Flavour) (provider : Text) (f g : Factory) (r q : Request) :
    Prop where
  registry : f.registry = g.registry
  logger : f.logger = g.logger
  configuration : Alike flavour provider f.configuration.get? g.configuration.get?
  provider_left : r.provider = some provider
  provider_right : q.provider = some provider
  identity : r.identity = q.identity
  credential : CredentialAlike flavour r.credential q.credential
  overrides : Alike flavour provider (fun key => r.overrides.bind (·.get? key))
    fun key => q.overrides.bind (·.get? key)
  modules : r.modules = q.modules

/-- Taking an identity and a credential from the overrides leaves the configuration as it is. -/
theorem layered_completed (f : Factory) (r : Request) : f.layered r.completed = f.layered r := by
  rw [layered, layered, Request.completed]
  cases r.overrides with
  | none => rfl
  | some o => rfl

namespace CallsAlike

variable {f g : Factory} {r q : Request}

theorem layered (h : CallsAlike flavour provider f g r q) :
    Alike flavour provider (f.layered r).get? (g.layered q).get? :=
  alike_withLayer h.configuration h.overrides

/-- What the overrides bring along, where none are the same as empty ones. -/
theorem overlay (h : CallsAlike flavour provider f g r q) :
    Alike flavour provider r.overlay.get? q.overlay.get? := by
  have hget : ∀ r : Request, r.overlay.get? = fun key => r.overrides.bind (·.get? key) := by
    intro r
    funext key
    rw [Request.overlay]
    cases r.overrides with
    | none => rfl
    | some o => rfl
  rw [hget, hget]
  exact h.overrides

/-- **The calls stay alike** where an identity and a credential are taken from the overrides. -/
theorem completed (h : CallsAlike flavour provider f g r q) :
    CallsAlike flavour provider f g r.completed q.completed := by
  have hidentity := h.overlay.others Properties.identityKey
    (Properties.not_isCredentialKey_others provider).1
  have hcredential : CredentialAlike flavour (r.overlay.get? Properties.credentialKey).join
      (q.overlay.get? Properties.credentialKey).join := by
    have hentry := h.overlay.credential Properties.credentialKey (Or.inr rfl)
    generalize r.overlay.get? Properties.credentialKey = x at hentry ⊢
    generalize q.overlay.get? Properties.credentialKey = y at hentry ⊢
    cases hentry with
    | none => exact .none
    | some hvalue => exact hvalue
  refine ⟨h.registry, h.logger, h.configuration, h.provider_left, h.provider_right, ?_,
    rel_or h.credential hcredential, h.overlay, h.modules⟩
  show r.identity.or (r.overlay.get? Properties.identityKey).join
    = q.identity.or (q.overlay.get? Properties.identityKey).join
  rw [h.identity, hidentity]

/-- The credential of a provider: its setting, or the one that is given. -/
theorem get_credential (h : CallsAlike flavour provider f g r q) (key : Text) :
    CredentialAlike flavour ((f.layered r).get key r.credential)
      ((g.layered q).get key q.credential) := by
  have hentry := h.layered.entry key
  rw [Configuration.get, Configuration.get]
  generalize (f.layered r).get? key = x at hentry ⊢
  generalize (g.layered q).get? key = y at hentry ⊢
  cases hentry with
  | none => exact h.credential
  | some hvalue => exact hvalue

/-- What is looked up for another setting is the same. -/
theorem get_setting (h : CallsAlike flavour provider f g r q) {setting : Text}
    (hsetting : setting ∈ Configuration.settingNames) (hne : setting ≠ "credential")
    (fallback : Option Text) :
    (f.layered r).get (Configuration.key provider setting) fallback
      = (g.layered q).get (Configuration.key provider setting) fallback := by
  rw [Configuration.get, Configuration.get,
    h.layered.others _ (not_isCredentialKey_key provider provider hsetting hne)]

/-- **Alike calls are resolved to alike specs,** or fail with the same fault. -/
theorem resolve_alike (h : CallsAlike flavour provider f g r q) :
    (∃ fault, f.resolve r = .error fault ∧ g.resolve q = .error fault) ∨
      ∃ s t, f.resolve r = .ok s ∧ g.resolve q = .ok t ∧ SpecAlike flavour s t := by
  rcases eq_or_ne provider [] with rfl | hne
  · refine .inl ⟨.providerMissing, ?_, ?_⟩
    · rw [resolve, h.provider_left]
      rfl
    · rw [resolve, h.provider_right]
      rfl
  · rw [resolve_eq h.provider_left hne, resolve_eq h.provider_right hne, ← h.registry,
      Registry.resolveBuilders_alike h.layered, Registry.resolveCapabilities_alike h.layered]
    cases f.registry.resolveBuilders provider (g.layered q) with
    | error fault => exact .inl ⟨fault, rfl, rfl⟩
    | ok builders =>
      cases f.registry.resolveCapabilities provider (g.layered q) with
      | error fault => exact .inl ⟨fault, rfl, rfl⟩
      | ok capabilities =>
        refine .inr ⟨_, _, rfl, rfl, ⟨rfl, ?_, ?_, ?_, h.get_credential _, rfl, rfl, rfl, rfl⟩⟩
        · exact h.get_setting (by simp [Configuration.settingNames]) (by decide) none
        · exact h.get_setting (by simp [Configuration.settingNames]) (by decide) none
        · show (f.layered r).get _ r.identity = (g.layered q).get _ q.identity
          rw [h.identity]
          exact h.get_setting (by simp [Configuration.settingNames]) (by decide) q.identity

/-! ## 3. What is logged, shown and told -/

/-- **A spec that is created shows nothing of a credential:** the records, the line and the sheet
that show the spec, and the fault where there is no spec, are the same for alike calls. -/
theorem createSpec_alike (h : CallsAlike flavour provider f g r q) :
    (f.createSpec r).log = (g.createSpec q).log ∧
      told (f.createSpec r).outcome = told (g.createSpec q).outcome ∧
      ∀ s t, (f.createSpec r).outcome = .ok s → (g.createSpec q).outcome = .ok t →
        s.summary = t.summary ∧ s.sheet = t.sheet := by
  rcases h.resolve_alike with ⟨fault, hr, hq⟩ | ⟨s, t, hr, hq, halike⟩
  · rw [createSpec, createSpec, hr, hq]
    exact ⟨rfl, rfl, fun _ _ hs => by cases hs⟩
  · rw [createSpec, createSpec, hr, hq]
    refine ⟨?_, rfl, fun a b ha hb => ?_⟩
    · simp only [resolvedRecord, halike.summary_eq, h.logger]
    · cases ha
      cases hb
      exact ⟨halike.summary_eq, halike.sheet_eq⟩

/-- **A builder that is created tells nothing of a credential,** if the context builder is of the
flavour for which the credentials are interchangeable. -/
theorem createBuilder_alike (h : CallsAlike flavour provider f g r q)
    (hflavour : ∀ builders, f.registry.resolveBuilders provider (f.layered r.completed)
      = .ok builders → builders.context.flavour? .context = some flavour) :
    (f.createBuilder r).log = (g.createBuilder q).log ∧
      told (f.createBuilder r).outcome = told (g.createBuilder q).outcome := by
  rcases h.completed.resolve_alike with ⟨fault, hr, hq⟩ | ⟨s, t, hr, hq, halike⟩
  · rw [createBuilder, createBuilder, createSpec, createSpec, hr, hq]
    exact ⟨rfl, rfl⟩
  · have hused : (Assembly.contextBuilder s).flavour? .context = some flavour := by
      have hresolved := resolve_eq_ok_iff.mp hr
      obtain rfl : s.provider = provider :=
        Option.some.inj (hresolved.provider.symm.trans h.completed.provider_left)
      obtain ⟨builders, hbuilders, -, hcontext⟩ := hresolved.builders
      rw [Assembly.contextBuilder, hcontext,
        Component.orElse_some (Registry.isTruthy_of_resolveBuilders hbuilders).2]
      exact hflavour builders hbuilders
    obtain ⟨hrecord, htold⟩ := Assembly.assemble_alike halike h.overlay hused f.logger r.modules
    have hcreated : ∀ (f : Factory) (r : Request) (s : Spec), f.resolve r.completed = .ok s →
        f.createBuilder r = ⟨[f.resolvedRecord s] ++
            [(Assembly.assemble f.logger s r.modules (some r.overlay)).record],
          [] ++ (Assembly.assemble f.logger s r.modules (some r.overlay)).calls,
          (Assembly.assemble f.logger s r.modules (some r.overlay)).outcome⟩ := by
      intro f r s hs
      rw [createBuilder, createSpec, hs]
      rfl
    rw [hcreated f r s hr, hcreated g q t hq, ← h.logger, ← h.modules]
    refine ⟨?_, htold⟩
    rw [hrecord, resolvedRecord, resolvedRecord, halike.summary_eq, h.logger]

end CallsAlike

end Factory

end CloudAccess
