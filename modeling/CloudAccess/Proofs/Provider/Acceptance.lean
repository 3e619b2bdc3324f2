/-
# What the Atmos builder accepts

What can be wrong with the properties of an Atmos context falls into two kinds.  The identity or the
credential is missing, empty or not the base64 form of a key (`Unauthorized`), or the endpoint is
missing or empty or the lifetime is no integer (`Misconfigured`).  A builder is refused if one of
them is the case, and if both are, then for the first one (`verdict_accept`).

On the way to the caller a refusal is wrapped in the report that the builder could not be made.
Rejected credentials come out of it again, and a misconfiguration stays behind it as its cause
(`ending_createBuilder`).  But a call that is made while a failure is being handled is refused in
the context of that failure, and if rejected credentials are behind it, they come out too, although
nothing is wrong with those of the call.

What is accepted is enough for a client, since a credential that is not empty never denotes an empty
key, and the addresses that the client hands out say when they expire
(`Signer.Issued.carriedExpiry?_eq`).
-/
import CloudAccess.Proofs.Base64
import CloudAccess.Proofs.Provider.Share
import CloudAccess.Proofs.Signing.Refused
import CloudAccess.Proofs.Url.Target

namespace CloudAccess

/-! ## 1. The expiry in an address -/

namespace Signer

/-- What the query of an address, given as a text, has for its expiry. -/
def carriedExpiry? (address : Text) : Option Text :=
  Url.Form.first? "expires" (Url.Form.decode ((Url.Parts.ofText address).query?.getD []))

/-- **An issued address carries its expiry,** whatever the endpoint is. -/
theorem Issued.carriedExpiry?_eq {s : Signer} {now : Number} {path : Text} {u : SignedUrl}
    (hs : Url.Written s.endpoint) (h : s.Issued now path u) :
    carriedExpiry? u.url = some (Integer.write u.expires) := by
  obtain ⟨url, haddress, htext⟩ := h.address
  obtain ⟨target, query, -, hquery, htarget⟩ := address_eq_ok haddress
  obtain ⟨hwritten, hrawQuery⟩ := Url.query_withTarget hs (keepsInQuery_of_encode hquery) htarget
  rw [carriedExpiry?, htext, Url.query?_toText hwritten, hrawQuery, Option.getD_some,
    Url.Form.decode_encode hquery]
  rfl

/-- With a clock that adds a lifetime to the present time, so does what is issued. -/
theorem Issued.expires_of_lasting {s : Signer} {now : Number} {path : Text} {u : SignedUrl}
    {lifetime : Int} (hclock : s.clock = Clock.lasting lifetime) (h : s.Issued now path u) :
    u.expires = Clock.system now + lifetime := by
  have hexpiry := h.expiry
  have hreading : Clock.lasting lifetime now
      = .ok (.number (.whole (Clock.system now + lifetime + 0))) := by
    rw [Clock.lasting, Clock.expiring, Clock.expiry_whole]
    rfl
  rw [Signer.expiry, hclock, hreading] at hexpiry
  simp only [Reading.toInt, Number.whole?, Int.add_zero] at hexpiry
  split at hexpiry
  · exact (Except.ok.inj hexpiry).symm
  · cases hexpiry

end Signer

namespace Atmos

open Properties

variable {p : Properties}

/-! ## 2. What can be wrong with properties -/

/-- The properties hold no credentials that can be used. -/
inductive Unauthorized (p : Properties) : Prop where
  | identity (missing : p.filled? identityKey = none)
  | credential (missing : p.filled? credentialKey = none)
  | secret {credential : Text} {defect : Base64.Defect}
      (filled : p.filled? credentialKey = some credential)
      (refused : Base64.decode credential = .error defect)

/-- The properties hold no endpoint, or a lifetime that is no integer. -/
inductive Misconfigured (p : Properties) : Prop where
  | endpoint (missing : p.filled? endpointKey = none)
  | lifetime {t : Text} {misread : Integer.Misread}
      (given : p.get? shareLifetimeKey = some (some t))
      (refused : Integer.read t = .error misread)

theorem lifetime?_of_text {t : Text} (h : p.get? shareLifetimeKey = some (some t)) :
    lifetime? p = (Integer.read t).mapError .misreadInteger := by
  rw [lifetime?, h]

theorem read_of_lifetime? {t : Text} {lifetime : Int}
    (ht : p.get? shareLifetimeKey = some (some t)) (h : lifetime? p = .ok lifetime) :
    Integer.read t = .ok lifetime := by
  rw [lifetime?_of_text ht] at h
  cases hread : Integer.read t with
  | error misread =>
    rw [hread] at h
    cases h
  | ok n =>
    rw [hread] at h
    exact congrArg Except.ok (Except.ok.inj h)

theorem not_unauthorized {identity credential : Text} {key : Bytes}
    (hidentity : p.filled? identityKey = some identity)
    (hcredential : p.filled? credentialKey = some credential)
    (hkey : Base64.decode credential = .ok key) : ¬ Unauthorized p := by
  intro h
  cases h with
  | identity missing => cases hidentity.symm.trans missing
  | credential missing => cases hcredential.symm.trans missing
  | secret filled refused =>
    cases hcredential.symm.trans filled
    cases hkey.symm.trans refused

theorem not_misconfigured {endpoint : Text} {lifetime : Int}
    (hendpoint : p.filled? endpointKey = some endpoint) (hlifetime : lifetime? p = .ok lifetime) :
    ¬ Misconfigured p := by
  intro h
  cases h with
  | endpoint missing => cases hendpoint.symm.trans missing
  | lifetime given refused =>
    rw [lifetime?_of_text given, refused] at hlifetime
    cases hlifetime

/-! ## 3. The verdict on properties -/

/-- What becomes of properties while a failure is being handled, if one is: they are refused for
their credentials, refused for the rest of the configuration, or accepted.  Behind a refusal for the
rest there are rejected credentials only if there are some behind the failure that is being
handled. -/
inductive Verdict (p : Properties) (handled? : Option Failure) :
    Except Failure Accepted → Prop where
  | unauthorized {failure : Failure} (wrong : Unauthorized p)
      (category_eq : failure.fault.category = .authorization) :
      Verdict p handled? (.error failure)
  | misconfigured {failure : Failure} (authorized : ¬ Unauthorized p) (wrong : Misconfigured p)
      (category_eq : failure.fault.category = .configuration) (closed : failure.Closed)
      (lingers_iff : failure.findAuthorization?.isSome ↔ Failure.Lingers handled?) :
      Verdict p handled? (.error failure)
  | accepted {accepted : Accepted} (authorized : ¬ Unauthorized p)
      (configured : ¬ Misconfigured p) : Verdict p handled? (.ok accepted)

/-- A lifetime that is a text is an integer, or it is misread. -/
theorem lifetime?_text (htext : p.get? shareLifetimeKey ≠ some none) :
    (∃ lifetime, lifetime? p = .ok lifetime) ∨
      ∃ t misread, p.get? shareLifetimeKey = some (some t) ∧ Integer.read t = .error misread ∧
        lifetime? p = .error (.misreadInteger misread) := by
  cases hget : p.get? shareLifetimeKey with
  | none => exact Or.inl ⟨Clock.defaultLifetime, by rw [lifetime?, hget]⟩
  | some value =>
    cases value with
    | none => exact absurd hget htext
    | some t =>
      rw [lifetime?_of_text hget]
      cases hread : Integer.read t with
      | ok n => exact Or.inl ⟨n, rfl⟩
      | error misread => exact Or.inr ⟨t, misread, rfl, hread, rfl⟩

/-- **Credentials are looked at first,** and what is wrong with them is never blamed on the
configuration. -/
theorem verdict_accept {handled? : Option Failure}
    (hhandled : ∀ handled ∈ handled?, handled.Closed)
    (htext : p.get? shareLifetimeKey ≠ some none) :
    Verdict p handled? (accept p handled?) := by
  have hmissing : (Failure.arising handled? .atmosCredentialsMissing).fault.category
      = .authorization := by
    rw [Failure.fault_arising]
    rfl
  rw [accept]
  cases hidentity : p.filled? identityKey with
  | none => exact .unauthorized (.identity hidentity) hmissing
  | some identity =>
    cases hcredential : p.filled? credentialKey with
    | none => exact .unauthorized (.credential hcredential) hmissing
    | some credential =>
      simp only [EncodedKey.decode]
      cases hkey : Base64.decode credential with
      | error defect =>
        refine .unauthorized (.secret hcredential hkey) ?_
        rw [Failure.fault_wrap]
        rfl
      | ok key =>
        have authorized := not_unauthorized hidentity hcredential hkey
        cases hendpoint : p.filled? endpointKey with
        | none =>
          refine .misconfigured authorized (.endpoint hendpoint) ?_
            (Failure.closed_arising hhandled _)
            (Failure.isSome_findAuthorization?_arising hhandled rfl)
          rw [Failure.fault_arising]
          rfl
        | some endpoint =>
          rcases lifetime?_text htext with ⟨lifetime, hlifetime⟩ |
              ⟨t, misread, hget, hread, hlifetime⟩
          · simp only [hlifetime]
            exact .accepted authorized (not_misconfigured hendpoint hlifetime)
          · simp only [hlifetime]
            have hclosed := Failure.closed_arising hhandled (.misreadInteger misread)
            refine .misconfigured authorized (.lifetime hget hread) ?_ (hclosed.wrap _) ?_
            · rw [Failure.fault_wrap]
              rfl
            · rw [Failure.findAuthorization?_wrap hclosed rfl]
              exact Failure.isSome_findAuthorization?_arising hhandled rfl

/-! ## 4. How a call for a builder ends -/

variable {s : Spec}

/-- The properties builder of the pair collects the properties. -/
theorem HasPair.outcome_collect (h : HasPair s) (overrides : Option Settings)
    (handled? : Option Failure) :
    (Assembly.collect (.bundled .properties .atmos) s overrides handled?).outcome
      = .ok (Assembly.collected s overrides) := by
  have hcollect := Assembly.collect_eq s overrides handled?
  rw [h.propertiesBuilder_eq, Traced.runSteps_of_none (h.collectSteps_succeed handled?)]
    at hcollect
  rw [hcollect]
  rfl

/-- **A call for a builder ends as its properties are looked at,** but for the report that wraps a
refusal and what is taken out of it again. -/
theorem HasPair.outcome_createBuilder (h : HasPair s) {f : Factory} {r : Factory.Request}
    {modules : List Module} (hs : f.resolve r.completed = .ok s)
    (hmodules : r.modules = .iterable (.ok modules)) (handled? : Option Failure) :
    (f.createBuilder r handled?).outcome
      = match accept (Assembly.collected s (some r.overlay)) handled? with
        | .ok _ => .ok (Assembly.assembled s (.iterable (.ok modules)) (some r.overlay))
        | .error failure =>
          .error
            (Assembly.notConstructed .context (.bundled .context .atmos) failure).surfaced := by
  have hcreated : (f.createBuilder r handled?).outcome
      = (Assembly.assemble f.logger s (.iterable (.ok modules)) (some r.overlay)
          handled?).outcome := by
    rw [Factory.createBuilder, Factory.createSpec]
    simp only [hs]
    rw [← hmodules]
    rfl
  rw [hcreated, Assembly.outcome_assemble, h.findSome?_plan]
  cases accept (Assembly.collected s (some r.overlay)) handled? with
  | ok accepted => rfl
  | error failure => rfl

/-- The ways in which a call for a builder ends. -/
inductive Ending (p : Properties) (handled? : Option Failure) (b : ContextBuilder) :
    Except Failure ContextBuilder → Prop where
  | unauthorized {failure : Failure} (wrong : Unauthorized p)
      (category_eq : failure.fault.category = .authorization) :
      Ending p handled? b (.error failure)
  /-- What is reported is behind the failure that is being handled. -/
  | stale {failure : Failure} (authorized : ¬ Unauthorized p) (wrong : Misconfigured p)
      (lingers : Failure.Lingers handled?)
      (rejected : failure.fault.category.isAuthorization = true) :
      Ending p handled? b (.error failure)
  | misconfigured {failure cause : Failure} (authorized : ¬ Unauthorized p)
      (wrong : Misconfigured p) (fresh : ¬ Failure.Lingers handled?)
      (category_eq : failure.fault.category = .instantiation)
      (cause_eq : failure.cause? = some cause)
      (cause_category_eq : cause.fault.category = .configuration) :
      Ending p handled? b (.error failure)
  | built (authorized : ¬ Unauthorized p) (configured : ¬ Misconfigured p) :
      Ending p handled? b (.ok b)

namespace Ending

variable {handled? : Option Failure} {b : ContextBuilder} {outcome : Except Failure ContextBuilder}

/-- A call ends with rejected credentials if there is something wrong with them, or if there are
some behind the failure that is being handled and there is a misconfiguration. -/
theorem unauthorized_iff (h : Ending p handled? b outcome) :
    (∃ failure, outcome = .error failure ∧ failure.fault.category.isAuthorization = true) ↔
      Unauthorized p ∨ Misconfigured p ∧ Failure.Lingers handled? := by
  constructor
  · rintro ⟨failure, rfl, hrejected⟩
    cases h with
    | unauthorized wrong => exact Or.inl wrong
    | stale _ wrong lingers => exact Or.inr ⟨wrong, lingers⟩
    | misconfigured _ _ _ category_eq =>
      rw [category_eq] at hrejected
      cases hrejected
  · intro hwrong
    cases h with
    | unauthorized _ category_eq =>
      refine ⟨_, rfl, ?_⟩
      rw [category_eq]
      rfl
    | stale _ _ _ rejected => exact ⟨_, rfl, rejected⟩
    | misconfigured authorized _ fresh =>
      rcases hwrong with rejected | ⟨-, lingers⟩
      · exact absurd rejected authorized
      · exact absurd lingers fresh
    | built authorized configured =>
      rcases hwrong with rejected | ⟨wrong, -⟩
      · exact absurd rejected authorized
      · exact absurd wrong configured

/-- It ends with a misconfiguration if there is one, nothing is wrong with the credentials, and no
others are behind what is being handled. -/
theorem misconfigured_iff (h : Ending p handled? b outcome) :
    (∃ failure cause, outcome = .error failure ∧ failure.fault.category = .instantiation ∧
        failure.cause? = some cause ∧ cause.fault.category = .configuration) ↔
      ¬ Unauthorized p ∧ Misconfigured p ∧ ¬ Failure.Lingers handled? := by
  constructor
  · rintro ⟨failure, cause, rfl, hcategory, -⟩
    cases h with
    | unauthorized _ category_eq => cases hcategory.symm.trans category_eq
    | stale _ _ _ rejected =>
      rw [hcategory] at rejected
      cases rejected
    | misconfigured authorized wrong fresh => exact ⟨authorized, wrong, fresh⟩
  · rintro ⟨authorized, wrong, fresh⟩
    cases h with
    | unauthorized rejected => exact absurd rejected authorized
    | stale _ _ lingers => exact absurd lingers fresh
    | misconfigured _ _ _ category_eq cause_eq cause_category_eq =>
      exact ⟨_, _, rfl, category_eq, cause_eq, cause_category_eq⟩
    | built _ configured => exact absurd wrong configured

theorem eq_built (h : Ending p handled? b outcome) (authorized : ¬ Unauthorized p)
    (configured : ¬ Misconfigured p) : outcome = .ok b := by
  cases h with
  | unauthorized wrong => exact absurd wrong authorized
  | stale _ wrong => exact absurd wrong configured
  | misconfigured _ wrong => exact absurd wrong configured
  | built => rfl

end Ending

/-- **A call for a builder ends in one of these ways.** -/
theorem HasPair.ending_createBuilder (h : HasPair s) {f : Factory} {r : Factory.Request}
    {modules : List Module} (hs : f.resolve r.completed = .ok s)
    (hmodules : r.modules = .iterable (.ok modules)) {handled? : Option Failure}
    (hhandled : ∀ handled ∈ handled?, handled.Closed)
    (htext : (Assembly.collected s (some r.overlay)).get? shareLifetimeKey ≠ some none) :
    Ending (Assembly.collected s (some r.overlay)) handled?
      (Assembly.assembled s (.iterable (.ok modules)) (some r.overlay))
      (f.createBuilder r handled?).outcome := by
  have hverdict := verdict_accept hhandled htext
  rw [h.outcome_createBuilder hs hmodules]
  generalize accept (Assembly.collected s (some r.overlay)) handled? = verdict at hverdict
  cases hverdict with
  | @unauthorized failure wrong category_eq =>
    -- the rejected credentials are the cause of the report, and taken out of it
    have hrejected : failure.fault.category.isAuthorization = true := by
      rw [category_eq]
      rfl
    obtain ⟨rejected, hsome, hsame⟩ := Assembly.authorization?_notConstructed .context
      (.bundled .context .atmos) hrejected
    refine .unauthorized wrong ?_
    rw [Failure.surfaced, hsome, Option.getD_some, hsame, category_eq]
  | @misconfigured failure authorized wrong category_eq closed lingers_iff =>
    have hfind := Assembly.findAuthorization?_notConstructed .context
      (.bundled .context .atmos) closed
    by_cases hlingers : Failure.Lingers handled?
    · refine .stale authorized wrong hlingers (Failure.fault_surfaced_of_isSome ?_)
      rw [hfind]
      exact lingers_iff.mpr hlingers
    · have hnone : failure.findAuthorization? = none :=
        Option.not_isSome_iff_eq_none.mp (mt lingers_iff.mp hlingers)
      obtain ⟨cause, hcause, hextends⟩ := Failure.cause?_wrap
        (.notConstructed Part.context.title (Component.bundled .context .atmos).makerName
          failure.fault.message) failure
      simp only [Assembly.surfaced_notConstructed _ _ closed hnone]
      refine .misconfigured authorized wrong hlingers ?_ hcause ?_
      · rw [Assembly.notConstructed, Failure.fault_wrap]
        rfl
      · rw [hextends.fault_eq, category_eq]
  | accepted authorized configured => exact .built authorized configured

/-! ## 5. What a builder is good for -/

/-- **Accepted properties make a signer** if their endpoint is an address. -/
theorem exists_signer {accepted : Accepted} (haccepted : accept p = .ok accepted)
    {endpoint : Text} {url : Url} (hendpoint : p.filled? endpointKey = some endpoint)
    (hurl : Url.parse endpoint = .ok url) :
    ∃ signer, signer? p accepted = .ok signer ∧ signer.endpoint = url ∧
      signer.clock = Clock.lasting accepted.lifetime := by
  obtain ⟨identity, credential, -, -, hcredential, -, hkey, -⟩ := accept_eq_ok_iff.mp haccepted
  have hdecode : Base64.decode credential = .ok accepted.key := by
    rw [EncodedKey.decode] at hkey
    split at hkey
    · next hok => rw [hok, Except.ok.inj hkey]
    · cases hkey
  obtain ⟨-, hcredential_ne⟩ := filled?_eq_some_iff.mp hcredential
  obtain ⟨hget, -⟩ := filled?_eq_some_iff.mp hendpoint
  obtain ⟨b, rest, hbytes⟩ :=
    List.exists_cons_of_ne_nil (Base64.decode_ne_nil hcredential_ne hdecode)
  have hgetD : (p.getD endpointKey none).getD [] = endpoint := by
    rw [getD, hget]
    rfl
  rw [signer?, hgetD, hbytes, Signer.create?_cons, hurl]
  exact ⟨_, rfl, rfl, rfl⟩

/-- A builder of the pair, given no modules, builds a context for every endpoint that is an address,
and what the context shares expires a lifetime from now. -/
theorem HasPair.exists_context (h : HasPair s) {overrides : Option Settings}
    {handled? : Option Failure} {accepted : Accepted}
    (haccepted : accept (Assembly.collected s overrides) = .ok accepted) {endpoint : Text}
    {url : Url} (hendpoint : (Assembly.collected s overrides).filled? endpointKey = some endpoint)
    (hurl : Url.parse endpoint = .ok url) :
    ∃ context signer,
      ((Assembly.assembled s (.iterable (.ok [])) overrides).build handled?).outcome
        = .ok context ∧
      context.client = some (.atmos signer) ∧
      ∀ now path address, context.shareUrl now path = some address →
        Signer.carriedExpiry? address
          = some (Integer.write (Clock.system now + accepted.lifetime)) := by
  obtain ⟨signer, hsigner, hsite, hclock⟩ := exists_signer haccepted hendpoint hurl
  obtain ⟨context, hcontext, hclient⟩ := (h.build_assembled haccepted).mpr hsigner
  refine ⟨context, signer, hcontext, hclient, fun now path address haddress => ?_⟩
  obtain ⟨other, u, hother, hissued, rfl⟩ := Context.shareUrl_eq_some_iff.mp haddress
  rw [hclient] at hother
  cases hother
  have hwritten : Url.Written signer.endpoint := hsite ▸ Url.written_of_parse hurl
  rw [hissued.carriedExpiry?_eq hwritten, hissued.expires_of_lasting hclock]

/-- A provider of the Atmos pair with an endpoint and an identity. -/
def photosFactory : Factory where
  configuration := ⟨[Dictionary.ofList [("photos.contextbuilder", some "atmos"),
    ("photos.propertiesbuilder", some "atmos"), ("photos.endpoint", some "https://h"),
    ("photos.identity", some "u")]]⟩
  registry := Registry.bundled

/-- A call with a credential and a lifetime. -/
def photosRequest (credential lifetime : Text) : Factory.Request where
  provider := some "photos"
  credential := some credential
  overrides := some (Dictionary.ofList [(shareLifetimeKey, some lifetime)])

/-- The spec that it resolves to. -/
def photosSpec (credential : Text) : Spec where
  provider := "photos"
  provider_ne := by decide
  endpoint := some "https://h"
  identity := some "u"
  credential := some credential
  propertiesBuilder := some (.bundled .properties .atmos)
  contextBuilder := some (.bundled .context .atmos)

theorem photosRequest_get? (credential lifetime key : Text) :
    (photosRequest credential lifetime).overlay.get? key
      = if shareLifetimeKey = key then some (some lifetime) else none :=
  Dictionary.get?_insert Dictionary.empty shareLifetimeKey key (some lifetime)

theorem photosRequest_texts (credential lifetime key : Text) :
    (photosRequest credential lifetime).overlay.get? key ≠ some none := by
  rw [photosRequest_get?]
  split
  · nofun
  · nofun

theorem hasPair_photosSpec (credential : Text) : HasPair (photosSpec credential) := ⟨rfl, rfl⟩

/-- The properties that are collected for it. -/
theorem photos_get? (credential lifetime : Text) {p : Properties}
    (hp : (Assembly.collect (.bundled .properties .atmos) (photosSpec credential)
      (some (photosRequest credential lifetime).overlay)).outcome = .ok p) :
    p.get? identityKey = some (some ("u" : Text)) ∧
      p.get? credentialKey = some (some credential) ∧
      p.get? endpointKey = some (some ("https://h" : Text)) ∧
      p.get? shareLifetimeKey = some (some lifetime) := by
  have h := hasPair_photosSpec credential
  obtain rfl := Except.ok.inj ((h.outcome_collect _ none).symm.trans hp)
  have hflavour : (Assembly.propertiesBuilder (photosSpec credential)).flavour? .properties
      = some .atmos := rfl
  have heffective :=
    Factory.effective_collected (photosRequest credential lifetime).overlay hflavour
  obtain ⟨hidentity, hcredential⟩ := heffective.credentials _ rfl
  refine ⟨hidentity, hcredential, heffective.endpoint _ rfl, ?_⟩
  rw [h.get?_shareLifetimeKey, photosRequest_get?, if_pos rfl]
  rfl

theorem photos_authorized {lifetime : Text} {p : Properties}
    (hp : (Assembly.collect (.bundled .properties .atmos) (photosSpec "a2V5")
      (some (photosRequest "a2V5" lifetime).overlay)).outcome = .ok p) : ¬ Unauthorized p := by
  have hkey : Base64.decode "a2V5" = .ok [0x6B, 0x65, 0x79] := by decide +kernel
  obtain ⟨hidentity, hcredential, -⟩ := photos_get? _ _ hp
  exact not_unauthorized (filled?_eq_some_iff.mpr ⟨hidentity, by decide⟩)
    (filled?_eq_some_iff.mpr ⟨hcredential, by decide⟩) hkey

/-- Credentials that another call was refused for. -/
def refusedBefore : Failure := .ofFault .s3CredentialsMissing

theorem closed_refusedBefore : ∀ handled ∈ some refusedBefore, handled.Closed := by
  intro handled hhandled
  obtain rfl := Option.some.inj hhandled
  exact Failure.closed_ofFault _

theorem lingers_refusedBefore : Failure.Lingers (some refusedBefore) :=
  ⟨refusedBefore, rfl, by decide +kernel⟩

end Atmos

end CloudAccess
