/-
# The registry

Components by name, in three kinds that do not share their names.  A name is taken by the first
component registered under it, and registering that one again is harmless; a name registered
without a component is not taken.

A provider's configuration names its components: `p.contextbuilder`, `p.propertiesbuilder`,
`p.sync` and `p.async`.  Resolving looks each one up, in that order, and stops at the first name
that is blank or unknown.
-/
import CloudAccess.Spec
import CloudAccess.Text.Blank

namespace CloudAccess

/-- The kinds of components. -/
inductive Registry.Kind where
  | propertiesBuilder
  | contextBuilder
  | capability
deriving DecidableEq

namespace Registry

/-- The name of a kind. -/
def Kind.name : Kind → Text
  | .propertiesBuilder => "propertiesbuilder"
  | .contextBuilder => "contextbuilder"
  | .capability => "capability"

/-- The kind of a name. -/
def Kind.ofName? (t : Text) : Option Kind :=
  [Kind.propertiesBuilder, .contextBuilder, .capability].find? fun kind => kind.name = t

end Registry

/-- Components by kind and name; a name may be there without a component. -/
structure Registry where
  entries : Registry.Kind → Dictionary (Option Component)

namespace Registry

/-- A registry without names. -/
def empty : Registry := ⟨fun _ => Dictionary.empty⟩

/-! ## 1. Registering -/

/-- The component that has taken a name. -/
def holder? (r : Registry) (kind : Kind) (name : Text) : Option Component :=
  ((r.entries kind).get? name).join

/-- The registry with a name bound, whatever it was bound to. -/
def bind (r : Registry) (kind : Kind) (name : Text) (target : Option Component) : Registry :=
  ⟨fun k => if k = kind then (r.entries k).insert name target else r.entries k⟩

/-- Register a component under a name of a kind. -/
def register (r : Registry) (kind name : Text) (target : Option Component) :
    Except Fault Registry :=
  match Kind.ofName? kind with
  | none => .error (.unknownKind kind)
  | some k =>
    match r.holder? k name with
    | none => .ok (r.bind k name target)
    | some existing =>
      if target = some existing then .ok (r.bind k name target)
      else .error (.alreadyRegistered kind name existing.shown)

/-- The registry of the bundled providers. -/
def bundled : Registry :=
  let bindPair (r : Registry) (name : Text) (flavour : Flavour) : Registry :=
    (r.bind .propertiesBuilder name (some (.bundled .properties flavour))).bind .contextBuilder
      name (some (.bundled .context flavour))
  let r := (bindPair empty "atmos" .atmos).bind .capability "atmos.shareurl" (some .shareUrls)
  (bindPair r "s3" .s3).bind .capability "s3.client" (some .s3Client)

/-! ## 2. Looking up names -/

/-- What is registered under a name.  The provider and the key that asked for it are told in the
fault. -/
def resolve (r : Registry) (kind name : Text) (provider? key? : Option Text) :
    Except Fault (Option Component) :=
  match (Kind.ofName? kind).bind fun k => (r.entries k).get? name with
  | some target => .ok target
  | none => .error (.unregistered kind name provider? key?)

/-- The names of a kind, sorted. -/
def names (r : Registry) (kind : Text) : Except Fault (List Text) :=
  match Kind.ofName? kind with
  | none => .error (.keyMissing kind)
  | some k => .ok ((r.entries k).keys.mergeSort Text.le)

/-! ## 3. What a configuration names -/

/-- The component that a provider's setting names; none where the setting is missing. -/
def resolveSetting (r : Registry) (c : Configuration) (provider setting : Text) (kind : Kind) :
    Except Fault (Option Component) :=
  let key := Configuration.key provider setting
  match c.get key none with
  | none => .ok none
  | some name =>
    let stripped := Text.strip name
    if stripped.isEmpty then .error (.blankName provider key name)
    else r.resolve kind.name stripped (some provider) (some key)

/-- The builders of a provider. -/
structure Builders where
  properties : Component
  context : Component
deriving DecidableEq

/-- The builders that a provider's configuration names; the generic ones where it names none. -/
def resolveBuilders (r : Registry) (provider : Text) (c : Configuration) :
    Except Fault Builders :=
  match r.resolveSetting c provider Kind.contextBuilder.name .contextBuilder with
  | .error fault => .error fault
  | .ok context =>
    match r.resolveSetting c provider Kind.propertiesBuilder.name .propertiesBuilder with
    | .error fault => .error fault
    | .ok properties =>
      .ok ⟨Component.orElse properties (.bundled .properties .generic),
        Component.orElse context (.bundled .context .generic)⟩

/-- The capability types of a provider. -/
structure Capabilities where
  sync : Option Component
  async : Option Component
deriving DecidableEq

/-- The capability types that a provider's configuration names. -/
def resolveCapabilities (r : Registry) (provider : Text) (c : Configuration) :
    Except Fault Capabilities :=
  match r.resolveSetting c provider "sync" .capability with
  | .error fault => .error fault
  | .ok sync =>
    match r.resolveSetting c provider "async" .capability with
    | .error fault => .error fault
    | .ok async => .ok ⟨sync, async⟩

end Registry

end CloudAccess
