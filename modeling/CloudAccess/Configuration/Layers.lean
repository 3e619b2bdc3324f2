/-
# Layered configuration

A configuration is a stack of settings, each mapping keys of the form `provider.setting` to
values.  A higher layer replaces the whole value of a key; values are never merged.  A value may
be missing on purpose, and then hides what lies below it.

There are two ways to look at a stack: key by key from the top (`get?`), and all at once, merged
from the bottom (`flatten`).
-/
import CloudAccess.Dictionary
import CloudAccess.Fault

namespace CloudAccess

/-- Values by key; a key may be there without a value. -/
abbrev Settings := Dictionary (Option Text)

/-- A stack of settings, the lowest layer first. -/
structure Configuration where
  layers : List Settings
deriving DecidableEq

namespace Configuration

/-! ## 1. The stack -/

/-- The configuration with a layer on top.  A missing or empty layer adds nothing. -/
def withLayer (c : Configuration) : Option Settings → Configuration
  | none => c
  | some layer => if layer.isEmpty then c else ⟨c.layers ++ [layer]⟩

/-- A layer changes the configuration it is put on. -/
def isAddition : Option Settings → Bool
  | none => false
  | some layer => !layer.isEmpty

/-! ## 2. Looking up keys -/

/-- The value that the highest layer with the key has for it; the outer option tells whether any
layer has. -/
def get? (c : Configuration) (key : Text) : Option (Option Text) :=
  c.layers.reverse.findSome? (·.get? key)

/-- The value at a key, or a value to fall back to where no layer has the key. -/
def get (c : Configuration) (key : Text) (fallback : Option Text) : Option Text :=
  (c.get? key).getD fallback

/-- Some layer has the key. -/
def contains (c : Configuration) (key : Text) : Bool := c.layers.any (·.contains key)

/-! ## 3. All layers at once -/

/-- All layers in one; higher layers win. -/
def flatten (c : Configuration) : Settings := c.layers.foldl Dictionary.merge Dictionary.empty

/-- The keys of all layers, in the order in which they first come from below. -/
def keys (c : Configuration) : List Text := c.flatten.keys

/-- The number of keys. -/
def size (c : Configuration) : Nat := c.flatten.size

/-- The settings of a provider, by the part of the key after the provider's name. -/
def providerSettings (c : Configuration) (provider : Text) : Settings :=
  Dictionary.ofList (c.flatten.entries.filterMap fun (k, v) =>
    (Text.dropStart? (provider ++ ".") k).map (·, v))

/-- The configuration in one line. -/
def summary (c : Configuration) : Text :=
  "LayeredConfig(layers=" ++ Text.ofNat c.layers.length ++ ", keys=" ++ Text.ofNat c.size ++ ")"

/-! ## 4. The settings of one provider -/

/-- The key of a provider's setting. -/
def key (provider setting : Text) : Text := provider ++ ("." : Text) ++ setting

/-- What a provider is reached with. -/
structure Access where
  endpoint : Option Text
  apiVersion : Option Text
  identity : Option Text
  credential : Option Text
deriving DecidableEq

/-- The endpoint, api version, identity and credential of a provider.  The configuration wins
over the identity and credential given; endpoint and api version come from it alone. -/
def access (c : Configuration) (provider : Option Text) (identity credential : Option Text) :
    Except Fault Access :=
  match provider with
  | none | some [] => .error .providerMissing
  | some p =>
    .ok ⟨c.get (key p "endpoint") none, c.get (key p "apiversion") none,
      c.get (key p "identity") identity, c.get (key p "credential") credential⟩

end Configuration

end CloudAccess
