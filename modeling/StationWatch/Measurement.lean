import StationWatch.Json.Written
import StationWatch.Text.Case

/-!
# Measurements and their registry

A measurement kind says on which channel its values are published, which data streams hold them, in
what unit they are, and whether a fixed value stands in for them.  Kinds are registered under names
in capitals; a later registration replaces an earlier one.

## Main definitions

* `Measurement` — the specification of a measurement kind.
* `Registry` — the kinds by name, in order of the names.
* `Registry.register`, `Registry.unregister`, `Registry.get?`, `Registry.names`.
* `Registry.builtIn` — temperature and humidity.

## References

`SPEC_FULL.md`, sections 3 and 10.4.
-/

namespace StationWatch

/-- The specification of a measurement kind: named members, of which some are required. -/
structure Measurement where
  members : Json.Members
  deriving Repr, Inhabited

namespace Measurement

/-- A member of the specification; a missing one is `null`. -/
def field (m : Measurement) (name : RawText) : Json := (Json.lookup name m.members).getD .null

/-- The channel on which values are published. -/
def channel (m : Measurement) : Json := m.field "channel"

/-- What the names of the data streams hold. -/
def streamFilter (m : Measurement) : Json := m.field "datastream_filter"

/-- The unit of the values, if any. -/
def unit (m : Measurement) : Json := m.field "unit"

/-- The fixed value that stands in for a reading, if any. -/
def placeholder (m : Measurement) : Json := m.field "placeholder"

/-- The members that every specification must have. -/
def requiredFields : List String := ["name", "channel", "datastream_filter"]

/-- The required members that are missing or vacant. -/
def missing (m : Measurement) : List String :=
  requiredFields.filter fun name => (m.field name).isVacant

end Measurement

/-- Why a specification is not registered. -/
inductive RegistryFault
  | missing (name : RawText) (fields : List String)
  | notObject (kind : String)
  deriving DecidableEq, Repr, Inhabited

/-- The wording of a fault. -/
def RegistryFault.message : RegistryFault → RawText
  | .missing name fields =>
    "Measurement \x27" ++ name ++ "\x27 is missing fields: " ++
      (Json.arr (fields.map fun field : String => Json.str field)).written
  | .notObject kind => ↑("\x27" ++ kind ++ "\x27 object has no attribute 'get'")

/-- The wording of the warning that a measurement is registered again. -/
def replacementWarning (key : RawText) : RawText :=
  "Measurement \x27" ++ key ++ "\x27 is already registered and will be replaced"

/-- Measurement kinds by their names in capitals, in strictly ascending order of the names. -/
abbrev Registry := List (RawText × Measurement)

namespace Registry

/-- The name under which a measurement is kept. -/
def key (name : RawText) : RawText := name.upper

/-- The kind under a key. -/
def find? (k : RawText) : Registry → Option Measurement
  | [] => none
  | entry :: rest => if entry.1 = k then some entry.2 else find? k rest

/-- A kind put under a key, in the place of the one that may be there. -/
def set (k : RawText) (m : Measurement) : Registry → Registry
  | [] => [(k, m)]
  | entry :: rest =>
    if entry.1 = k then (k, m) :: rest
    else if k < entry.1 then (k, m) :: entry :: rest
    else entry :: set k m rest

/-- The registry without a key. -/
def remove (k : RawText) (r : Registry) : Registry := r.filter fun entry => entry.1 ≠ k

/-- The kind registered under a name, in whatever case. -/
def get? (r : Registry) (name : RawText) : Option Measurement := r.find? (key name)

/-- The registered names, ascending. -/
def names (r : Registry) : List RawText := r.map Prod.fst

/-- What a registration does: the new registry, and whether it replaces a kind. -/
structure Registered where
  registry : Registry
  /-- The key that was there before, if any. -/
  replaced : Option RawText

/-- A specification registered under a name; one with missing members is refused. -/
def register (r : Registry) (name : RawText) : Json → Except RegistryFault Registered
  | .obj members =>
    let m : Measurement := ⟨members⟩
    let absent := m.missing
    if absent.isEmpty then
      let k := key name
      .ok ⟨r.set k m, (r.find? k).map fun _ => k⟩
    else .error (.missing name absent)
  | j => .error (.notObject j.kindName)

/-- A name taken out of the registry, and whether it was there. -/
def unregister (r : Registry) (name : RawText) : Registry × Bool :=
  (r.remove (key name), (r.get? name).isSome)

/-- The kind of air temperature. -/
def temperature : Json :=
  .obj [("name", .str "Air temperature"), ("channel", .str "temperature"),
    ("datastream_filter", .str "lufttemperatur"), ("unit", .str "°C"), ("placeholder", .null)]

/-- The kind of relative humidity. -/
def humidity : Json :=
  .obj [("name", .str "Relative humidity"), ("channel", .str "humidity"),
    ("datastream_filter", .str "luftfeuchte"), ("unit", .null), ("placeholder", .null)]

/-- A registration that must be accepted; a refused one changes nothing. -/
def registered (r : Registry) (name : RawText) (spec : Json) : Registry :=
  match r.register name spec with
  | .ok result => result.registry
  | .error _ => r

/-- The registry with the two kinds that are always known. -/
def builtIn : Registry := (registered [] "TEMPERATURE" temperature).registered "HUMIDITY" humidity

end Registry

end StationWatch
