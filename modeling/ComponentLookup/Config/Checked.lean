import ComponentLookup.Config.Basic
import ComponentLookup.Validation

/-!
# Configurations from outside

`Config.ofFields` builds a configuration from named values: names are trimmed and must not be blank,
fields that are not given keep their defaults, and fields that a configuration does not have are
ignored.  Violations are reported in the order of the fields of a configuration.
-/

namespace ComponentLookup

namespace Config

/-- The fields of a configuration that are names. -/
inductive NameField where
  | runtimeSuffix
  | resolverImportName
  | resolverLocalName
  | renderEntryName
  | renderBodyName
  | missingReferenceName
  deriving DecidableEq

/-- The name under which a field is given. -/
def NameField.key : NameField → String
  | .runtimeSuffix => "runtime_suffix"
  | .resolverImportName => "resolver_import_name"
  | .resolverLocalName => "resolver_local_name"
  | .renderEntryName => "render_entry_name"
  | .renderBodyName => "render_body_name"
  | .missingReferenceName => "missing_reference_name"

/-- The value of a field. -/
def NameField.get (config : Config) : NameField → String
  | .runtimeSuffix => config.runtimeSuffix
  | .resolverImportName => config.resolverImportName
  | .resolverLocalName => config.resolverLocalName
  | .renderEntryName => config.renderEntryName
  | .renderBodyName => config.renderBodyName
  | .missingReferenceName => config.missingReferenceName

/-- The name fields in order. -/
def nameFields : List NameField :=
  [.runtimeSuffix, .resolverImportName, .resolverLocalName, .renderEntryName, .renderBodyName,
    .missingReferenceName]

/-- The name under which the trace switch is given. -/
def traceKey : String := "trace"

/-- The names of all fields. -/
def keys : List String := nameFields.map NameField.key ++ [traceKey]

/-- Named values, in the order in which they were given. -/
abbrev Settings := List (String × Scalar)

/-- The value given for a field; a later one counts over an earlier one. -/
def given (settings : Settings) (key : String) : Option Scalar :=
  (settings.reverse.find? (·.1 = key)).map (·.2)

/-- The checked value of a name field. -/
def checkName (settings : Settings) (field : NameField) : Checked String :=
  match given settings field.key with
  | some v => Checked.leaf [.field field.key] v.asName
  | none => .ok (field.get default)

/-- The checked value of the trace switch. -/
def checkTrace (settings : Settings) : Checked Bool :=
  match given settings traceKey with
  | some v => Checked.leaf [.field traceKey] v.asBool
  | none => .ok default.trace

/-- The configuration with the given values, or what is wrong with them. -/
def ofFields (settings : Settings) : Checked Config :=
  let name := checkName settings
  (Checked.both (name .runtimeSuffix) <| Checked.both (name .resolverImportName) <|
    Checked.both (name .resolverLocalName) <| Checked.both (name .renderEntryName) <|
    Checked.both (name .renderBodyName) <| Checked.both (name .missingReferenceName) <|
    checkTrace settings).map
    fun (runtimeSuffix, resolverImportName, resolverLocalName, renderEntryName, renderBodyName,
        missingReferenceName, trace) =>
      { runtimeSuffix, resolverImportName, resolverLocalName, renderEntryName, renderBodyName,
        missingReferenceName, trace }

/-- The values given by an object. -/
def settingsOf (fields : Fields) : Settings := fields.map fun (key, v) => (key, Scalar.ofJson v)

/-- The fields of a configuration as an object. -/
def toJson (config : Config) : Json :=
  .obj (nameFields.map (fun field => (field.key, .str (field.get config))) ++
    [(traceKey, .bool config.trace)])

end Config

end ComponentLookup
