import ComponentLookup.Text.Blank

/-!
# Configuration

The names that the resolver recognises and introduces.  The defaults are those that the document
compiler and the component resolver of the target framework agree on.
-/

namespace ComponentLookup

/-- The names known to the resolver, and whether it keeps a trace. -/
structure Config where
  /-- The end of the module name of the runtime import. -/
  runtimeSuffix : String := "jsx-runtime"
  /-- The exported name of the resolver function. -/
  resolverImportName : String := "resolveComponent"
  /-- The local name of the resolver function. -/
  resolverLocalName : String := "_resolveComponent"
  /-- The function at the top level that renders the document. -/
  renderEntryName : String := "MDXContent"
  /-- The function nested in the entry that holds the checks. -/
  renderBodyName : String := "_createMdxContent"
  /-- The function that the checks call, which is removed. -/
  missingReferenceName : String := "_missingMdxReference"
  /-- Whether a trace is kept. -/
  trace : Bool := true
  deriving DecidableEq

namespace Config

/-- The default configuration. -/
def default : Config := {}

/-- The names of a configuration, in the order of its fields. -/
def names (config : Config) : List String :=
  [config.runtimeSuffix, config.resolverImportName, config.resolverLocalName,
    config.renderEntryName, config.renderBodyName, config.missingReferenceName]

/-- Each name is non-empty and has no blanks around it. -/
def IsValid (config : Config) : Prop :=
  ∀ name ∈ config.names, name ≠ "" ∧ Text.trim name = name

end Config

end ComponentLookup
