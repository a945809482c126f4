import ComponentLookup.Node.Pattern
import ComponentLookup.Node.Render
import ComponentLookup.Rule.Basic

/-!
# The runtime import

The resolved program calls the resolver function, so the import of the runtime has to bind it.
The declaration

* `import {jsx as _jsx} from "vue/jsx-runtime"` becomes
* `import {jsx as _jsx, resolveComponent as _resolveComponent} from "vue/jsx-runtime"`.

Imports from other modules, imports without a specifier list, and imports that bind the local name
already stay as they are.
-/

namespace ComponentLookup

open Json

namespace RuntimeImport

/-- The import declaration with one more specifier behind its own. -/
def addSpecifier (config : Config) (declaration : Json) (specifiers : List Json) : Json :=
  declaration.set "specifiers" (.arr (specifiers ++
    [Node.importSpecifier (.str config.resolverImportName) (.str config.resolverLocalName)]))

/-- The text ends with the given suffix. -/
def endsWith (s suffix : String) : Bool := suffix.toList.isSuffixOf s.toList

/-- Handles an import declaration. -/
def apply (node : Json) (ctx : Context) : RuleReply :=
  let done (node : Json) (ctx : Context) : RuleReply := ⟨node, ctx, .ok (some .skip)⟩
  match Node.importSource node with
  | .error e => ⟨node, ctx, .error e⟩
  | .ok none => done node ctx
  | .ok (some source) =>
    if endsWith source ctx.config.runtimeSuffix then
      match (node.get? "specifiers").bind items? with
      | none => done node ctx
      | some specifiers =>
        match Node.importsLocal node ctx.config.resolverLocalName with
        | .error e => ⟨node, ctx, .error e⟩
        | .ok true =>
          done node (ctx.traced (·.logInspection source "unchanged"
            ("'" ++ ctx.config.resolverLocalName ++ "' already imported")))
        | .ok false =>
          let augmented := addSpecifier ctx.config node specifiers
          done augmented ((ctx.count "imports_augmented" 1).traced (·.logMutation
            { nodeType := "ImportDeclaration", before := Node.render node
              after := Node.render augmented, index := none }))
    else done node ctx

/-- The rule for import declarations. -/
def rule : Rule where
  name := "augment_runtime_import"
  apply := apply
  growth := 0

end RuntimeImport

end ComponentLookup
