import OpenApiTypes.Document.Basic
import OpenApiTypes.TypeScript.Synthesis

namespace OpenApiTypes
namespace Modules

/-!
# The schemas module

Each component schema becomes an exported alias.  Aliases are ordered by name and do
not qualify each other, because they stand in one module.
-/

/-- An exported alias. -/
def aliasText (name type : String) : String :=
  "export type " ++ name ++ " = " ++ type ++ ";"

/-- The context of types inside the schemas module. -/
def localContext (settings : Settings) : TypeScript.TypeContext :=
  ⟨none, settings.fallback⟩

/-- The context of types outside the schemas module.  Without that module there is
nothing to qualify a name with. -/
def siblingContext (settings : Settings) (schemasGenerated : Bool) : TypeScript.TypeContext :=
  ⟨if schemasGenerated then some settings.aliases.schemas else none, settings.fallback⟩

/-- The body of the schemas module; none without component schemas. -/
def schemasBody? (settings : Settings) (document : Document) : Option String :=
  match document.schemas? with
  | none => none
  | some schemas =>
      if schemas.isEmpty then none
      else
        let ordered := Text.sortOn Prod.fst schemas.entries
        some (String.intercalate "\n\n" (ordered.map (fun entry =>
          aliasText entry.1 (TypeScript.typeText (localContext settings) entry.2))))

end Modules
end OpenApiTypes
