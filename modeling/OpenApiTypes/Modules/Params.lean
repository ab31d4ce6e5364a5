import OpenApiTypes.Modules.Kind
import OpenApiTypes.Modules.Schemas

namespace OpenApiTypes
namespace Modules

/-!
# The parameters module

Each operation with query parameters gets an exported object type.  Leaving an optional
parameter out and sending null mean the same, so its member is optional and nullable.
-/

/-- The member of a parameters type. -/
structure QueryMember where
  key : String
  required : Bool
  schema : Schema

/-- The member for a query parameter. -/
def queryMember (parameter : Parameter) : QueryMember :=
  ⟨Naming.parameterKey parameter.name, parameter.required, parameter.schema.getD .unknown⟩

/-- The text of a member. -/
def QueryMember.text (context : TypeScript.TypeContext) (entry : QueryMember) : String :=
  if entry.required then
    entry.key ++ ": " ++ TypeScript.typeText context entry.schema ++ ";"
  else entry.key ++ "?: " ++ TypeScript.typeText context entry.schema.toNullable ++ ";"

/-- The parameters type of an operation: its name and its members, ordered by key. -/
structure ParamsAlias where
  name : String
  entries : List QueryMember

/-- The parameters type of an operation; none without query parameters. -/
def paramsAlias? (endpoint : Endpoint) : Option ParamsAlias :=
  match endpoint.operation.parametersAt .query with
  | [] => none
  | parameters =>
      some ⟨Naming.paramsTypeName endpoint.method.name endpoint.path,
        Text.sortOn QueryMember.key (parameters.map queryMember)⟩

/-- The parameters types of a document, ordered by name. -/
def paramsAliases (document : Document) : List ParamsAlias :=
  Text.sortOn ParamsAlias.name (document.endpoints.filterMap paramsAlias?)

/-- The text of a parameters type. -/
def ParamsAlias.text (context : TypeScript.TypeContext) (declared : ParamsAlias) : String :=
  aliasText declared.name
    ("\x7b " ++ String.intercalate " " (declared.entries.map (QueryMember.text context)) ++ " \x7d")

/-- The body of the parameters module; none when no operation has query parameters. -/
def paramsBody? (settings : Settings) (schemasGenerated : Bool) (document : Document) :
    Option String :=
  match paramsAliases document with
  | [] => none
  | aliases =>
      let imports :=
        if schemasGenerated then [ModuleKind.schemas.namespaceImport settings.aliases.schemas]
        else []
      some (String.intercalate "\n\n"
        (imports ++ aliases.map (ParamsAlias.text (siblingContext settings schemasGenerated))))

end Modules
end OpenApiTypes
