import OpenApiTypes.Document.SelfContained
import OpenApiTypes.Modules.Descriptor

namespace OpenApiTypes

/-!
# Listing operations

The listing shows what the generators see: one line for each operation of the
self-contained document, in the order of the endpoints module.
-/

namespace Inspection

/-- The word for a truth value. -/
def yesNo (flag : Bool) : String :=
  if flag then "yes" else "no"

/-- The line of an operation. -/
def line (endpoint : Endpoint) : String :=
  let operation := endpoint.operation
  let query := operation.parametersAt .query
  let paramsType :=
    if query.isEmpty then "-"
    else Naming.paramsTypeName endpoint.method.name endpoint.path
  Text.padRight 7 (Text.toUpper endpoint.method.name) ++ " " ++ endpoint.path ++
    " params=" ++ paramsType ++
    " path=" ++ toString (operation.parametersAt .path).length ++
    " query=" ++ toString query.length ++
    " body=" ++ yesNo operation.requestBody.isSome ++
    " response=" ++ yesNo (Modules.returnsBody operation)

/-- The lines of a document. -/
def lines (document : Document) : List String :=
  document.selfContained.sortedEndpoints.map line

end Inspection
end OpenApiTypes
