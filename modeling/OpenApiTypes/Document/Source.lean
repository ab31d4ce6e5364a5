import OpenApiTypes.Document.Reading
import OpenApiTypes.Failure
import OpenApiTypes.Yaml.Reading

namespace OpenApiTypes
namespace Document

/-!
# Documents from text

A document is written in YAML, of which JSON is a part.
-/

/-- Read a document from a JSON value. -/
def fromJson (value : Json) : Except Failure Document :=
  (ofJson value).mapError .invalidDocument

/-- Read a document from its text. -/
def ofText (text : String) : Except Failure Document :=
  match Yaml.read? text with
  | none => .error .notYaml
  | some value => fromJson value

end Document
end OpenApiTypes
