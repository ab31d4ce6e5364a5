namespace OpenApiTypes
namespace Yaml

/-!
# Tokens of YAML text

Tokens make the nesting that indentation expresses explicit: block collections have a
start and an end, and every key is announced.
-/

/-- A token. -/
inductive Token where
  /-- The declaration of a version. -/
  | version (major minor : Nat)
  /-- The declaration of a tag handle. -/
  | tagHandle (handle uri : String)
  | documentStart
  | documentEnd
  | blockSequenceStart
  | blockMappingStart
  | blockEnd
  | flowSequenceStart
  | flowSequenceEnd
  | flowMappingStart
  | flowMappingEnd
  /-- The dash of a block sequence. -/
  | blockEntry
  /-- The comma of a flow collection. -/
  | flowEntry
  /-- What follows is a key. -/
  | key
  /-- What follows is the value of a key. -/
  | value
  | aliased (name : String)
  | anchor (name : String)
  | tag (handle suffix : String)
  /-- A scalar; a plain one may stand for something else than its text. -/
  | scalar (plain : Bool) (text : String)
deriving DecidableEq, Inhabited

end Yaml
end OpenApiTypes
