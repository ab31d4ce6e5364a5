import OpenApiTypes.Yaml.Lexer

namespace OpenApiTypes
namespace Yaml

/-!
# The tree of a document

A text holds one document at most.  Its tokens form a tree of scalars, sequences,
mappings and aliases.  A node that is left out is an empty plain scalar.  Every reader
takes at least one token before it calls another one, so the number of tokens bounds
the nesting; that number is the fuel.
-/

/-- What may stand before a node. -/
structure Properties where
  anchor : Option String := none
  tag : Option String := none
deriving DecidableEq, Inhabited

/-- A node of a document. -/
inductive Node where
  | aliased (name : String)
  /-- A scalar; a plain one may stand for something else than its text. -/
  | scalar (properties : Properties) (plain : Bool) (text : String)
  | sequence (properties : Properties) (items : List Node)
  | mapping (properties : Properties) (entries : List (Node × Node))
deriving Inhabited

/-- A node that is left out. -/
def Node.empty : Node := .scalar {} true ""

/-- The tag handles that a document declares, with what they stand for. -/
abbrev Handles := List (String × String)

/-- The handles that need no declaration. -/
def builtInHandles : Handles := [("!", "!"), ("!!", "tag:yaml.org,2002:")]

/-- The full text of a tag. -/
def resolveTag (handles : Handles) (handle suffix : String) : Option String :=
  if handle = "" then some suffix
  else (handles.lookup handle).map (fun uri => uri ++ suffix)

/-- Read an anchor and a tag, in either order and each at most once. -/
def readProperties (handles : Handles) (tokens : List Token) :
    Option (Properties × List Token) :=
  match tokens with
  | .anchor name :: .tag handle suffix :: rest => do
      pure (⟨some name, some (<- resolveTag handles handle suffix)⟩, rest)
  | .tag handle suffix :: .anchor name :: rest => do
      pure (⟨some name, some (<- resolveTag handles handle suffix)⟩, rest)
  | .anchor name :: rest => some (⟨some name, none⟩, rest)
  | .tag handle suffix :: rest => do
      pure (⟨none, some (<- resolveTag handles handle suffix)⟩, rest)
  | _ => some ({}, tokens)

/-- A scalar; the tag that consists of a mark alone asks to read it like a plain one. -/
def scalarNode (properties : Properties) (plain : Bool) (text : String) : Node :=
  if properties.tag = some "!" then .scalar { properties with tag := none } plain text
  else .scalar properties plain text

/-- Whether a token of a block collection follows, so that a node is left out. -/
def leavesOut (ends : List Token) : List Token -> Bool
  | [] => true
  | token :: _ => ends.contains token

mutual

/-- Read a node.  Block collections are allowed `inBlock`, and a sequence that is not
indented where it is the content of a mapping. -/
def readNode (handles : Handles) (inBlock unindented : Bool) (fuel : Nat)
    (tokens : List Token) : Option (Node × List Token) :=
  match fuel with
  | 0 => none
  | fuel + 1 =>
      match tokens with
      | .aliased name :: rest => some (.aliased name, rest)
      | _ =>
          match readProperties handles tokens with
          | none => none
          | some (properties, rest) => readContent handles inBlock unindented fuel properties rest
termination_by structural fuel

/-- Read what follows the properties of a node. -/
def readContent (handles : Handles) (inBlock unindented : Bool) (fuel : Nat)
    (properties : Properties) (tokens : List Token) : Option (Node × List Token) :=
  match fuel with
  | 0 => none
  | fuel + 1 =>
      let given : Option (Node × List Token) :=
        if properties = {} then none else some (.scalar properties true "", tokens)
      match tokens with
      | .blockEntry :: _ =>
          if unindented then do
            let (items, rest) <- readUnindented handles fuel tokens
            pure (.sequence properties items, rest)
          else given
      | .scalar plain text :: rest => some (scalarNode properties plain text, rest)
      | .flowSequenceStart :: rest => do
          let (items, left) <- readFlowItems handles true fuel rest
          pure (.sequence properties items, left)
      | .flowMappingStart :: rest => do
          let (entries, left) <- readFlowEntries handles true fuel rest
          pure (.mapping properties entries, left)
      | .blockSequenceStart :: rest =>
          if inBlock then do
            let (items, left) <- readBlockItems handles fuel rest
            pure (.sequence properties items, left)
          else given
      | .blockMappingStart :: rest =>
          if inBlock then do
            let (entries, left) <- readBlockEntries handles fuel rest
            pure (.mapping properties entries, left)
          else given
      | _ => given
termination_by structural fuel

/-- Read a node of a block collection, or nothing before one of some tokens. -/
def readBlockPart (handles : Handles) (unindented : Bool) (ends : List Token) (fuel : Nat)
    (tokens : List Token) : Option (Node × List Token) :=
  match fuel with
  | 0 => none
  | fuel + 1 =>
      if leavesOut ends tokens then some (.empty, tokens)
      else readNode handles true unindented fuel tokens
termination_by structural fuel

/-- Read the items of a block sequence, up to its end. -/
def readBlockItems (handles : Handles) (fuel : Nat) (tokens : List Token) :
    Option (List Node × List Token) :=
  match fuel with
  | 0 => none
  | fuel + 1 =>
      match tokens with
      | .blockEntry :: rest => do
          let (item, after) <- readBlockPart handles false [.blockEntry, .blockEnd] fuel rest
          let (items, left) <- readBlockItems handles fuel after
          pure (item :: items, left)
      | .blockEnd :: rest => some ([], rest)
      | _ => none
termination_by structural fuel

/-- Read the items of a sequence that is not indented. -/
def readUnindented (handles : Handles) (fuel : Nat) (tokens : List Token) :
    Option (List Node × List Token) :=
  match fuel with
  | 0 => none
  | fuel + 1 =>
      match tokens with
      | .blockEntry :: rest => do
          let (item, after) <-
            readBlockPart handles false [.blockEntry, .key, .value, .blockEnd] fuel rest
          let (items, left) <- readUnindented handles fuel after
          pure (item :: items, left)
      | _ => some ([], tokens)
termination_by structural fuel

/-- Read the entries of a block mapping, up to its end. -/
def readBlockEntries (handles : Handles) (fuel : Nat) (tokens : List Token) :
    Option (List (Node × Node) × List Token) :=
  match fuel with
  | 0 => none
  | fuel + 1 =>
      match tokens with
      | .blockEnd :: rest => some ([], rest)
      | .key :: rest => do
          let (key, after) <- readBlockPart handles true [.key, .value, .blockEnd] fuel rest
          let (value, last) <- readBlockValue handles fuel after
          let (entries, left) <- readBlockEntries handles fuel last
          pure ((key, value) :: entries, left)
      | _ => none
termination_by structural fuel

/-- Read the value of a block mapping entry. -/
def readBlockValue (handles : Handles) (fuel : Nat) (tokens : List Token) :
    Option (Node × List Token) :=
  match fuel with
  | 0 => none
  | fuel + 1 =>
      match tokens with
      | .value :: rest => readBlockPart handles true [.key, .value, .blockEnd] fuel rest
      | _ => some (.empty, tokens)
termination_by structural fuel

/-- Read the items of a flow sequence, up to its end. -/
def readFlowItems (handles : Handles) (first : Bool) (fuel : Nat) (tokens : List Token) :
    Option (List Node × List Token) :=
  match fuel with
  | 0 => none
  | fuel + 1 =>
      match tokens with
      | .flowSequenceEnd :: rest => some ([], rest)
      | _ =>
          let begun := if first then some tokens else
            match tokens with
            | .flowEntry :: rest => some rest
            | _ => none
          match begun with
          | none => none
          | some (.flowSequenceEnd :: rest) => some ([], rest)
          | some (.key :: rest) => do
              let (item, after) <- readPair handles fuel rest
              let (items, left) <- readFlowItems handles false fuel after
              pure (item :: items, left)
          | some start => do
              let (item, after) <- readNode handles false false fuel start
              let (items, left) <- readFlowItems handles false fuel after
              pure (item :: items, left)
termination_by structural fuel

/-- Read an item of a flow sequence that is a mapping of one entry.  When the key is
left out, the token after the announcement of the key is taken with it. -/
def readPair (handles : Handles) (fuel : Nat) (tokens : List Token) :
    Option (Node × List Token) :=
  match fuel with
  | 0 => none
  | fuel + 1 => do
      let (key, after) <-
        if leavesOut [.value, .flowEntry, .flowSequenceEnd] tokens then
          some (Node.empty, tokens.drop 1)
        else readNode handles false false fuel tokens
      let (value, left) <- readFlowValue handles [.flowEntry, .flowSequenceEnd] fuel after
      pure (.mapping {} [(key, value)], left)
termination_by structural fuel

/-- Read the value of an entry in a flow collection. -/
def readFlowValue (handles : Handles) (ends : List Token) (fuel : Nat) (tokens : List Token) :
    Option (Node × List Token) :=
  match fuel with
  | 0 => none
  | fuel + 1 =>
      match tokens with
      | .value :: rest =>
          if leavesOut ends rest then some (.empty, rest)
          else readNode handles false false fuel rest
      | _ => some (.empty, tokens)
termination_by structural fuel

/-- Read the entries of a flow mapping, up to its end.  A node that is not announced as
a key has no value. -/
def readFlowEntries (handles : Handles) (first : Bool) (fuel : Nat) (tokens : List Token) :
    Option (List (Node × Node) × List Token) :=
  match fuel with
  | 0 => none
  | fuel + 1 =>
      match tokens with
      | .flowMappingEnd :: rest => some ([], rest)
      | _ =>
          let begun := if first then some tokens else
            match tokens with
            | .flowEntry :: rest => some rest
            | _ => none
          match begun with
          | none => none
          | some (.flowMappingEnd :: rest) => some ([], rest)
          | some (.key :: rest) => do
              let (key, after) <-
                if leavesOut [.value, .flowEntry, .flowMappingEnd] rest then
                  some (Node.empty, rest)
                else readNode handles false false fuel rest
              let (value, last) <- readFlowValue handles [.flowEntry, .flowMappingEnd] fuel after
              let (entries, left) <- readFlowEntries handles false fuel last
              pure ((key, value) :: entries, left)
          | some start => do
              let (key, after) <- readNode handles false false fuel start
              let (entries, left) <- readFlowEntries handles false fuel after
              pure ((key, .empty) :: entries, left)
termination_by structural fuel

end

/-! ## Documents -/

/-- What the directives of a document declare. -/
structure Declarations where
  versioned : Bool := false
  handles : Handles := []

/-- Whether a version can be read. -/
def isReadable (major minor : Nat) : Bool :=
  major == 1 && (minor == 1 || minor == 2)

/-- Read the directives of a document.  None may be repeated. -/
def readDirectives (declared : Declarations) :
    List Token -> Option (Declarations × List Token)
  | .version major minor :: rest =>
      if declared.versioned || !isReadable major minor then none
      else readDirectives { declared with versioned := true } rest
  | .tagHandle handle uri :: rest =>
      if declared.handles.any (fun entry => entry.1 == handle) then none
      else readDirectives { declared with handles := declared.handles ++ [(handle, uri)] } rest
  | tokens => some (declared, tokens)

/-- Whether a document begins with directives or with a mark. -/
def isExplicit : List Token -> Bool
  | .version _ _ :: _ => true
  | .tagHandle _ _ :: _ => true
  | .documentStart :: _ => true
  | _ => false

/-- Whether a document ends before it holds a node. -/
def isBare : List Token -> Bool
  | [] => true
  | .documentEnd :: _ => true
  | tokens => isExplicit tokens

/-- Read a document. -/
def readDocument (tokens : List Token) : Option (Node × List Token) :=
  let fuel := 4 * (tokens.length + 1)
  if isExplicit tokens then do
    let (declared, rest) <- readDirectives {} tokens
    match rest with
    | .documentStart :: body =>
        if isBare body then some (.empty, body)
        else readNode (declared.handles ++ builtInHandles) true false fuel body
    | _ => none
  else readNode builtInHandles true false fuel tokens

/-- Whether nothing but marks of document ends is left. -/
def isOver (tokens : List Token) : Bool :=
  tokens.all (fun token => token == .documentEnd)

/-- The document of a text; a text without a document is an empty one. -/
def document? (text : String) : Option Node := do
  let tokens <- tokens? text
  match tokens with
  | [] => some .empty
  | _ => do
      let (node, rest) <- readDocument tokens
      if isOver rest then some node else none

end Yaml
end OpenApiTypes
