import OpenApiTypes.Toml.Scalar

namespace OpenApiTypes
namespace Toml

/-!
# Tables and the rules of defining them

A table is defined once: by a header, by the dotted keys inside one table, or inline.
A header may define a table that only stood on the way to another one, and headers may
add tables inside any table that is not inline.
-/

/-- A complete value. -/
inductive Value where
  | string (text : String)
  | boolean (value : Bool)
  | scalar (value : Scalar)
  | array (items : List Value)
  | table (entries : List (String × Value))
deriving Inhabited

/-- How a table came to be. -/
inductive Origin where
  /-- A header defined it. -/
  | defined
  /-- It stands on the way to a table that a header defined. -/
  | implied
  /-- It stands on the way to a value under a dotted key. -/
  | dotted
deriving DecidableEq, Inhabited

/-- What a key leads to while a document is being read. -/
inductive Item where
  | value (value : Value)
  | table (origin : Origin) (entries : List (String × Item))
  /-- An array of tables that headers define one by one. -/
  | tables (elements : List Item)
deriving Inhabited

/-- The entries of a table in order. -/
abbrev Entries := List (String × Item)

/-! ## Completing tables -/

mutual

/-- The value of an item. -/
def Item.complete (item : Item) : Value :=
  match item with
  | .value value => value
  | .table _ entries => .table (completeEntries entries)
  | .tables elements => .array (completeEach elements)
termination_by structural item

/-- The values of items. -/
def completeEach (items : List Item) : List Value :=
  match items with
  | [] => []
  | item :: rest => item.complete :: completeEach rest
termination_by structural items

/-- The values of entries. -/
def completeEntries (entries : List (String × Item)) : List (String × Value) :=
  match entries with
  | [] => []
  | (name, item) :: rest => (name, item.complete) :: completeEntries rest
termination_by structural entries

end

/-! ## Walking along keys -/

/-- Put an item under a name, in its place when there is one. -/
def put (name : String) (item : Item) : Entries -> Entries
  | [] => [(name, item)]
  | (head, old) :: rest =>
      if head = name then (name, item) :: rest else (head, old) :: put name item rest

/-- Change the table that a key leads to.  Tables that are missing on the way are made.
`isDotted` says that the table at the start was made by a dotted key. -/
def within? (origin : Origin) (change : Bool -> Entries -> Option Entries) :
    List String -> Bool -> Entries -> Option Entries
  | [], isDotted, entries => change isDotted entries
  | name :: path, _, entries =>
      match entries.lookup name with
      | none => do
          let inner <- within? origin change path (origin == .dotted) []
          pure (put name (.table origin inner) entries)
      | some (.value _) => none
      | some (.table found inner) =>
          if origin = .dotted && found = .defined then none
          else do
            let changed <- within? origin change path (found == .dotted) inner
            pure (put name (.table found changed) entries)
      | some (.tables elements) =>
          match elements.getLast? with
          | some (.table found inner) => do
              let changed <- within? origin change path (found == .dotted) inner
              pure (put name (.tables (elements.dropLast ++ [.table found changed])) entries)
          | _ => none

/-- Look up what a key leads to.  None when something else than a table stands on the
way. -/
def find? : List String -> Entries -> Option (Option Item)
  | [], _ => some none
  | [name], entries => some (entries.lookup name)
  | name :: path, entries =>
      match entries.lookup name with
      | none => some none
      | some (.value _) => none
      | some (.table _ inner) => find? path inner
      | some (.tables elements) =>
          match elements.getLast? with
          | some (.table _ inner) => find? path inner
          | _ => none

/-! ## Defining -/

/-- Define a value under a key.  The table that holds it is new to headers or made by
dotted keys alone, and the name is not taken. -/
def define? (path : List String) (item : Item) (entries : Entries) : Option Entries :=
  match path.getLast? with
  | none => none
  | some name =>
      let outer := path.dropLast
      within? .dotted (fun isDotted inner =>
        if isDotted == outer.isEmpty then none
        else if (inner.lookup name).isSome then none
        else some (inner ++ [(name, item)])) outer false entries

/-- The reading of a document: the tables that are complete, and the current one. -/
structure Draft where
  root : Entries := []
  current : Entries := []
  /-- The key of the current table; empty at the beginning. -/
  path : List String := []
  /-- The current table is an element of an array. -/
  isElement : Bool := false

namespace Draft

/-- Put the current table in its place. -/
def finish? (draft : Draft) : Option Entries :=
  match draft.path.getLast? with
  | none => some draft.current
  | some name =>
      within? .implied (fun _ inner =>
        let table := Item.table .defined draft.current
        match inner.lookup name with
        | none => some (put name (if draft.isElement then .tables [table] else table) inner)
        | some (.tables elements) =>
            if draft.isElement then some (put name (.tables (elements ++ [table])) inner) else none
        | some (.table origin _) =>
            if draft.isElement || origin = .defined then none else some (put name table inner)
        | some (.value _) => none) draft.path.dropLast false draft.root

/-- Begin the table of a header. -/
def begin? (path : List String) (draft : Draft) : Option Draft := do
  let root <- draft.finish?
  match <- find? path root with
  | none => pure ⟨root, [], path, false⟩
  | some (.table .implied inner) => pure ⟨root, inner, path, false⟩
  | some _ => none

/-- Begin an element of an array of tables. -/
def beginElement? (path : List String) (draft : Draft) : Option Draft := do
  let root <- draft.finish?
  match <- find? path root with
  | none => pure ⟨root, [], path, true⟩
  | some (.tables _) => pure ⟨root, [], path, true⟩
  | some _ => none

/-- Define a value in the current table. -/
def set? (path : List String) (value : Value) (draft : Draft) : Option Draft := do
  let current <- define? path (.value value) draft.current
  pure { draft with current }

end Draft
end Toml
end OpenApiTypes
