namespace OpenApiTypes
namespace Text

/-!
# Order of names

Generated declarations are ordered by name, code point by code point.  Sorting is
stable, so entries that share a name keep their declaration order.
-/

/-- Whether a name may stand before another one. -/
def ordered (first second : String) : Bool :=
  !decide (second < first)

/-- Sort by a name. -/
def sortOn {Entry : Type} (name : Entry -> String) (entries : List Entry) : List Entry :=
  entries.mergeSort (fun first second => ordered (name first) (name second))

/-- Sorting neither loses nor invents entries. -/
theorem sortOn_perm {Entry : Type} (name : Entry -> String) (entries : List Entry) :
    (sortOn name entries).Perm entries :=
  List.mergeSort_perm entries _

end Text
end OpenApiTypes
