import OpenApiTypes.Inspection
import OpenApiTypes.Proofs.Naming.TypeNames
import Mathlib.Data.List.Basic

namespace OpenApiTypes
namespace Inspection

/-!
# What a line of the listing shows

A line holds a method, a path, and five marked fields.  The path is any text and may look
like fields itself, so a line cannot be read from left to right.  It can be read from the
right: the fields have no blanks in them, and in front of the path stands the method,
filled up to a fixed width.  So a line shows one thing only.
-/

/-! ## Words behind a text -/

private theorem last_unique {first second firstWord secondWord : List Char}
    (firstSolid : ' ' ∉ firstWord) (secondSolid : ' ' ∉ secondWord)
    (same : first ++ ' ' :: firstWord = second ++ ' ' :: secondWord) :
    first = second ∧ firstWord = secondWord := by
  have upToBlank {word : List Char} (solid : ' ' ∉ word) (front : List Char) :
      (front ++ ' ' :: word).reverse.takeWhile (· != ' ') = word.reverse := by
    rw [List.reverse_append, List.reverse_cons, List.append_assoc,
      List.takeWhile_append_of_pos]
    · simp
    · intro character member
      rw [bne_iff_ne]
      rintro rfl
      exact solid (List.mem_reverse.mp member)
  have words := congrArg (fun text => (List.reverse text).takeWhile (· != ' ')) same
  simp only [upToBlank firstSolid, upToBlank secondSolid, List.reverse_inj] at words
  subst words
  exact ⟨List.append_cancel_right same, rfl⟩

/-- Words without blanks that stand behind a text can be told apart, and the text from
them, when it is known how many they are. -/
private theorem words_unique {first second : List Char} {firstWords secondWords : List (List Char)}
    (firstSolid : ∀ word ∈ firstWords, ' ' ∉ word)
    (secondSolid : ∀ word ∈ secondWords, ' ' ∉ word)
    (count : firstWords.length = secondWords.length)
    (same : first ++ firstWords.flatMap (' ' :: ·) = second ++ secondWords.flatMap (' ' :: ·)) :
    first = second ∧ firstWords = secondWords := by
  induction firstWords generalizing first second secondWords with
  | nil =>
      cases secondWords with
      | nil => simpa using same
      | cons word rest => cases count
  | cons firstWord firstRest inductionHypothesis =>
      cases secondWords with
      | nil => cases count
      | cons secondWord secondRest =>
          rw [List.forall_mem_cons] at firstSolid secondSolid
          rw [List.flatMap_cons, List.flatMap_cons, ← List.append_assoc,
            ← List.append_assoc] at same
          have later := inductionHypothesis firstSolid.2 secondSolid.2 (Nat.succ.inj count) same
          have here := last_unique firstSolid.1 secondSolid.1 later.1
          exact ⟨here.1, by rw [here.2, later.2]⟩

/-! ## Lines -/

/-- What a line says about an operation. -/
structure Summary where
  method : Method
  path : String
  /-- The name of the parameters type. -/
  paramsType : Option String
  pathParameters : Nat
  queryParameters : Nat
  body : Bool
  response : Bool

/-- The marked fields of a line. -/
def Summary.fields (summary : Summary) : List String := [
  "params=" ++ summary.paramsType.getD "-",
  "path=" ++ toString summary.pathParameters,
  "query=" ++ toString summary.queryParameters,
  "body=" ++ yesNo summary.body,
  "response=" ++ yesNo summary.response]

/-- The method of a line, filled up to its width. -/
def methodColumn (method : Method) : String :=
  Text.padRight 7 (Text.toUpper method.name)

/-- A summary as a line. -/
def Summary.text (summary : Summary) : String :=
  methodColumn summary.method ++ " " ++ summary.path ++
    String.join (summary.fields.map (" " ++ ·))

/-- A line shows a summary.  The name of a parameters type has no blank in it and is not
the dash that stands for none. -/
structure Shows (line : String) (summary : Summary) : Prop where
  named : ∀ name ∈ summary.paramsType, name ≠ "-" ∧ ' ' ∉ name.toList
  text : line = summary.text

/-- The fields are words behind the method and the path. -/
theorem toList_text (summary : Summary) :
    summary.text.toList = ((methodColumn summary.method).toList ++ ' ' :: summary.path.toList) ++
      (summary.fields.map String.toList).flatMap (' ' :: ·) := by
  simp [Summary.text, Summary.fields]

theorem length_methodColumn (method : Method) : (methodColumn method).toList.length = 7 := by
  cases method <;> decide

private theorem methodColumn_injective : ∀ first ∈ Method.all, ∀ second ∈ Method.all,
    (methodColumn first).toList = (methodColumn second).toList -> first = second := by
  decide

private theorem not_mem_toString (number : Nat) : ' ' ∉ (toString number).toList := by
  rw [Nat.toString_eq_repr, Nat.toList_repr]
  intro member
  have digit := Nat.isDigit_of_mem_toDigits (by decide) (by decide) member
  revert digit
  decide

private theorem toString_injective {first second : Nat}
    (same : toString first = toString second) : first = second := by
  rw [Nat.toString_eq_repr, Nat.toString_eq_repr, ← String.toList_inj, Nat.toList_repr,
    Nat.toList_repr] at same
  rw [← Nat.ofDigitChars_toDigits (b := 10) (n := first) (by decide) (by decide), same,
    Nat.ofDigitChars_toDigits (by decide) (by decide)]

private theorem not_mem_yesNo (flag : Bool) : ' ' ∉ (yesNo flag).toList := by
  cases flag <;> decide

theorem Shows.solid {line : String} {summary : Summary} (shows : Shows line summary) :
    ∀ word ∈ summary.fields.map String.toList, ' ' ∉ word := by
  have name : ' ' ∉ (summary.paramsType.getD "-").toList := by
    cases named : summary.paramsType with
    | none => decide
    | some name => exact (shows.named name named).2
  simp only [Summary.fields, List.map_cons, List.map_nil, List.forall_mem_cons,
    String.toList_append, List.mem_append, not_or]
  refine ⟨⟨by decide, name⟩, ⟨by decide, not_mem_toString _⟩, ⟨by decide, not_mem_toString _⟩,
    ⟨by decide, not_mem_yesNo _⟩, ⟨by decide, not_mem_yesNo _⟩, ?_⟩
  intro word member
  cases member

theorem yesNo_injective {first second : Bool} (same : yesNo first = yesNo second) :
    first = second := by
  revert same
  cases first <;> cases second <;> decide

/-- A name that is no dash can be told from none. -/
private theorem paramsType_unique {first second : Option String}
    (firstNamed : ∀ name ∈ first, name ≠ "-") (secondNamed : ∀ name ∈ second, name ≠ "-")
    (same : first.getD "-" = second.getD "-") : first = second := by
  cases first with
  | none =>
      cases second with
      | none => rfl
      | some name => exact absurd same.symm (secondNamed name rfl)
  | some name =>
      cases second with
      | none => exact absurd same (firstNamed name rfl)
      | some other => exact congrArg some same

/-- A line shows one summary only. -/
theorem Shows.unique {line : String} {first second : Summary} (firstShows : Shows line first)
    (secondShows : Shows line second) : first = second := by
  have parts := words_unique firstShows.solid secondShows.solid (by simp [Summary.fields])
    (by rw [← toList_text, ← toList_text, ← firstShows.text, ← secondShows.text])
  have fields := (List.map_inj_right (fun _ _ => String.toList_inj.mp)).mp parts.2
  simp only [Summary.fields, List.cons.injEq, String.append_right_inj, and_true] at fields
  rcases fields with ⟨name, pathParameters, queryParameters, body, response⟩
  have columns := List.append_inj parts.1
    ((length_methodColumn first.method).trans (length_methodColumn second.method).symm)
  have path := String.toList_inj.mp (List.cons.inj columns.2).2
  cases first
  cases second
  simp only [Summary.mk.injEq]
  refine ⟨?_, path, ?_, toString_injective pathParameters, toString_injective queryParameters,
    yesNo_injective body, yesNo_injective response⟩
  · exact methodColumn_injective _ (Method.mem_all _) _ (Method.mem_all _) columns.1
  · exact paramsType_unique (fun name member => (firstShows.named name member).1)
      (fun name member => (secondShows.named name member).1) name

/-! ## The line of an operation -/

/-- The summary of an operation. -/
def summary (endpoint : Endpoint) : Summary where
  method := endpoint.method
  path := endpoint.path
  paramsType :=
    if (endpoint.operation.parametersAt .query).isEmpty then none
    else some (Naming.paramsTypeName endpoint.method.name endpoint.path)
  pathParameters := (endpoint.operation.parametersAt .path).length
  queryParameters := (endpoint.operation.parametersAt .query).length
  body := endpoint.operation.requestBody.isSome
  response := Modules.returnsBody endpoint.operation

/-- The name of a parameters type has no blank in it and is no dash. -/
theorem paramsTypeName_solid (method : Method) (path : String) :
    Naming.paramsTypeName method.name path ≠ "-" ∧
      ' ' ∉ (Naming.paramsTypeName method.name path).toList := by
  have word := Naming.isWordChar_of_mem_paramsTypeName method path
  have outside {character : Char} (other : Naming.isWordChar character = false) :
      character ∉ (Naming.paramsTypeName method.name path).toList := by
    intro member
    rw [word character member] at other
    cases other
  refine ⟨?_, outside (by decide)⟩
  intro dash
  have noDash : '-' ∉ (Naming.paramsTypeName method.name path).toList := outside (by decide)
  rw [dash] at noDash
  exact noDash (List.mem_singleton_self '-')

/-- The line of an operation shows its summary. -/
theorem shows_line (endpoint : Endpoint) : Shows (line endpoint) (summary endpoint) where
  named := by
    intro name member
    unfold summary at member
    split at member
    next => cases member
    next =>
      cases member
      exact paramsTypeName_solid endpoint.method endpoint.path
  text := by
    have name : (summary endpoint).paramsType.getD "-" =
        if (endpoint.operation.parametersAt .query).isEmpty then "-"
        else Naming.paramsTypeName endpoint.method.name endpoint.path := by
      unfold summary
      split <;> rfl
    apply String.toList_inj.mp
    rw [toList_text, Summary.fields, name]
    simp [line, summary, methodColumn]

end Inspection
end OpenApiTypes
