import OpenApiTypes.Proofs.Modules.WrittenTypes
import OpenApiTypes.Proofs.Text.Order

namespace OpenApiTypes
namespace Modules

/-!
# References in generated modules

Every reference in a written schema becomes a name, whether or not a component schema has
that name.  So a document without dangling references gets modules in which each name is
declared, and a dangling reference puts a name into them that nothing declares.  The main
statement here says that this is the only difference to the types that have the fallback
type in the place of dangling references.
-/

/-- A type mentions the names of its references, as many times as they occur, with the
qualifier of the module that it is written in. -/
theorem mentioned_typeIn_perm (settings : Settings) (document : Document) (kind : ModuleKind)
    (schema : Schema) :
    (typeIn settings document kind schema).mentioned.Perm
      (schema.references.map (fun target =>
        ((contextIn settings document kind).qualifier, Pointer.targetName target))) :=
  TypeScript.mentioned_synthesize_perm _ schema

/-- For every document, the types of the written schemas stand in the modules, and each of
them mentions exactly the names of the references in its schema, at every depth.  A
reference that names a component schema is written as the name of its alias, qualified
exactly outside the schemas module.  The type is the one with the fallback type in the
place of every other reference exactly when there is no other reference. -/
theorem references_written (settings : Settings) (document : Document) :
    TypesWritten settings document.selfContained ∧
    forall kind : ModuleKind, ∀ schema ∈ schemasIn document.selfContained kind,
      (typeIn settings document.selfContained kind schema).mentioned.Perm
          (schema.references.map (fun target =>
            ((contextIn settings document.selfContained kind).qualifier,
              Pointer.targetName target))) ∧
        (∀ target ∈ schema.references, document.declaresSchema (Pointer.targetName target) ->
          (contextIn settings document.selfContained kind).qualifier =
            if kind = .schemas then none else some settings.aliases.schemas) ∧
        (typeIn settings document.selfContained kind
              (schema.withoutDangling document.declaresSchema) =
            typeIn settings document.selfContained kind schema ↔
          ∀ target ∈ schema.references, document.declaresSchema (Pointer.targetName target)) := by
  refine ⟨typesWritten settings _, ?_⟩
  intro kind schema _
  refine ⟨mentioned_typeIn_perm settings _ kind schema, ?_, ?_⟩
  · intro target _ declared
    exact qualifier_contextIn_of_declaresSchema settings document.selfContained kind declared
  · exact TypeScript.synthesize_withoutDangling_eq_iff _ document.declaresSchema schema

/-- A component schema that refers to one that is not there. -/
def aliasOfMissing : Document :=
  ⟨.empty, some ⟨⟨[("A", .reference "#/components/schemas/Missing")], by decide⟩, .empty, .empty⟩⟩

/-- The name of the missing schema is written, not the fallback type, and the name is not
declared. -/
theorem schemasBody?_aliasOfMissing :
    schemasBody? {} aliasOfMissing.selfContained = some "export type A = Missing;" ∧
      aliasOfMissing.declaresSchema "Missing" = false := by
  have sorted : Text.sortOn Prod.fst aliasOfMissing.selfContained.componentSchemas =
      [("A", .reference "#/components/schemas/Missing")] :=
    Text.sortOn_eq_of_perm (List.Perm.refl _) (List.pairwise_singleton _ _)
  constructor
  · rw [schemasBody?_eq, sorted]
    decide
  · decide

end Modules
end OpenApiTypes
