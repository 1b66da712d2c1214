import TemplateServico.Json

/-! The user record and the payload that asks for a new one. -/

set_option autoImplicit false

namespace TemplateServico

/-- A UUID, by the hyphenated text that it is displayed and serialized as. -/
@[ext] structure Uuid where
  hyphenated : String
  deriving DecidableEq, Repr

/-- A point in time, by its RFC 3339 text. The service only passes these on. -/
structure DateTime where
  rfc3339 : String
  deriving DecidableEq, Repr

structure User where
  id : Uuid
  name : String
  email : String
  createdAt : DateTime
  updatedAt : DateTime
  deriving DecidableEq, Repr

structure CreateUserPayload where
  name : String
  email : String
  deriving DecidableEq, Repr

def User.toJson (user : User) : Json :=
  .obj [("id", .str user.id.hyphenated), ("name", .str user.name), ("email", .str user.email),
    ("created_at", .str user.createdAt.rfc3339), ("updated_at", .str user.updatedAt.rfc3339)]

theorem User.toJson_injective : Function.Injective User.toJson := by
  intro first second same
  obtain ⟨⟨id⟩, name, email, ⟨created⟩, ⟨updated⟩⟩ := first
  obtain ⟨⟨id'⟩, name', email', ⟨created'⟩, ⟨updated'⟩⟩ := second
  simp only [toJson, Json.obj.injEq, List.cons.injEq, Prod.mk.injEq, Json.str.injEq, true_and,
    and_true] at same
  obtain ⟨sameId, sameName, sameEmail, sameCreated, sameUpdated⟩ := same
  subst sameId sameName sameEmail sameCreated sameUpdated
  rfl

end TemplateServico
