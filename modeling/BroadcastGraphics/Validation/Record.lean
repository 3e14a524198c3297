import BroadcastGraphics.Json.Name
import BroadcastGraphics.Validation.Scalar

/-!
# Checks of records

A record is read from an object.  Each of its fields has the name under which it is written and
the name by which it may also be given; when both are present the first one counts and the second
is an ordinary further member.
-/

namespace BroadcastGraphics

/-- The two names of a field of a record. -/
structure Field where
  writtenName : String
  givenName : String
  deriving DecidableEq, Repr

namespace Field

/-- A field that has one name only. -/
def plain (name : String) : Field := ⟨name, name⟩

/-- The member that holds a field, with the name under which it was found. -/
def find? (field : Field) (members : Table Json) : Option (String × Json) :=
  match Table.get? members field.writtenName with
  | some value => some (field.writtenName, value)
  | none => (Table.get? members field.givenName).map fun value => (field.givenName, value)

/-- Read a field that has to be there. -/
def required {α : Type} (field : Field) (check : Json -> Checked α) (members : Table Json) :
    Checked α :=
  match field.find? members with
  | some (name, value) => (check value).under (.member name)
  | none => .refused [⟨[.member field.writtenName], .missing⟩]

/-- Read a field that has a default. -/
def withDefault {α : Type} (field : Field) (default : α) (check : Json -> Checked α)
    (members : Table Json) : Checked α :=
  match field.find? members with
  | some (name, value) => (check value).under (.member name)
  | none => .accepted default

/-- The members that hold none of the fields, in their order. -/
def further (fields : List Field) (members : Table Json) : Table Json :=
  members.filter fun member =>
    !fields.any fun field => (field.find? members).map Prod.fst == some member.1

/-- Rename the members that carry the written name of a field to the given one; of two members
that come to the same name the later value stays at the place of the earlier. -/
def byGivenName (fields : List Field) (members : Table Json) : Table Json :=
  members.foldl (fun renamed member =>
    match fields.find? fun field => field.writtenName == member.1 with
    | some field => Table.put renamed field.givenName member.2
    | none => Table.put renamed member.1 member.2) []

end Field

namespace Check

/-- Accepted only if all names are texts; the issue of another name lies some steps behind it. -/
def textNames (behind : List Step) (cause : Cause) (members : Table Json) : Checked Unit :=
  match members.filter fun member => !Json.Name.isText member.1 with
  | [] => .accepted ()
  | others => .refused (others.map fun member =>
      ⟨.member (Json.Name.stepText member.1) :: behind, cause⟩)

/-- A record with a name of its own. -/
def record {α : Type} (name : String) (read : Table Json -> Checked α) : Json -> Checked α
  | .obj members => read members
  | _ => .refuse (.notRecord name)

end Check
end BroadcastGraphics
