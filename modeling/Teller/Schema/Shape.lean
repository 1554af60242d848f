/-!
# Shapes of documents

The program reads three kinds of document: a session record, a payment and its own settings. A
`Shape` says what such a document looks like, whatever notation it is written in.

* `Shape`, `Fields`: what a value must be, and the members of an object.
* `Shape.Carrier`: the type of the values of a shape. An object's members are all optional here; the
  type that the object stands for supplies what is missing.
* `Fields.none`: the object with no member given.
-/

namespace Teller.Schema

/-- A moment as a backend sends it: milliseconds since 1970, or a text. -/
inductive Timestamp where
  | millis (n : Int64)
  | text (s : String)
deriving DecidableEq, Repr

/-- A member of an object: its name, the names that also stand for it, and whether it must be
given. -/
structure Field where
  name : String
  aliases : List String := []
  required : Bool := false
deriving DecidableEq, Repr

/-- The names that stand for a member. -/
def Field.names (f : Field) : List String := f.name :: f.aliases

mutual

/-- What a value must be. -/
inductive Shape where
  /-- Any text. -/
  | text
  /-- True or false. -/
  | flag
  /-- An unsigned number of 64 bits; messages call its type by the given name. -/
  | count (typeName : String)
  /-- A number of milliseconds or a text. -/
  | timestamp
  /-- One of some words. -/
  | word (choices : List String)
  /-- The shape, or nothing. -/
  | optional (inner : Shape)
  /-- An object; messages call its type by the given name. -/
  | object (typeName : String) (fields : Fields)

/-- The members of an object, in the order in which an array lists them. -/
inductive Fields where
  | nil
  | cons (field : Field) (shape : Shape) (rest : Fields)

end

mutual

/-- The values of a shape. -/
def Shape.Carrier : Shape → Type
  | .text => String
  | .flag => Bool
  | .count _ => UInt64
  | .timestamp => Timestamp
  | .word choices => Fin choices.length
  | .optional inner => Option inner.Carrier
  | .object _ fields => fields.Carrier

/-- The members given for an object. -/
def Fields.Carrier : Fields → Type
  | .nil => Unit
  | .cons _ shape rest => Option shape.Carrier × rest.Carrier

end

/-- A member that may be missing or nothing, in front of others. -/
def Fields.unset (name : String) (shape : Shape) (rest : Fields) : Fields :=
  .cons ⟨name, [], false⟩ (.optional shape) rest

/-- No member given. -/
def Fields.none : (fields : Fields) → fields.Carrier
  | .nil => ()
  | .cons _ _ rest => (Option.none, rest.none)

/-- The number of members. -/
def Fields.length : Fields → Nat
  | .nil => 0
  | .cons _ _ rest => rest.length + 1

/-- The first member that must be given and is not. -/
def Fields.missing? : (fields : Fields) → fields.Carrier → Option Field
  | .nil, _ => Option.none
  | .cons field _ rest, (slot, others) =>
    if field.required && slot.isNone then some field else rest.missing? others

/-- What messages say was wanted. -/
def Shape.wanted : Shape → String
  | .text => "a string"
  | .flag => "a boolean"
  | .count typeName => typeName
  | .timestamp => "a timestamp"
  | .word _ => "a word"
  | .optional inner => inner.wanted
  | .object typeName _ => "struct " ++ typeName

end Teller.Schema
