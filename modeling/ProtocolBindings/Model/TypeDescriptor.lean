import ProtocolBindings.Text.Basic

/-!
# Type descriptors

A type descriptor says what kind of value a property, an argument or a result
holds.  All descriptors share one set of fields; the smart constructors below
fill in those that the kind calls for.
-/

namespace ProtocolBindings.Model

/-- The kinds of descriptors. -/
inductive TypeKind where
  | primitive
  /-- A definition of the schema. -/
  | reference
  | array
  | map
  | union
  /-- An enumeration synthesized for a fragment. -/
  | inlineEnum
  /-- A record synthesized for a fragment. -/
  | anonymousObject
  /-- Any value at all. -/
  | any
  /-- No value. -/
  | void
deriving DecidableEq, Repr

/-- The scalar types. -/
inductive PrimitiveType where
  | string
  | integer
  | number
  | boolean
deriving DecidableEq, Repr

/-- A resolved type. -/
structure TypeDescriptor where
  kind : TypeKind := .any
  /-- The scalar type of a primitive. -/
  primitive : Option PrimitiveType := none
  /-- The entity named by a reference, an inline enumeration or a record. -/
  name : Text := ""
  /-- The element of an array, key and value of a map, members of a union. -/
  arguments : List TypeDescriptor := []
  /-- Whether null, or no value at all, is admitted. -/
  nullable : Bool := false
  /-- The open enumeration that documents the values of a text. -/
  openEnum : Option Text := none
deriving Repr

namespace TypeDescriptor

/-- The same type with a given nullability. -/
def withNullable (descriptor : TypeDescriptor) (nullable : Bool) : TypeDescriptor :=
  { descriptor with nullable := nullable }

/-- Any value. -/
def any : TypeDescriptor := { kind := .any }

/-- No value. -/
def void : TypeDescriptor := { kind := .void }

/-- A scalar. -/
def scalar (type : PrimitiveType) (nullable : Bool) : TypeDescriptor :=
  { kind := .primitive, primitive := some type, nullable := nullable }

/-- A text whose suggested values are those of an open enumeration. -/
def suggestedText (openEnum : Text) (nullable : Bool) : TypeDescriptor :=
  { kind := .primitive, primitive := some .string, nullable := nullable,
    openEnum := some openEnum }

/-- A definition of the schema. -/
def reference (name : Text) (nullable : Bool) : TypeDescriptor :=
  { kind := .reference, name := name, nullable := nullable }

/-- An enumeration synthesized for a fragment. -/
def inlineEnum (name : Text) (nullable : Bool) : TypeDescriptor :=
  { kind := .inlineEnum, name := name, nullable := nullable }

/-- A record synthesized for a fragment. -/
def anonymousObject (name : Text) (nullable : Bool) : TypeDescriptor :=
  { kind := .anonymousObject, name := name, nullable := nullable }

/-- An array. -/
def arrayOf (element : TypeDescriptor) (nullable : Bool) : TypeDescriptor :=
  { kind := .array, arguments := [element], nullable := nullable }

/-- A mapping of texts to values. -/
def mapOf (value : TypeDescriptor) (nullable : Bool) : TypeDescriptor :=
  { kind := .map, arguments := [scalar .string false, value], nullable := nullable }

/-- One of several scalars. -/
def unionOf (members : List PrimitiveType) (nullable : Bool) : TypeDescriptor :=
  { kind := .union, arguments := members.map (scalar · false), nullable := nullable }

end TypeDescriptor

end ProtocolBindings.Model
