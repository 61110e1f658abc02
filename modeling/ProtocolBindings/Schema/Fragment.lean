import ProtocolBindings.Json.Basic

/-!
# Parsed schemas

A schema is a list of definitions.  The body of a definition and the types of
its properties are fragments, in which references are not yet resolved.  Every
fragment knows its place: the path by which messages name it, and its
description, which may be any JSON value.
-/

namespace ProtocolBindings.Schema

/-- The path and the description of a fragment. -/
structure Place where
  path : Text
  description : Json
deriving DecidableEq, Repr

/-- A reference as it is written. -/
structure Link where
  place : Place
  target : Json
deriving DecidableEq, Repr

/-- The values of an enumeration and their descriptions, position by position.
The values of an open enumeration are only suggestions. -/
structure Enumeration where
  place : Place
  values : List Text
  descriptions : List Json
  isOpen : Bool
deriving DecidableEq, Repr

/-- A property whose type is described by a fragment of type `τ`, if at all. -/
structure Property (τ : Type) where
  place : Place
  name : Text
  required : Bool
  fragment : Option τ

/-- What an object admits beside its declared properties. -/
inductive Additional (τ : Type) where
  | unstated
  | anything
  | described (fragment : τ)

/-- An object: its properties, and whether it declares any mapping of them. -/
structure ObjectShape (τ : Type) where
  place : Place
  properties : List (Property τ)
  declared : Bool
  additional : Additional τ

/-- A piece of a schema that describes a type. -/
inductive Fragment where
  /-- A named scalar type; no usable type is the empty text. -/
  | primitive (place : Place) (typeName : Json)
  | enumeration (values : Enumeration)
  /-- A list of type names. -/
  | typeList (place : Place) (types : List Json)
  | reference (link : Link)
  | array (place : Place) (items : Option Fragment)
  | object (shape : ObjectShape Fragment)
  /-- A base together with an extension, each of which may be missing.  A composition
  that is read has a reference as its base and an object as its extension. -/
  | composition (place : Place) (base extension : Option Fragment)

/-- The place of a fragment. -/
def Fragment.place : Fragment → Place
  | .primitive place _ => place
  | .enumeration values => values.place
  | .typeList place _ => place
  | .reference link => link.place
  | .array place _ => place
  | .object shape => shape.place
  | .composition place _ _ => place

/-- The first property of a name. -/
def ObjectShape.property? (shape : ObjectShape Fragment) (name : Text) :
    Option (Property Fragment) :=
  shape.properties.find? fun property => property.name = name

/-- A named entry of a schema. -/
structure Definition where
  name : Text
  place : Place
  body : Option Fragment

/-- The first definition of a name. -/
def definition? (definitions : List Definition) (name : Text) : Option Definition :=
  definitions.find? fun definition => definition.name = name

end ProtocolBindings.Schema
