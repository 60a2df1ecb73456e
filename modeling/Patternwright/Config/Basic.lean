import Patternwright.Value.Elements

/-!
# Configurations

A configuration gives every field a value. It is made from a document, whose keys are names or
aliases of fields, or from a list of changes, whose keys are names; fields without a value of their
own keep the one they had. Fields with a list take the items of a list or the keys of an object.

Values are kept as they are given: nothing but the list fields insists on a kind.

## Main definitions

* `Config`, `Config.default` — configurations, and the one of an empty document
* `Config.get`, `Config.set` — the value of a field
* `Config.overlay` — a configuration with changes
* `Config.ofDocument` — the configuration of a document
* `Config.toValue` — the document of a configuration
* `Config.isSame` — equality of all fields
-/

namespace Patternwright

/-- The values of all fields. -/
structure Config where
  scalar : Scalar → Value
  list : ListField → List Value

/-- A field and the value that it is given. -/
abbrev Change := Field × Value

/-- The items of a value that stands for a list. A text is no list of its characters here. -/
def ListField.items (field : ListField) : Value → Except Error (List Value)
  | .text _ => .error (.textForList field)
  | v => v.elements

/-- The value of a field in the absence of any other. -/
def Scalar.default : Scalar → Value
  | custom => .text ""
  | minLength | maxLength | exactRepetitions | minRepetitions | maxRepetitions => .null
  | opening | closing | dateFormat | timeFormat => .null
  | digits | letters | whitespace | special | arabic => .bool false
  | caseInsensitive | multiLine | dotAll | shape _ => .bool false

/-- The last value that changes give a field. -/
def lastChange? (field : Field) (changes : List Change) : Option Value :=
  (changes.reverse.find? fun change => change.1 = field).map (·.2)

namespace Config

/-- The configuration in which every field has its default. -/
def default : Config := ⟨Scalar.default, fun _ => []⟩

instance : Inhabited Config := ⟨default⟩

/-- The value of a field. -/
def get (config : Config) : Field → Value
  | .scalar field => config.scalar field
  | .list field => .list (config.list field)

/-- A switch of the configuration is on. -/
def isOn (config : Config) (field : Scalar) : Bool := (config.scalar field).isTruthy

/-- The configuration with another value in a field that has one value. -/
def setScalar (config : Config) (field : Scalar) (value : Value) : Config :=
  { config with scalar := fun f => if f = field then value else config.scalar f }

/-- The configuration with other values in a field that has a list. -/
def setList (config : Config) (field : ListField) (items : List Value) : Config :=
  { config with list := fun f => if f = field then items else config.list f }

/-- The configuration with the last value that changes give to each field with one value. -/
def overlayScalars (config : Config) (changes : List Change) : Config :=
  { config with
    scalar := fun field => (lastChange? (.scalar field) changes).getD (config.scalar field) }

/-- The configuration with the last value that changes give to each of some list fields. The first
field whose value is no list is an error. -/
def overlayLists (config : Config) (changes : List Change) :
    List ListField → Except Error Config
  | [] => .ok config
  | field :: fields =>
    match lastChange? (.list field) changes with
    | none => config.overlayLists changes fields
    | some value => do (config.setList field (← field.items value)).overlayLists changes fields

/-- The configuration with the last value that changes give to each field. -/
def overlay (config : Config) (changes : List Change) : Except Error Config :=
  (config.overlayScalars changes).overlayLists changes ListField.all

/-- The changes that names and values ask for. -/
def changesOfNames (pairs : List (String × Value)) : Except Error (List Change) :=
  pairs.mapM fun (name, value) =>
    match Field.ofName? name with
    | some field => .ok (field, value)
    | none => .error (.unknownField name)

/-- The changes that the members of a document ask for. -/
def changesOfKeys (members : List (String × Value)) : Except Error (List Change) :=
  members.mapM fun (key, value) =>
    match Field.ofKey? key with
    | some field => .ok (field, value)
    | none => .error (.unknownKey key)

/-- The configuration with values for some names of fields. -/
def replace (config : Config) (pairs : List (String × Value)) : Except Error Config := do
  config.overlay (← changesOfNames pairs)

/-- The configuration that the members of a document describe. -/
def ofMembers (members : List (String × Value)) : Except Error Config := do
  default.overlay (← changesOfKeys members)

/-- The configuration that a document describes. -/
def ofDocument : Value → Except Error Config
  | .object members => ofMembers members
  | _ => .error .notAnObject

/-- The document of a configuration: all fields under their names. -/
def toValue (config : Config) : Value :=
  .object (Field.all.map fun field => (field.name, config.get field))

/-- Two configurations have the same values. -/
def isSame (config other : Config) : Bool :=
  Field.all.all fun field => (config.get field).isSame (other.get field)

end Config

end Patternwright
