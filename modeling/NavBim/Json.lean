import Mathlib

namespace NavBim

/-!
# JSON values

JSON values as the JSON library holds them in memory: integers and floating
point numbers are different kinds of values, and objects are looked up by key.
Conversions fail where the library throws an exception.
-/

/-- Truncation of a number to an integer. -/
class IntegerPart (K : Type) where
  integerPart : K → Int

/-- On rationals the fraction is cut off towards zero. -/
instance : IntegerPart ℚ :=
  ⟨fun value => value.num.tdiv value.den⟩

/-- A JSON value with floating point numbers from `K`, or infinite. -/
inductive Json (K : Type) where
  | null
  | bool (value : Bool)
  | int (value : Int)
  | float (value : WithTop K)
  | str (text : String)
  | arr (items : List (Json K))
  | obj (fields : List (String × Json K))

namespace Json

variable {K : Type}

/-- `contains` and `operator[]` with a key; only objects contain keys. -/
def field? : Json K → String → Option (Json K)
  | .obj fields, key => fields.lookup key
  | _, _ => none

/-- The elements of an array. -/
def items? : Json K → Option (List (Json K))
  | .arr items => some items
  | _ => none

/-- `get<std::string>`. -/
def getString : Json K → Option String
  | .str text => some text
  | _ => none

/-- `get<int>`: numbers and booleans are converted, out of range by wrapping. -/
def getInt [IntegerPart K] : Json K → Option Int32
  | .int value => some (Int32.ofInt value)
  | .bool value => some (if value then 1 else 0)
  | .float (value : K) =>
      some (Int32.ofInt (IntegerPart.integerPart value))
  | _ => none

variable [Field K]

/-- `get<double>`. -/
def getDouble : Json K → Option (WithTop K)
  | .int value => some ((value : K) : WithTop K)
  | .float value => some value
  | _ => none

/-- `get<double>` where the number is finite, as in every parsed text. -/
def getFinite (json : Json K) : Option K :=
  match json.getDouble with
  | some (value : K) => some value
  | _ => none

/-- A finite number. -/
def number (value : K) : Json K :=
  .float (value : WithTop K)

end Json

/-- Read the field of an object if it is there, and keep a default otherwise. -/
def readField
    {K α : Type}
    (json : Json K)
    (key : String)
    (read : Json K → Option α)
    (default : α) : Option α :=
  match json.field? key with
  | none => some default
  | some value => read value

/-- A field that is written only if there is a value. -/
def optionalField
    {K : Type}
    (key : String) : Option (Json K) → List (String × Json K)
  | none => []
  | some value => [(key, value)]

namespace Json

section Fields

variable {K : Type}

@[simp] theorem field?_obj
    (fields : List (String × Json K))
    (key : String) :
    (Json.obj fields).field? key = fields.lookup key :=
  rfl

@[simp] theorem lookup_optionalField
    (name key : String)
    (value : Option (Json K)) :
    (optionalField name value).lookup key =
      if key == name then value else none := by
  cases value with
  | none =>
      simp [optionalField]
  | some value =>
      simp only [optionalField, List.lookup_cons, List.lookup_nil]
      split <;> simp_all

@[simp] theorem readField_of_lookup
    {α : Type}
    (fields : List (String × Json K))
    (key : String)
    (read : Json K → Option α)
    (default : α) :
    readField (.obj fields) key read default =
      ((fields.lookup key).map read).getD (some default) := by
  simp only [readField, field?_obj]
  cases fields.lookup key <;> rfl

end Fields

section Numbers

variable {K : Type}

@[simp] theorem getString_str
    (text : String) :
    (Json.str text : Json K).getString = some text :=
  rfl

@[simp] theorem getInt_int [IntegerPart K]
    (value : Int32) :
    (Json.int value.toInt : Json K).getInt = some value := by
  simp [getInt, Int32.ofInt_toInt]

variable [Field K]

@[simp] theorem getDouble_float
    (value : WithTop K) :
    (Json.float value).getDouble = some value :=
  rfl

@[simp] theorem getFinite_number
    (value : K) :
    (Json.number value).getFinite = some value :=
  rfl

end Numbers

end Json

end NavBim
