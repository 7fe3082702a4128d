import Snippet.Number.Double

namespace Snippet.Data

open Number (Double FiniteDouble)

/-- A JSON value. An object keeps its fields in the order they are written. A number is a whole number
or a finite float, since JSON has no text for any other. -/
inductive Value where
  | null
  | bool (value : Bool)
  | int (value : Int)
  | float (value : FiniteDouble)
  | string (value : String)
  | array (elements : List Value)
  | object (fields : List (String × Value))
deriving Repr, Inhabited

namespace Value

def lookup (name : String) :
    (fields : List (String × Value)) → Option { v : Value // sizeOf v < sizeOf fields }
  | [] => none
  | (key, value) :: rest =>
    if key = name then some ⟨value, by simp; omega⟩
    else (lookup name rest).map fun ⟨v, h⟩ => ⟨v, by simp; omega⟩

/-- A field of an object; every part of a value is smaller than the value. -/
def field? (name : String) : (value : Value) → Option { v : Value // sizeOf v < sizeOf value }
  | object fields => (lookup name fields).map fun ⟨v, h⟩ => ⟨v, by simp; omega⟩
  | _ => none

def elementsBelow (bound : Nat) : (elements : List Value) → sizeOf elements < bound →
    List { v : Value // sizeOf v < bound }
  | [], _ => []
  | v :: rest, h =>
    ⟨v, by simp at h; omega⟩ :: elementsBelow bound rest (by simp at h; omega)

def elements? : (value : Value) → Option (List { v : Value // sizeOf v < sizeOf value })
  | array elements => some (elementsBelow _ elements (by simp))
  | _ => none

/-- The only field of an object that has one, as a tag with what it carries. -/
def tagged? : (value : Value) → Option (String × { v : Value // sizeOf v < sizeOf value })
  | object [(tag, v)] => some (tag, ⟨v, by simp; omega⟩)
  | _ => none

def string? : Value → Option String
  | string value => some value
  | _ => none

def bool? : Value → Option Bool
  | bool value => some value
  | _ => none

def int? : Value → Option Int
  | int value => some value
  | _ => none

/-- A number where a float is asked for. A whole number stands for the float nearest to it. -/
def double? : Value → Option Double
  | float value => some value.val
  | int value => some (.ofInt value)
  | _ => none

/-- A float as a number, or null if it is not finite. -/
def ofDouble (x : Double) : Value := if h : x.isFinite = true then float ⟨x, h⟩ else null

def isNull : Value → Bool
  | null => true
  | _ => false

def isObject : Value → Bool
  | object _ => true
  | _ => false

/-- A record's field that may be absent or null. -/
def optionalField? (name : String) (value : Value) :
    Option { v : Value // sizeOf v < sizeOf value } :=
  (value.field? name).filter fun v => !v.1.isNull

def ofOption (encode : α → Value) : Option α → Value
  | none => null
  | some a => encode a

end Value

end Snippet.Data
