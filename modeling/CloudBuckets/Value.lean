import CloudBuckets.Text.Quoted
import CloudBuckets.Decimal.Layout

/-! Loosely typed values: what a caller may hand over in place of a bucket name, and what a
backend attaches to an error. -/

namespace CloudBuckets

/-- A value of one of the seven shapes of structured data; objects keep the order of their
fields, and a fraction is known by its binary64 bits. -/
inductive Value
  | null
  | truth (value : Bool)
  | whole (value : Int)
  | fraction (bits : UInt64)
  | text (value : String)
  | items (values : List Value)
  | object (fields : List (String × Value))

namespace Value

mutual

/-- The written form of a value: texts are quoted, and the three constants are capitalised. -/
def render : Value → String
  | .null => "None"
  | .truth true => "True"
  | .truth false => "False"
  | .whole n => toString n
  | .fraction bits => Decimal.write bits
  | .text s => Text.quoted s
  | .items values => "[" ++ ", ".intercalate (renderItems values) ++ "]"
  | .object fields => "\x7b" ++ ", ".intercalate (renderFields fields) ++ "\x7d"

/-- The written forms of the items of a list. -/
def renderItems : List Value → List String
  | [] => []
  | value :: rest => render value :: renderItems rest

/-- The written forms of the fields of an object. -/
def renderFields : List (String × Value) → List String
  | [] => []
  | (name, value) :: rest => (Text.quoted name ++ ": " ++ render value) :: renderFields rest

end

/-- The written form of a truth value. -/
def renderBool (value : Bool) : String :=
  render (.truth value)

/-- The written form of an optional text. -/
def renderText? : Option String → String
  | none => render .null
  | some s => render (.text s)

/-- The field of an object by its name; other values have no fields. -/
def field? (name : String) : Value → Option Value
  | .object fields => fields.lookup name
  | _ => none

end Value

end CloudBuckets
