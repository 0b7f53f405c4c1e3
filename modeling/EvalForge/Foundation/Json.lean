import Mathlib.Data.Rat.Defs
import Mathlib.Data.List.Infix

/-! # JSON values and Python text

The values that the application stores in its JSON columns, as `json.loads`
builds them, and the two text operations that the modelled code applies to
them. Floats are exact: a float is the rational number it denotes.
-/

namespace EvalForge

inductive Json where
  | null
  | bool (value : Bool)
  | int (value : Int)
  | float (value : Rat)
  | str (text : String)
  | list (items : List Json)
  | dict (fields : List (String × Json))

namespace Json

/-- The value a dictionary holds under `key`. Other values have no keys. -/
def find? (key : String) : Json → Option Json
  | .dict fields => fields.lookup key
  | _ => none

/-- `value.get(key, default)`. -/
def get (value : Json) (key : String) (default : Json) : Json :=
  (value.find? key).getD default

/-- `isinstance(value, dict)`. -/
def isDict : Json → Bool
  | .dict _ => true
  | _ => false

/-- `bool(value)`. -/
def isTruthy : Json → Bool
  | .null => false
  | .bool value => value
  | .int value => value != 0
  | .float value => value != 0
  | .str text => text != ""
  | .list items => !items.isEmpty
  | .dict fields => !fields.isEmpty

/-- `type(value).__name__`. -/
def typeName : Json → String
  | .null => "NoneType"
  | .bool _ => "bool"
  | .int _ => "int"
  | .float _ => "float"
  | .str _ => "str"
  | .list _ => "list"
  | .dict _ => "dict"

end Json

namespace PythonText

/-- `str.lower` on one character, exact on the ASCII letters of the result.
Outside ASCII only the Kelvin sign and the dotted capital I lower to text that
holds an ASCII letter; every other such character is kept, since the code
looks for ASCII text only. -/
def lowerChar (char : Char) : List Char :=
  if char = Char.ofNat 0x212A then ['k']
  else if char = Char.ofNat 0x130 then ['i', Char.ofNat 0x307]
  else [char.toLower]

def lower (text : String) : List Char := text.toList.flatMap lowerChar

/-- `part in text`. -/
def contains (part : String) (text : List Char) : Bool :=
  decide (part.toList <:+: text)

/-- `any(part in text for part in parts)`. -/
def containsAny (parts : List String) (text : List Char) : Bool :=
  parts.any fun part => contains part text

/-- `str.isspace` on one character. -/
def isSpace (char : Char) : Bool :=
  [0x09, 0x0A, 0x0B, 0x0C, 0x0D, 0x1C, 0x1D, 0x1E, 0x1F, 0x20, 0x85, 0xA0, 0x1680,
    0x2000, 0x2001, 0x2002, 0x2003, 0x2004, 0x2005, 0x2006, 0x2007, 0x2008, 0x2009,
    0x200A, 0x2028, 0x2029, 0x202F, 0x205F, 0x3000].contains char.toNat

/-- `text.strip()`. -/
def strip (text : String) : String :=
  String.ofList (((text.toList.dropWhile isSpace).reverse.dropWhile isSpace).reverse)

/-- `text[:limit]`. -/
def truncate (limit : Nat) (text : String) : String :=
  String.ofList (text.toList.take limit)

end PythonText

/-- An exception the modelled code catches, by what `str(exc)` gives. -/
structure PythonException where
  message : String

/-- The items a `for` loop over the value visits. -/
def Json.iterate : Json → Except PythonException (List Json)
  | .list items => .ok items
  | .dict fields => .ok (fields.map fun field => .str field.1)
  | .str text => .ok (text.toList.map fun char => .str (String.ofList [char]))
  | value => .error ⟨s!"'{value.typeName}' object is not iterable"⟩

end EvalForge
