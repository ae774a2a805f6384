import TextCoordinates.Text.Basic

/-!
# JSON values

Numbers keep the notation they are written in: an integer is exact at any size,
and a number with a fraction or an exponent has a sign, a mantissa and a power of
ten, so that a zero keeps its sign.  An object keeps its members in the order in which
they are written.
-/

namespace TextCoordinates

inductive Json where
  | null
  | bool (value : Bool)
  | int (value : Int)
  /-- The number `mantissa * 10 ^ exponent` with its sign. -/
  | decimal (negative : Bool) (mantissa : Nat) (exponent : Int)
  | string (text : Text)
  | array (items : List Json)
  | object (members : List (Text × Json))

namespace Json

/-- The name by which a message calls a value's kind. -/
def kindName : Json → Text
  | null => "NoneType"
  | bool _ => "bool"
  | int _ => "int"
  | decimal _ _ _ => "float"
  | string _ => "str"
  | array _ => "list"
  | object _ => "dict"

/-!
## Views

Each view answers for one kind of value and is empty for every other kind.  When
an object names a member twice, the last one counts.
-/

def bool? : Json → Option Bool
  | bool value => some value
  | _ => none

def int? : Json → Option Int
  | int value => some value
  | _ => none

def text? : Json → Option Text
  | string text => some text
  | _ => none

def items? : Json → Option (List Json)
  | array items => some items
  | _ => none

def member? (name : Text) : Json → Option Json
  | object members => (members.reverse.find? (·.1 = name)).map (·.2)
  | _ => none

end Json
end TextCoordinates
