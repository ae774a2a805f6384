import TextCoordinates.Json.Basic
import TextCoordinates.Json.Quoted
import TextCoordinates.Text.Decimal

/-!
# Writing JSON

A value is written on one line, with a blank after every comma and colon that
separates items, members, or a name and its value.
-/

namespace TextCoordinates
namespace Json

def comma : Text := ", "

def colon : Text := ": "

def sign (negative : Bool) : Text :=
  if negative then ['-'] else []

mutual

def print : Json → Text
  | null => "null"
  | bool true => "true"
  | bool false => "false"
  | int value => Text.Decimal.ofInt value
  | decimal negative mantissa exponent =>
      sign negative ++ Text.Decimal.ofNat mantissa ++ 'e' :: Text.Decimal.ofInt exponent
  | string text => Quoted.write text
  | array items => '[' :: printItems items ++ [']']
  | object members => '{' :: printMembers members ++ ['}']

def printItems : List Json → Text
  | [] => []
  | [item] => print item
  | item :: next :: rest => print item ++ comma ++ printItems (next :: rest)

def printMembers : List (Text × Json) → Text
  | [] => []
  | [(name, value)] => Quoted.write name ++ colon ++ print value
  | (name, value) :: next :: rest =>
      Quoted.write name ++ colon ++ print value ++ comma ++ printMembers (next :: rest)

end

@[simp] theorem printItems_nil : printItems [] = [] := by
  rw [printItems]

@[simp] theorem printItems_singleton (item : Json) : printItems [item] = print item := by
  rw [printItems]

@[simp] theorem printItems_cons_cons (item next : Json) (rest : List Json) :
    printItems (item :: next :: rest) = print item ++ comma ++ printItems (next :: rest) := by
  rw [printItems]

@[simp] theorem printMembers_nil : printMembers [] = [] := by
  rw [printMembers]

@[simp] theorem printMembers_singleton (name : Text) (value : Json) :
    printMembers [(name, value)] = Quoted.write name ++ colon ++ print value := by
  rw [printMembers]

@[simp] theorem printMembers_cons_cons (name : Text) (value : Json) (next : Text × Json)
    (rest : List (Text × Json)) :
    printMembers ((name, value) :: next :: rest) =
      Quoted.write name ++ colon ++ print value ++ comma ++ printMembers (next :: rest) := by
  rw [printMembers]

end Json
end TextCoordinates
