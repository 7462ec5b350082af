import Findings.Json.Quoted

/-!
Contract: JSON values as they are written.

Owns:
- `Value`, a tree with members in a fixed order;
- the compact form, which has no white space;
- the indented form, with two spaces a level and empty brackets closed at
  once.

Does not own: reading; the readers make no tree.
-/

namespace Findings.Json

/-- A value to be written.  Members keep their order. -/
inductive Value where
  | null
  | integer (value : Int)
  | text (value : String)
  | list (elements : List Value)
  | object (members : List (String × Value))

namespace Value

def ofOption (value : Option Int) : Value :=
  match value with
  | some value => .integer value
  | none => .null

def integerText (value : Int) : List Char :=
  (toString value).toList

mutual

def compact : Value → List Char
  | .null => ['n', 'u', 'l', 'l']
  | .integer value => integerText value
  | .text value => quote value.toList
  | .list elements => '[' :: compactElements elements ++ [']']
  | .object members => '\x7b' :: compactMembers members ++ ['\x7d']

def compactElements : List Value → List Char
  | [] => []
  | [value] => compact value
  | value :: more => compact value ++ ',' :: compactElements more

def compactMembers : List (String × Value) → List Char
  | [] => []
  | [(name, value)] => quote name.toList ++ ':' :: compact value
  | (name, value) :: more =>
    quote name.toList ++ ':' :: compact value ++ ',' :: compactMembers more

end

def newLine (level : Nat) : List Char :=
  '\n' :: List.replicate (2 * level) ' '

mutual

/-- The indented text of a value that stands at a level. -/
def indented (level : Nat) : Value → List Char
  | .null => ['n', 'u', 'l', 'l']
  | .integer value => integerText value
  | .text value => quote value.toList
  | .list [] => ['[', ']']
  | .list elements => '[' :: indentedElements (level + 1) elements ++ newLine level ++ [']']
  | .object [] => ['\x7b', '\x7d']
  | .object members =>
    '\x7b' :: indentedMembers (level + 1) members ++ newLine level ++ ['\x7d']

def indentedElements (level : Nat) : List Value → List Char
  | [] => []
  | [value] => newLine level ++ indented level value
  | value :: more =>
    newLine level ++ indented level value ++ ',' :: indentedElements level more

def indentedMembers (level : Nat) : List (String × Value) → List Char
  | [] => []
  | [(name, value)] =>
    newLine level ++ quote name.toList ++ ':' :: ' ' :: indented level value
  | (name, value) :: more =>
    newLine level ++ quote name.toList ++ ':' :: ' ' :: indented level value
      ++ ',' :: indentedMembers level more

end

def compactText (value : Value) : String :=
  String.ofList value.compact

def indentedText (value : Value) : String :=
  String.ofList (value.indented 0)

end Value

end Findings.Json
