import TroffTable.Binary64
import TroffTable.Moment
import TroffTable.Text.Quoted

/-! Values of any type, as configuration files and option settings hold them. -/

namespace TroffTable

/-- An object of any other class, as far as it is looked at. Two of them are equal if they
cannot be told apart by that. -/
structure OtherObject where
  typeName : String
  /-- How the object is shown in messages. -/
  shown : List Char
  /-- The object as plain text. -/
  plain : List Char := shown
  truthy : Bool := true
  /-- Whether it can be the key of a map. -/
  isKey : Bool := true
deriving DecidableEq

inductive Value where
  | null
  | bool (b : Bool)
  | int (n : Int)
  | float (x : Binary64)
  | string (s : List Char)
  | bytes (data : List UInt8)
  | moment (m : Moment)
  | list (items : List Value)
  | pair (first second : Value)
  /-- Different items, in the order in which they were first given. -/
  | set (items : List Value)
  /-- Entries in the order in which their keys were first given. -/
  | map (entries : List (Value × Value))
  /-- A collection that is inside of itself, in that place: a map or a list. -/
  | cycle ( isMap : Bool)
  | other (o : OtherObject)

def Value.typeName : Value → String
  | .null => "NoneType"
  | .bool _ => "bool"
  | .int _ => "int"
  | .float _ => "float"
  | .string _ => "str"
  | .bytes _ => "bytes"
  | .moment m => m.typeName
  | .list _ => "list"
  | .pair _ _ => "tuple"
  | .set _ => "set"
  | .map _ => "dict"
  | .cycle isMap => if isMap then "dict" else "list"
  | .other o => o.typeName

/-- Whether a value counts as set when it is used as a flag. -/
def Value.truthy : Value → Bool
  | .null => false
  | .bool b => b
  | .int n => n != 0
  | .float x => !x.isZero
  | .string s => !s.isEmpty
  | .bytes data => !data.isEmpty
  | .list items | .set items => !items.isEmpty
  | .map entries => !entries.isEmpty
  | .moment _ | .pair _ _ | .cycle _ => true
  | .other o => o.truthy

def intText (n : Int) : List Char :=
  (toString n).toList

def commaSeparated (items : List (List Char)) : List Char :=
  (items.intersperse [',', ' ']).flatten

mutual

/-- A value as it is shown in messages, with strings quoted. -/
def Value.shown : Value → List Char
  | .null => ['N', 'o', 'n', 'e']
  | .bool true => ['T', 'r', 'u', 'e']
  | .bool false => ['F', 'a', 'l', 's', 'e']
  | .int n => intText n
  | .float x => x.text
  | .string s => quoted s
  | .bytes data => quotedBytes data
  | .moment m => m.shown.toList
  | .list items => '[' :: (commaSeparated (Value.shownItems items) ++ [']'])
  | .pair first second => '(' :: (commaSeparated [first.shown, second.shown] ++ [')'])
  | .set [] => ['s', 'e', 't', '(', ')']
  | .set items => '\x7b' :: (commaSeparated (Value.shownItems items) ++ ['\x7d'])
  | .map entries => '\x7b' :: (commaSeparated (Value.shownEntries entries) ++ ['\x7d'])
  | .cycle true => ['\x7b', '.', '.', '.', '\x7d']
  | .cycle false => ['[', '.', '.', '.', ']']
  | .other o => o.shown

def Value.shownItems : List Value → List (List Char)
  | [] => []
  | v :: items => v.shown :: Value.shownItems items

def Value.shownEntries : List (Value × Value) → List (List Char)
  | [] => []
  | (k, v) :: entries => (k.shown ++ ':' :: ' ' :: v.shown) :: Value.shownEntries entries

end

/-- A value as plain text: a string stands for itself, and a moment is written as on a
calendar and a clock. -/
def Value.plain : Value → List Char
  | .string s => s
  | .moment m => m.text.toList
  | .other o => o.plain
  | v => v.shown

mutual

/-- Whether a number with too many digits to be written is in a value. -/
def Value.hasLongNumber : Value → Bool
  | .int n => isLongNumber n
  | .list items | .set items => Value.anyLongNumber items
  | .pair first second => first.hasLongNumber || second.hasLongNumber
  | .map entries => Value.anyLongEntry entries
  | _ => false

def Value.anyLongNumber : List Value → Bool
  | [] => false
  | v :: items => v.hasLongNumber || Value.anyLongNumber items

def Value.anyLongEntry : List (Value × Value) → Bool
  | [] => false
  | (k, v) :: entries => k.hasLongNumber || v.hasLongNumber || Value.anyLongEntry entries

end

/-- A truth value counts as a number, one or zero. -/
inductive Numeric where
  | int (n : Int)
  | float (x : Binary64)

def Value.numeric? : Value → Option Numeric
  | .bool b => some (.int (if b then 1 else 0))
  | .int n => some (.int n)
  | .float x => some (.float x)
  | _ => none

def Numeric.equal : Numeric → Numeric → Bool
  | .int m, .int n => m == n
  | .int m, .float x => x.toInt? == some m
  | .float x, .int n => x.toInt? == some n
  | .float x, .float y => x.equal y

/-- The whole number that a value is equal to, if there is one. -/
def Value.toInt? (v : Value) : Option Int :=
  match v.numeric? with
  | some (.int n) => some n
  | some (.float x) => x.toInt?
  | none => none

/-- Whether two numbers are equal, or neither value is a number and `other` holds. -/
def Value.equalNumbers (v w : Value) (other : Bool) : Bool :=
  match v.numeric?, w.numeric? with
  | some m, some n => m.equal n
  | none, none => other
  | _, _ => false

mutual

/-- Equality of values: numbers by their value, lists item by item, and sets and maps in
any order. -/
def Value.equal : Value → Value → Bool
  | .null, .null => true
  | .string s, .string t => s == t
  | .bytes s, .bytes t => s == t
  | .moment m, .moment m' => m.same m'
  | .list xs, .list ys => Value.equalItems xs ys
  | .pair v w, .pair v' w' => v.equal v' && w.equal w'
  | .set xs, .set ys => xs.length == ys.length && Value.allIn xs ys
  | .map xs, .map ys => xs.length == ys.length && Value.includedIn xs ys
  | .cycle isMap, .cycle isMap' => isMap == isMap'
  | .other o, .other o' => o == o'
  | v, w => v.equalNumbers w false

def Value.equalItems : List Value → List Value → Bool
  | [], [] => true
  | v :: vs, w :: ws => v.equal w && Value.equalItems vs ws
  | _, _ => false

def Value.allIn : List Value → List Value → Bool
  | [], _ => true
  | v :: xs, ys => ys.any (fun w => v.equal w) && Value.allIn xs ys

def Value.includedIn : List (Value × Value) → List (Value × Value) → Bool
  | [], _ => true
  | (k, v) :: xs, ys =>
    ys.any (fun (k', v') => k.equal k' && v.equal v') && Value.includedIn xs ys

end

def Value.isKey : Value → Bool
  | .list _ | .set _ | .map _ | .cycle _ => false
  | .pair first second => first.isKey && second.isKey
  | .other o => o.isKey
  | _ => true

/-- Sets a key. A key that is there already keeps its place. -/
def insertEntry {α : Type} (key : Value) (value : α) : List (Value × α) → List (Value × α)
  | [] => [(key, value)]
  | (k, v) :: entries =>
    if k.equal key then (k, value) :: entries else (k, v) :: insertEntry key value entries

def lookupKey? (key : List Char) : List (Value × Value) → Option Value
  | [] => none
  | (k, v) :: entries => if k.equal (.string key) then some v else lookupKey? key entries

end TroffTable
