import TypedCollections.Entries
import TypedCollections.Number.Binary64
/-!
# JSON values

The tree of a JSON text. Objects keep the order of their members. A number is an integer of at most
64 bits or a finite binary number, and keeps that difference.
-/

namespace TypedCollections

/-- A number of a JSON text: an integer between `-2 ^ 63` and `2 ^ 64 - 1`, or a finite binary
number. -/
inductive Numeral where
  | integer (value : Int)
  | binary (value : Number.Finite)
deriving DecidableEq

/-- The binary number nearest to a numeral. -/
def Numeral.toNumber : Numeral → Number
  | .integer value => Number.ofInt value
  | .binary value => .finite value

inductive Json where
  | null
  | bool (value : Bool)
  | number (value : Numeral)
  | string (value : String)
  | array (items : List Json)
  | object (members : List (String × Json))
deriving Inhabited

namespace Json

/-- The integer as a JSON value. -/
def ofNat (value : Nat) : Json := .number (.integer value)

def bool? : Json → Option Bool
  | .bool value => some value
  | _ => none

def string? : Json → Option String
  | .string value => some value
  | _ => none

/-- The number as a binary number, if it is a number. -/
def number? : Json → Option Number
  | .number value => some value.toNumber
  | _ => none

/-- The number as a natural number, if it was written as one. -/
def nat? : Json → Option Nat
  | .number (.integer value) => if 0 ≤ value then some value.toNat else none
  | _ => none

def array? : Json → Option (List Json)
  | .array items => some items
  | _ => none

def object? : Json → Option (List (String × Json))
  | .object members => some members
  | _ => none

/-- The value under a name, if it is an object that has one. -/
def member? (json : Json) (name : String) : Option Json :=
  json.object?.bind fun members => Entries.find? members name

mutual

/-- How deeply arrays and objects nest. -/
def depth : Json → Nat
  | .array items => depthList items + 1
  | .object members => depthMembers members + 1
  | _ => 0

def depthList : List Json → Nat
  | [] => 0
  | item :: rest => max (depth item) (depthList rest)

def depthMembers : List (String × Json) → Nat
  | [] => 0
  | (_, value) :: rest => max (depth value) (depthMembers rest)

end

mutual

/-- Settles repeated names at every level: the place of the first and the value of the last. -/
def settle : Json → Json
  | .array items => .array (settleList items)
  | .object members => .object (Entries.ofList (settleMembers members))
  | other => other

def settleList : List Json → List Json
  | [] => []
  | item :: rest => settle item :: settleList rest

def settleMembers : List (String × Json) → List (String × Json)
  | [] => []
  | (name, value) :: rest => (name, settle value) :: settleMembers rest

end

end Json

end TypedCollections
