import TypedCollections.Number.Layout
import TypedCollections.Value
/-!
# Violations

What a document can do wrong, where, and how that is said. A place is a list of steps from the
document to a value inside it.
-/

namespace TypedCollections

/-- One step from a value to a value inside it. -/
inductive ValueStep where
  | name (name : String)
  | index (index : Nat)
deriving DecidableEq

/-- Where a value stands inside a document. -/
abbrev Place := List ValueStep

/-- The text of a place: its steps joined by dots. -/
def Place.text (place : Place) : String :=
  place.foldl (fun before step =>
      match step with
      | .name name => if before.isEmpty then name else before ++ "." ++ name
      | .index index => before ++ "." ++ toString index) ""

/-- What is wrong with a value. -/
inductive Violation where
  | required
  | valueRequired
  | reservedKey
  | keyMismatch (pattern : String)
  | wrongKind (expected : String) (found : Kind)
  | mismatch (pattern : String)
  | tooShort (least : Nat)
  | tooLong (most : Nat)
  | notAllowed
  | below (least : Number)
  | above (most : Number)
  | notAnIdentifier (text : String)
  | notAReference
  | notExpandable (found : Kind)
  | notAnObject
deriving DecidableEq

def Violation.message : Violation → String
  | .required => "field is required"
  | .valueRequired => "value is required"
  | .reservedKey => "keys starting with '$' are reserved"
  | .keyMismatch pattern => "key does not match /" ++ pattern ++ "/"
  | .wrongKind expected found => "expected " ++ expected ++ ", found " ++ found.name
  | .mismatch pattern => "value does not match /" ++ pattern ++ "/"
  | .tooShort least => "shorter than " ++ toString least ++ " characters"
  | .tooLong most => "longer than " ++ toString most ++ " characters"
  | .notAllowed => "value is not an allowed option"
  | .below least => "less than " ++ least.text
  | .above most => "greater than " ++ most.text
  | .notAnIdentifier text => "cannot cast '" ++ text ++ "' to ObjectId"
  | .notAReference => "not a reference field"
  | .notExpandable found => "cannot expand " ++ found.name
  | .notAnObject => "document is not an object"

/-- A violation and its place. -/
structure Violated where
  place : Place
  violation : Violation
deriving DecidableEq

/-- The same violation one step further out. -/
def Violated.within (step : ValueStep) (violated : Violated) : Violated :=
  { violated with place := step :: violated.place }

end TypedCollections
