import TypedCollections.Definition.Compiler
import TypedCollections.Document
import TypedCollections.Validation.Check
/-!
# Errors

Everything that registering collections and working with documents can run into, by its cause, and
the words for it.
-/

namespace TypedCollections

/-- Why an operation failed. -/
inductive Error where
  | compile (error : CompileError)
  | unreadable (fault : Document.Fault)
  | duplicateRegistration (name : String)
  | unknownCollection (name : String)
  | notExpandable (entity field : String)
  | invalidSchema (fault : SchemaFault)
  | invalidObjectId (text : String)
  | validation (collection : String) (violated : Violated)
  | uniqueViolation (collection field value : String)
deriving DecidableEq

def Document.Fault.message : Document.Fault → String
  | .malformed => "malformed"
  | .notAnObject => "document is not an object"
  | .noIdentifier => "document has no valid _id"

def Error.message : Error → String
  | .compile error => "malformed schema: " ++ error.message
  | .unreadable fault => "deserialization error: " ++ fault.message
  | .duplicateRegistration name => "collection '" ++ name ++ "' is already registered"
  | .unknownCollection name => "unknown collection '" ++ name ++ "'"
  | .notExpandable entity field =>
      "field '" ++ field ++ "' of '" ++ entity ++ "' is not a reference field"
  | .invalidSchema fault => "invalid schema: " ++ fault.message
  | .invalidObjectId text => "invalid object id '" ++ text ++ "'"
  | .validation collection violated =>
      "validation failed for '" ++ collection ++ "' at '" ++ violated.place.text ++ "': "
        ++ violated.violation.message
  | .uniqueViolation collection field value =>
      "duplicate value " ++ value ++ " for unique field '" ++ collection ++ "." ++ field ++ "'"

end TypedCollections
