import TypedCollections.Definition.Printer
import TypedCollections.Description.Vocabulary
import TypedCollections.Digest
import TypedCollections.Document
/-!
# Schemas

A schema is what a collection is registered with: its definition, whether the store keeps time
stamps, which references may be expanded, and how documents are rendered. The fingerprint of a
schema is the digest of its definition's text and of whether it keeps time stamps.
-/

namespace TypedCollections

/-- What a document is rendered for: the program itself or the wire. -/
inductive Representation where
  | plain
  | wire
deriving DecidableEq

/-- A change of a document's native members. -/
abbrev Transform := Document → List (String × Json) → List (String × Json)

/-- The schema of a collection. -/
structure Schema where
  fields : Fields
  timestamps : Bool
  expandable : List String := []
  plain : Option Transform := none
  wire : Option Transform := none

namespace Schema

/-- Adds a number field that need not have a value, unless one of that name is declared. -/
def addStamp (fields : Fields) (name : String) : Fields :=
  if Entries.has fields name then fields
  else Entries.write fields name { type := .scalar .number, required := false }

/-- The schema of a definition. With time stamps their two fields are added where they are missing.
-/
def define (fields : Fields) (timestamps : Bool) : Schema :=
  { fields := if timestamps then addStamp (addStamp fields createdAt) updatedAt else fields,
    timestamps }

/-- Attaches a transform to representations. -/
def withTransform (schema : Schema) (transform : Transform) (kinds : List Representation) :
    Schema :=
  kinds.foldl (fun schema kind =>
      match kind with
      | .plain => { schema with plain := some transform }
      | .wire => { schema with wire := some transform })
    schema

/-- Says which references may be expanded. -/
def withExpandable (schema : Schema) (names : List String) : Schema :=
  { schema with expandable := names }

def transform? (schema : Schema) : Representation → Option Transform
  | .plain => schema.plain
  | .wire => schema.wire

/-- What the fingerprint is the digest of: the definition's text and an octet for the time stamps.
-/
def fingerprintInput (schema : Schema) : List UInt8 :=
  Utf8.encode schema.fields.text ++ [if schema.timestamps then 1 else 0]

/-- The fingerprint, by which a changed schema is told from an unchanged one. -/
def fingerprint (schema : Schema) : String := Digest.hex schema.fingerprintInput

end Schema

end TypedCollections
