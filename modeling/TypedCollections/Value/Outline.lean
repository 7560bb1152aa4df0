import TypedCollections.Value
/-!
# Outlines

The outline of a value shows the kinds of what is inside it: items in brackets, members in braces
with their names, and a document as its fields.
-/

namespace TypedCollections

namespace Value

mutual

def outline : Value → String
  | .null => Kind.null.name
  | .bool _ => Kind.boolean.name
  | .number _ => Kind.number.name
  | .string _ => Kind.string.name
  | .objectId _ => Kind.objectId.name
  | .array items => "[" ++ ",".intercalate (outlineItems items) ++ "]"
  | .object members => "\x7b" ++ ",".intercalate (outlineMembers members) ++ "\x7d"
  | .document _ fields _ =>
      Kind.document.name ++ "\x7b" ++ ",".intercalate (outlineMembers fields) ++ "\x7d"

def outlineItems : List Value → List String
  | [] => []
  | item :: rest => outline item :: outlineItems rest

def outlineMembers : List (String × Value) → List String
  | [] => []
  | (name, value) :: rest => (name ++ ":" ++ outline value) :: outlineMembers rest

end

end Value

end TypedCollections
