import TypedCollections.Description.Basic
import TypedCollections.Json.Reader
/-!
# Reading descriptions

A text is a description if it is a JSON value of the right shape. Members that a node's kind does
not know are ignored, and no known member may stand twice. The kind of the outermost node is checked
as soon as it is read, everything else once the outermost value is complete: of a text that is both
unfit and badly written, the fault that comes first in that sense is reported.
-/

namespace TypedCollections

namespace Description

inductive NodeKind where
  | scalar
  | object
  | array
  | dictionary
  | reference
deriving DecidableEq

def NodeKind.ofName? : String → Option NodeKind
  | "scalar" => some .scalar
  | "object" => some .object
  | "array" => some .array
  | "dictionary" => some .dictionary
  | "reference" => some .reference
  | _ => none

/-- The kind with a position in the list of kinds. -/
def NodeKind.ofIndex? (index : Int) : Option NodeKind :=
  match index with
  | 0 => some .scalar
  | 1 => some .object
  | 2 => some .array
  | 3 => some .dictionary
  | 4 => some .reference
  | _ => none

/-- The kind of a node. Below the outermost node it may also be given by its position. -/
def NodeKind.ofJson? (outermost : Bool) : Json → Option NodeKind
  | .string name => NodeKind.ofName? name
  | .number (.integer index) => if outermost then none else NodeKind.ofIndex? index
  | _ => none

def scalarKindOfName? : String → Option ScalarKind
  | "string" => some .string
  | "number" => some .number
  | "boolean" => some .boolean
  | _ => none

/-- A scalar kind: its name, or an object whose only member has that name and nothing in it. -/
def scalarKindOfJson? : Json → Option ScalarKind
  | .string name => scalarKindOfName? name
  | .object [(name, .null)] => scalarKindOfName? name
  | .object [(name, .object [])] => scalarKindOfName? name
  | _ => none

/-- What was read for a member: its JSON value and, for the members that hold them, a node or nodes.
-/
structure Member where
  json : Json
  node : Option Description := none
  nodes : Option (List (String × Description)) := none

/-- A member that may be absent, but not stand twice. -/
def member? (members : List (String × Member)) (name : String) : Option (Option Member) :=
  match members.filter fun member => member.1 = name with
  | [] => some none
  | [(_, member)] => some (some member)
  | _ => none

/-- A member that may be absent and is read in a given way. -/
def optionalMember? {α : Type} (members : List (String × Member)) (name : String) (absent : α)
    (read : Member → Option α) : Option α :=
  (member? members name).bind fun
    | none => some absent
    | some member => read member

/-- A member that must be there and is read in a given way. -/
def requiredMember? {α : Type} (members : List (String × Member)) (name : String)
    (read : Member → Option α) : Option α :=
  (member? members name).bind fun
    | none => none
    | some member => read member

def optionsOfJson? : Json → Option Options
  | .object members => some (Entries.ofList (Json.settleMembers members))
  | _ => none

def namesOfJson? : Json → Option (List String)
  | .array items => items.mapM Json.string?
  | _ => none

def annotationsOf? (members : List (String × Member)) : Option Annotations := do
  let optional ← optionalMember? members "optional" false fun m => m.json.bool?
  let attributes ← optionalMember? members "attributes" [] fun m => optionsOfJson? m.json
  let constraints ← optionalMember? members "constraints" [] fun m => optionsOfJson? m.json
  return { optional, attributes, constraints }

/-- The declared set of required names; null is as good as absent. -/
def requiredOf? (member : Member) : Option (Option NameSet) :=
  match member.json with
  | .null => some none
  | json => (namesOfJson? json).map fun names => some (NameSet.ofNames names)

/-- The target of a reference; null is as good as absent. -/
def targetOf? (member : Member) : Option (Option Description) :=
  match member.json with
  | .null => some none
  | _ => member.node.map some

/-- The node that members of an object make up. -/
def ofMembers? (outermost : Bool) (members : List (String × Member)) : Option Description := do
  let kind ← requiredMember? members "kind" fun m => NodeKind.ofJson? outermost m.json
  match kind with
  | .scalar =>
      let kind ← requiredMember? members "type" fun m => scalarKindOfJson? m.json
      return scalar kind (← annotationsOf? members)
  | .object =>
      let properties ← requiredMember? members "properties" fun m => m.nodes
      let required ← optionalMember? members "required" none requiredOf?
      let welcome ← optionalMember? members "additionalProperties" true fun m => m.json.bool?
      let annotations ← annotationsOf? members
      return object
        { properties := Entries.ofList properties, required, additionalProperties := welcome,
          annotations }
  | .array =>
      let items ← requiredMember? members "items" fun m => m.node
      return array items (← annotationsOf? members)
  | .dictionary =>
      let values ← requiredMember? members "values" fun m => m.node
      let keyOptions ← optionalMember? members "keyOptions" [] fun m => optionsOfJson? m.json
      return dictionary values keyOptions (← annotationsOf? members)
  | .reference =>
      let target ← optionalMember? members "target" none targetOf?
      let collection ← requiredMember? members "collection" fun m => m.json.string?
      let many ← optionalMember? members "many" false fun m => m.json.bool?
      return reference target collection many (← annotationsOf? members)

mutual

/-- The description of a JSON value that may repeat names. -/
def ofRaw? (outermost : Bool) : Json → Option Description
  | .object members => ofMembers? outermost (readMembers members)
  | _ => none

/-- Reads the nodes among the members of a node. -/
def readMembers : List (String × Json) → List (String × Member)
  | [] => []
  | (name, json) :: rest =>
      let read : Member :=
        if name = "items" ∨ name = "values" ∨ name = "target" then
          { json, node := ofRaw? false json }
        else if name = "properties" then
          { json, nodes := propertiesOfRaw? json }
        else { json }
      (name, read) :: readMembers rest

def propertiesOfRaw? : Json → Option (List (String × Description))
  | .object members => nodesOfRaw? members
  | _ => none

def nodesOfRaw? : List (String × Json) → Option (List (String × Description))
  | [] => some []
  | (name, json) :: rest =>
      match ofRaw? false json, nodesOfRaw? rest with
      | some node, some nodes => some ((name, node) :: nodes)
      | _, _ => none

end

/-- The description of a JSON value. -/
def ofJson? (json : Json) : Option Description := ofRaw? true json

/-- Why a text is not a description. -/
inductive Fault where
  | truncated
  | malformed
  | unfit
deriving DecidableEq

/-- Whether a value cannot be the outermost node's kind. -/
def refusedKind (json : Json) : Bool := (NodeKind.ofJson? true json).isNone

/-- Whether complete members of the outermost node, the latest first, hold a kind that is refused or
given twice. -/
def refusedMembers (before : List (String × Json)) : Bool :=
  let kinds := before.filter fun member => member.1 = "kind"
  1 < kinds.length || kinds.any fun member => refusedKind member.2

/-- Whether the machine, where it stopped, had already read something that the outermost node's kind
refuses. An array stands for a node whose kind is its first item. -/
def refusedBy (state : Json.State) : Bool :=
  let isOpen := 1 < state.frames.length
  let refusedNow : Bool :=
    match state.mode with
    | .after value => isOpen || refusedKind value
    | _ => isOpen
  match state.frames.getLast? with
  | none =>
      match state.mode with
      | .after value => (ofJson? value).isNone
      | _ => false
  | some (.items before) =>
      match before.getLast? with
      | some first => refusedKind first
      | none => refusedNow
  | some (.names before) => refusedMembers before
  | some (.member before name) =>
      refusedMembers before ||
        (name = "kind" && (before.any (fun member => member.1 = "kind") || refusedNow))

/-- Reads the text of a description. -/
def read (text : String) : Except Fault Description :=
  match Json.readRaw ⟨Json.nestingLimit, none⟩ text with
  | .ok raw =>
      match ofJson? raw with
      | some node => .ok node
      | none => .error .unfit
  | .error stop =>
      if refusedBy stop.state then .error .unfit
      else
        match stop.fault with
        | .truncated => .error .truncated
        | .malformed => .error .malformed

end Description

end TypedCollections
