import Collate.Rule.Basic

/-!
# Rules as mappings

Rules are stored as mappings with the entries `key`, `selector` and
`descending`.  A path is stored as a list of segments, an attribute name as a
text; a selector that is not there and the ascending direction are left out.
-/

namespace Collate

namespace Key

/-- The key that a payload denotes, before it is known to be legal. -/
def ofPayload : Payload → Except Rule.Fault Key
  | .text name => .ok (.named name)
  | .list items =>
    match items.mapM Payload.text? with
    | some segments => .ok (.path segments)
    | none => .error .unusableSegment
  | other => .error (.unsupportedKey other)

/-- The key as a payload. -/
def toPayload : Key → Payload
  | named name => .text name
  | path segments => .list (segments.map .text)

end Key

namespace Rule

/-- The rule with these parts, each given as a payload or left out. -/
def ofParts (key selector : Option Payload) (descending : Bool) : Except Fault Rule := do
  let key ← match key with
    | none => pure Key.fallback
    | some payload => Key.ofPayload payload
  -- a key that no rule can have is reported before anything about the selector
  if let some fault := key.fault? then throw fault
  match selector with
  | none | some .null => declare key none descending
  | some (.text selector) => declare key (some selector) descending
  | some _ => throw .selectorNotText

/-- The rule that a payload denotes. -/
def ofMapping : Payload → Except Fault Rule
  | .mapping entries => do
    let descending ← match Payload.entry? entries "descending" with
      | none => pure false
      | some (.bool value) => pure value
      | some _ => throw .descendingNotBool
    ofParts (Payload.entry? entries "key") (Payload.entry? entries "selector") descending
  | other => .error (.notMapping other)

/-- The rule as a mapping. -/
def toMapping (rule : Rule) : Payload :=
  .mapping <|
    ("key", rule.key.toPayload) ::
      ((match rule.selector with
        | some selector => [("selector", .text selector)]
        | none => []) ++
      (if rule.descending then [("descending", .bool true)] else []))

/-- The rules of a list of payloads, the first of which stands at `index`. -/
def ofMappings (index : Nat) : List Payload → Except Fault (List Rule)
  | [] => .ok []
  | payload :: rest =>
    match ofMapping payload with
    | .error fault => .error (.atIndex index fault)
    | .ok rule => (ofMappings (index + 1) rest).map (rule :: ·)

/-- Why a payload is not a list of rules. -/
inductive ListFault where
  /-- The payload has no items at all. -/
  | noItems (payload : Payload)
  /-- An item of the payload is no rule. -/
  | item (fault : Fault)

/-- The wording of the fault of a list of rules. -/
def ListFault.message : ListFault → String
  | noItems payload => "'" ++ payload.kind ++ "' object is not iterable"
  | item fault => fault.message

/-- The rules that the items of a payload denote. -/
def manyOfMapping (payload : Payload) : Except ListFault (List Rule) :=
  match payload.items? with
  | none => .error (.noItems payload)
  | some items => (ofMappings 0 items).mapError .item

/-- The rules that the items of a payload denote, where a fault does not say at which
position it is. -/
def ofPayloads (payload : Payload) : Except ListFault (List Rule) :=
  match payload.items? with
  | none => .error (.noItems payload)
  | some items => (items.mapM ofMapping).mapError .item

end Rule

end Collate
