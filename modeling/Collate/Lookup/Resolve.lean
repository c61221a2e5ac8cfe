import Collate.Bulletin
import Collate.Lookup.Reader
import Collate.Value.Normal

/-!
# Looking up the value of a rule

To look up the value of a rule, the selector of the rule leads to a part of the
item, and its key to an attribute or, along a path, to a property.  Attributes
are texts and are taken as they are; properties are brought into normal form.

A lookup is soft: whatever goes wrong, the value is missing, and a warning says
why.

## Strategy

`ItemReader.read` is the lookup without its warnings: what reading comes to, and at most
one notice.  `ItemReader.lookup` posts the notice and turns failures into another one.
Nothing turns an interruption into a notice, nor a failure that cannot be put into words.
-/

namespace Collate.ItemReader

/-- The value at the end of a walk, in normal form. -/
def walked : Walk → Finding
  | .found value => value.normalize
  | .notContainer segment previous => .missed (.notContainer segment previous)
  | .absent segment none => .missed (.noProperty segment)
  | .absent segment (some previous) => .missed (.noNestedProperty previous segment)

/-- The value of a key of a part of an item. -/
def readKey (reader : ItemReader) (part : Value) : Key → Finding
  | .named name =>
    .after (reader.attributeOf part name) fun value =>
      if value.isMissing then .missed (.noAttribute name) else .found value
  | .path segments => .after (Walk.along reader.property part segments) walked

/-- The value of a rule, and what there is to tell about it. -/
def read (reader : ItemReader) (item : Value) (rule : Rule) : Finding :=
  .after (reader.resolve item rule.selector) fun part =>
    if part.isMissing then .missed (.noElement rule.selector) else reader.readKey part rule.key

/-- Warns that a lookup failed. -/
def warnFailed (rule : Rule) (failure : Failure) : Reporting Value := do
  if failure.isInterruption then throw failure
  let reason ← orRaise failure.message
  Reporting.post (Notice.failed rule failure.kind reason).message
  return .missing

/-- What reading came to, with a warning if there is something to tell. -/
def told (finding : Finding) : Reporting Value := do
  if let some notice := finding.notice then Reporting.post notice.message
  orRaise finding.outcome

/-- The value of a rule; missing, with a warning, if there is none. -/
def lookup (reader : ItemReader) (item : Value) (rule : Rule) : Reporting Value :=
  tryCatch (told (reader.read item rule)) (warnFailed rule)

end Collate.ItemReader
