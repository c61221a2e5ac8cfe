import Collate.Markup.Tree

/-!
# Readers of documents

Documents are read by a reader that goes by a name.  There is a single one, with
several names; any other name is unknown.
-/

namespace Collate.Markup

/-- Why a text is not read as a document. -/
inductive SourceFault where
  | unknownReader (name : String)
  | rejected (rejection : Rejection)

/-- The wording of a fault. -/
def SourceFault.message : SourceFault → String
  | unknownReader name =>
    "Couldn't find a tree builder with the features you requested: " ++ name ++
      ". Do you need to install a parser library?"
  | rejected rejection => rejection.message

/-- The names of the reader. -/
def readerNames : List String := ["html.parser", "html", "strict"]

/-- Reads a document by the reader of this name. -/
def Document.readBy (reader text : String) : Except SourceFault Document :=
  if reader ∈ readerNames then (Document.read text).mapError .rejected
  else .error (.unknownReader reader)

end Collate.Markup
