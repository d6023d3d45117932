import CrateHeader.Text.Lines
import CrateHeader.Yaml.Content
import CrateHeader.Yaml.Layout

/-!
# Reading documents

Documents are written in YAML, in blocks or in brackets. A text is read as a whole, into its tokens first:
it has one document, or none at all and then stands for null. What cannot be read has no document; why is not
told.
-/

namespace CrateHeader.Document

/-- The document that a text writes. -/
def read? (s : String) : Option Document :=
  (Yaml.tokens? (Text.plainLineEnds s.toList)).bind Yaml.document?

end CrateHeader.Document
