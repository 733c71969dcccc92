import GraphSelect.Document.Build
import GraphSelect.Document.Format
import GraphSelect.Json.Reader
import GraphSelect.Toml.Reader

/-! # Loading documents

The text of a document is read as data in its format, the data as an outline, and the outline
becomes a graph. Text that does not hold an outline is an error of the format. -/
namespace GraphSelect

namespace Format

def read? : Format → String → Option Data
  | json => Json.read?
  | toml => Toml.read?

def malformed : Format → Error
  | json => .badJson
  | toml => .badToml

end Format

def Document.parse (format : Format) (text : String) : Except Error Document :=
  match (format.read? text).bind Outline.ofData? with
  | some outline => outline.build
  | none => .error format.malformed

end GraphSelect
