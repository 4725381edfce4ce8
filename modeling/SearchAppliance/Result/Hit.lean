import SearchAppliance.Result.Digest
import SearchAppliance.Text.Escape

namespace SearchAppliance

open Settings (PageOptions)

/-- An element with a text, or ready markup. -/
inductive Element where
  | text (name : Text) (value : Option Text)
  | markup (content : Text)
  deriving DecidableEq, Repr

namespace Element

/-- The value of an element or parameter, if it has one that is not empty. -/
def filled? (value : Option Text) : Option Text := value.filter (· ≠ ("" : Text))

/-- An element with its text as character data. An empty one is not written. -/
def line? (name : Text) (value : Option Text) : Option Text :=
  (filled? value).map fun v => "<" ++ name ++ ">" ++ Text.Escape.text v ++ "</" ++ name ++ ">\n"

/-- What an element hands to the stream; ready markup goes as it is. -/
def written? : Element → Option Text
  | text name value => line? name value
  | markup content => some content

/-- The end tag of an element whose content stands on lines of its own. -/
def closing (name : Text) : Text := "</" ++ name ++ ">\n"

/-- An echoed request parameter, with its value escaped and once more as it came in. The second form
is escaped too only if that is asked for. -/
def param? (escapeEcho : Bool) (name : Text) (value : Option Text) : Option Text :=
  (filled? value).map fun v =>
    let echo := if escapeEcho then Text.Escape.attr v else v
    "<PARAM name=\"" ++ name ++ "\" value=\"" ++ Text.Escape.attr v ++ "\" original_value=\"" ++ echo
      ++ "\"/>\n"

end Element

/-- Whole kilobytes, towards zero. -/
def kilobytes (size : Int) : Int := size.tdiv 1024

def kilobyteText (size : Int) : String := s!"{kilobytes size}k"

/-- Both as attributes of one element. A hit without an identifier has an empty one here. -/
def Digest.features (d : Digest) : Text :=
  let id := Text.Escape.attr (d.documentId.getD "")
  "<HAS><L/><C SZ=\"" ++ kilobyteText d.size ++ "\" CID=\"" ++ id ++ "\" ENC=\"UTF-8\"/></HAS>"

/-- For each document, for each field with marked values, the fragments of these values. -/
abbrev Highlighting := List (Text × List (Text × List Text))

/-- For each document its fragments. -/
abbrev Snippets := List (Text × List Text)

/-- The fragments of each document, field by field. -/
def Snippets.ofHighlighting (highlighting : Highlighting) : Snippets :=
  highlighting.map fun (id, fields) => (id, fields.flatMap (·.2))

/-- The first fragment of the document, or else its description. -/
def Digest.snippet (d : Digest) (snippets : Snippets) : Text :=
  ((d.documentId.bind fun id => Pairs.get? id snippets).bind List.head?).getD d.description

/-- The elements from the values of the hit, then snippet, description, features and the node that
contributes it. -/
def Digest.elements (d : Digest) (snippets : Snippets) (identity : Text) : List Element :=
  d.tags.map (fun (tag, value) => Element.text tag.name (some value))
    ++ [.text Tag.snippet.name (some (d.snippet snippets)),
      .text Tag.keymatch.name (some d.description),
      .markup d.features,
      .text Tag.source.name (some identity)]

/-- The elements of a hit, if all its values can be taken in. -/
def Fields.elements (options : PageOptions) (snippets : Snippets) (identity : Text)
    (fields : Fields) : Logged (List Element) :=
  (Digest.ofFields options fields).map (·.elements snippets identity)

end SearchAppliance
