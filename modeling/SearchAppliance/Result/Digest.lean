import SearchAppliance.Calendar.Instant
import SearchAppliance.Document
import SearchAppliance.Log
import SearchAppliance.Settings.Options
import SearchAppliance.Text.Encoding

namespace SearchAppliance

open Settings (PageOptions)

/-- What is known of a hit before it is written. -/
structure Digest where
  documentId : Option Text := none
  address : Option Text := none
  title : Option Text := none
  description : Text := ""
  size : Int := 0
  lastModified : Option String := none
  loadDate : Option String := none
  language : Option Text := none
  /-- The texts of the hit, dates as they are stored. -/
  texts : List Text := []
  /-- The elements that come straight from its values. -/
  tags : List (Tag × Text) := []
  deriving DecidableEq, Repr

namespace Digest

/-- The second form of an address. A text with surrogates has no percent-encoded form. -/
def secondForm (options : PageOptions) (value : Text) : Except Failure Text :=
  if options.encodeAddress then value.encode.map fun s => (Text.Percent.encoded s : Text)
  else .ok value

/-- Takes in a value by the treatment of its field. A value that is no number, where it has to be one,
leaves the digest as it was. -/
def treat (options : PageOptions) (d : Digest) (field value : Text) :
    Treatment → Except Failure Digest
  | .identifier => .ok { d with documentId := some value }
  | .address =>
    (secondForm options value).map fun second =>
      { d with address := some value, tags := d.tags ++ [(.url, value), (.encodedUrl, second)] }
  | .title =>
    .ok { d with title := some value, tags := d.tags ++ [(.title, value)], texts := d.texts ++ [value] }
  | .description => .ok { d with description := value, texts := d.texts ++ [value] }
  | .lastModified =>
    (Calendar.readDate field value).map fun date =>
      { d with
        lastModified := some date
        tags := d.tags ++ [(.cacheLastModified, (date : Text))]
        texts := d.texts ++ [value] }
  | .loadDate =>
    (Calendar.readDate field value).map fun date =>
      { d with
        loadDate := some date
        tags := d.tags ++ [(.crawlDate, (date : Text))]
        texts := d.texts ++ [value] }
  | .body | .heading => .ok { d with texts := d.texts ++ [value] }
  | .size => (Number.readField field value).map fun n => { d with size := n }

/-- Takes in a value that becomes an element as it is. -/
def tagged (d : Digest) (field : Field) (tag : Tag) (value : Text) : Digest :=
  { d with
    tags := d.tags ++ [(tag, value)]
    language := if field = .language then some value else d.language }

/-- Takes in one value of a field. Fields that are not in the schema contribute nothing. -/
def take (options : PageOptions) (d : Digest) (entry : Text × Text) : Except Failure Digest :=
  match Field.ofName? entry.1 with
  | none => .ok d
  | some field =>
    match field.plainTag?, field.treatment? with
    | some tag, _ => .ok (d.tagged field tag entry.2)
    | none, some treatment => d.treat options entry.1 entry.2 treatment
    | none, none => .ok d

/-- Takes in values in order. The first failure ends it, unless a malformed number may be left out:
then the value is skipped and reported. -/
def takeAll (options : PageOptions) : Digest → List (Text × Text) → Logged Digest
  | d, [] => .ok d
  | d, entry :: rest =>
    match d.take options entry with
    | .ok d' => takeAll options d' rest
    | .error cause =>
      if cause.isMalformedField && !options.strictNumbers then
        (takeAll options d rest).after (.valueSkipped entry.1 d.documentId cause)
      else .fail cause

/-- The digest of a hit. -/
def ofFields (options : PageOptions) (fields : Fields) : Logged Digest :=
  takeAll options {} fields.entries

end Digest

end SearchAppliance
