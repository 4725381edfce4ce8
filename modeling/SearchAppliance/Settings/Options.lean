import SearchAppliance.Settings.Scalar
import SearchAppliance.Text.WordChar

namespace SearchAppliance.Settings

/-- A further attribute of the start tag of one hit, chosen by the hit's place on its page. -/
structure PlacedAttribute where
  index : Nat
  name : String
  value : Text
  deriving DecidableEq, Repr

namespace PlacedAttribute

/-- A letter of the English alphabet or `_`, then word characters, points and hyphens. -/
def isName (cs : List Char) : Bool :=
  match cs with
  | [] => false
  | c :: rest =>
    (c.isAlpha || c = '_')
      && rest.all fun d => Text.WordChar.isWordChar d || d = '.' || d = '-'

def name? (v : Json) : Checked String :=
  (Settings.string v).bind fun s => if isName s.toList then .ok s else .fail .textPattern v

def ofMembers (members : List (Text × Json)) : Checked PlacedAttribute :=
  ((required (boundedInteger 0 none) "index" members).map PlacedAttribute.mk)
    |>.and (required name? "name" members)
    |>.and (required Settings.text "value" members)

def ofJson (v : Json) : Checked PlacedAttribute := (record v).bind ofMembers

end PlacedAttribute

/-- How a page is written. The defaults give the form that clients of the appliance expect: addresses
and echoed parameters as they came in, and an indented second hit. -/
structure PageOptions where
  /-- Percent-encode the second form of an address. -/
  encodeAddress : Bool := false
  /-- Escape also the second form of an echoed parameter. -/
  escapeEcho : Bool := false
  /-- Give up a page when a numeric field holds no number, and do not leave the value out. -/
  strictNumbers : Bool := true
  nextPagePath : Text := "/search"
  attributes : List PlacedAttribute := [⟨1, "L", "2"⟩]
  deriving DecidableEq, Repr

def PageOptions.ofMembers (members : List (Text × Json)) : Checked PageOptions :=
  let usual : PageOptions := {}
  ((optional boolean "encode_ue_url" usual.encodeAddress members).map PageOptions.mk)
    |>.and (optional boolean "escape_param_original" usual.escapeEcho members)
    |>.and (optional boolean "strict_numeric_fields" usual.strictNumbers members)
    |>.and (optional text "next_page_path" usual.nextPagePath members)
    |>.and (optional (listOf PlacedAttribute.ofJson) "positional_attributes" usual.attributes members)

/-- How many hits a search gives when it does not say, and how many it may ask for. -/
structure PagingLimits where
  defaultRows : Nat := 10
  maxRows : Nat := 1000
  deriving DecidableEq, Repr

def PagingLimits.ofMembers (members : List (Text × Json)) : Checked PagingLimits :=
  let usual : PagingLimits := {}
  ((optional (boundedInteger 1 none) "default_rows" usual.defaultRows members).map PagingLimits.mk)
    |>.and (optional (boundedInteger 1 none) "max_rows" usual.maxRows members)

end SearchAppliance.Settings
