import SearchAppliance.Text.Basic

namespace SearchAppliance.Text.Escape

/-- Every occurrence of a character replaced by a text. -/
def replace (c : CodePoint) (text : Text) (cs : List CodePoint) : List CodePoint :=
  cs.flatMap fun d => if d = c then text.toList else [d]

/-- Character data: `&`, `>` and `<` become entities. -/
def charData (cs : List CodePoint) : List CodePoint :=
  cs |> replace '&' "&amp;" |> replace '>' "&gt;" |> replace '<' "&lt;"

/-- The value of an attribute between double quotes. -/
def attrValue (cs : List CodePoint) : List CodePoint :=
  charData cs |> replace '"' "&quot;"

/-- HTML text that may stand in either kind of quotes. -/
def html (cs : List CodePoint) : List CodePoint :=
  cs |> replace '&' "&amp;" |> replace '<' "&lt;" |> replace '>' "&gt;" |> replace '"' "&quot;"
    |> replace '\x27' "&#x27;"

theorem html_append (a b : List CodePoint) : html (a ++ b) = html a ++ html b := by
  simp only [html, replace, List.flatMap_append]

def text (t : Text) : Text := .ofList (charData t.toList)

def attr (t : Text) : Text := .ofList (attrValue t.toList)

end SearchAppliance.Text.Escape
