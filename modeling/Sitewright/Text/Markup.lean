namespace Sitewright.Text

/-- A character of an attribute value: what could end the value or open a tag is named. -/
def escapeMarkup (c : Char) : List Char :=
  if c = '&' then "&amp;".toList
  else if c = '<' then "&lt;".toList
  else if c = '>' then "&gt;".toList
  else if c = '"' then "&quot;".toList
  else if c = '\'' then "&#x27;".toList
  else [c]

def attributeText (name : String) (value : List Char) : List Char :=
  name.toList ++ '=' :: '"' :: value.flatMap escapeMarkup ++ ['"']

/-- A tag that holds nothing but attributes. -/
def emptyTag (name : String) (attributes : List (String × String)) : List Char :=
  '<' :: name.toList ++
    attributes.flatMap (fun a => ' ' :: attributeText a.1 a.2.toList) ++ [' ', '/', '>']

end Sitewright.Text
