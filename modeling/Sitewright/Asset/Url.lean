namespace Sitewright.Asset

/-- A reference with forward slashes only, and none in front. -/
def cleaned (ref : List Char) : List Char :=
  (ref.map fun c => if c = '\\' then '/' else c).dropWhile (· == '/')

def folder : List Char := "assets/".toList

def imageFolder : List Char := "images/".toList

/-- The address of the asset that a reference means: a bare name is an image. -/
def urlChars (ref : List Char) : List Char :=
  if folder.isPrefixOf (cleaned ref) then '/' :: cleaned ref
  else if imageFolder.isPrefixOf (cleaned ref) then '/' :: folder ++ cleaned ref
  else '/' :: folder ++ imageFolder ++ cleaned ref

def url (ref : String) : String := String.ofList (urlChars ref.toList)

end Sitewright.Asset
