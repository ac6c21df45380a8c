import DocSearch.Url.Basic

namespace DocSearch.Url

/-! Parameters are appended to the query of a URL in form encoding: blanks become plus signs, and
what is neither a letter nor a digit is percent-encoded with few exceptions. -/

def isFormSafe (c : Char) : Bool :=
  c.isAlphanum || c == '*' || c == '-' || c == '.' || c == '_'

def formEncodeChar (c : Char) : List Char :=
  if isFormSafe c then [c] else if c = ' ' then ['+'] else Percent.encodeChar c

def formEncode (text : String) : String := String.ofList (text.toList.flatMap formEncodeChar)

def formPair (pair : String × String) : String := formEncode pair.1 ++ "=" ++ formEncode pair.2

def formPairs (pairs : List (String × String)) : String := "&".intercalate (pairs.map formPair)

/-- Appends parameters to the query, which is dropped if it stays empty. -/
def withParams (url : Url) (params : List (String × String)) : Url :=
  let given := url.query.getD ""
  let added := formPairs params
  let query :=
    if given.isEmpty then added
    else if params.isEmpty then given
    else given ++ "&" ++ added
  { url with query := if query.isEmpty then none else some query }

end DocSearch.Url
