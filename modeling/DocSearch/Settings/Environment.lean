import DocSearch.Settings.Scalar

namespace DocSearch

/-! A variable belongs to the settings when its name starts with the name of the application and
two underscores, whatever the case. -/

/-- The name under which the settings of this library are found. -/
def applicationName : String := "osorm"

/-- Variables with their texts, in the order in which they are gone through. -/
abbrev Environment := List (String × String)

namespace Environment

def origin : String := "the environment"

/-- The key of a variable, if it belongs to the settings: two underscores stand for a dot. -/
def key? (name : String) : Option String :=
  let start := applicationName ++ "__"
  let lower := Text.lowercase name
  if start.toList.isPrefixOf lower.toList then
    some (String.ofList (dots (lower.toList.drop start.length)))
  else none
where
  dots : List Char → List Char
    | [] => []
    | '_' :: '_' :: rest => '.' :: dots rest
    | c :: rest => c :: dots rest

/-- The entry that a text gives for a key; hosts that read as nothing else are a list. -/
def entry (key text : String) : Entry :=
  match Scalar.ofText? text with
  | some value => .scalar (some origin) value
  | none =>
    if key = "hosts" then
      .list (some origin)
        ((Text.splitAt ',' text).map fun host => .scalar (some origin) (.text host))
    else .scalar (some origin) (.text text)

def entries (environment : Environment) : List (String × Entry) :=
  environment.filterMap fun (name, text) =>
    (key? name).map fun key => (key, entry key text)

end Environment

end DocSearch
