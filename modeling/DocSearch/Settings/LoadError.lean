import DocSearch.Error

namespace DocSearch

/-! What keeps settings from being loaded, and the text that tells it. -/

inductive LoadError where
  | notFound (path : String)
  /-- The ending of the file stands for no known format. -/
  | unknownFormat (path : String)
  /-- The file is there, but its content cannot be had. -/
  | inaccessible (cause : String)
  | unreadable (cause : String) (origin : String)
  /-- A value cannot be turned into what is wanted. -/
  | wrongType (found expected key : String) (origin : Option String)
  | notList (found : String)
  deriving DecidableEq, Repr

def LoadError.message : LoadError → String
  | notFound path => "configuration file \"" ++ path ++ "\" not found"
  | unknownFormat path =>
    "configuration file \"" ++ path ++ "\" is not of a registered file format"
  | inaccessible cause => cause
  | unreadable cause origin => cause ++ " in " ++ origin
  | wrongType found expected key origin =>
    "invalid type: " ++ found ++ ", expected " ++ expected ++ " for key `" ++ key ++ "`" ++
      (origin.map (" in " ++ ·)).getD ""
  | notList found => "invalid type: " ++ found ++ ", expected a sequence"

def LoadError.toError (e : LoadError) : Error := .config e.message

end DocSearch
