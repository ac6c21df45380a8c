namespace DocSearch

/-! Everything that can go wrong between a caller and the search cluster, by cause. The text of an
error is a function of its cause. -/

inductive Error where
  | unknownField (field : String)
  /-- A clause value does not suit the operator; the field is named as the caller wrote it. -/
  | invalidClause (field reason : String)
  | shape (reason : String)
  /-- The transport failed; the text is that of the failure itself. -/
  | transport (source : String)
  /-- The response lacks a member that has to be there. -/
  | malformedResponse (reason : String)
  | config (reason : String)
  deriving DecidableEq, Repr

namespace Error

def message : Error → String
  | unknownField field => "unknown field `" ++ field ++ "`: check field name"
  | invalidClause field reason => "invalid clause for `" ++ field ++ "`: " ++ reason
  | shape reason => "document shape error: " ++ reason
  | transport source => "transport error: " ++ source
  | malformedResponse reason => "malformed response: " ++ reason
  | config reason => "configuration error: " ++ reason

/-- The error was raised while checking what the caller gave. -/
def isValidation : Error → Bool
  | unknownField _ => true
  | invalidClause _ _ => true
  | _ => false

def source? : Error → Option String
  | transport source => some source
  | _ => none

end Error

end DocSearch
