import DocSearch.Error
import DocSearch.Expression
import DocSearch.Json.Printer

namespace DocSearch

/-! A clause name may end in the suffix of an operator. No suffix is a suffix of another, so at
most one of them ends a name. -/

inductive Operator where
  | prefixed
  | regexp
  | contains
  | gte
  | gt
  | lte
  | lt
  deriving DecidableEq, Repr

namespace Operator

/-- All operators, in the order in which their suffixes are tried. -/
def all : List Operator := [prefixed, regexp, contains, gte, gt, lte, lt]

def suffix : Operator → String
  | prefixed => "__prefix"
  | regexp => "__regexp"
  | contains => "__contains"
  | gte => "__gte"
  | gt => "__gt"
  | lte => "__lte"
  | lt => "__lt"

/-- What is left of a text that ends in `ending` without it. -/
def dropEnding? (text ending : String) : Option String :=
  if ending.toList.isSuffixOf text.toList then
    some (String.ofList (text.toList.take (text.toList.length - ending.toList.length)))
  else none

/-- Field and operator of a clause name, trying the suffixes in the given order. -/
def splitBy (order : List Operator) (raw : String) : String × Option Operator :=
  match order.findSome? fun op => (dropEnding? raw op.suffix).map fun field => (field, op) with
  | some (field, op) => (field, some op)
  | none => (raw, none)

def split (raw : String) : String × Option Operator := splitBy all raw

/-- A pattern has to be a string. -/
def buildPattern (op : Operator) (kind : LeafKind) (field : String) (value : Json) :
    Except Error Expression :=
  match value with
  | .str _ => .ok (.leaf kind field value)
  | _ => .error (.invalidClause (field ++ op.suffix)
      ("expected a string pattern, found " ++ value.render))

/-- The expression that an operator makes of a field and a value. -/
def build (op : Operator) (field : String) (value : Json) : Except Error Expression :=
  match op with
  | prefixed => op.buildPattern .matchPhrasePrefix field value
  | regexp => op.buildPattern .regexp field value
  | contains =>
    match value with
    | .arr values => .ok (.contains field values 1)
    | _ => .error (.invalidClause (field ++ op.suffix)
        ("expected an array of candidates, found " ++ value.render))
  | gte => .ok (.range (.atLeast field (.scalar value)))
  | gt => .ok (.range { RangeExpression.atLeast field (.scalar value) with leftOpen := true })
  | lte => .ok (.range (.atMost field (.scalar value)))
  | lt => .ok (.range { RangeExpression.atMost field (.scalar value) with rightOpen := true })

end Operator

end DocSearch
