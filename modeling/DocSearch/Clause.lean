import DocSearch.FieldSet
import DocSearch.Log
import DocSearch.Operator

namespace DocSearch

/-! A clause is a field name, possibly with the suffix of an operator, and a value. The field is
checked first, then the clause is logged, then the value is checked. -/

structure Clause where
  raw : String
  value : Json

namespace FieldSet

def check (fields : FieldSet) (name : String) : Except Error Unit :=
  if fields.contains name then .ok () else .error (.unknownField name)

end FieldSet

namespace Clause

/-- The expression of a clause over the given fields. -/
def parse (fields : FieldSet) (clause : Clause) : Logged (Except Error Expression) :=
  let (field, op) := Operator.split clause.raw
  match fields.check field with
  | .error e => .silent (.error e)
  | .ok () =>
    match op with
    | some op => .after (.operatorClause field clause.raw op.suffix) (op.build field clause.value)
    | none => .after (.phraseClause field) (.ok (.leaf .matchPhrase field clause.value))

/-- The expressions of clauses in order, up to the first clause that has none. -/
def parseAll (fields : FieldSet) : List Clause → Logged (Except Error (List Expression))
  | [] => .silent (.ok [])
  | clause :: rest =>
    (clause.parse fields).bind fun parsed =>
      match parsed with
      | .error e => .silent (.error e)
      | .ok expression => (parseAll fields rest).map fun tail => tail.map (expression :: ·)

end Clause

end DocSearch
