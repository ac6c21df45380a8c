import DocSearch.Text.Hidden
import DocSearch.Text.Numeral

namespace DocSearch.Text

/-! Log events and error messages show texts between quotes, with everything that does not show
written as an escape. -/

def quoteChar (c : Char) : String :=
  match c with
  | '\"' => "\\\""
  | '\\' => "\\\\"
  | '\n' => "\\n"
  | '\r' => "\\r"
  | '\t' => "\\t"
  | '\x00' => "\\0"
  | c => if isHidden c then "\\u\x7b" ++ Numeral.hexText c.toNat ++ "\x7d" else c.toString

def quote (text : String) : String :=
  "\"" ++ String.join (text.toList.map quoteChar) ++ "\""

def quoteList (texts : List String) : String :=
  "[" ++ ", ".intercalate (texts.map quote) ++ "]"

def quotePairs (pairs : List (String × String)) : String :=
  "[" ++ ", ".intercalate (pairs.map fun p => "(" ++ quote p.1 ++ ", " ++ quote p.2 ++ ")") ++ "]"

end DocSearch.Text
