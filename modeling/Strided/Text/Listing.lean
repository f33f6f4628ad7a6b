/-! Texts of sequences and records: `[1, 2]`, `(1, 2)` and a name with labelled fields. -/

set_option autoImplicit false

namespace Strided.Text

def commaSeparated (items : List String) : String :=
  String.intercalate ", " items

def bracketed (items : List String) : String :=
  "[" ++ commaSeparated items ++ "]"

def parenthesised (items : List String) : String :=
  "(" ++ commaSeparated items ++ ")"

/-- A record with its fields in braces, each after its label. -/
def record (name : String) (fields : List (String × String)) : String :=
  name ++ " \x7b " ++ commaSeparated (fields.map fun (label, text) => label ++ ": " ++ text) ++
    " \x7d"

end Strided.Text
