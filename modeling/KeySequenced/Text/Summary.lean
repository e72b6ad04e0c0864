/-!
# Summaries of values

A value is summed up by its name and its named fields, on one line or with a
line for each field.
-/

set_option autoImplicit false

namespace KeySequenced.Text

/-- A field of a summary: its name and the text of its value. -/
structure Field where
  name : String
  value : String

def summary (name : String) (fields : List Field) : String :=
  let shown := fields.map fun field => field.name ++ ": " ++ field.value
  name ++ " \x7b " ++ ", ".intercalate shown ++ " \x7d"

def summaryLines (name : String) (fields : List Field) : String :=
  let shown := fields.map fun field => "    " ++ field.name ++ ": " ++ field.value ++ ",\n"
  name ++ " \x7b\n" ++ String.join shown ++ "\x7d"

def ofBool (value : Bool) : String := if value then "true" else "false"

end KeySequenced.Text
