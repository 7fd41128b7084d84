import HostLookup.Text.Numeral

/-! Descriptions of values: a name, and the texts of the fields in braces. Two dots at the end say that
some fields are not shown. -/
namespace HostLookup.Text.Description

def boolean (b : Bool) : String :=
  if b then "true" else "false"

def optional {α : Type} (text : α → String) : Option α → String
  | none => "None"
  | some value => "Some(" ++ text value ++ ")"

def list (texts : List String) : String :=
  "[" ++ ", ".intercalate texts ++ "]"

def fields (entries : List (String × String)) : String :=
  ", ".intercalate (entries.map fun entry => entry.1 ++ ": " ++ entry.2)

def whole (name : String) (entries : List (String × String)) : String :=
  name ++ " \x7b " ++ fields entries ++ " \x7d"

def excerpt (name : String) (entries : List (String × String)) : String :=
  name ++ " \x7b " ++ fields entries ++ ", .. \x7d"

end HostLookup.Text.Description
