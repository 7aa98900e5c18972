import AppHost.Calendar.Rfc3339

/-! What a TOML document holds. Dates and times are kept as their normal text. -/

set_option autoImplicit false
namespace AppHost.Toml

inductive Value
  | string (value : String)
  | integer (value : Int)
  | float (value : Float)
  | bool (value : Bool)
  | datetime (text : String)
  | array (items : List Value)
  | table (entries : List (String × Value))

namespace Value

def field? (key : String) : Value → Option Value
  | .table entries => entries.lookup key
  | _ => none

end Value
end AppHost.Toml
