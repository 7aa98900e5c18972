import AppHost.Environment
import AppHost.Numeral
import AppHost.Settings.Value

/-!
Settings given by variables. The variable's name is the path of the setting, in letters of either
case, after the program's name, with two underscores between the keys. Its value is read as a truth
value, a whole number or a number where it has such a form, else as text.
-/

set_option autoImplicit false
namespace AppHost

namespace SettingLayer

/-- Lower case, as far as it leads to ASCII. -/
def lowerChar (c : Char) : Char := if c = '\u212A' then 'k' else c.toLower

def valueOf (written : String) : Setting :=
  let cs := written.toList
  if cs.map Char.toLower = ['t', 'r', 'u', 'e'] then .bool true
  else if cs.map Char.toLower = ['f', 'a', 'l', 's', 'e'] then .bool false
  else
    match Numeral.integer? cs with
    | some n => .integer n
    | none =>
      match Numeral.float? cs with
      | some x => .float x
      | none => .text written

/-- Every two underscores become a dot. -/
def dotted : List Char → List Char
  | '_' :: '_' :: rest => '.' :: dotted rest
  | c :: rest => c :: dotted rest
  | [] => []

def variablePrefix : List Char := programName.toList ++ ['_', '_']

def pathName? (name : String) : Option String :=
  (variablePrefix.isPrefixOf? (name.toList.map lowerChar)).map
    fun rest => String.ofList (dotted rest)

def ofEnvironment (e : Environment) : SettingLayer :=
  let given := e.«variables».entries.filterMap fun v =>
    (pathName? v.1).map fun name => (name, valueOf v.2)
  ofTable e.slot (Dictionary.ofList given).entries

end SettingLayer

def Environment.settingPrefix : String := String.ofList (programName.toList.map Char.toUpper)

end AppHost
