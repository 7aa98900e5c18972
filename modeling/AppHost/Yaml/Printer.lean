import AppHost.Json.Printer
import AppHost.Yaml.Scalar

/-! A value as YAML, with one entry a line. Entries are indented below their key by two spaces, items
are not. -/

set_option autoImplicit false
namespace AppHost.Yaml
open Json (Value Number)

def exponentChars (e : Int) : List Char := Json.intChars e

def floatChars (x : Float) : List Char :=
  match Real64.ofFloat x with
  | .nan => ['.', 'n', 'a', 'n']
  | .infinite negative => signChars negative ++ ['.', 'i', 'n', 'f']
  | .zero negative => signChars negative ++ ['0', '.', '0']
  | .finite negative c => signChars negative ++
    if -5 ≤ c.leading ∧ c.leading ≤ 15 then c.positional ['.', '0'] else c.scientific exponentChars

def numberChars : Number → List Char
  | .int n => Json.intChars n
  | .float x => floatChars x

/-- What stands over several lines and starts on the next one below a key. -/
inductive Shape
  | scalar
  | entries
  | items

def shape : Value → Shape
  | .object (_ :: _) => .entries
  | .array (_ :: _) => .items
  | _ => .scalar

def afterMark (s : Shape) (block : List Char) : List Char :=
  match s with
  | .scalar => block
  | _ => indented block

def afterKey (s : Shape) (block : List Char) : List Char :=
  match s with
  | .scalar => ' ' :: block
  | .entries => indented ('\n' :: block)
  | .items => '\n' :: block

def entryChars (key : String) (s : Shape) (block : List Char) : List Char :=
  if isSimpleKey key then textChars key ++ ':' :: afterKey s block
  else '?' :: ' ' :: textChars key ++ '\n' :: ':' :: ' ' :: afterMark s block

mutual
def blockChars : Value → List Char
  | .null => Json.nullChars
  | .bool b => Json.boolChars b
  | .number n => numberChars n
  | .string s => textChars s
  | .array items => itemsChars items
  | .object fields => fieldsChars fields
termination_by structural v => v
def itemsChars : List Value → List Char
  | [] => ['[', ']']
  | v :: rest => '-' :: ' ' :: afterMark (shape v) (blockChars v) ++ moreItemsChars rest
termination_by structural items => items
def moreItemsChars : List Value → List Char
  | [] => []
  | v :: rest => '\n' :: '-' :: ' ' :: afterMark (shape v) (blockChars v) ++ moreItemsChars rest
termination_by structural items => items
def fieldsChars : List (String × Value) → List Char
  | [] => ['\x7b', '\x7d']
  | f :: rest => fieldChars f ++ moreFieldsChars rest
termination_by structural fields => fields
def moreFieldsChars : List (String × Value) → List Char
  | [] => []
  | f :: rest => '\n' :: fieldChars f ++ moreFieldsChars rest
termination_by structural fields => fields
def fieldChars : String × Value → List Char
  | (key, v) => entryChars key (shape v) (blockChars v)
termination_by structural field => field
end

def text (v : Value) : String := String.ofList (blockChars v ++ ['\n'])

end AppHost.Yaml
