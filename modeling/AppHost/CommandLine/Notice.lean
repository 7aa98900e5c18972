import AppHost.Json.Printer

/-!
Lines that tell what the program is doing. A line has a severity and an origin, a message and named
fields; it is shown as a line of text or as a JSON object.
-/

set_option autoImplicit false
namespace AppHost.CommandLine

/-- How much a line matters, the weightiest first. -/
inductive Severity
  | error
  | warn
  | info
  | debug
  | trace
  deriving DecidableEq, Repr

namespace Severity

def rank : Severity → Nat
  | .error => 1
  | .warn => 2
  | .info => 3
  | .debug => 4
  | .trace => 5

def name : Severity → String
  | .error => "ERROR"
  | .warn => "WARN"
  | .info => "INFO"
  | .debug => "DEBUG"
  | .trace => "TRACE"

def column (s : Severity) : String :=
  String.ofList (List.replicate (5 - s.name.length) ' ') ++ s.name

def color : Severity → String
  | .error => "31"
  | .warn => "33"
  | .info => "32"
  | .debug => "34"
  | .trace => "35"

end Severity

structure Origin where
  target : String
  file : String
  line : Nat
  -- The origin is told among the fields too.
  inFields : Bool
  deriving DecidableEq, Repr

structure Notice where
  severity : Severity
  origin : Origin
  message : String
  fields : List (String × String) := []
  deriving DecidableEq, Repr

inductive NoticeFormat
  | text (colored diagnostics : Bool)
  | json
  deriving DecidableEq, Repr

namespace Notice

def styled (code text : String) : String := "\x1b[" ++ code ++ "m" ++ text ++ "\x1b[0m"

def dimmed (colored : Bool) (text : String) : String := if colored then styled "2" text else text

def decimal (n : Nat) : String := String.ofList (Nat.toDigits 10 n)

def originText (colored : Bool) (o : Origin) : String :=
  dimmed colored o.target ++ dimmed colored ":" ++ " " ++ dimmed colored o.file ++
    dimmed colored ":" ++ dimmed colored (decimal o.line ++ ":") ++ " "

def fieldText (colored : Bool) (f : String × String) : String :=
  " " ++ (if colored then styled "3" f.1 ++ styled "2" "=" else f.1 ++ "=") ++ f.2

def text (n : Notice) (colored diagnostics : Bool) (time : String) : String :=
  let severity := n.severity.column
  dimmed colored time ++ " " ++
    (if colored then styled n.severity.color severity else severity) ++ " " ++
    (if diagnostics then originText colored n.origin else "") ++
    n.message ++ String.join (n.fields.map (fieldText colored))

def originFields (o : Origin) : List (String × Json.Value) :=
  if o.inFields then
    [("log.target", .string o.target), ("log.module_path", .string o.target),
      ("log.file", .string o.file), ("log.line", .nat o.line)]
  else []

def json (n : Notice) (time : String) : Json.Value :=
  .object [("timestamp", .string time), ("level", .string n.severity.name),
    ("fields", .object (("message", .string n.message) ::
      n.fields.map (fun f => (f.1, .string f.2)) ++ originFields n.origin)),
    ("target", .string n.origin.target)]

def shown (n : Notice) (format : NoticeFormat) (time : String) : String :=
  match format with
  | .text colored diagnostics => n.text colored diagnostics time
  | .json => (n.json time).text

end Notice
end AppHost.CommandLine
