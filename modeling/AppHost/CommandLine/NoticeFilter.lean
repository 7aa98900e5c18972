import AppHost.CommandLine.Notice
import AppHost.Text.Alphanumeric
import AppHost.Text.Blank
import AppHost.Text.Split

/-!
Which lines are shown. A filter is a list of directives between commas: a threshold for everything, a
target for all its lines, or a target and a threshold. Of the directives whose target a line's target
starts with, the one with the longest target decides, and of equal ones the last.
-/

set_option autoImplicit false
namespace AppHost.CommandLine

/-- The least weighty severity that is shown; none shows nothing. -/
abbrev Threshold := Option Severity

namespace Threshold

def admits (t : Threshold) (s : Severity) : Bool :=
  match t with
  | some least => s.rank ≤ least.rank
  | none => false

def ofName? (name : List Char) : Option Threshold :=
  let name := String.ofList (name.map Char.toLower)
  if name = "off" then some none
  else if name = "error" then some (some .error)
  else if name = "warn" then some (some .warn)
  else if name = "info" then some (some .info)
  else if name = "debug" then some (some .debug)
  else if name = "trace" then some (some .trace)
  else none

/-- A name, or a number from zero for nothing to five for all. -/
def parse? (written : List Char) : Option Threshold :=
  match written with
  | ['0'] => some none
  | ['1'] => some (some .error)
  | ['2'] => some (some .warn)
  | ['3'] => some (some .info)
  | ['4'] => some (some .debug)
  | ['5'] => some (some .trace)
  | written => ofName? written

end Threshold

structure Directive where
  -- None is for every target.
  target : Option (List Char)
  threshold : Threshold
  deriving DecidableEq, Repr

namespace Directive

def isStart (c : Char) : Bool :=
  Text.isAlphanumeric c || c == '-' || c == ':' || c == '_' || c == '['

/-- Directives for spans hold for no line: there are no spans. -/
def parse? (written : List Char) : Option (List Directive) :=
  match Text.trimStart written with
  | [] => none
  | first :: more =>
    if !isStart first then none
    else
      let lead := (first :: more).takeWhile fun c => c != '=' && c != '['
      match (first :: more).drop lead.length with
      | [] =>
        match Threshold.parse? written with
        | some t => some [⟨none, t⟩]
        | none => some [⟨some written, some .trace⟩]
      | '=' :: [] => some [⟨some (written.take lead.length), some .trace⟩]
      | '=' :: _ =>
        (Threshold.parse? (written.drop (lead.length + 1))).map fun t =>
          [⟨some (written.take lead.length), t⟩]
      | _ => if more.contains ']' then some [] else none

def covers (d : Directive) (target : List Char) : Bool :=
  match d.target with
  | some start => start.isPrefixOf target
  | none => true

/-- Longer targets go before shorter ones, and those before none. -/
def weight (d : Directive) : Nat :=
  match d.target with
  | some start => start.length + 1
  | none => 0

end Directive

abbrev NoticeFilter := List Directive

namespace NoticeFilter

/-- Without any directive errors are shown. -/
def parse? (written : String) : Option NoticeFilter := do
  let parts := (Text.splitOn ',' written.toList).filter fun part => !part.isEmpty
  let directives ← parts.mapM Directive.parse?
  return if parts.isEmpty then [⟨none, some .error⟩] else directives.flatten

def ofThreshold (target : String) (t : Threshold) : NoticeFilter := [⟨some target.toList, t⟩]

def decide? (f : NoticeFilter) (target : List Char) : Option Directive :=
  f.foldl (fun best d =>
    if !d.covers target then best
    else
      match best with
      | some b => if b.weight ≤ d.weight then some d else some b
      | none => some d) none

def admits (f : NoticeFilter) (n : Notice) : Bool :=
  match f.decide? n.origin.target.toList with
  | some d => d.threshold.admits n.severity
  | none => false

end NoticeFilter

/-! ### Complaints -/

/-- What is said about a filter's parts that cannot be taken. Here a part is a name, or a name and a
threshold, and a text to look for may follow all of them after a slash. -/
def filterComplaints (written : String) : List String :=
  match Text.splitOn '/' written.toList with
  | _ :: _ :: _ :: _ => ["invalid logging spec '" ++ written ++ "' (too many '/'s)"]
  | names :: _ => (Text.splitOn ',' names).filterMap complaint
  | [] => []
where
  trim (cs : List Char) : List Char := (Text.trimStart (Text.trimStart cs).reverse).reverse
  complaint (part : List Char) : Option String :=
    let part := trim part
    match Text.splitOn '=' part with
    | [_] => none
    | [_, threshold] =>
      let threshold := trim threshold
      if threshold.isEmpty || (Threshold.ofName? threshold).isSome then none
      else some ("invalid logging spec '" ++ String.ofList threshold ++ "'")
    | _ => some ("invalid logging spec '" ++ String.ofList part ++ "'")

end AppHost.CommandLine
