import AppHost.Numeral
import AppHost.Text.Utf8

/-!
How YAML writes a text. It stands plain where that reads back as the same text; else between single
quotes, or between double quotes with escapes if it holds what cannot be shown. A text of several
lines stands as a block below its place.
-/

set_option autoImplicit false
namespace AppHost.Yaml

inductive Style
  | plain
  | single
  | double
  | block
  deriving DecidableEq, Repr

/-! ### Characters -/

def isBreak (c : Char) : Bool :=
  c == '\n' || c == '\r' || c == '\u0085' || c == '\u2028' || c == '\u2029'

def isBlank (c : Char) : Bool := c == ' ' || c == '\t' || c == '\x00' || isBreak c

def startsBlank : List Char → Bool
  | [] => true
  | c :: _ => isBlank c

def isPrintable (c : Char) : Bool :=
  c == '\n' || (' ' ≤ c && c ≤ '~') ||
    (0xA0 ≤ c.toNat && c.toNat != 0xFEFF && c.toNat != 0xFFFE && c.toNat != 0xFFFF)

def isIndicator (c : Char) : Bool :=
  ['#', ',', '[', ']', '\x7b', '\x7d', '&', '*', '!', '|', '>', '\'', '"', '%', '@', '\x60'].contains c

/-! ### What a plain text reads as -/

/-- Digits in another base after their mark, with an optional sign before it. -/
def isBased (cs : List Char) : Bool :=
  let digits := (Numeral.sign cs).2
  let fits (base : Nat) (isDigit : Char → Bool) (ds : List Char) : Bool :=
    let value (c : Char) : Nat := if c.isDigit then c.toNat - 48 else c.toLower.toNat - 87
    let n := ds.foldl (fun n d => n * base + value d) 0
    let bound := if cs.head? = some '-' then 2 ^ 127 + 1 else 2 ^ 128
    !ds.isEmpty && ds.all isDigit && decide (n < bound)
  match digits with
  | '0' :: 'x' :: ds =>
    fits 16 (fun c => c.isDigit || ('a' ≤ c && c ≤ 'f') || ('A' ≤ c && c ≤ 'F')) ds
  | '0' :: 'o' :: ds => fits 8 (fun c => '0' ≤ c && c ≤ '7') ds
  | '0' :: 'b' :: ds => fits 2 (fun c => c == '0' || c == '1') ds
  | _ => false

/-- Digits after a zero, which are no number. -/
def hasLeadingZero (cs : List Char) : Bool :=
  match (Numeral.sign cs).2 with
  | '0' :: d :: rest => (d :: rest).all Char.isDigit
  | _ => false

def isWhole (cs : List Char) : Bool :=
  match Numeral.whole? cs with
  | some n => -(2 ^ 127) ≤ n ∧ n < 2 ^ 128
  | none => false

def specialFloats : List String :=
  [".inf", ".Inf", ".INF", "+.inf", "+.Inf", "+.INF", "-.inf", "-.Inf", "-.INF",
    ".nan", ".NaN", ".NAN"]

def isFloat (cs : List Char) : Bool :=
  specialFloats.contains (String.ofList cs) ||
    match Numeral.float? cs with
    | some x => x.isFinite
    | none => false

def words : List String :=
  ["null", "Null", "NULL", "~", "true", "True", "TRUE", "false", "False", "FALSE"]

/-- The texts that would be read as something else, or are digits with a zero in front. -/
def isAmbiguous (cs : List Char) : Bool :=
  cs.isEmpty || words.contains (String.ofList cs) || isBased cs || hasLeadingZero cs ||
    isWhole cs || isFloat cs

/-! ### Style -/

def startsIndicated : List Char → Bool
  | c :: rest => isIndicator c || ((c == '?' || c == ':' || c == '-') && startsBlank rest)
  | [] => false

/-- A colon before a blank, or a number sign after one. -/
def holdsIndicator : List Char → Bool
  | a :: b :: rest =>
    (b == ':' && startsBlank rest) || (b == '#' && isBlank a) || holdsIndicator (b :: rest)
  | _ => false

def startsDocument (cs : List Char) : Bool :=
  cs.take 3 == ['-', '-', '-'] || cs.take 3 == ['.', '.', '.']

def isEdge (c : Char) : Bool := c == ' ' || isBreak c

def adjacent (first second : Char → Bool) : List Char → Bool
  | a :: b :: rest => (first a && second b) || adjacent first second (b :: rest)
  | _ => false

def isSpace (c : Char) : Bool := c == ' '

/-- Neither hidden characters nor a break after a space. -/
def isShowable (cs : List Char) : Bool := cs.all isPrintable && !adjacent isSpace isBreak cs

def allowsPlain (cs : List Char) : Bool :=
  isShowable cs && !cs.any isBreak && !(cs.head?.any isEdge) && !(cs.getLast?.any isEdge) &&
    !startsDocument cs && !startsIndicated cs && !holdsIndicator cs

def allowsSingle (cs : List Char) : Bool := isShowable cs && !adjacent isBreak isSpace cs

def allowsBlock (cs : List Char) : Bool := isShowable cs && !(cs.getLast?.any isSpace)

def style (cs : List Char) : Style :=
  if cs.contains '\n' then if allowsBlock cs then .block else .double
  else if !isAmbiguous cs && allowsPlain cs then .plain
  else if allowsSingle cs then .single
  else .double

/-! ### Writing -/

def indented : List Char → List Char
  | a :: b :: rest =>
    if isBreak a && !isBreak b then a :: ' ' :: ' ' :: indented (b :: rest)
    else a :: indented (b :: rest)
  | cs => cs

def hex (width n : Nat) : List Char :=
  let digits := (Nat.toDigits 16 n).map Char.toUpper
  List.replicate (width - digits.length) '0' ++ digits

def escapedChar (c : Char) : List Char :=
  if c = '\x00' then ['\\', '0']
  else if c = '\x07' then ['\\', 'a']
  else if c = '\x08' then ['\\', 'b']
  else if c = '\t' then ['\\', 't']
  else if c = '\n' then ['\\', 'n']
  else if c = '\x0b' then ['\\', 'v']
  else if c = '\x0c' then ['\\', 'f']
  else if c = '\r' then ['\\', 'r']
  else if c = '\x1b' then ['\\', 'e']
  else if c = '"' ∨ c = '\\' then ['\\', c]
  else if c = '\u0085' then ['\\', 'N']
  else if c = '\u2028' then ['\\', 'L']
  else if c = '\u2029' then ['\\', 'P']
  else if isPrintable c then [c]
  else if c.toNat ≤ 0xFF then '\\' :: 'x' :: hex 2 c.toNat
  else if c.toNat ≤ 0xFFFF then '\\' :: 'u' :: hex 4 c.toNat
  else '\\' :: 'U' :: hex 8 c.toNat

def doubleQuoted (cs : List Char) : List Char := '"' :: cs.flatMap escapedChar ++ ['"']

def singleQuoted (cs : List Char) : List Char :=
  '\'' :: cs.flatMap (fun c => if c = '\'' then ['\'', '\''] else [c]) ++ ['\'']

/-- Says that the first line's own blanks are not indentation. -/
def indentMark (cs : List Char) : List Char := if cs.head?.any isEdge then ['2'] else []

/-- Says what becomes of the breaks at the end: none is there, or more than one. -/
def endMark (cs : List Char) : List Char :=
  match cs.reverse with
  | [] => ['-']
  | [c] => if isBreak c then ['+'] else ['-']
  | c :: d :: _ => if !isBreak c then ['-'] else if isBreak d then ['+'] else []

def block (cs : List Char) : List Char :=
  let lines := if cs.getLast? = some '\n' then cs.dropLast else cs
  '|' :: indentMark cs ++ endMark cs ++ '\n' :: lines

def textChars (s : String) : List Char :=
  let cs := s.toList
  match style cs with
  | .plain => cs
  | .single => indented (singleQuoted cs)
  | .double => doubleQuoted cs
  | .block => indented (block cs)

/-- The most bytes of a key that stands on one line with its value. -/
def longestSimpleKey : Nat := 128

def isSimpleKey (s : String) : Bool :=
  !s.toList.any isBreak && decide (Text.utf8Length s.toList ≤ longestSimpleKey)

end AppHost.Yaml
