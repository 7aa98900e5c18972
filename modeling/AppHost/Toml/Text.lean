import AppHost.Json.Reader

/-!
Characters and strings of TOML: what may stand in comments and in each of the four kinds of
strings, and the escapes. A line ends with a line feed, which a carriage return may precede.
-/

set_option autoImplicit false
namespace AppHost.Toml

def isSpace (c : Char) : Bool := c == ' ' || c == '\t'

def isPlain (c : Char) : Bool := c == '\t' || (decide (0x20 ≤ c.toNat) && c.toNat != 0x7F)

def skipSpace (cs : List Char) : List Char := cs.dropWhile isSpace

def newline? : List Char → Option (List Char)
  | '\n' :: rest => some rest
  | '\r' :: '\n' :: rest => some rest
  | _ => none

def skipNewline (cs : List Char) : List Char := (newline? cs).getD cs

def skipComment : List Char → List Char
  | '#' :: rest => rest.dropWhile isPlain
  | cs => cs

def lineEnd? : List Char → Option (List Char)
  | [] => some []
  | cs => newline? cs

def lineRest? (cs : List Char) : Option (List Char) := lineEnd? (skipComment (skipSpace cs))

/-! ### Escapes -/

def hexNumber? (digits : List Char) : Option Nat :=
  digits.foldl (fun n d => do return (← n) * 16 + (← Json.hexValue? d)) (some 0)

def scalar? (n : Nat) : Option Char :=
  if n.isValidChar then some (Char.ofNat n) else none

def numberedEscape? (count : Nat) (cs : List Char) : Option (Char × List Char) := do
  if (cs.take count).length < count then none
  else
    let n ← hexNumber? (cs.take count)
    return (← scalar? n, cs.drop count)

def escape? : List Char → Option (Char × List Char)
  | 'b' :: rest => some ('\x08', rest)
  | 't' :: rest => some ('\t', rest)
  | 'n' :: rest => some ('\n', rest)
  | 'f' :: rest => some ('\x0c', rest)
  | 'r' :: rest => some ('\r', rest)
  | '"' :: rest => some ('"', rest)
  | '\\' :: rest => some ('\\', rest)
  | 'u' :: rest => numberedEscape? 4 rest
  | 'U' :: rest => numberedEscape? 8 rest
  | _ => none

/-! ### Strings of one line -/

/-- After the opening double quote. -/
def basicChars? : Nat → List Char → Option (List Char × List Char)
  | 0, _ => none
  | _ + 1, [] => none
  | fuel + 1, c :: rest =>
    if c = '"' then some ([], rest)
    else if c = '\\' then do
      let (e, rest) ← escape? rest
      let (more, rest) ← basicChars? fuel rest
      return (e :: more, rest)
    else if isPlain c then do
      let (more, rest) ← basicChars? fuel rest
      return (c :: more, rest)
    else none

/-- After the opening quote: everything up to the next one, as it stands. -/
def literalChars? (cs : List Char) : Option (List Char × List Char) :=
  let inside := cs.takeWhile (fun c => isPlain c && c != '\'')
  match cs.drop inside.length with
  | '\'' :: rest => some (inside, rest)
  | _ => none

/-! ### Strings of several lines -/

def skipLines : Nat → List Char → List Char
  | 0, cs => cs
  | fuel + 1, cs =>
    match cs with
    | [] => []
    | c :: rest =>
      if isSpace c then skipLines fuel rest
      else
        match newline? (c :: rest) with
        | some rest => skipLines fuel rest
        | none => c :: rest

/-- A backslash at the end of a line swallows the break and the blanks after it. -/
def joinedLine? (cs : List Char) : Option (List Char) := do
  let rest ← newline? (skipSpace cs)
  return skipLines rest.length rest

/-- The body up to the closing quotes. Up to two quotes may stand together anywhere, also before the
closing ones. -/
def multilineChars? (quote : Char) (escapes : Bool) : Nat → List Char →
    Option (List Char × List Char)
  | 0, _ => none
  | _ + 1, [] => none
  | fuel + 1, c :: rest =>
    if c = quote then
      let run := ((c :: rest).takeWhile (· == quote)).length
      if 3 ≤ run then
        let used := min run 5
        some (List.replicate (used - 3) quote, (c :: rest).drop used)
      else do
        let (more, after) ← multilineChars? quote escapes fuel ((c :: rest).drop run)
        return (List.replicate run quote ++ more, after)
    else if c = '\\' ∧ escapes then
      match joinedLine? rest with
      | some rest => multilineChars? quote escapes fuel rest
      | none => do
        let (e, rest) ← escape? rest
        let (more, rest) ← multilineChars? quote escapes fuel rest
        return (e :: more, rest)
    else
      match newline? (c :: rest) with
      | some rest => do
        let (more, rest) ← multilineChars? quote escapes fuel rest
        return ('\n' :: more, rest)
      | none =>
        if isPlain c then do
          let (more, rest) ← multilineChars? quote escapes fuel rest
          return (c :: more, rest)
        else none

def string? (cs : List Char) : Option (String × List Char) := do
  let (chars, rest) ←
    match cs with
    | '"' :: '"' :: '"' :: rest => multilineChars? '"' true (rest.length + 1) (skipNewline rest)
    | '"' :: rest => basicChars? (rest.length + 1) rest
    | '\'' :: '\'' :: '\'' :: rest => multilineChars? '\'' false (rest.length + 1) (skipNewline rest)
    | '\'' :: rest => literalChars? rest
    | _ => none
  return (String.ofList chars, rest)

/-! ### Keys -/

def isBare (c : Char) : Bool := c.isAlphanum || c == '-' || c == '_'

def simpleKey? (cs : List Char) : Option (String × List Char) :=
  match cs with
  | '"' :: rest => (basicChars? (rest.length + 1) rest).map fun (k, rest) => (String.ofList k, rest)
  | '\'' :: rest => (literalChars? rest).map fun (k, rest) => (String.ofList k, rest)
  | cs =>
    let bare := cs.takeWhile isBare
    if bare.isEmpty then none else some (String.ofList bare, cs.drop bare.length)

def keyParts? : Nat → List Char → Option (List String × List Char)
  | 0, _ => none
  | fuel + 1, cs => do
    let (k, rest) ← simpleKey? (skipSpace cs)
    match skipSpace rest with
    | '.' :: rest => do
      let (ks, rest) ← keyParts? fuel rest
      return (k :: ks, rest)
    | rest => return ([k], rest)

/-- How many parts a key may not reach, and how many brackets may not be open at once. -/
def depthLimit : Nat := 80

def key? (cs : List Char) : Option (List String × List Char) := do
  let (ks, rest) ← keyParts? (cs.length + 1) cs
  if ks.length < depthLimit then return (ks, rest) else none

end AppHost.Toml
