import AppHost.Json.Reader

/-!
Passing over a value that nobody wants. The value must be well formed, but its strings may hold any
escapes, its numbers may be out of range, and it may be nested to any depth: open brackets are kept
in a list instead of levels.
-/

set_option autoImplicit false
namespace AppHost.Json

def skipString : Nat → List Char → Except Fault (List Char)
  | 0, cs => faultAt .endInString cs
  | _ + 1, [] => faultAt .endInString []
  | fuel + 1, c :: rest =>
    if c = '"' then .ok rest
    else if c = '\\' then
      match rest with
      | [] => faultAt .endInString []
      | 'u' :: rest => do
        let (_, rest) ← readHex rest
        skipString fuel rest
      | d :: rest =>
        match shortEscape? d with
        | some _ => skipString fuel rest
        | none => faultNext .invalidEscape (d :: rest)
    else if c.toNat < 0x20 then faultAt .controlCharacter (c :: rest)
    else skipString fuel rest

def skipExponent (cs : List Char) : Except Fault (List Char) :=
  let digits := if cs.head? = some '-' ∨ cs.head? = some '+' then cs.tail else cs
  match digits with
  | [] => faultAt .invalidNumber []
  | d :: rest =>
    if d.isDigit then .ok (rest.dropWhile Char.isDigit) else faultNext .invalidNumber (d :: rest)

def skipNumberTail (cs : List Char) : Except Fault (List Char) :=
  match cs with
  | [] => .ok []
  | c :: rest =>
    if c = '.' then
      if (rest.takeWhile Char.isDigit).isEmpty then faultNext .invalidNumber rest
      else
        match rest.dropWhile Char.isDigit with
        | [] => .ok []
        | d :: more => if isExponentMark d then skipExponent more else .ok (d :: more)
    else if isExponentMark c then skipExponent rest
    else .ok (c :: rest)

def skipNumber : List Char → Except Fault (List Char)
  | [] => faultAt .invalidNumber []
  | c :: rest =>
    if !c.isDigit then faultNext .invalidNumber (c :: rest)
    else if c = '0' then
      match rest with
      | d :: _ => if d.isDigit then faultNext .invalidNumber rest else skipNumberTail rest
      | [] => .ok []
    else skipNumberTail (rest.dropWhile Char.isDigit)

inductive Bracket
  | square
  | brace
  deriving DecidableEq, Repr

def skipKey (cs : List Char) : Except Fault (List Char) :=
  match skipBlank cs with
  | [] => faultAt .endInObject []
  | c :: rest =>
    if c ≠ '"' then faultNext .keyMustBeString (c :: rest)
    else do
      let rest ← skipString (rest.length + 1) rest
      readColon rest

/-- A scalar, or nothing for an opening bracket. -/
def skipScalar? (cs : List Char) : Except Fault (Option (List Char)) :=
  match cs with
  | [] => faultAt .endInValue []
  | c :: rest =>
    if c = 'n' then some <$> readWord ['u', 'l', 'l'] rest
    else if c = 't' then some <$> readWord ['r', 'u', 'e'] rest
    else if c = 'f' then some <$> readWord ['a', 'l', 's', 'e'] rest
    else if c = '-' then some <$> skipNumber rest
    else if c.isDigit then some <$> skipNumber (c :: rest)
    else if c = '"' then some <$> skipString (rest.length + 1) rest
    else if c = '[' ∨ c = '\x7b' then .ok none
    else faultNext .expectedValue (c :: rest)

/-- Closes brackets as long as the text does, and stops before the next item or at the end. A comma
counts only after an item. -/
def closeBrackets (afterItem : Bool) : Nat → List Bracket → List Char →
    Except Fault (List Bracket × List Char)
  | 0, _, cs => faultAt .endInList cs
  | _ + 1, [], cs => .ok ([], cs)
  | fuel + 1, open_ :: outer, cs =>
    match skipBlank cs with
    | [] => faultAt (match open_ with | .square => .endInList | .brace => .endInObject) []
    | c :: rest =>
      if c = ',' ∧ afterItem then .ok (open_ :: outer, rest)
      else if (c = ']' ∧ open_ = .square) ∨ (c = '\x7d' ∧ open_ = .brace) then
        closeBrackets true fuel outer rest
      else if afterItem then
        faultNext (match open_ with
          | .square => .expectedListCommaOrEnd
          | .brace => .expectedObjectCommaOrEnd) (c :: rest)
      else .ok (open_ :: outer, c :: rest)

def skipOpen : Nat → List Bracket → List Char → Except Fault (List Char)
  | 0, _, cs => faultAt .endInValue cs
  | fuel + 1, opened, cs => do
    let cs := skipBlank cs
    let scalar ← skipScalar? cs
    let (opened, rest) ←
      match scalar with
      | some rest => closeBrackets true (opened.length + 1) opened rest
      | none =>
        let bracket := if cs.head? = some '[' then Bracket.square else Bracket.brace
        closeBrackets false (opened.length + 2) (bracket :: opened) cs.tail
    match opened with
    | [] => return rest
    | .square :: _ => skipOpen fuel opened rest
    | .brace :: _ => do
      let rest ← skipKey rest
      skipOpen fuel opened rest

def skipValue (cs : List Char) : Except Fault (List Char) := skipOpen (cs.length + 1) [] cs

end AppHost.Json
