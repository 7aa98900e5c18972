/-!
Which content types announce JSON: the type `application` with the subtype `json`, or with a suffix
that says so. Upper and lower case count alike, and parameters may follow.
-/

set_option autoImplicit false
namespace AppHost.Admin

def isTokenChar (c : Char) : Bool :=
  c.isAlphanum || "!#$%&'*+-.^_`|~".toList.contains c

/-- The value of a parameter between quotes, from behind the first one; gives what follows. The
first character always counts as part of the value. -/
def quotedValue? : Bool → List Char → Option (List Char)
  | _, [] => none
  | first, c :: rest =>
    if c = '"' ∧ ¬first then some rest
    else if c.toNat < 32 ∨ c.toNat = 127 then none
    else quotedValue? false rest

def afterValue? (cs : List Char) : Option (List Char) :=
  match cs with
  | '"' :: rest => do
    match (← quotedValue? true rest).dropWhile (· = ' ') with
    | [] => some []
    | ';' :: rest => some rest
    | _ => none
  | _ =>
    match cs.dropWhile isTokenChar with
    | [] => some []
    | ';' :: rest => if (cs.takeWhile isTokenChar).isEmpty then none else some rest
    | _ => none

def areParameters : Nat → List Char → Bool
  | 0, _ => false
  | fuel + 1, cs =>
    match cs.dropWhile (· = ' ') with
    | [] => true
    | start =>
      match start.takeWhile isTokenChar, start.dropWhile isTokenChar with
      | _ :: _, '=' :: value =>
        match afterValue? value with
        | some rest => areParameters fuel rest
        | none => false
      | _, _ => false

/-- Whether a subtype is JSON, in itself or by its suffix. A plus sign at the very start begins no
suffix. -/
def isJsonSubtype : List Char → Bool
  | [] => false
  | c :: rest =>
    match rest.reverse.dropWhile (· ≠ '+') with
    | [] => c :: rest = "json".toList
    | _ :: main =>
      c :: main.reverse = "json".toList ||
        (rest.reverse.takeWhile (· ≠ '+')).reverse = "json".toList

def isJsonType (contentType : String) : Bool :=
  let cs := contentType.toList
  match cs.dropWhile isTokenChar with
  | '/' :: rest =>
    let name := (cs.takeWhile isTokenChar).map Char.toLower
    let subtype := (rest.takeWhile isTokenChar).map Char.toLower
    let parametersFit := match rest.dropWhile isTokenChar with
      | [] => true
      | ';' :: parameters => areParameters (parameters.length + 1) parameters
      | _ => false
    name = "application".toList && isJsonSubtype subtype && cs.all (fun c => c.toNat < 127) &&
      parametersFit
  | _ => false

end AppHost.Admin
