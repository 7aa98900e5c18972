import AppHost.Instance
import AppHost.Proofs.Attempts
import Mathlib.Data.List.Forall2

/-!
The arguments of calls and events. They are decoded one by one, each on its own, and the first that
is not JSON is named.
-/

set_option autoImplicit false
namespace AppHost
open Json (Value)

/-- The texts are JSON, and these are their values, one by one. -/
def Decode (arguments : List String) (values : List Value) : Prop :=
  List.Forall₂ (fun text value => Json.parse text = .ok value) arguments values

/-- What is told of an argument that is not JSON. -/
def undecoded (position : Nat) (text : String) (fault : Json.Fault) : RuntimeError :=
  .invalidArgument ("argument " ++ toString position ++ " is not valid JSON: " ++
    fault.message text.toList)

/-- The argument of this position is not JSON, and all before it are. -/
structure FirstUndecoded (arguments : List String) (position : Nat) (text : String)
    (fault : Json.Fault) : Prop where
  present : arguments[position]? = some text
  fails : Json.parse text = .error fault
  least : ∀ earlier < position, ∀ before, arguments[earlier]? = some before →
    ∃ value, Json.parse before = .ok value

variable {text : String} {arguments : List String} {position : Nat}

theorem FirstUndecoded.cons {later : Nat} {bad : String} {fault : Json.Fault} {value : Value}
    (first : FirstUndecoded arguments later bad fault) (parsed : Json.parse text = .ok value) :
    FirstUndecoded (text :: arguments) (later + 1) bad fault where
  present := first.present
  fails := first.fails
  least earlier before found present := by
    cases earlier with
    | zero =>
      cases present
      exact ⟨value, parsed⟩
    | succ earlier => exact first.least earlier (Nat.lt_of_succ_lt_succ before) found present

/-- All are decoded, or the first that cannot be is named. -/
theorem decodeArguments.go_cases (position : Nat) (arguments : List String) :
    (∃ values, go position arguments = .ok values ∧ Decode arguments values) ∨
      ∃ later text fault, FirstUndecoded arguments later text fault ∧
        go position arguments = .error (undecoded (position + later) text fault) := by
  induction arguments generalizing position with
  | nil => exact .inl ⟨[], rfl, .nil⟩
  | cons text rest ih =>
    cases parsed : Json.parse text with
    | error fault =>
      refine .inr ⟨0, text, fault, ⟨rfl, parsed, fun earlier before => absurd before (by omega)⟩, ?_⟩
      simp only [go, parsed]
      rfl
    | ok value =>
      rcases ih (position + 1) with ⟨values, decoded, all⟩ | ⟨later, bad, fault, first, failed⟩
      · refine .inl ⟨value :: values, ?_, .cons parsed all⟩
        simp only [go, parsed, decoded]
        rfl
      · refine .inr ⟨later + 1, bad, fault, first.cons parsed, ?_⟩
        have further : position + (later + 1) = position + 1 + later := by omega
        simp only [go, parsed, failed, further]
        rfl

theorem Decode.go {values : List Value} (all : Decode arguments values) (position : Nat) :
    decodeArguments.go position arguments = .ok values := by
  induction all generalizing position with
  | nil => rfl
  | cons parsed rest ih =>
    simp only [decodeArguments.go, parsed, ih]
    rfl

theorem Decode.parses {values : List Value} (all : Decode arguments values)
    (present : arguments[position]? = some text) : ∃ value, Json.parse text = .ok value := by
  induction all generalizing position with
  | nil => cases present
  | cons parsed rest ih =>
    cases position with
    | zero =>
      cases present
      exact ⟨_, parsed⟩
    | succ position => exact ih present

theorem FirstUndecoded.le {other : Nat} {bad worse : String} {fault further : Json.Fault}
    (first : FirstUndecoded arguments position bad fault)
    (present : arguments[other]? = some worse) (fails : Json.parse worse = .error further) :
    position ≤ other := by
  by_contra before
  obtain ⟨value, parsed⟩ := first.least other (Nat.lt_of_not_le before) worse present
  cases parsed.symm.trans fails

theorem FirstUndecoded.unique {other : Nat} {bad worse : String} {fault further : Json.Fault}
    (first : FirstUndecoded arguments position bad fault)
    (second : FirstUndecoded arguments other worse further) :
    undecoded position bad fault = undecoded other worse further := by
  have same : position = other := Nat.le_antisymm (first.le second.present second.fails)
    (second.le first.present first.fails)
  subst same
  cases first.present.symm.trans second.present
  cases first.fails.symm.trans second.fails
  rfl

theorem decodeArguments_eq_ok_iff {values : List Value} :
    decodeArguments arguments = .ok values ↔ Decode arguments values := by
  refine ⟨fun decodes => ?_, fun all => all.go 0⟩
  rcases decodeArguments.go_cases 0 arguments with
    ⟨found, decoded, all⟩ | ⟨later, bad, fault, first, failed⟩
  · cases decoded.symm.trans decodes
    exact all
  · cases failed.symm.trans decodes

theorem decodeArguments_eq_error_iff {e : RuntimeError} :
    decodeArguments arguments = .error e ↔
      ∃ position text fault, FirstUndecoded arguments position text fault ∧
        e = undecoded position text fault := by
  rcases decodeArguments.go_cases 0 arguments with
    ⟨values, decoded, all⟩ | ⟨later, bad, fault, first, failed⟩
  · refine ⟨fun fails => ?_, ?_⟩
    · cases decoded.symm.trans fails
    · rintro ⟨position, text, fault, first, -⟩
      obtain ⟨value, parsed⟩ := all.parses first.present
      cases parsed.symm.trans first.fails
  · rw [Nat.zero_add] at failed
    refine ⟨fun fails => ?_, ?_⟩
    · cases failed.symm.trans fails
      exact ⟨later, bad, fault, first, rfl⟩
    · rintro ⟨position, text, fault, second, rfl⟩
      exact failed.trans (congrArg _ (first.unique second))

theorem decodeArguments_fails_iff :
    (∃ e, decodeArguments arguments = .error e) ↔
      ∃ text ∈ arguments, ∃ fault, Json.parse text = .error fault := by
  constructor
  · rintro ⟨e, failed⟩
    obtain ⟨position, text, fault, first, -⟩ := decodeArguments_eq_error_iff.1 failed
    exact ⟨text, List.mem_of_getElem? first.present, fault, first.fails⟩
  · rintro ⟨text, member, fault, fails⟩
    cases decoded : decodeArguments arguments with
    | error e => exact ⟨e, rfl⟩
    | ok values =>
      obtain ⟨position, present⟩ := List.mem_iff_getElem?.1 member
      obtain ⟨value, parsed⟩ := (decodeArguments_eq_ok_iff.1 decoded).parses present
      cases parsed.symm.trans fails

end AppHost
