import AppHost.Admin.Frames
import AppHost.Proofs.Text.Lossy

/-!
How a client reads a stream of server-sent events: the lines of the text, of each line the field and
its value, and at each empty line the frame that was gathered. What a line feed, a carriage return or
both end is a line; what comes after the last of them is not read.

A frame is read back as it was written if its kind is one line and its data have no carriage return.
Comments carry nothing.
-/

set_option autoImplicit false
namespace AppHost.Admin

namespace EventSource

/-- The lines of a text, the first of which has begun already. A line feed after a carriage return ends
the same line. -/
def linesFrom (line : List Char) (returned : Bool) : List Char → List (List Char)
  | [] => []
  | c :: rest =>
    if c = '\n' ∧ returned then linesFrom line false rest
    else if c = '\n' ∨ c = '\r' then line :: linesFrom [] (c = '\r') rest
    else linesFrom (line ++ [c]) false rest

def lines (cs : List Char) : List (List Char) := linesFrom [] false cs

/-- What was gathered for the next frame. A line feed ends each line of the data. -/
structure Gathered where
  event : List Char
  data : List Char

namespace Gathered

def empty : Gathered := ⟨[], []⟩

/-- Takes in a line that is not empty. The field ends at the first colon, and one blank after that does
not count. A comment is a line whose field has no name. -/
def take (g : Gathered) (line : List Char) : Gathered :=
  let name := line.takeWhile (· != ':')
  let value := match line.drop (name.length + 1) with
    | ' ' :: value => value
    | value => value
  if name = "event".toList then { g with event := value }
  else if name = "data".toList then { g with data := g.data ++ value ++ ['\n'] }
  else g

def frame? (g : Gathered) : Option Frame :=
  if g.data.isEmpty then none
  else
    let event := if g.event.isEmpty then "message" else String.ofList g.event
    some ⟨event, String.ofList g.data.dropLast⟩

def frames (g : Gathered) : List (List Char) → List Frame
  | [] => []
  | line :: rest =>
    if line.isEmpty then g.frame?.toList ++ empty.frames rest else (g.take line).frames rest

end Gathered

/-- A mark of the byte order in front does not count. -/
def withoutMark : List Char → List Char
  | '\uFEFF' :: rest => rest
  | cs => cs

/-- The frames that a client reads in the bytes of a stream. -/
def frames (bytes : List UInt8) : List Frame :=
  Gathered.empty.frames (lines (withoutMark (Text.decodeLossy bytes)))

/-! ### Lines -/

def terminated (lines : List (List Char)) : List Char := lines.flatMap (· ++ ['\n'])

def InOneLine (cs : List Char) : Prop := ∀ c ∈ cs, c ≠ '\n' ∧ c ≠ '\r'

theorem inOneLine_of_all {cs : List Char} (all : cs.all (fun c => c != '\n' && c != '\r') = true) :
    InOneLine cs := fun c member => by
  simpa using List.all_eq_true.1 all c member

/-- A line that is read as it is, also where it is the first of all. -/
structure IsLine (line : List Char) : Prop where
  unbroken : InOneLine line
  unmarked : line.head? ≠ some '\uFEFF'

theorem linesFrom_append {line : List Char} (unbroken : InOneLine line)
    (before rest : List Char) :
    linesFrom before false (line ++ '\n' :: rest) = (before ++ line) :: linesFrom [] false rest := by
  induction line generalizing before with
  | nil => simp [linesFrom]
  | cons c line ih =>
    obtain ⟨plain, others⟩ := List.forall_mem_cons.1 unbroken
    rw [List.cons_append, linesFrom, if_neg (fun both => plain.1 both.1),
      if_neg (not_or.2 plain), ih others, List.append_assoc]
    rfl

theorem lines_terminated {ls : List (List Char)} (each : ∀ line ∈ ls, IsLine line) :
    lines (terminated ls) = ls := by
  induction ls with
  | nil => rfl
  | cons line ls ih =>
    obtain ⟨first, others⟩ := List.forall_mem_cons.1 each
    have text : terminated (line :: ls) = line ++ '\n' :: terminated ls := by
      simp [terminated]
    rw [lines, text, linesFrom_append first.unbroken]
    exact congrArg (line :: ·) (ih others)

theorem withoutMark_terminated {ls : List (List Char)} (each : ∀ line ∈ ls, IsLine line) :
    withoutMark (terminated ls) = terminated ls := by
  unfold withoutMark
  split
  · rename_i rest same
    cases ls with
    | nil => cases same
    | cons line ls =>
      have unmarked := (each line List.mem_cons_self).unmarked
      cases line with
      | nil => cases same
      | cons c line =>
        cases same
        exact absurd rfl unmarked
  · rfl

/-! ### Texts of frames -/

/-- A text of whole lines that are read as these frames, whatever follows. -/
def ReadsAs (text : List Char) (fs : List Frame) : Prop :=
  ∃ ls, text = terminated ls ∧ (∀ line ∈ ls, IsLine line) ∧
    ∀ rest, Gathered.empty.frames (ls ++ rest) = fs ++ Gathered.empty.frames rest

namespace ReadsAs
variable {first second : List Char} {fs gs : List Frame}

theorem nil : ReadsAs [] [] := ⟨[], rfl, nofun, fun _ => rfl⟩

theorem append (front : ReadsAs first fs) (back : ReadsAs second gs) :
    ReadsAs (first ++ second) (fs ++ gs) := by
  obtain ⟨ls, rfl, each, reads⟩ := front
  obtain ⟨more, rfl, others, continues⟩ := back
  refine ⟨ls ++ more, List.flatMap_append.symm, List.forall_mem_append.2 ⟨each, others⟩, ?_⟩
  intro rest
  rw [List.append_assoc, reads, continues, List.append_assoc]

theorem frames {text : String} (whole : ReadsAs text.toList fs) :
    EventSource.frames (Text.encodeUtf8 text) = fs := by
  obtain ⟨ls, same, each, reads⟩ := whole
  have all := reads []
  rw [List.append_nil] at all
  rw [EventSource.frames, Text.decodeLossy_encodeUtf8, same, withoutMark_terminated each,
    lines_terminated each, all]
  exact List.append_nil fs

end ReadsAs

def fieldLine (name value : List Char) : List Char := name ++ ':' :: ' ' :: value

theorem take_fieldLine {name : List Char} (plain : ':' ∉ name) (g : Gathered) (value : List Char) :
    g.take (fieldLine name value) =
      if name = "event".toList then { g with event := value }
      else if name = "data".toList then { g with data := g.data ++ value ++ ['\n'] }
      else g := by
  have passed : ∀ c ∈ name, (c != ':') = true := by
    intro c member
    rw [bne_iff_ne]
    rintro rfl
    exact plain member
  have field : (fieldLine name value).takeWhile (· != ':') = name := by
    simp [fieldLine, List.takeWhile_append_of_pos passed]
  have value : (fieldLine name value).drop (name.length + 1) = ' ' :: value := by
    simp [fieldLine]
  simp only [Gathered.take, field, value]

theorem isLine_fieldLine {name value : List Char} (named : name ≠ []) (line : IsLine name)
    (unbroken : InOneLine value) : IsLine (fieldLine name value) where
  unbroken := List.forall_mem_append.2 ⟨line.unbroken, List.forall_mem_cons.2
    ⟨by decide, List.forall_mem_cons.2 ⟨by decide, unbroken⟩⟩⟩
  unmarked := by
    obtain ⟨c, rest, rfl⟩ := List.exists_cons_of_ne_nil named
    exact line.unmarked

theorem readsAs_comment {comment : List Char} (unbroken : InOneLine comment) :
    ReadsAs (terminated [':' :: comment, []]) [] := by
  refine ⟨_, rfl, ?_, fun rest => ?_⟩
  · have line : IsLine (':' :: comment) :=
      ⟨List.forall_mem_cons.2 ⟨by decide, unbroken⟩, by simp⟩
    have empty : IsLine [] := ⟨nofun, by simp⟩
    exact List.forall_mem_cons.2 ⟨line, List.forall_mem_cons.2 ⟨empty, nofun⟩⟩
  · simp [Gathered.frames, Gathered.take, Gathered.frame?, Gathered.empty]

/-! ### Frames -/

theorem terminated_eq {parts : List (List Char)} (some : parts ≠ []) :
    terminated parts = Text.joinWith ['\n'] parts ++ ['\n'] := by
  induction parts with
  | nil => exact absurd rfl some
  | cons part rest ih =>
    cases rest with
    | nil => simp [terminated, Text.joinWith]
    | cons next more =>
      have later := ih (List.cons_ne_nil next more)
      rw [terminated] at later ⊢
      rw [List.flatMap_cons, later]
      simp [Text.joinWith]

theorem frames_data (g : Gathered) (parts rest : List (List Char)) :
    g.frames (parts.map (fieldLine "data".toList) ++ rest) =
      { g with data := g.data ++ terminated parts : Gathered }.frames rest := by
  induction parts generalizing g with
  | nil => simp [terminated]
  | cons part parts ih =>
    have named : (fieldLine "data".toList part).isEmpty = false := rfl
    rw [List.map_cons, List.cons_append, Gathered.frames, named]
    simp only [Bool.false_eq_true, if_false]
    rw [take_fieldLine (by decide), if_neg (by decide), if_pos rfl, ih]
    simp [terminated]

theorem toList_text (f : Frame) :
    f.text.toList = terminated (fieldLine "event".toList f.event.toList ::
      ((Text.splitOn '\n' f.data.toList).map (fieldLine "data".toList) ++ [[]])) := by
  have event : "event: ".toList = "event".toList ++ [':', ' '] := by decide
  have data : "data: ".toList = "data".toList ++ [':', ' '] := by decide
  have feed : "\n".toList = ['\n'] := by decide
  simp only [Frame.text, String.toList_append, String.toList_join, event, data, feed, terminated,
    fieldLine, List.flatMap_cons, List.flatMap_append, List.flatMap_map, List.flatMap_nil,
    String.toList_ofList, List.append_assoc, List.cons_append, List.nil_append, List.append_nil]

/-- A frame is read back if its kind is one line and its data have no carriage return. -/
theorem readsAs_frame {f : Frame} (named : f.event ≠ "")
    (event : InOneLine f.event.toList) (data : '\r' ∉ f.data.toList) :
    ReadsAs f.text.toList [f] := by
  refine ⟨_, toList_text f, ?_, fun rest => ?_⟩
  · have first : IsLine "event".toList := ⟨inOneLine_of_all (by decide), by decide⟩
    have second : IsLine "data".toList := ⟨inOneLine_of_all (by decide), by decide⟩
    refine List.forall_mem_cons.2 ⟨isLine_fieldLine (by decide) first event,
      List.forall_mem_append.2 ⟨List.forall_mem_map.2 fun part member => ?_,
        List.forall_mem_singleton.2 ⟨nofun, nofun⟩⟩⟩
    refine isLine_fieldLine (by decide) second fun c inside => ?_
    obtain ⟨stands, unfed⟩ := Text.mem_of_mem_splitOn member inside
    exact ⟨unfed, fun same => data (same ▸ stands)⟩
  · have parts := Text.splitOn_ne_nil '\n' f.data.toList
    have opening : (fieldLine "event".toList f.event.toList).isEmpty = false := rfl
    have kind : f.event.toList.isEmpty = false := by simpa using named
    rw [List.cons_append, Gathered.frames, opening]
    simp only [Bool.false_eq_true, if_false]
    rw [take_fieldLine (by decide), if_pos rfl, List.append_assoc, frames_data,
      terminated_eq parts, Text.joinWith_splitOn]
    simp [Gathered.frames, Gathered.frame?, Gathered.empty, kind]

end EventSource
end AppHost.Admin
