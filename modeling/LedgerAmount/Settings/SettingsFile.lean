import LedgerAmount.Settings.Bindings
import LedgerAmount.Settings.Reference
import LedgerAmount.Text.Blank
import LedgerAmount.Text.Quoted

/-!
# Settings files

A settings file assigns one value a line, as `NAME=value`. An `export` before the name, blanks
around the equals sign, quote marks around the value and a comment behind it are allowed; a value
between quote marks may go on over several lines. Comments, blank lines and lines that cannot be
read assign nothing. A value may refer to names assigned before it and to the environment.
-/

namespace LedgerAmount

/-- The assignments of a settings file, in order. A name without an equals sign is assigned
nothing. -/
structure SettingsFile where
  assignments : List (String × Option String)
  deriving DecidableEq, Repr

namespace SettingsFile

/-! ## Lines -/

/-- A text in which a line feed ends each line, whatever ended it before. -/
def unifyBreaks : List Char → List Char
  | [] => []
  | '\r' :: '\n' :: cs => '\n' :: unifyBreaks cs
  | c :: cs => (if c = '\r' then '\n' else c) :: unifyBreaks cs

/-- Whether a character is a blank within a line. -/
def isSpace (c : Char) : Bool := Text.isBlank c && c != '\n'

/-- A text without the blanks that its line begins with. -/
def dropSpaces (cs : List Char) : List Char := cs.dropWhile isSpace

/-- What follows the line that a text begins with. -/
def nextLine (cs : List Char) : List Char := (cs.dropWhile (· != '\n')).tail

/-- Whether nothing but a comment stands before the end of the line. -/
def endsLine (cs : List Char) : Bool :=
  match dropSpaces cs with
  | [] => true
  | c :: _ => c == '#' || c == '\n'

theorem length_dropSpaces_le (cs : List Char) : (dropSpaces cs).length ≤ cs.length :=
  (List.dropWhile_suffix isSpace).length_le

/-- The next line begins later, unless nothing is left. -/
theorem length_nextLine_le (cs : List Char) : (nextLine cs).length ≤ cs.length - 1 := by
  have := (List.dropWhile_suffix (l := cs) (· != '\n')).length_le
  simp only [nextLine, List.length_tail]
  omega

/-! ## Values -/

/-- Splits a text at the mark that closes a quotation: the first one without a backslash before it,
or else the last one with a backslash. -/
def splitAtMark (mark : Char) : List Char → Option (List Char × List Char)
  | [] => none
  | [c] => if c = mark then some ([], []) else none
  | c :: d :: cs =>
    if c = mark then some ([], d :: cs)
    else if c = Text.backslash ∧ d = mark then
      match splitAtMark mark cs with
      | some (inner, rest) => some (c :: d :: inner, rest)
      | none => some ([c], cs)
    else (splitAtMark mark (d :: cs)).map fun split => (c :: split.1, split.2)

/-- The character that a letter stands for after a backslash, in a value between `mark`s. -/
def unescape? (mark c : Char) : Option Char :=
  if c = Text.backslash ∨ c = Text.singleMark then some c
  else if mark = Text.singleMark then none
  else if c = Text.doubleMark then some c
  else match c with
    | 'a' => some '\x07'
    | 'b' => some '\x08'
    | 't' => some '\t'
    | 'n' => some '\n'
    | 'v' => some '\x0B'
    | 'f' => some '\x0C'
    | 'r' => some '\r'
    | _ => none

/-- Replaces the escapes in a quoted value. Other backslashes stand for themselves. -/
def unescape (mark : Char) : List Char → List Char
  | c :: d :: cs =>
    if c = Text.backslash then
      match unescape? mark d with
      | some e => e :: unescape mark cs
      | none => c :: unescape mark (d :: cs)
    else c :: unescape mark (d :: cs)
  | cs => cs

/-- A value without the comment behind it, which begins with blanks. -/
def dropComment : List Char → List Char
  | [] => []
  | c :: cs =>
    if Text.isBlank c && (Text.stripLeft cs).head? == some '#' then [] else c :: dropComment cs

/-- The value after an equals sign and what follows it. The blanks before it also set a comment
off. -/
def value? (cs : List Char) : Option (List Char × List Char) :=
  match dropSpaces cs with
  | mark :: rest =>
    if mark = Text.singleMark ∨ mark = Text.doubleMark then
      (splitAtMark mark rest).map fun split => (unescape mark split.1, split.2)
    else some (Text.strip (dropComment (cs.takeWhile (· != '\n'))), cs.dropWhile (· != '\n'))
  | [] => some ([], [])

theorem length_le_of_splitAtMark {mark : Char} {cs inner rest : List Char}
    (h : splitAtMark mark cs = some (inner, rest)) : rest.length ≤ cs.length := by
  fun_induction splitAtMark mark cs generalizing inner rest with
  | case1 => contradiction
  | case2 => simp_all
  | case3 => contradiction
  | case4 => simp_all
  | case5 c d cs _ _ inner' rest' hq ih =>
    have := ih hq
    simp only [Option.some.injEq, Prod.mk.injEq] at h
    rw [← h.2]
    simp only [List.length_cons]
    omega
  | case6 => simp_all; omega
  | case7 c d cs _ _ ih =>
    obtain ⟨split, hs, heq⟩ := Option.map_eq_some_iff.1 h
    have := ih hs
    simp only [Prod.mk.injEq] at heq
    rw [← heq.2]
    simp only [List.length_cons] at this ⊢
    omega

theorem length_le_of_value? {cs value rest : List Char} (h : value? cs = some (value, rest)) :
    rest.length ≤ cs.length := by
  have hs := length_dropSpaces_le cs
  unfold value? at h
  split at h
  · rename_i mark after hd
    split at h
    · obtain ⟨split, hq, heq⟩ := Option.map_eq_some_iff.1 h
      have := length_le_of_splitAtMark hq
      simp only [Prod.mk.injEq] at heq
      rw [heq.2] at this
      rw [hd, List.length_cons] at hs
      omega
    · simp only [Option.some.injEq, Prod.mk.injEq] at h
      rw [← h.2]
      exact (List.dropWhile_suffix _).length_le
  · simp_all

/-! ## Assignments -/

/-- A line without the `export` before its name. -/
def dropExport (cs : List Char) : List Char :=
  match cs with
  | 'e' :: 'x' :: 'p' :: 'o' :: 'r' :: 't' :: c :: rest =>
    if isSpace c then dropSpaces rest else cs
  | _ => cs

theorem length_dropExport_le (cs : List Char) : (dropExport cs).length ≤ cs.length := by
  unfold dropExport
  split
  · rename_i c rest
    split
    · have := length_dropSpaces_le rest
      simp only [List.length_cons]
      omega
    · exact Nat.le_refl _
  · exact Nat.le_refl _

/-- Whether a character can stand in a name without quote marks. -/
def isNameChar (c : Char) : Bool := c != '=' && c != '#' && !Text.isBlank c

/-- The name that a text begins with, and what follows it. -/
def name? (cs : List Char) : Option (List Char × List Char) :=
  if cs.head? = some Text.singleMark then
    match cs.tail.takeWhile (· != Text.singleMark), cs.tail.dropWhile (· != Text.singleMark) with
    | c :: name, _ :: rest => some (c :: name, rest)
    | _, _ => none
  else
    match cs.takeWhile isNameChar with
    | [] => none
    | c :: name => some (c :: name, cs.dropWhile isNameChar)

theorem length_le_of_name? {cs name rest : List Char} (h : name? cs = some (name, rest)) :
    rest.length ≤ cs.length := by
  unfold name? at h
  split at h
  · split at h
    · rename_i mark rest' _ hd
      have := (List.dropWhile_suffix (l := cs.tail) (· != Text.singleMark)).length_le
      simp only [Option.some.injEq, Prod.mk.injEq] at h
      rw [hd, h.2, List.length_cons, List.length_tail] at this
      omega
    · contradiction
  · split at h
    · contradiction
    · simp only [Option.some.injEq, Prod.mk.injEq] at h
      rw [← h.2]
      exact (List.dropWhile_suffix _).length_le

/-- The assignment that a text begins with, if it can be read, and what is left behind it or from
where reading failed. -/
def assignment (cs : List Char) : Option (String × Option String) × List Char :=
  let start := dropExport cs
  match name? start with
  | none => (none, start)
  | some (name, rest) =>
    match dropSpaces rest with
    | '=' :: after =>
      match value? after with
      | none => (none, after)
      | some (value, rest) =>
        (if endsLine rest then some (String.ofList name, some (String.ofList value)) else none,
          rest)
    | rest => (if endsLine rest then some (String.ofList name, none) else none, rest)

theorem length_assignment_le (cs : List Char) : (assignment cs).2.length ≤ cs.length := by
  have hstart := length_dropExport_le cs
  simp only [assignment]
  split
  · exact hstart
  · rename_i name rest hname
    have hrest := length_le_of_name? hname
    have hspaces := length_dropSpaces_le rest
    split
    · rename_i after hafter
      rw [hafter, List.length_cons] at hspaces
      split
      · simp only
        omega
      · rename_i value left hvalue
        have := length_le_of_value? hvalue
        simp only
        omega
    · simp only
      omega

/-- The line behind an assignment begins later than the text that it was read from. -/
theorem length_nextLine_assignment_lt {cs : List Char} (h : Text.stripLeft cs ≠ []) :
    (nextLine (assignment (Text.stripLeft cs)).2).length < cs.length := by
  have hle := length_assignment_le (Text.stripLeft cs)
  have hnext := length_nextLine_le (assignment (Text.stripLeft cs)).2
  have hstrip : (Text.stripLeft cs).length ≤ cs.length :=
    (List.dropWhile_suffix Text.isBlank).length_le
  have hpos := List.length_pos_iff.2 h
  omega

/-- The assignments of a text. -/
def assignmentsOf (cs : List Char) : List (String × Option String) :=
  let start := Text.stripLeft cs
  if h : start = [] then []
  else
    have _shorter := length_nextLine_assignment_lt h
    (assignment start).1.toList ++ assignmentsOf (nextLine (assignment start).2)
termination_by cs.length
decreasing_by exact _shorter

/-- A file that assigns nothing. -/
def empty : SettingsFile := ⟨[]⟩

/-- The settings file with a text. -/
def ofText (text : String) : SettingsFile := ⟨assignmentsOf (unifyBreaks text.toList)⟩

/-- The bindings that the assignments make one after the other. A reference means the name assigned
before it, or else the name in the environment. -/
def bindings (file : SettingsFile) (environment : Bindings) : Bindings :=
  file.assignments.foldl (fun made assigned =>
    made.set assigned.1 (assigned.2.map
      (expandReferences fun name => made.value? name <|> environment.value? name))) []

end SettingsFile

end LedgerAmount
