/-!
# References in values

A value may refer to other names as `${NAME}`, or as `${NAME:-default}` with a text that stands in
its place where nothing is bound to the name. What only resembles a reference stands for itself.
-/

namespace LedgerAmount

/-- A part of a value. -/
inductive ValuePart where
  /-- A character that stands for itself. -/
  | literal (c : Char)
  /-- A reference to a name, with the text that an unbound name stands for. -/
  | reference (name default : String)
  deriving DecidableEq, Repr

namespace ValuePart

/-- The brace that begins a reference, behind a dollar sign. -/
def opening : Char := '\x7B'

/-- The brace that ends a reference. -/
def closing : Char := '\x7D'

/-- Whether a character can stand in the name of a reference. -/
def isNameChar (c : Char) : Bool := c != closing && c != ':'

/-- The default in a reference, from behind its name to the end, and what follows it. A reference
without a default stands for nothing where its name is unbound. -/
def default? : List Char → Option (List Char × List Char)
  | ':' :: '-' :: cs =>
    match cs.dropWhile (· != closing) with
    | [] => none
    | _ :: rest => some (cs.takeWhile (· != closing), rest)
  | c :: rest => if c = closing then some ([], rest) else none
  | [] => none

/-- The reference that a text begins with, and what follows it. -/
def reference? : List Char → Option (ValuePart × List Char)
  | c :: d :: cs =>
    if c = '$' ∧ d = opening then
      (default? (cs.dropWhile isNameChar)).map fun split =>
        (reference (String.ofList (cs.takeWhile isNameChar)) (String.ofList split.1), split.2)
    else none
  | _ => none

theorem length_lt_of_default? {cs rest default : List Char}
    (h : default? cs = some (default, rest)) : rest.length < cs.length := by
  unfold default? at h
  split at h
  · rename_i cs
    have hle := (List.dropWhile_suffix (l := cs) (· != closing)).length_le
    split at h
    · contradiction
    · rename_i hd
      simp only [Option.some.injEq, Prod.mk.injEq] at h
      rw [hd, h.2, List.length_cons] at hle
      simp only [List.length_cons]
      omega
  · split at h
    · simp_all
    · contradiction
  · contradiction

/-- A reference takes up some of the text. -/
theorem length_lt_of_reference? {cs rest : List Char} {part : ValuePart}
    (h : reference? cs = some (part, rest)) : rest.length < cs.length := by
  unfold reference? at h
  split at h
  · rename_i c d cs
    split at h
    · obtain ⟨split, hs, heq⟩ := Option.map_eq_some_iff.1 h
      have hlt := length_lt_of_default? hs
      have hle := (List.dropWhile_suffix (l := cs) isNameChar).length_le
      simp only [Prod.mk.injEq] at heq
      rw [heq.2] at hlt
      simp only [List.length_cons]
      omega
    · contradiction
  · contradiction

/-- The parts of a value. -/
def parts : List Char → List ValuePart
  | [] => []
  | c :: cs =>
    match h : reference? (c :: cs) with
    | some (part, rest) =>
      have _shorter := length_lt_of_reference? h
      part :: parts rest
    | none => literal c :: parts cs
termination_by cs => cs.length
decreasing_by
  · exact _shorter
  · simp

/-- What a part stands for, by the values that names have. -/
def expand (value? : String → Option String) : ValuePart → List Char
  | literal c => [c]
  | reference name default => ((value? name).getD default).toList

end ValuePart

/-- A value with what its references stand for in their place. -/
def expandReferences (value? : String → Option String) (value : String) : String :=
  String.ofList ((ValuePart.parts value.toList).flatMap fun part => part.expand value?)

end LedgerAmount
