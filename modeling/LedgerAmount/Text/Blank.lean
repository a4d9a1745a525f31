/-!
# Blank characters

Which characters count as white space, and removing them from both ends of a text.
-/

namespace LedgerAmount.Text

/-- White space: the ASCII layout characters and separators, and the spaces and line breaks of
Unicode. -/
def isBlank (c : Char) : Bool :=
  let n := c.toNat
  (0x9 ≤ n && n ≤ 0xD) || (0x1C ≤ n && n ≤ 0x20) || n == 0x85 || n == 0xA0 || n == 0x1680 ||
    (0x2000 ≤ n && n ≤ 0x200A) || n == 0x2028 || n == 0x2029 || n == 0x202F || n == 0x205F ||
    n == 0x3000

/-- A text without the blanks at its start. -/
def stripLeft (cs : List Char) : List Char := cs.dropWhile isBlank

/-- A text without the blanks at its end. -/
def stripRight (cs : List Char) : List Char := (cs.reverse.dropWhile isBlank).reverse

/-- A text without the blanks at either end. -/
def strip (cs : List Char) : List Char := stripRight (stripLeft cs)

@[simp] theorem stripLeft_nil : stripLeft [] = [] := rfl
@[simp] theorem stripRight_nil : stripRight [] = [] := rfl
@[simp] theorem strip_nil : strip [] = [] := rfl

theorem stripLeft_eq_nil_iff {cs : List Char} : stripLeft cs = [] ↔ ∀ c ∈ cs, isBlank c = true := by
  rw [stripLeft]
  induction cs with
  | nil => simp
  | cons c cs ih => by_cases h : isBlank c <;> simp [h, ih]

theorem stripRight_eq_nil_iff {cs : List Char} :
    stripRight cs = [] ↔ ∀ c ∈ cs, isBlank c = true := by
  have h : stripLeft cs.reverse = [] ↔ ∀ c ∈ cs.reverse, isBlank c = true := stripLeft_eq_nil_iff
  simp only [stripLeft, List.mem_reverse] at h
  simp [stripRight, h]

/-- Only a text of blanks is stripped of everything. -/
theorem strip_eq_nil_iff {cs : List Char} : strip cs = [] ↔ ∀ c ∈ cs, isBlank c = true := by
  rw [strip, stripRight_eq_nil_iff]
  constructor
  · intro h
    rw [← stripLeft_eq_nil_iff]
    cases hs : stripLeft cs with
    | nil => rfl
    | cons c rest =>
      have hc : isBlank c = false := by
        have := List.head?_dropWhile_not isBlank cs
        rw [stripLeft] at hs
        simp only [hs] at this
        exact this
      rw [hs] at h
      exact absurd (h c List.mem_cons_self) (by simp [hc])
  · intro h c hc
    exact h c ((List.dropWhile_suffix isBlank).subset hc)

end LedgerAmount.Text
