/-!
# Bindings

Named settings in the order in which they were made, as an environment or a settings file holds
them. Names that differ in case are different when they are set and the same when they are looked
up; the later one is found.
-/

namespace LedgerAmount

/-- Names with their values, oldest first. A name may stand there without a value. -/
abbrev Bindings := List (String × Option String)

namespace Bindings

/-- Binds a name: in its old place if it has one, else at the end. -/
def set (bindings : Bindings) (name : String) (value : Option String) : Bindings :=
  if bindings.any (·.1 == name) then
    bindings.map fun binding => if binding.1 == name then (name, value) else binding
  else bindings ++ [(name, value)]

/-- Removes a name. -/
def unset (bindings : Bindings) (name : String) : Bindings := bindings.filter (·.1 != name)

/-- Sets the names that are given a value and unsets the others. -/
def update (bindings : Bindings) (changes : List (String × Option String)) : Bindings :=
  changes.foldl (fun bindings change =>
    match change.2 with
    | some value => bindings.set change.1 (some value)
    | none => bindings.unset change.1) bindings

/-- The value of a name, spelled just so. A name without a value has an empty one. -/
def value? (bindings : Bindings) (name : String) : Option String :=
  (bindings.lookup name).map fun value => value.getD ""

/-- A name without its case. The names looked up are ASCII, so only ASCII letters have a case. -/
def foldCase (name : String) : String := String.ofList (name.toList.map Char.toLower)

/-- The value of the latest binding whose name is `name` apart from case. -/
def find? (bindings : Bindings) (name : String) : Option String :=
  (bindings.reverse.find? fun binding => foldCase binding.1 == foldCase name).bind (·.2)

end Bindings

end LedgerAmount
