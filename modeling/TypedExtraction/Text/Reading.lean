/-!
# Readings

A `Reading` is what was found at the front of a text: a value, and how many
characters it takes.
-/

namespace TypedExtraction.Text

structure Reading (α : Type) where
  value : α
  length : Nat
  deriving DecidableEq, Repr

namespace Reading

def map {α β : Type} (f : α → β) (r : Reading α) : Reading β := ⟨f r.value, r.length⟩

/-- The length of a reading, zero where there is none. -/
def lengthOf {α : Type} (r : Option (Reading α)) : Nat := r.elim 0 Reading.length

@[simp] theorem value_map {α β : Type} (f : α → β) (r : Reading α) :
    (r.map f).value = f r.value := rfl

@[simp] theorem length_map {α β : Type} (f : α → β) (r : Reading α) :
    (r.map f).length = r.length := rfl

@[simp] theorem lengthOf_none {α : Type} : lengthOf (none : Option (Reading α)) = 0 := rfl

@[simp] theorem lengthOf_some {α : Type} (r : Reading α) : lengthOf (some r) = r.length := rfl

@[simp] theorem lengthOf_map {α β : Type} (f : α → β) (r : Option (Reading α)) :
    lengthOf (r.map (map f)) = lengthOf r := by
  cases r <;> rfl

end Reading

end TypedExtraction.Text
