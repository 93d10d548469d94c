/-
# ChatTemplate.Table -- values under names

A table binds names to values.  Only a few things are done with one: looking a
name up, binding it and unbinding it.  `get?` says all there is to know about
the other two (`get?_set`, `get?_unset`), and a name that is bound anew keeps
its place among the others.
-/
namespace ChatTemplate

set_option autoImplicit false

structure Table (α : Type) where
  bindings : List (String × α) := []

namespace Table

variable {α : Type}

def empty : Table α := {}

def get? (table : Table α) (name : String) : Option α :=
  table.bindings.lookup name

def contains (table : Table α) (name : String) : Bool :=
  (table.get? name).isSome

/-- Binds a name in place of an earlier binding, or after all others. -/
def bind (name : String) (value : α) : List (String × α) → List (String × α)
  | [] => [(name, value)]
  | (other, old) :: bindings =>
      if name = other then (other, value) :: bindings
      else (other, old) :: bind name value bindings

def set (table : Table α) (name : String) (value : α) : Table α :=
  ⟨bind name value table.bindings⟩

def unset (table : Table α) (name : String) : Table α :=
  ⟨table.bindings.filter fun binding => binding.1 ≠ name⟩

/-- Gives a name the binding it had, or none. -/
def restore (table : Table α) (name : String) : Option α → Table α
  | some value => table.set name value
  | none => table.unset name

/-- Adds bindings, the later of two with one name counting. -/
def setAll (table : Table α) (bindings : List (String × α)) : Table α :=
  bindings.foldl (fun table binding => table.set binding.1 binding.2) table

/-! ## What `get?` sees -/

theorem lookup_pair (name other : String) (value : α) (bindings : List (String × α)) :
    ((name, value) :: bindings).lookup other =
      if other = name then some value else bindings.lookup other := by
  by_cases h : other = name
  · simp [h]
  · have apart : (other == name) = false := by simpa using h
    simp [List.lookup_cons, h, apart]

theorem lookup_bind (name other : String) (value : α) (bindings : List (String × α)) :
    (bind name value bindings).lookup other =
      if other = name then some value else bindings.lookup other := by
  induction bindings with
  | nil => simp [bind, lookup_pair]
  | cons binding bindings ih =>
      obtain ⟨first, old⟩ := binding
      by_cases same : name = first
      · by_cases h : other = first <;> simp [bind, lookup_pair, same, h]
      · by_cases h : other = first
        · simp [bind, same, h, Ne.symm same]
        · simp [bind, lookup_pair, same, h, ih]

theorem lookup_filter_ne (name other : String) (bindings : List (String × α)) :
    (bindings.filter fun binding => binding.1 ≠ name).lookup other =
      if other = name then none else bindings.lookup other := by
  induction bindings with
  | nil => simp
  | cons binding bindings ih =>
      obtain ⟨first, old⟩ := binding
      by_cases same : first = name
      · rw [List.filter_cons_of_neg (by simpa using same), ih, lookup_pair]
        by_cases h : other = name <;> simp [h, same]
      · rw [List.filter_cons_of_pos (by simpa using same), lookup_pair, lookup_pair, ih]
        by_cases h : other = first
        · simp [h, same]
        · simp [h]

@[simp] theorem get?_set (table : Table α) (name other : String) (value : α) :
    (table.set name value).get? other = if other = name then some value else table.get? other :=
  lookup_bind name other value table.bindings

@[simp] theorem get?_unset (table : Table α) (name other : String) :
    (table.unset name).get? other = if other = name then none else table.get? other :=
  lookup_filter_ne name other table.bindings

end Table

end ChatTemplate
