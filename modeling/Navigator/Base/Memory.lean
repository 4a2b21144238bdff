/-
Memory: values at addresses, shared by all who hold the address.  A change at an
address is seen through every copy of it and nowhere else.
-/
import Mathlib.Data.List.Basic

namespace ControlLoop

variable {ν : Type}

/-- The values of the addresses that were given out so far. -/
structure Memory (ν : Type) where
  cells : List ν := []

namespace Memory

def size (memory : Memory ν) : Nat := memory.cells.length

def load (memory : Memory ν) (address : Nat) : Option ν := memory.cells[address]?

/-- Give out a new address. -/
def alloc (memory : Memory ν) (value : ν) : Nat × Memory ν :=
  (memory.size, ⟨memory.cells ++ [value]⟩)

/-- Change the value at an address. -/
def modify (memory : Memory ν) (address : Nat) (change : ν → ν) : Memory ν :=
  ⟨memory.cells.modify address change⟩

variable {memory : Memory ν} {address : Nat} {value : ν} {change : ν → ν}

@[simp] theorem size_alloc : (memory.alloc value).2.size = memory.size + 1 := by
  simp [alloc, size]

@[simp] theorem size_modify : (memory.modify address change).size = memory.size := by
  simp [modify, size]

theorem load_alloc_self :
    (memory.alloc value).2.load (memory.alloc value).1 = some value := by
  simp [alloc, load, size]

theorem load_alloc_of_lt (h : address < memory.size) :
    (memory.alloc value).2.load address = memory.load address :=
  List.getElem?_append_left h

theorem load_modify_self :
    (memory.modify address change).load address = (memory.load address).map change := by
  simp [modify, load]

theorem load_modify_of_ne {other : Nat} (h : address ≠ other) :
    (memory.modify address change).load other = memory.load other := by
  simp [modify, load, h]

/-- What happens at a new address is not seen through the old ones. -/
theorem load_modify_alloc_of_lt (h : address < memory.size) :
    ((memory.alloc value).2.modify (memory.alloc value).1 change).load address =
      memory.load address := by
  have hne : (memory.alloc value).1 ≠ address := Nat.ne_of_gt h
  rw [load_modify_of_ne hne, load_alloc_of_lt h]

end Memory

end ControlLoop
