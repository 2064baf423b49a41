import Mathlib.Data.List.Basic

namespace Memory

-- Memory from a pointer on; a cell that nothing was stored in is none.
def Region (α : Type) := Nat → Option α

namespace Region

variable {α : Type}

def holding (xs : List α) : Region α := fun i => xs[i]?

def write (m : Region α) (start : Nat) (xs : List α) : Region α :=
  fun i => if i < start then m i else (xs[i - start]?).or (m i)

theorem write_end (xs ys : List α) :
    (holding xs).write xs.length ys = holding (xs ++ ys) := by
  funext i
  rw [write,holding,holding,List.getElem?_append]
  split
  · rfl
  · rename_i hi
    rw [List.getElem?_eq_none (Nat.not_lt.mp hi),Option.or_none]

end Region

end Memory
