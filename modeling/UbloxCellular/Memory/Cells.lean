import Mathlib.Data.List.Basic

namespace Memory

-- The memory around a pointer, by the distance from it.
def Cells (α : Type) := Int → α

namespace Cells

variable {α : Type}

def store (m : Cells α) (i : Int) (a : α) : Cells α := fun j => if j = i then a else m j

theorem store_same (m : Cells α) (i : Int) (a : α) : m.store i a i = a := if_pos rfl

theorem store_other (m : Cells α) {i j : Int} (a : α) (h : j ≠ i) : m.store i a j = m j := if_neg h

theorem store_again (m : Cells α) (i : Int) (a b : α) : (m.store i a).store i b = m.store i b := by
  funext j
  by_cases h : j = i
  · rw [h,store_same,store_same]
  · rw [store_other _ _ h,store_other _ _ h,store_other _ _ h]

def read (m : Cells α) (start : Int) (n : Nat) : List α :=
  (List.range n).map (fun i : Nat => m (start + i))

structure Written (m : Cells α) (start : Int) (l : List α) (m' : Cells α) : Prop where
  stored : ∀ i (h : i < l.length), m' (start + i) = l[i]
  kept : ∀ j, j < start ∨ start + l.length ≤ j → m' j = m j

namespace Written
variable {m m' : Cells α} {start : Int} {l : List α}

theorem nil (m : Cells α) (start : Int) : Written m start [] m where
  stored i h := absurd h (Nat.not_lt_zero i)
  kept _ _ := rfl

theorem snoc (h : Written m start l m') (a : α) :
    Written m start (l ++ [a]) (m'.store (start + l.length) a) where
  stored i hi := by
    rw [List.length_append,List.length_singleton] at hi
    rcases Nat.lt_or_ge i l.length with hlt | hge
    · rw [store_other _ _ (by omega),h.stored i hlt,List.getElem_append_left hlt]
    · obtain rfl : i = l.length := by omega
      rw [store_same,List.getElem_concat_length rfl]
  kept j hj := by
    rw [List.length_append,List.length_singleton] at hj
    rw [store_other _ _ (by omega),h.kept j (by omega)]

theorem set (h : Written m start l m') {k : Nat} (hk : k < l.length) (a : α) :
    Written m start (l.set k a) (m'.store (start + k) a) where
  stored i hi := by
    rw [List.length_set] at hi
    by_cases hik : i = k
    · subst hik
      rw [store_same,List.getElem_set_self]
    · rw [store_other _ _ (by omega),h.stored i hi,List.getElem_set_ne (Ne.symm hik)]
  kept j hj := by
    rw [List.length_set] at hj
    rw [store_other _ _ (by omega),h.kept j hj]

theorem read (h : Written m start l m') : m'.read start l.length = l := by
  refine List.ext_getElem (by simp [Cells.read]) (fun i hi hi' => ?_)
  simp only [Cells.read,List.getElem_map,List.getElem_range]
  exact h.stored i hi'

end Written

end Cells

end Memory
