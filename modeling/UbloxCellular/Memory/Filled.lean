import Mathlib.Data.List.Basic

namespace Memory

def Filled (α : Type) (room : Nat) := { cells : List α // cells.length ≤ room }

namespace Filled

variable {α : Type} {room : Nat}

def empty : Filled α room := ⟨[],Nat.zero_le _⟩

def push (b : Filled α room) (a : α) : Option (Filled α room) :=
  if h : b.val.length < room then
    some ⟨b.val ++ [a],by rw [List.length_append]; exact h⟩
  else none

def pushAll (b : Filled α room) : List α → Option (Filled α room)
  | [] => some b
  | a :: l => (b.push a).bind fun c => c.pushAll l

theorem push_some {b : Filled α room} (h : b.val.length < room) (a : α) :
    ∃ c, b.push a = some c ∧ c.val = b.val ++ [a] := ⟨_,dif_pos h,rfl⟩

theorem push_val {b c : Filled α room} {a : α} (h : b.push a = some c) :
    c.val = b.val ++ [a] := by
  rw [push] at h
  split at h
  · cases h
    rfl
  · cases h

theorem pushAll_val {b c : Filled α room} {l : List α} (h : b.pushAll l = some c) :
    c.val = b.val ++ l := by
  induction l generalizing b with
  | nil =>
    cases h
    rw [List.append_nil]
  | cons a l ih =>
    obtain ⟨d,hd,hc⟩ := Option.bind_eq_some_iff.mp h
    rw [ih hc,push_val hd,List.append_assoc,List.singleton_append]

theorem pushAll_some {b : Filled α room} {l : List α} (h : b.val.length + l.length ≤ room) :
    ∃ c, b.pushAll l = some c := by
  induction l generalizing b with
  | nil => exact ⟨b,rfl⟩
  | cons a l ih =>
    rw [List.length_cons] at h
    obtain ⟨d,hd,hval⟩ := push_some (b := b) (by omega) a
    obtain ⟨c,hc⟩ := ih (b := d) (by rw [hval,List.length_append,List.length_singleton]; omega)
    exact ⟨c,by rw [pushAll,hd,Option.bind_some,hc]⟩

theorem pushAll_none {b : Filled α room} {l : List α} (h : room < b.val.length + l.length) :
    b.pushAll l = none := by
  cases hc : b.pushAll l with
  | none => rfl
  | some c =>
    have hlength := c.property
    rw [pushAll_val hc,List.length_append] at hlength
    omega

end Filled

end Memory
