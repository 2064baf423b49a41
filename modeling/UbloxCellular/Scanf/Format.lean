import Mathlib.Data.List.TakeWhile

namespace Scanf

structure CharSet where
  negated : Bool
  chars : List Char
  deriving DecidableEq, Repr

def CharSet.has (k : CharSet) (c : Char) : Bool := k.chars.contains c != k.negated

-- A set has the number of bytes of what it is assigned to, or * in place of the assignment.
inductive Item where
  | lit (c : Char)
  | space (c : Char)
  | int (assigned : Bool)
  | set (width : Option Nat) (chars : CharSet) (room : Option Nat)
  deriving DecidableEq, Repr

def star (assigned : Bool) : List Char := if assigned then [] else ['*']

def Item.text : Item → List Char
  | .lit c => [c]
  | .space c => [c]
  | .int assigned => '%' :: (star assigned ++ ['d'])
  | .set width chars room => '%' :: (star room.isSome ++ width.elim [] (fun w => (toString w).toList) ++
      '[' :: ((if chars.negated then ['^'] else []) ++ chars.chars ++ [']']))

def text (f : List Item) : List Char := f.flatMap Item.text

structure Reader where
  blank : Char → Bool
  number : List Char → Option (List Char)

def literal (R : Reader) (s : String) : List Item :=
  s.toList.map (fun c => if R.blank c then .space c else .lit c)

def cut (width : Option Nat) (run : List Char) : List Char := width.elim run run.take

def Item.take (R : Reader) : Item → List Char → Option (List (List Char × Nat) × List Char)
  | .lit _, [] => none
  | .lit c, d :: s => if d = c then some ([], s) else none
  | .space _, s => some ([], s.dropWhile R.blank)
  | .int _, s => (R.number s).map (fun rest => ([], rest))
  | .set width chars room, s =>
    if s.takeWhile chars.has = [] then none
    else some (room.toList.map (fun r => (cut width (s.takeWhile chars.has), r)),
      s.drop (cut width (s.takeWhile chars.has)).length)

def Item.assigns : Item → Nat
  | .lit _ => 0
  | .space _ => 0
  | .int assigned => if assigned then 1 else 0
  | .set _ _ room => room.toList.length

section Scan
variable (R : Reader)

def stored : List Item → List Char → List (List Char × Nat)
  | [], _ => []
  | i :: f, s => (i.take R s).elim [] (fun t => t.1 ++ stored f t.2)

def after : List Item → List Char → Option (List Char)
  | [], s => some s
  | i :: f, s => (i.take R s).bind (fun t => after f t.2)

-- What scanf returns, where the input does not end before the first conversion.
def count : List Item → List Char → Nat
  | [], _ => 0
  | i :: f, s => (i.take R s).elim 0 (fun t => i.assigns + count f t.2)

def Fits (f : List Item) (s : List Char) : Prop := ∀ p ∈ stored R f s, p.1.length + 1 ≤ p.2

def FitsInTurn : List (List Item × Nat) → List Char → Prop
  | [], _ => True
  | (f, n) :: fs, s => Fits R f s ∧ (count R f s ≠ n → FitsInTurn fs s)

def Shorter (before : List Item) (chars : CharSet) (room : Nat) (s : List Char) : Prop :=
  ∀ rest, after R before s = some rest → rest.takeWhile chars.has ≠ [] →
    (rest.takeWhile chars.has).length < room

end Scan

section Text

theorem text_append (f g : List Item) : text (f ++ g) = text f ++ text g := List.flatMap_append

theorem text_cons (i : Item) (f : List Item) : text (i :: f) = i.text ++ text f := rfl

end Text

section Rules
variable {R : Reader} {f g : List Item} {s : List Char} {chars : CharSet} {room : Nat}

theorem stored_append (f g : List Item) (s : List Char) :
    stored R (f ++ g) s = stored R f s ++ (after R f s).elim [] (stored R g) := by
  induction f generalizing s with
  | nil => rfl
  | cons i f ih =>
    rw [List.cons_append,stored,stored,after]
    cases i.take R s with
    | none => rfl
    | some t => simp only [Option.elim_some,Option.bind_some,ih,List.append_assoc]

theorem fits_append : Fits R (f ++ g) s ↔
    Fits R f s ∧ ∀ rest, after R f s = some rest → Fits R g rest := by
  simp only [Fits,stored_append,List.mem_append,or_imp,forall_and]
  refine and_congr_right (fun _ => ?_)
  cases after R f s with
  | none => simp
  | some rest => simp

def Item.plain : Item → Bool
  | .set _ _ (some _) => false
  | _ => true

theorem take_plain {i : Item} (h : i.plain = true) {t : List (List Char × Nat) × List Char}
    (ht : i.take R s = some t) : t.1 = [] := by
  cases i with
  | lit c =>
    cases s with
    | nil => cases ht
    | cons d s =>
      obtain ⟨-,hsome⟩ := Option.ite_none_right_eq_some.mp ht
      cases hsome
      rfl
  | space c =>
    cases ht
    rfl
  | int assigned =>
    obtain ⟨rest,-,rfl⟩ := Option.map_eq_some_iff.mp ht
    rfl
  | set width chars room =>
    cases room with
    | none =>
      obtain ⟨-,hsome⟩ := Option.ite_none_left_eq_some.mp ht
      cases hsome
      rfl
    | some room => cases h

theorem stored_plain (h : f.all Item.plain = true) (s : List Char) : stored R f s = [] := by
  induction f generalizing s with
  | nil => rfl
  | cons i f ih =>
    rw [List.all_cons,Bool.and_eq_true] at h
    rw [stored]
    cases ht : i.take R s with
    | none => rfl
    | some t => rw [Option.elim_some,take_plain h.1 ht,ih h.2,List.append_nil]

theorem fits_plain (h : f.all Item.plain = true) (s : List Char) : Fits R f s := by
  rw [Fits,stored_plain h]
  simp

theorem fits_set {width : Option Nat} : Fits R [.set width chars (some room)] s ↔
    (s.takeWhile chars.has ≠ [] → (cut width (s.takeWhile chars.has)).length < room) := by
  rw [Fits,stored,Item.take]
  by_cases h : s.takeWhile chars.has = []
  · rw [if_pos h,Option.elim_none]
    exact iff_of_true (fun p hp => absurd hp List.not_mem_nil) (fun hne => absurd h hne)
  · rw [if_neg h,Option.elim_some,Option.toList_some,List.map_singleton,stored,List.append_nil,
      List.forall_mem_singleton]
    exact ⟨fun hfits _ => hfits,fun hfits => hfits h⟩

theorem cut_lt {width : Option Nat} (h : ∀ w, width = some w → room ≤ w) (run : List Char) :
    (cut width run).length < room ↔ run.length < room := by
  cases width with
  | none => rfl
  | some w =>
    have hw := h w rfl
    rw [cut,Option.elim_some,List.length_take]
    omega

theorem fits_wide {width : Option Nat} (h : ∀ w, width = some w → room ≤ w)
    (hg : g.all Item.plain = true) : Fits R (f ++ .set width chars (some room) :: g) s ↔
      Fits R f s ∧ Shorter R f chars room s := by
  rw [fits_append,Shorter]
  refine and_congr_right (fun _ => forall₂_congr (fun rest _ => ?_))
  rw [← List.singleton_append,fits_append,fits_set,cut_lt h]
  exact and_iff_left (fun _ _ => fits_plain hg _)

theorem fits_narrow {w : Nat} (h : w < room) (hg : g.all Item.plain = true) :
    Fits R (f ++ .set (some w) chars (some room) :: g) s ↔ Fits R f s := by
  rw [fits_append]
  refine and_iff_left (fun rest _ => ?_)
  rw [← List.singleton_append,fits_append,fits_set]
  refine ⟨fun _ => ?_,fun _ _ => fits_plain hg _⟩
  rw [cut,Option.elim_some,List.length_take]
  omega

end Rules

end Scanf
