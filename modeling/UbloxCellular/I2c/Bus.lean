import UbloxCellular.Interaction.Wp
import Mathlib.Logic.Relation

namespace I2c
open Interaction

abbrev Byte := BitVec 8

inductive Bus : Type → Type 1 where
  | lock : Bus Unit
  | unlock : Bus Unit
  | write (address : Byte) (data : List Byte) (repeated : Bool) : Bus Bool
  | read (address : Byte) (length : Nat) : Bus (Option (Vector Byte length))
  | wait (ms : Nat) : Bus Unit

abbrev BusCode := Prog Bus

def lock : BusCode Unit := Prog.perform .lock
def unlock : BusCode Unit := Prog.perform .unlock
def wait (ms : Nat) : BusCode Unit := Prog.perform (.wait ms)
def write (address : Byte) (data : List Byte) : BusCode Bool :=
  Prog.perform (.write address data false)
def writeRepeated (address : Byte) (data : List Byte) : BusCode Bool :=
  Prog.perform (.write address data true)
def read (address : Byte) (length : Nat) : BusCode (Option (Vector Byte length)) :=
  Prog.perform (.read address length)

-- A slave of byte registers behind a pointer that moves on by itself; what a transfer that failed
-- may still have done is the device's own.
structure Device (X : Type) where
  address : Byte
  poke : Byte → Byte → X → X
  shows : X → Byte → Byte → Prop
  event : X → X → Prop
  lost : List Byte → X → X → Prop
  missed : X → X → Prop

structure Node (X : Type) where
  pointer : Byte
  core : X

namespace Device

variable {X α β : Type} (D : Device X)

def pokes : Byte → List Byte → X → X
  | _, [], x => x
  | a, d :: ds, x => pokes (a + 1) ds (D.poke a d x)

def put : List Byte → Node X → Node X
  | [], n => n
  | a :: ds, n => ⟨a + BitVec.ofNat 8 ds.length,D.pokes a ds n.core⟩

abbrev Drifts : X → X → Prop := Relation.ReflTransGen D.event

def Shown (n : Node X) {k : Nat} (v : Vector Byte k) : Prop :=
  ∀ i (h : i < k), D.shows n.core (n.pointer + BitVec.ofNat 8 i) v[i]

def handler : Handler Bus (Node X)
  | _, .write a data _, n, b, n' => ∃ x, D.Drifts n.core x ∧
      if b then a = D.address ∧ n' = D.put data ⟨n.pointer,x⟩ else D.lost data x n'.core
  | _, .read a k, n, r, n' => ∃ x, D.Drifts n.core x ∧ r.elim (D.missed x n'.core)
      (fun v => a = D.address ∧ D.Shown ⟨n.pointer,x⟩ v ∧
        n' = ⟨n.pointer + BitVec.ofNat 8 k,x⟩)
  | _, _, n, _, n' => n'.pointer = n.pointer ∧ D.Drifts n.core n'.core

abbrev spec : Spec Bus (Node X) := D.handler.spec

theorem mono : Spec.Mono D.spec := D.handler.spec_mono

variable {D}

section Rules
variable {n : Node X}

theorem wp_still {e : Bus Unit} (he : ∀ b n', D.handler e n b n' ↔
    n'.pointer = n.pointer ∧ D.Drifts n.core n'.core) (Q : Unit → Node X → Prop) :
    wp D.spec (Prog.perform e) Q n ↔ ∀ x, D.Drifts n.core x → Q () ⟨n.pointer,x⟩ := by
  constructor
  · intro h x hx
    exact h () ⟨n.pointer,x⟩ ((he () _).mpr ⟨rfl,hx⟩)
  · intro h b n' hn
    obtain ⟨p,x⟩ := n'
    obtain ⟨rfl,hx⟩ := (he b _).mp hn
    exact h x hx

@[simp] theorem wp_lock (Q : Unit → Node X → Prop) :
    wp D.spec lock Q n ↔ ∀ x, D.Drifts n.core x → Q () ⟨n.pointer,x⟩ :=
  wp_still (fun _ _ => Iff.rfl) Q

@[simp] theorem wp_unlock (Q : Unit → Node X → Prop) :
    wp D.spec unlock Q n ↔ ∀ x, D.Drifts n.core x → Q () ⟨n.pointer,x⟩ :=
  wp_still (fun _ _ => Iff.rfl) Q

@[simp] theorem wp_wait (ms : Nat) (Q : Unit → Node X → Prop) :
    wp D.spec (wait ms) Q n ↔ ∀ x, D.Drifts n.core x → Q () ⟨n.pointer,x⟩ :=
  wp_still (fun _ _ => Iff.rfl) Q

theorem wp_performWrite (a : Byte) (data : List Byte) (r : Bool) (Q : Bool → Node X → Prop) :
    wp D.spec (Prog.perform (.write a data r)) Q n ↔ ∀ x, D.Drifts n.core x →
      (a = D.address → Q true (D.put data ⟨n.pointer,x⟩)) ∧
      ∀ n', D.lost data x n'.core → Q false n' := by
  constructor
  · intro h x hx
    exact ⟨fun ha => h true _ ⟨x,hx,ha,rfl⟩,fun n' hn => h false n' ⟨x,hx,hn⟩⟩
  · rintro h b n' ⟨x,hx,hb⟩
    cases b with
    | true =>
      obtain ⟨ha,rfl⟩ := hb
      exact (h x hx).1 ha
    | false => exact (h x hx).2 n' hb

@[simp] theorem wp_write (a : Byte) (data : List Byte) (Q : Bool → Node X → Prop) :
    wp D.spec (write a data) Q n ↔ ∀ x, D.Drifts n.core x →
      (a = D.address → Q true (D.put data ⟨n.pointer,x⟩)) ∧
      ∀ n', D.lost data x n'.core → Q false n' := wp_performWrite a data false Q

@[simp] theorem wp_writeRepeated (a : Byte) (data : List Byte) (Q : Bool → Node X → Prop) :
    wp D.spec (writeRepeated a data) Q n ↔ ∀ x, D.Drifts n.core x →
      (a = D.address → Q true (D.put data ⟨n.pointer,x⟩)) ∧
      ∀ n', D.lost data x n'.core → Q false n' := wp_performWrite a data true Q

@[simp] theorem wp_read (a : Byte) (k : Nat) (Q : Option (Vector Byte k) → Node X → Prop) :
    wp D.spec (read a k) Q n ↔ ∀ x, D.Drifts n.core x →
      (∀ v, a = D.address → D.Shown ⟨n.pointer,x⟩ v →
        Q (some v) ⟨n.pointer + BitVec.ofNat 8 k,x⟩) ∧
      ∀ n', D.missed x n'.core → Q none n' := by
  constructor
  · intro h x hx
    exact ⟨fun v ha hv => h (some v) _ ⟨x,hx,ha,hv,rfl⟩,fun n' hn => h none n' ⟨x,hx,hn⟩⟩
  · rintro h r n' ⟨x,hx,hr⟩
    cases r with
    | none => exact (h x hx).2 n' hr
    | some v =>
      obtain ⟨ha,hv,rfl⟩ := hr
      exact (h x hx).1 v ha hv

end Rules

def play (D : Device X) (answer : X → Byte → Byte) (settle : X → X) : Prog.Oracle Bus (Node X)
  | _, .write a data _, n =>
    if a = D.address then some (true, D.put data ⟨n.pointer,settle n.core⟩) else none
  | _, .read a k, n =>
    if a = D.address then
      some (some (.ofFn (fun i => answer (settle n.core) (n.pointer + BitVec.ofNat 8 i))),
        ⟨n.pointer + BitVec.ofNat 8 k,settle n.core⟩)
    else none
  | _, .lock, n => some ((), n)
  | _, .unlock, n => some ((), n)
  | _, .wait _, n => some ((), n)

section Play
variable {answer : X → Byte → Byte} {settle : X → X}

theorem play_step (hanswer : ∀ x a, D.shows x a (answer x a)) (hsettle : ∀ x, D.Drifts x (settle x))
    {e : Bus β} {n n' : Node X} {b : β} (he : D.play answer settle e n = some (b, n')) :
    D.handler e n b n' := by
  cases e with
  | write a data r =>
    simp only [play,Option.ite_none_right_eq_some,Option.some.injEq,Prod.mk.injEq] at he
    obtain ⟨ha,rfl,rfl⟩ := he
    exact ⟨settle n.core,hsettle _,ha,rfl⟩
  | read a k =>
    simp only [play,Option.ite_none_right_eq_some,Option.some.injEq,Prod.mk.injEq] at he
    obtain ⟨ha,rfl,rfl⟩ := he
    refine ⟨settle n.core,hsettle _,ha,fun i hi => ?_,rfl⟩
    simpa using hanswer (settle n.core) (n.pointer + BitVec.ofNat 8 i)
  | lock => cases he; exact ⟨rfl,.refl⟩
  | unlock => cases he; exact ⟨rfl,.refl⟩
  | wait ms => cases he; exact ⟨rfl,.refl⟩

theorem play_exec (hanswer : ∀ x a, D.shows x a (answer x a)) (hsettle : ∀ x, D.Drifts x (settle x))
    {p : BusCode α} {k : Nat} {n n' : Node X} {a : α}
    (h : p.run (D.play answer settle) k n = some (a, n')) : Exec D.handler p n a n' :=
  run_exec id (fun _ _ _ _ _ he => play_step hanswer hsettle he) h

end Play

theorem pokes_same {F : Device X} (h : D.poke = F.poke) (a : Byte) (ds : List Byte) (x : X) :
    D.pokes a ds x = F.pokes a ds x := by
  induction ds generalizing a x with
  | nil => rfl
  | cons d ds ih => rw [pokes,pokes,h,ih]

theorem put_same {F : Device X} (h : D.poke = F.poke) (ds : List Byte) (n : Node X) :
    D.put ds n = F.put ds n := by
  cases ds with
  | nil => rfl
  | cons a ds => rw [put,put,pokes_same h]

theorem address_next (a : Byte) (i : Nat) :
    a + BitVec.ofNat 8 (i + 1) = a + 1 + BitVec.ofNat 8 i := by
  rw [BitVec.ofNat_add,BitVec.add_comm (BitVec.ofNat 8 i),← BitVec.add_assoc]
  rfl

theorem pokes_keep {f : X → β} {ds : List Byte} {a : Byte} {x : X}
    (h : ∀ i < ds.length, ∀ d x, f (D.poke (a + BitVec.ofNat 8 i) d x) = f x) :
    f (D.pokes a ds x) = f x := by
  induction ds generalizing a x with
  | nil => rfl
  | cons d ds ih =>
    have hhead : f (D.poke a d x) = f x := by simpa using h 0 (by simp) d x
    rw [pokes,ih (fun i hi e y => ?_),hhead]
    rw [← address_next]
    exact h (i + 1) (by simpa using hi) e y

structure Kept (D : Device X) (β : Type) where
  part : X → β
  event : ∀ x y, D.event x y → part y = part x
  lost : ∀ data x y, D.lost data x y → part y = part x
  missed : ∀ x y, D.missed x y → part y = part x

namespace Kept
variable {K : D.Kept β}

def frame (K : D.Kept β) : Frame Bus (Node X) where
  spec := D.spec
  mono := D.mono
  pre _ := True
  rel n n' := K.part n'.core = K.part n.core
  refl _ := rfl
  trans _ _ _ h h' := h'.trans h
  keep _ _ _ h := h

theorem drifts {x y : X} (h : D.Drifts x y) : K.part y = K.part x := by
  induction h with
  | refl => rfl
  | tail _ hyz ih => exact (K.event _ _ hyz).trans ih

theorem run {p : BusCode α} (hp : K.frame.Keeps p) (n : Node X) :
    wp D.spec p (fun _ n' => K.part n'.core = K.part n.core) n := hp.run n trivial

instance keeps_lock : K.frame.Keeps lock :=
  ⟨fun _ _ => (wp_lock _).mpr (fun _ hx => drifts hx)⟩

instance keeps_unlock : K.frame.Keeps unlock :=
  ⟨fun _ _ => (wp_unlock _).mpr (fun _ hx => drifts hx)⟩

instance keeps_wait (ms : Nat) : K.frame.Keeps (wait ms) :=
  ⟨fun _ _ => (wp_wait ms _).mpr (fun _ hx => drifts hx)⟩

instance keeps_read (a : Byte) (k : Nat) : K.frame.Keeps (read a k) :=
  ⟨fun _ _ => (wp_read a k _).mpr (fun _ hx =>
    ⟨fun _ _ _ => drifts hx,fun _ hn => (K.missed _ _ hn).trans (drifts hx)⟩)⟩

theorem keeps_performWrite {data : List Byte} (h : ∀ n, K.part (D.put data n).core = K.part n.core)
    (a : Byte) (r : Bool) : K.frame.Keeps (Prog.perform (.write a data r)) :=
  ⟨fun _ _ => (wp_performWrite a data r _).mpr (fun _ hx =>
    ⟨fun _ => (h _).trans (drifts hx),fun _ hn => (K.lost _ _ _ hn).trans (drifts hx)⟩)⟩

end Kept

end Device

end I2c
