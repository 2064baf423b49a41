import UbloxCellular.I2c.Bus
import UbloxCellular.Interaction.Simulation

namespace I2c
open Interaction

inductive Transfer where
  | write (address : Byte) (data : List Byte) (ok : Bool)
  | read (address : Byte) (length : Nat) (bytes : Option (List Byte))
  deriving DecidableEq, Repr

def Transfer.ok : Transfer → Bool
  | .write _ _ ok => ok
  | .read _ _ bytes => bytes.isSome

abbrev Tape := List Transfer

namespace Tape

variable {α β : Type}

-- Any transfer may fail, and any bytes may be read.
def handler : Handler Bus Tape
  | _, .write a data _, t, b, t' => t' = .write a data b :: t
  | _, .read a k, t, r, t' => t' = .read a k (r.map Vector.toList) :: t
  | _, _, t, _, t' => t' = t

abbrev spec : Spec Bus Tape := handler.spec

theorem mono : Spec.Mono spec := handler.spec_mono

section Rules
variable {t : Tape}

@[simp] theorem wp_lock (Q : Unit → Tape → Prop) : wp spec lock Q t ↔ Q () t :=
  ⟨fun h => h () t rfl,fun h _ _ ht => ht ▸ h⟩

@[simp] theorem wp_unlock (Q : Unit → Tape → Prop) : wp spec unlock Q t ↔ Q () t :=
  ⟨fun h => h () t rfl,fun h _ _ ht => ht ▸ h⟩

@[simp] theorem wp_wait (ms : Nat) (Q : Unit → Tape → Prop) : wp spec (wait ms) Q t ↔ Q () t :=
  ⟨fun h => h () t rfl,fun h _ _ ht => ht ▸ h⟩

@[simp] theorem wp_write (a : Byte) (data : List Byte) (Q : Bool → Tape → Prop) :
    wp spec (write a data) Q t ↔ ∀ b, Q b (.write a data b :: t) :=
  ⟨fun h b => h b _ rfl,fun h b _ ht => ht ▸ h b⟩

@[simp] theorem wp_writeRepeated (a : Byte) (data : List Byte) (Q : Bool → Tape → Prop) :
    wp spec (writeRepeated a data) Q t ↔ ∀ b, Q b (.write a data b :: t) :=
  ⟨fun h b => h b _ rfl,fun h b _ ht => ht ▸ h b⟩

@[simp] theorem wp_read (a : Byte) (k : Nat) (Q : Option (Vector Byte k) → Tape → Prop) :
    wp spec (read a k) Q t ↔ ∀ r, Q r (.read a k (r.map Vector.toList) :: t) :=
  ⟨fun h r => h r _ rfl,fun h r _ ht => ht ▸ h r⟩

end Rules

def kept (part : Tape → β) : Frame Bus Tape where
  spec := spec
  mono := mono
  pre _ := True
  rel t t' := part t' = part t
  refl _ := rfl
  trans _ _ _ h h' := h'.trans h
  keep _ _ _ h := h

section Kept
variable {part : Tape → β}

theorem run_kept {p : BusCode α} [hp : (kept part).Keeps p] (t : Tape) :
    wp spec p (fun _ t' => part t' = part t) t := hp.run t trivial

instance keeps_lock : (kept part).Keeps lock := ⟨fun _ _ => (wp_lock _).mpr rfl⟩

instance keeps_unlock : (kept part).Keeps unlock := ⟨fun _ _ => (wp_unlock _).mpr rfl⟩

instance keeps_wait (ms : Nat) : (kept part).Keeps (wait ms) := ⟨fun _ _ => (wp_wait _ _).mpr rfl⟩

theorem keeps_write {a : Byte} {data : List Byte}
    (h : ∀ b t, part (.write a data b :: t) = part t) : (kept part).Keeps (write a data) :=
  ⟨fun t _ => (wp_write _ _ _).mpr (fun b => h b t)⟩

theorem keeps_writeRepeated {a : Byte} {data : List Byte}
    (h : ∀ b t, part (.write a data b :: t) = part t) :
    (kept part).Keeps (writeRepeated a data) :=
  ⟨fun t _ => (wp_writeRepeated _ _ _).mpr (fun b => h b t)⟩

theorem keeps_read {a : Byte} {k : Nat} (h : ∀ r t, part (.read a k r :: t) = part t) :
    (kept part).Keeps (read a k) := ⟨fun t _ => (wp_read _ _ _).mpr (fun _ => h _ t)⟩

end Kept

theorem step_suffix {e : Bus β} {t t' : Tape} {b : β} (h : handler e t b t') : t <:+ t' := by
  cases e with
  | write a data r =>
    obtain rfl : t' = _ := h
    exact List.suffix_cons _ _
  | read a k =>
    obtain rfl : t' = _ := h
    exact List.suffix_cons _ _
  | _ =>
    obtain rfl : t' = t := h
    exact List.suffix_rfl

theorem exec_suffix {p : BusCode α} {t t' : Tape} {a : α} (h : Exec handler p t a t') :
    t <:+ t' :=
  h.linked (R := fun t t' => t <:+ t') (fun _ => List.suffix_rfl) (fun _ _ _ => List.IsSuffix.trans)
    (fun _ _ _ _ _ => step_suffix)

theorem suffix_cons_inj {x y : Transfer} {t u : Tape} (hx : x :: t <:+ u) (hy : y :: t <:+ u) :
    x = y := by
  obtain h := List.suffix_of_suffix_length_le hx hy (Nat.le_refl _)
  exact (List.cons.inj (h.eq_of_length rfl)).1

theorem step_determined {e : Bus β} {t t' t'' u : Tape} {b c : β} (h : handler e t b t')
    (k : handler e t c t'') (ht : t' <:+ u) (hu : t'' <:+ u) : b = c ∧ t' = t'' := by
  cases e with
  | write a data r =>
    obtain rfl : t' = _ := h
    obtain rfl : t'' = _ := k
    have hbc := suffix_cons_inj ht hu
    cases hbc
    exact ⟨rfl,rfl⟩
  | read a k' =>
    obtain rfl : t' = _ := h
    obtain rfl : t'' = _ := k
    have hbc := suffix_cons_inj ht hu
    simp only [Transfer.read.injEq,true_and] at hbc
    have hinj : Function.Injective (Vector.toList : Vector Byte k' → List Byte) :=
      fun v w hvw => Vector.toList_inj.mp hvw
    obtain rfl := Option.map_injective hinj hbc
    exact ⟨rfl,rfl⟩
  | _ =>
    obtain rfl : t' = t := h
    obtain rfl : t'' = t' := k
    exact ⟨rfl,rfl⟩

theorem determined {p : BusCode α} {t t' t'' u : Tape} {a b : α} (h : Exec handler p t a t')
    (k : Exec handler p t b t'') (ht : t' <:+ u) (hu : t'' <:+ u) : a = b ∧ t' = t'' := by
  induction h generalizing t'' with
  | ret a t =>
    cases k
    exact ⟨rfl,rfl⟩
  | op he hk ih =>
    cases k with
    | op he' hk' =>
      obtain ⟨rfl,rfl⟩ := step_determined he he' ((exec_suffix hk).trans ht)
        ((exec_suffix hk').trans hu)
      exact ih hk' ht hu
  | next hbody hloop ihb ihl =>
    cases k with
    | next hbody' hloop' =>
      obtain ⟨heq,rfl⟩ := ihb hbody' ((exec_suffix hloop).trans ht)
        ((exec_suffix hloop').trans hu)
      cases heq
      exact ihl hloop' ht hu
    | done hbody' hk' =>
      obtain ⟨heq,-⟩ := ihb hbody' ((exec_suffix hloop).trans ht) ((exec_suffix hk').trans hu)
      cases heq
  | done hbody hk ihb ihk =>
    cases k with
    | next hbody' hloop' =>
      obtain ⟨heq,-⟩ := ihb hbody' ((exec_suffix hk).trans ht) ((exec_suffix hloop').trans hu)
      cases heq
    | done hbody' hk' =>
      obtain ⟨heq,rfl⟩ := ihb hbody' ((exec_suffix hk).trans ht) ((exec_suffix hk').trans hu)
      cases heq
      exact ihk hk' ht hu

def play (ok : Tape → List Byte → Bool) (bytes : Tape → ∀ k, Option (Vector Byte k)) :
    Prog.Oracle Bus Tape
  | _, .write a data _, t => some (ok t data, .write a data (ok t data) :: t)
  | _, .read a k, t => some (bytes t k, .read a k ((bytes t k).map Vector.toList) :: t)
  | _, .lock, t => some ((), t)
  | _, .unlock, t => some ((), t)
  | _, .wait _, t => some ((), t)

theorem play_exec {ok : Tape → List Byte → Bool} {bytes : Tape → ∀ k, Option (Vector Byte k)}
    {p : BusCode α} {n : Nat} {t t' : Tape} {a : α} (h : p.run (play ok bytes) n t = some (a, t')) :
    Exec handler p t a t' := by
  refine run_exec id (fun β e t b t' he => ?_) h
  cases e <;> cases he <;> rfl

end Tape

end I2c
