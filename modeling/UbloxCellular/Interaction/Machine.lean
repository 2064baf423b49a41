import UbloxCellular.Interaction.Wp
import Mathlib.Logic.Relation

namespace Interaction

structure Machine (E : Type → Type 1) (W : Type) where
  env : ∀ ⦃β : Type⦄, E β → W → W → Prop
  allow : ∀ ⦃β : Type⦄, E β → W → β → Prop
  next : ∀ ⦃β : Type⦄, E β → W → β → W

namespace Machine

variable {E : Type → Type 1} {W α β : Type} {M : Machine E W}

def handler (M : Machine E W) : Handler E W := fun _ e w b w' =>
  ∃ v, Relation.ReflTransGen (M.env e) w v ∧ M.allow e v b ∧ w' = M.next e v b

abbrev spec (M : Machine E W) : Spec E W := M.handler.spec

theorem spec_mono : Spec.Mono M.spec := M.handler.spec_mono

theorem wp_effect {e : E β} {Q : β → W → Prop} {w : W}
    (h : ∀ v b, Relation.ReflTransGen (M.env e) w v → M.allow e v b → Q b (M.next e v b)) :
    wp M.spec (Prog.perform e) Q w := by
  rintro b w' ⟨v,henv,hallow,rfl⟩
  exact h v b henv hallow

theorem wp_still {e : E β} {Q : β → W → Prop} {w : W} (he : ∀ u v, ¬ M.env e u v)
    (h : ∀ b, M.allow e w b → Q b (M.next e w b)) : wp M.spec (Prog.perform e) Q w := by
  refine wp_effect (fun v b henv hallow => ?_)
  obtain rfl : v = w := by
    cases henv with
    | refl => rfl
    | tail _ hstep => exact absurd hstep (he _ _)
  exact h b hallow

abbrev Script (E : Type → Type 1) (W : Type) := ∀ ⦃β : Type⦄, E β → W → Option (β × W)

def play (M : Machine E W) (script : Script E W) : Prog.Oracle E W := fun _ e w =>
  (script e w).map (fun r => (r.1, M.next e r.2 r.1))

def Follows (M : Machine E W) (script : Script E W) : Prop :=
  ∀ ⦃β : Type⦄ (e : E β) (w : W) (b : β) (v : W), script e w = some (b, v) →
    Relation.ReflTransGen (M.env e) w v ∧ M.allow e v b

theorem play_handler {script : Script E W} (hs : M.Follows script) {e : E β} {w w' : W} {b : β}
    (h : M.play script e w = some (b, w')) : M.handler e w b w' := by
  simp only [play,Option.map_eq_some_iff,Prod.mk.injEq] at h
  obtain ⟨r,hr,rfl,rfl⟩ := h
  obtain ⟨henv,hallow⟩ := hs e w r.1 r.2 hr
  exact ⟨r.2,henv,hallow,rfl⟩

theorem play_exec {script : Script E W} (hs : M.Follows script) {n : Nat} {p : Prog E α}
    {w w' : W} {a : α} (h : p.run (M.play script) n w = some (a, w')) :
    Exec M.handler p w a w' := run_exec id (fun _ _ _ _ _ he => play_handler hs he) h

end Machine

end Interaction
