import UbloxCellular.Interaction.Wp
import Mathlib.Logic.Relation

namespace Interaction

variable {E : Type → Type 1} {W α β γ σ : Type} {H : Handler E W}

inductive Halts (H : Handler E W) : {α : Type} → Prog E α → W → Prop
  | ret {α : Type} (a : α) (w : W) : Halts H (.ret a) w
  | op {α β : Type} {e : E β} {k : β → Prog E α} {w : W} :
      (∀ b w', H e w b w' → Halts H (k b) w') → Halts H (.op e k) w
  | loop {α σ γ : Type} {body : σ → Prog E (σ ⊕ γ)} {s : σ} {k : γ → Prog E α} {w : W} :
      Halts H (body s) w →
      (∀ s' w', Exec H (body s) w (.inl s') w' → Halts H (.loop body s' k) w') →
      (∀ c w', Exec H (body s) w (.inr c) w' → Halts H (k c) w') →
      Halts H (.loop body s k) w

namespace Halts

theorem bind {p : Prog E α} {f : α → Prog E β} {w : W} (hp : Halts H p w)
    (hf : ∀ a w', Exec H p w a w' → Halts H (f a) w') : Halts H (p >>= f) w := by
  change Halts H (p.bind f) w
  induction hp with
  | ret a w => exact hf a w (.ret a w)
  | op _ ih => exact .op (fun b w' hb => ih b w' hb (fun a v hx => hf a v (.op hb hx)))
  | loop hbody _ _ _ ihl ihk =>
    refine .loop hbody (fun s' w' hx => ?_) (fun c w' hx => ?_)
    · exact ihl s' w' hx (fun a v hy => hf a v (.next hx hy))
    · exact ihk c w' hx (fun a v hy => hf a v (.done hx hy))

theorem iterate {body : σ → Prog E (σ ⊕ γ)} {s : σ} {w : W} {r : σ × W → σ × W → Prop}
    (hr : WellFounded r) (I : σ → W → Prop) (hs : I s w)
    (hbody : ∀ s w, I s w → Halts H (body s) w)
    (hdown : ∀ s w, I s w → wp H.spec (body s)
      (fun x w' => ∀ s', x = .inl s' → I s' w' ∧ r (s', w') (s, w)) w) :
    Halts H (Prog.iterate body s) w := by
  induction h : (s, w) using hr.induction generalizing s w with
  | h x ih =>
    subst h
    refine .loop (hbody s w hs) (fun s' w' hx => ?_) (fun c w' _ => .ret c w')
    obtain ⟨hs',hlt⟩ := wp_sound (hdown s w hs) hx s' rfl
    exact ih (s', w') hlt hs' rfl

theorem ends {p : Prog E α} {w : W} (hH : ∀ ⦃β : Type⦄ (e : E β) w, ∃ b w', H e w b w')
    (hp : Halts H p w) : ∃ a w', Exec H p w a w' := by
  induction hp with
  | ret a w => exact ⟨a,w,.ret a w⟩
  | @op _ _ e _ w _ ih =>
    obtain ⟨b,w',hb⟩ := hH e w
    obtain ⟨a,v,hx⟩ := ih b w' hb
    exact ⟨a,v,.op hb hx⟩
  | loop _ _ _ ihb ihl ihk =>
    obtain ⟨x,w',hx⟩ := ihb
    cases x with
    | inl s' =>
      obtain ⟨a,v,hy⟩ := ihl s' w' hx
      exact ⟨a,v,.next hx hy⟩
    | inr c =>
      obtain ⟨a,v,hy⟩ := ihk c w' hx
      exact ⟨a,v,.done hx hy⟩

end Halts

def Round (H : Handler E W) (body : σ → Prog E (σ ⊕ γ)) (u v : σ × W) : Prop :=
  Exec H (body u.1) u.2 (.inl v.1) v.2

abbrev Rounds (H : Handler E W) (body : σ → Prog E (σ ⊕ γ)) : σ × W → σ × W → Prop :=
  Relation.ReflTransGen (Round H body)

def Halts.Loops (H : Handler E W) : {α : Type} → Prog E α → W → Prop
  | _, .ret _, _ => True
  | _, .op _ _, _ => True
  | _, .loop body s _, w => Acc (fun v u => Round H body u v) (s, w)

theorem Halts.loops {p : Prog E α} {w : W} (h : Halts H p w) : Halts.Loops H p w := by
  induction h with
  | ret a w => trivial
  | op _ _ => trivial
  | loop _ _ _ _ ihl _ => exact .intro _ (fun v hv => ihl v.1 v.2 hv)

theorem Halts.acc {body : σ → Prog E (σ ⊕ γ)} {s : σ} {k : γ → Prog E α} {w : W}
    (h : Halts H (.loop body s k) w) : Acc (fun v u => Round H body u v) (s, w) := h.loops

theorem exec_rounds {body : σ → Prog E (σ ⊕ γ)} {u v : σ × W} {k : γ → Prog E α} {a : α} {w : W}
    (h : Rounds H body u v) (hx : Exec H (.loop body v.1 k) v.2 a w) :
    Exec H (.loop body u.1 k) u.2 a w := by
  induction h with
  | refl => exact hx
  | tail _ hround ih => exact ih (.next hround hx)

theorem rounds_keep {body : σ → Prog E (σ ⊕ γ)} {u v : σ × W} (h : Rounds H body u v)
    (I : σ → W → Prop) (hu : I u.1 u.2)
    (hI : ∀ s w, I s w → wp H.spec (body s) (fun r w' => ∀ s', r = .inl s' → I s' w') w) :
    I v.1 v.2 := by
  induction h with
  | refl => exact hu
  | tail _ hround ih => exact wp_sound (hI _ _ ih) hround _ rfl

class Halting (H : Handler E W) (p : Prog E α) : Prop where
  run : ∀ w, Halts H p w

namespace Halting

instance halting_pure (a : α) : Halting H (pure a : Prog E α) := ⟨.ret a⟩

instance halting_perform (e : E β) : Halting H (Prog.perform e) :=
  ⟨fun _ => .op (fun b w' _ => .ret b w')⟩

instance halting_bind {p : Prog E α} {f : α → Prog E β} [hp : Halting H p]
    [hf : ∀ a, Halting H (f a)] : Halting H (p >>= f) :=
  ⟨fun w => (hp.run w).bind (fun a w' _ => (hf a).run w')⟩

instance halting_ite {c : Prop} [Decidable c] {p q : Prog E α} [hp : Halting H p]
    [hq : Halting H q] : Halting H (if c then p else q) := by
  split <;> assumption

instance halting_elim {o : Option β} {q : Prog E α} {f : β → Prog E α} [hq : Halting H q]
    [hf : ∀ b, Halting H (f b)] : Halting H (o.elim q f) := by
  cases o with
  | none => exact hq
  | some b => exact hf b

instance halting_both {p q : Prog E Bool} [Halting H p] [Halting H q] : Halting H (p.both q) := by
  rw [Prog.both]
  infer_instance

instance halting_upTo {stop : σ → Bool} {body : σ → Prog E σ} [hb : ∀ s, Halting H (body s)]
    (n : Nat) (s : σ) : Halting H (Prog.upTo stop body n s) := by
  induction n generalizing s with
  | zero => exact halting_pure s
  | succ n ih =>
    rw [Prog.upTo]
    infer_instance

end Halting

end Interaction
