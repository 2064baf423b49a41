import UbloxCellular.Interaction.Wp

namespace Interaction

variable {E F : Type → Type 1} {V W α β γ σ : Type} {H : Handler E W} {K : Handler F V}

theorem exec_pure {a b : α} {w w' : W} : Exec H (pure a : Prog E α) w b w' ↔ b = a ∧ w' = w := by
  constructor
  · intro h
    cases h
    exact ⟨rfl,rfl⟩
  · rintro ⟨rfl,rfl⟩
    exact .ret _ _

theorem exec_perform {e : E β} {w w' : W} {b : β} :
    Exec H (Prog.perform e) w b w' ↔ H e w b w' := by
  constructor
  · intro h
    cases h with
    | op he hk =>
      cases hk
      exact he
  · intro h
    exact .op h (.ret _ _)

theorem Exec.bind {p : Prog E α} {f : α → Prog E β} {w w' w'' : W} {a : α} {b : β}
    (hp : Exec H p w a w') (hf : Exec H (f a) w' b w'') : Exec H (p >>= f) w b w'' := by
  change Exec H (p.bind f) w b w''
  induction hp with
  | ret a w => exact hf
  | op he _ ih => exact .op he (ih hf)
  | next hbody _ _ ih => exact .next hbody (ih hf)
  | done hbody _ _ ih => exact .done hbody (ih hf)

theorem exec_iterate {body : σ → Prog E (σ ⊕ γ)} {s : σ} {k : γ → Prog E α} {w w'' : W} {a : α}
    (h : Exec H (.loop body s k) w a w'') :
    ∃ c w', Exec H (Prog.iterate body s) w c w' ∧ Exec H (k c) w' a w'' := by
  generalize hp : Prog.loop body s k = p at h
  induction h generalizing s with
  | ret a w => cases hp
  | op he _ _ => cases hp
  | next hbody _ _ ih =>
    cases hp
    obtain ⟨c,w',hloop,hk⟩ := ih rfl
    exact ⟨c,w',.next hbody hloop,hk⟩
  | done hbody hk _ _ =>
    cases hp
    exact ⟨_,_,.done hbody (.ret _ _),hk⟩

theorem exec_bind {p : Prog E α} {f : α → Prog E β} {w w'' : W} {b : β} :
    Exec H (p >>= f) w b w'' ↔ ∃ a w', Exec H p w a w' ∧ Exec H (f a) w' b w'' := by
  refine ⟨fun h => ?_,fun ⟨a,w',hp,hf⟩ => hp.bind hf⟩
  change Exec H (p.bind f) w b w'' at h
  induction p generalizing w with
  | ret a => exact ⟨a,w,.ret _ _,h⟩
  | op e k ih =>
    cases h with
    | op he hk =>
      obtain ⟨a,w',hp,hf⟩ := ih _ hk
      exact ⟨a,w',.op he hp,hf⟩
  | loop body s k _ ih =>
    obtain ⟨c,u,hloop,hk⟩ := exec_iterate h
    obtain ⟨a,w',hp,hf⟩ := ih c hk
    exact ⟨a,w',hloop.bind hp,hf⟩

theorem exec_both {p q : Prog E Bool} {w w' : W} : Exec H (p.both q) w true w' ↔
    ∃ u, Exec H p w true u ∧ Exec H q u true w' := by
  rw [Prog.both,exec_bind]
  constructor
  · rintro ⟨a,u,hp,hq⟩
    cases a with
    | true => exact ⟨u,hp,hq⟩
    | false => cases (exec_pure.mp hq).1
  · rintro ⟨u,hp,hq⟩
    exact ⟨true,u,hp,hq⟩

theorem Exec.view {K : Handler E V} {f : W → V}
    (h : ∀ ⦃β : Type⦄ (e : E β) w b w', H e w b w' → K e (f w) b (f w')) {p : Prog E α} {w w' : W}
    {a : α} (hx : Exec H p w a w') : Exec K p (f w) a (f w') := by
  induction hx with
  | ret a w => exact .ret a (f w)
  | op he _ ih => exact .op (h _ _ _ _ he) ih
  | next _ _ ihb ihl => exact .next ihb ihl
  | done _ _ ihb ihk => exact .done ihb ihk

theorem Exec.linked {R : W → W → Prop} (hrefl : ∀ w, R w w)
    (htrans : ∀ u v w, R u v → R v w → R u w)
    (hstep : ∀ ⦃β : Type⦄ (e : E β) w b w', H e w b w' → R w w') {p : Prog E α} {w w' : W} {a : α}
    (hx : Exec H p w a w') : R w w' := by
  induction hx with
  | ret a w => exact hrefl w
  | op he _ ih => exact htrans _ _ _ (hstep _ _ _ _ he) ih
  | next _ _ ihb ihl => exact htrans _ _ _ ihb ihl
  | done _ _ ihb ihk => exact htrans _ _ _ ihb ihk

def Simulates (H : Handler E W) (K : Handler F V) (R : W → V → Prop) (p : Prog E α)
    (q : Prog F α) (w : W) (v : V) : Prop :=
  ∀ a w', Exec H p w a w' → ∃ v', Exec K q v a v' ∧ R w' v'

class Mirrors (H : Handler E W) (K : Handler F V) (R : W → V → Prop) (p : Prog E α)
    (q : Prog F α) : Prop where
  run : ∀ w v, R w v → Simulates H K R p q w v

section Mirrors
variable {R : W → V → Prop}

theorem Simulates.bind {p : Prog E α} {q : Prog F α} {f : α → Prog E β} {g : α → Prog F β}
    {w : W} {v : V} (hp : Simulates H K R p q w v)
    (hf : ∀ a w' v', R w' v' → Simulates H K R (f a) (g a) w' v') :
    Simulates H K R (p >>= f) (q >>= g) w v := by
  intro b w'' h
  obtain ⟨a,w',hpa,hfb⟩ := exec_bind.mp h
  obtain ⟨v',hqa,hr⟩ := hp a w' hpa
  obtain ⟨v'',hgb,hr'⟩ := hf a w' v' hr b w'' hfb
  exact ⟨v'',hqa.bind hgb,hr'⟩

instance mirrors_pure (a : α) : Mirrors H K R (pure a) (pure a) := by
  refine ⟨fun w v hr b w' h => ?_⟩
  obtain ⟨rfl,rfl⟩ := exec_pure.mp h
  exact ⟨v,.ret _ _,hr⟩

instance mirrors_bind {p : Prog E α} {q : Prog F α} {f : α → Prog E β} {g : α → Prog F β}
    [hp : Mirrors H K R p q] [hf : ∀ a, Mirrors H K R (f a) (g a)] :
    Mirrors H K R (p >>= f) (q >>= g) :=
  ⟨fun w v hr => (hp.run w v hr).bind (fun a => (hf a).run)⟩

instance mirrors_ite {c : Prop} [Decidable c] {p p' : Prog E α} {q q' : Prog F α}
    [hp : Mirrors H K R p q] [hp' : Mirrors H K R p' q'] :
    Mirrors H K R (if c then p else p') (if c then q else q') := by
  split <;> assumption

instance mirrors_elim {o : Option β} {p : Prog E α} {q : Prog F α} {f : β → Prog E α}
    {g : β → Prog F α} [hp : Mirrors H K R p q] [hf : ∀ b, Mirrors H K R (f b) (g b)] :
    Mirrors H K R (o.elim p f) (o.elim q g) := by
  cases o with
  | none => exact hp
  | some b => exact hf b

instance mirrors_both {p p' : Prog E Bool} {q q' : Prog F Bool} [Mirrors H K R p q]
    [Mirrors H K R p' q'] : Mirrors H K R (p.both p') (q.both q') := by
  rw [Prog.both,Prog.both]
  infer_instance

instance mirrors_upTo {stop : σ → Bool} {f : σ → Prog E σ} {g : σ → Prog F σ}
    [hf : ∀ s, Mirrors H K R (f s) (g s)] (n : Nat) (s : σ) :
    Mirrors H K R (Prog.upTo stop f n s) (Prog.upTo stop g n s) := by
  induction n generalizing s with
  | zero => exact mirrors_pure s
  | succ n ih =>
    rw [Prog.upTo,Prog.upTo]
    infer_instance

end Mirrors

end Interaction
