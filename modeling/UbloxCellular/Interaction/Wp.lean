import UbloxCellular.Interaction.Prog

namespace Interaction

variable {E : Type → Type 1} {G W : Type} {α β γ σ : Type}

abbrev Spec (E : Type → Type 1) (G : Type) := ∀ ⦃β : Type⦄, E β → (β → G → Prop) → G → Prop

def Spec.Mono (T : Spec E G) : Prop :=
  ∀ ⦃β : Type⦄ (e : E β) (Q R : β → G → Prop) (g : G),
    (∀ b g', Q b g' → R b g') → T e Q g → T e R g

def wp (T : Spec E G) : {α : Type} → Prog E α → (α → G → Prop) → G → Prop
  | _, .ret a, Q, g => Q a g
  | _, .op e k, Q, g => T e (fun b => wp T (k b) Q) g
  | _, .loop body s k, Q, g => ∃ I : _ → G → Prop, I s g ∧ ∀ s g, I s g →
      wp T (body s) (fun r => r.elim I (fun c => wp T (k c) Q)) g

section Rules
variable {T : Spec E G}

@[simp] theorem wp_pure (a : α) (Q : α → G → Prop) (g : G) :
    wp T (pure a) Q g ↔ Q a g := Iff.rfl

@[simp] theorem wp_perform (e : E β) (Q : β → G → Prop) (g : G) :
    wp T (Prog.perform e) Q g ↔ T e Q g := Iff.rfl

@[simp] theorem wp_ite {c : Prop} [Decidable c] (p q : Prog E α) (Q : α → G → Prop) (g : G) :
    wp T (if c then p else q) Q g ↔ if c then wp T p Q g else wp T q Q g := by
  split <;> rfl

@[simp] theorem wp_elim (o : Option β) (q : Prog E α) (f : β → Prog E α) (Q : α → G → Prop)
    (g : G) : wp T (o.elim q f) Q g ↔ o.elim (wp T q Q g) (fun b => wp T (f b) Q g) := by
  cases o <;> rfl

theorem wp_mono (hT : Spec.Mono T) {p : Prog E α} {Q R : α → G → Prop} {g : G}
    (h : ∀ a g', Q a g' → R a g') (hp : wp T p Q g) : wp T p R g := by
  induction p generalizing g with
  | ret a => exact h a g hp
  | op e k ih => exact hT e _ _ g (fun b g' hb => ih b h hb) hp
  | loop body s k ihb ihk =>
    obtain ⟨I,hs,hI⟩ := hp
    refine ⟨I,hs,fun s g hg => ihb s (fun r g' hr => ?_) (hI s g hg)⟩
    cases r with
    | inl s' => exact hr
    | inr c => exact ihk c h hr

@[simp] theorem wp_bind (p : Prog E α) (f : α → Prog E β) (Q : β → G → Prop) (g : G) :
    wp T (p >>= f) Q g ↔ wp T p (fun a g' => wp T (f a) Q g') g := by
  change wp T (p.bind f) Q g ↔ wp T p (fun a => wp T (f a) Q) g
  induction p generalizing g with
  | ret a => rfl
  | op e k ih =>
    have hk : (fun b => wp T ((k b).bind f) Q) = fun b => wp T (k b) (fun a => wp T (f a) Q) :=
      funext fun b => funext fun g' => propext (ih b f g')
    simp only [Prog.bind,wp,hk]
  | loop body s k _ ihk =>
    have hk : (fun c => wp T ((k c).bind f) Q) = fun c => wp T (k c) (fun a => wp T (f a) Q) :=
      funext fun c => funext fun g' => propext (ihk c f g')
    simp only [Prog.bind,wp,hk]

@[simp] theorem wp_map (p : Prog E α) (f : α → β) (Q : β → G → Prop) (g : G) :
    wp T (f <$> p) Q g ↔ wp T p (fun a g' => Q (f a) g') g := by
  rw [← bind_pure_comp,wp_bind]
  rfl

theorem wp_seq (hT : Spec.Mono T) {p : Prog E α} {f : α → Prog E β} {Q : α → G → Prop}
    {R : β → G → Prop} {g : G} (hp : wp T p Q g) (hf : ∀ a g', Q a g' → wp T (f a) R g') :
    wp T (p >>= f) R g :=
  (wp_bind p f R g).mpr (wp_mono hT hf hp)

theorem wp_iterate {body : σ → Prog E (σ ⊕ γ)} {s : σ} {Q : γ → G → Prop} {g : G}
    (I : σ → G → Prop) (hs : I s g) (hI : ∀ s g, I s g → wp T (body s) (fun r => r.elim I Q) g) :
    wp T (Prog.iterate body s) Q g := ⟨I,hs,hI⟩

theorem wp_upTo (hT : Spec.Mono T) {stop : σ → Bool} {body : σ → Prog E σ} {Q : σ → G → Prop}
    (I : Nat → σ → G → Prop) (hstop : ∀ n s g, I n s g → stop s = true → Q s g)
    (hzero : ∀ s g, I 0 s g → Q s g)
    (hbody : ∀ n s g, I (n + 1) s g → stop s = false → wp T (body s) (I n) g)
    {n : Nat} {s : σ} {g : G} (hs : I n s g) : wp T (Prog.upTo stop body n s) Q g := by
  induction n generalizing s g with
  | zero => exact hzero s g hs
  | succ n ih =>
    simp only [Prog.upTo]
    cases h : stop s with
    | true => simpa using hstop _ s g hs h
    | false =>
      simp only [Bool.false_eq_true,if_false,wp_bind]
      exact wp_mono hT (fun s' g' h' => ih h') (hbody n s g hs h)

theorem wp_both (p q : Prog E Bool) (Q : Bool → G → Prop) (g : G) :
    wp T (p.both q) Q g ↔
      wp T p (fun b g' => if b then wp T q Q g' else Q false g') g := by
  simp only [Prog.both,wp_bind,wp_ite,wp_pure]

theorem wp_unfoldLoop (hT : Spec.Mono T) {body : σ → Prog E (σ ⊕ γ)} {s : σ}
    {k : γ → Prog E α} {Q : α → G → Prop} {g : G} (h : wp T (.loop body s k) Q g) :
    wp T (Prog.unfoldLoop body s k) Q g := by
  obtain ⟨I,hs,hI⟩ := h
  change wp T (body s >>= _) Q g
  refine wp_seq hT (hI s g hs) (fun r g' hr => ?_)
  cases r with
  | inl s' => exact ⟨I,hr,hI⟩
  | inr c => exact hr

end Rules

abbrev Handler (E : Type → Type 1) (W : Type) := ∀ ⦃β : Type⦄, E β → W → β → W → Prop

def Handler.spec (H : Handler E W) : Spec E W :=
  fun _ e Q w => ∀ b w', H e w b w' → Q b w'

theorem Handler.spec_mono (H : Handler E W) : Spec.Mono H.spec :=
  fun _ _ _ _ _ h hq b w' hb => h b w' (hq b w' hb)

theorem wp_always {H : Handler E W} {p : Prog E α} {Q : α → W → Prop} (hQ : ∀ a w, Q a w) (w : W) :
    wp H.spec p Q w := by
  induction p generalizing w with
  | ret a => exact hQ a w
  | op e k ih => exact fun b w' _ => ih b hQ w'
  | loop body s k ihb ihk =>
    refine ⟨fun _ _ => True,trivial,fun s w _ => ihb s (fun x w' => ?_) w⟩
    cases x with
    | inl s' => trivial
    | inr c => exact ihk c hQ w'

theorem Handler.wp_and {H : Handler E W} {p : Prog E α} {Q R : α → W → Prop} {w : W}
    (hq : wp H.spec p Q w) (hr : wp H.spec p R w) :
    wp H.spec p (fun a w' => Q a w' ∧ R a w') w := by
  induction p generalizing w with
  | ret a => exact ⟨hq,hr⟩
  | op e k ih => exact fun b w' hb => ih b (hq b w' hb) (hr b w' hb)
  | loop body s k ihb ihk =>
    obtain ⟨I,hs,hI⟩ := hq
    obtain ⟨J,hs',hJ⟩ := hr
    refine ⟨fun s w => I s w ∧ J s w,⟨hs,hs'⟩,fun s w h => ?_⟩
    refine wp_mono H.spec_mono (fun x w' hx => ?_) (ihb s (hI s w h.1) (hJ s w h.2))
    cases x with
    | inl s' => exact hx
    | inr c => exact ihk c hx.1 hx.2

theorem Handler.wp_within {H K : Handler E W} {p : Prog E α} {Q : α → W → Prop} {w : W}
    (h : ∀ ⦃β : Type⦄ (e : E β) w b w', H e w b w' → K e w b w') (hp : wp K.spec p Q w) :
    wp H.spec p Q w := by
  induction p generalizing w with
  | ret a => exact hp
  | op e k ih => exact fun b w' hb => ih b (hp b w' (h e w b w' hb))
  | loop body s k ihb ihk =>
    obtain ⟨I,hs,hI⟩ := hp
    refine ⟨I,hs,fun s v hv => wp_mono H.spec_mono (fun r v' hr => ?_) (ihb s (hI s v hv))⟩
    cases r with
    | inl s' => exact hr
    | inr c => exact ihk c hr

inductive Exec (H : Handler E W) : {α : Type} → Prog E α → W → α → W → Prop
  | ret {α : Type} (a : α) (w : W) : Exec H (.ret a) w a w
  | op {α β : Type} {e : E β} {k : β → Prog E α} {w w' w'' : W} {b : β} {a : α} :
      H e w b w' → Exec H (k b) w' a w'' → Exec H (.op e k) w a w''
  | next {α σ γ : Type} {body : σ → Prog E (σ ⊕ γ)} {s s' : σ} {k : γ → Prog E α}
      {w w' w'' : W} {a : α} :
      Exec H (body s) w (.inl s') w' → Exec H (.loop body s' k) w' a w'' →
      Exec H (.loop body s k) w a w''
  | done {α σ γ : Type} {body : σ → Prog E (σ ⊕ γ)} {s : σ} {k : γ → Prog E α}
      {w w' w'' : W} {a : α} {c : γ} :
      Exec H (body s) w (.inr c) w' → Exec H (k c) w' a w'' → Exec H (.loop body s k) w a w''

theorem wp_sound {H : Handler E W} {p : Prog E α} {w w' : W} {a : α} {Q : α → W → Prop}
    (hp : wp H.spec p Q w) (hx : Exec H p w a w') : Q a w' := by
  induction hx with
  | ret a w => exact hp
  | op hb _ ih => exact ih (hp _ _ hb)
  | next _ _ ihb ihl =>
    obtain ⟨I,hs,hI⟩ := hp
    exact ihl ⟨I,ihb (hI _ _ hs),hI⟩
  | done _ _ ihb ihk =>
    obtain ⟨I,hs,hI⟩ := hp
    exact ihk (ihb (hI _ _ hs))

theorem exec_loop {W' : Type} {H : Handler E W} {view : W' → W} {body : σ → Prog E (σ ⊕ γ)}
    {step : σ → W' → Option ((σ ⊕ γ) × W')}
    (hstep : ∀ s w r w', step s w = some (r, w') → Exec H (body s) (view w) r (view w'))
    {k : γ → Prog E α} {a : α} {w'' : W} {n : Nat} {s : σ} {w w' : W'} {c : γ}
    (h : Prog.runLoop step n s w = some (c, w')) (hk : Exec H (k c) (view w') a w'') :
    Exec H (.loop body s k) (view w) a w'' := by
  induction n generalizing s w with
  | zero => simp [Prog.runLoop] at h
  | succ n ih =>
    simp only [Prog.runLoop] at h
    split at h
    · cases h
    · exact .next (hstep _ _ _ _ ‹_›) (ih h)
    · cases h
      exact .done (hstep _ _ _ _ ‹_›) hk

theorem run_exec {W' : Type} {H : Handler E W} (view : W' → W) {h : Prog.Oracle E W'}
    (hh : ∀ ⦃β : Type⦄ (e : E β) w b w', h e w = some (b, w') → H e (view w) b (view w'))
    {n : Nat} {p : Prog E α} {w w' : W'} {a : α} (hr : p.run h n w = some (a, w')) :
    Exec H p (view w) a (view w') := by
  induction p generalizing w w' with
  | ret b => cases hr; exact .ret _ _
  | op e k ih =>
    simp only [Prog.run,Option.bind_eq_some_iff] at hr
    obtain ⟨⟨b,v⟩,he,hk⟩ := hr
    exact .op (hh e w b v he) (ih b hk)
  | loop body s k ihb ihk =>
    simp only [Prog.run,Option.bind_eq_some_iff] at hr
    obtain ⟨⟨c,v⟩,hl,hk⟩ := hr
    exact exec_loop (fun s w r w' hs => ihb s hs) hl (ihk c hk)

structure Frame (E : Type → Type 1) (G : Type) where
  spec : Spec E G
  mono : Spec.Mono spec
  pre : G → Prop
  rel : G → G → Prop
  refl : ∀ g, rel g g
  trans : ∀ g h k, rel g h → rel h k → rel g k
  keep : ∀ g h, rel g h → pre g → pre h

namespace Frame

-- An instance has a node for each call of its program: where a long one is looked up in one go,
-- the size that the search may build is raised.
class Keeps (F : Frame E G) (p : Prog E α) : Prop where
  run : ∀ g, F.pre g → wp F.spec p (fun _ g' => F.rel g g') g

variable {F : Frame E G}

theorem Keeps.after {p : Prog E α} (hp : F.Keeps p) {g h : G} (hg : F.pre g) (hr : F.rel g h) :
    wp F.spec p (fun _ g' => F.rel g g') h :=
  wp_mono F.mono (fun _ _ hk => F.trans _ _ _ hr hk) (hp.run h (F.keep _ _ hr hg))

instance keeps_pure (a : α) : F.Keeps (pure a : Prog E α) := ⟨fun g _ => F.refl g⟩

instance keeps_bind {p : Prog E α} {f : α → Prog E β} [hp : F.Keeps p] [hf : ∀ a, F.Keeps (f a)] :
    F.Keeps (p >>= f) := by
  constructor
  intro g hg
  exact wp_seq F.mono (hp.run g hg) (fun a h hr => (hf a).after hg hr)

instance keeps_ite {c : Prop} [Decidable c] {p q : Prog E α} [hp : F.Keeps p] [hq : F.Keeps q] :
    F.Keeps (if c then p else q) := by
  split <;> assumption

instance keeps_elim {o : Option β} {q : Prog E α} {f : β → Prog E α} [hq : F.Keeps q]
    [hf : ∀ b, F.Keeps (f b)] : F.Keeps (o.elim q f) := by
  cases o with
  | none => exact hq
  | some b => exact hf b

instance keeps_both {p q : Prog E Bool} [F.Keeps p] [F.Keeps q] : F.Keeps (p.both q) := by
  rw [Prog.both]
  infer_instance

instance keeps_upTo {stop : σ → Bool} {body : σ → Prog E σ} [hb : ∀ s, F.Keeps (body s)]
    (n : Nat) (s : σ) : F.Keeps (Prog.upTo stop body n s) := by
  induction n generalizing s with
  | zero => exact keeps_pure s
  | succ n ih =>
    rw [Prog.upTo]
    infer_instance

instance keeps_iterate {body : σ → Prog E (σ ⊕ γ)} [hb : ∀ s, F.Keeps (body s)] (s : σ) :
    F.Keeps (Prog.iterate body s) := by
  constructor
  intro g hg
  refine wp_iterate (fun _ h => F.rel g h) (F.refl g) (fun s h hr => ?_)
  refine wp_mono F.mono (fun r k hk => ?_) ((hb s).after hg hr)
  cases r <;> exact hk

end Frame

end Interaction
