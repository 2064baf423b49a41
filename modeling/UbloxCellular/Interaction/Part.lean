import UbloxCellular.Interaction.Moment

namespace Interaction

variable {E F : Type → Type 1} {V W α β : Type}

def Prog.within (inject : ∀ ⦃β : Type⦄, E β → F β) : {α : Type} → Prog E α → Prog F α
  | _, .ret a => .ret a
  | _, .op e k => .op (inject e) (fun b => (k b).within inject)
  | _, .loop body s k =>
    .loop (fun s => (body s).within inject) s (fun c => (k c).within inject)

theorem wp_within {G : Type} {inject : ∀ ⦃β : Type⦄, E β → F β} {T : Spec F G} {p : Prog E α}
    {Q : α → G → Prop} {g : G} :
    wp T (p.within inject) Q g ↔ wp (fun _ e R => T (inject e) R) p Q g := by
  induction p generalizing g with
  | ret a => rfl
  | op e k ih =>
    have hk : (fun b => wp T ((k b).within inject) Q) =
        fun b => wp (fun _ e R => T (inject e) R) (k b) Q :=
      funext fun b => funext fun g' => propext (ih b)
    simp only [Prog.within,wp,hk]
  | loop body s k ihb ihk =>
    simp only [Prog.within,wp,ihb]
    have hk : (fun c => wp T ((k c).within inject) Q) =
        fun c => wp (fun _ e R => T (inject e) R) (k c) Q :=
      funext fun c => funext fun g' => propext (ihk c)
    rw [hk]

-- A component with its world as the system sees it, and what becomes of the rest of the system
-- while one of its effects takes place.
structure Part (H : Handler E V) (K : Handler F W) where
  inject : ∀ ⦃β : Type⦄, E β → F β
  view : W → V
  rel : W → W → Prop
  refl : ∀ w, rel w w
  trans : ∀ u v w, rel u v → rel v w → rel u w
  step : ∀ ⦃β : Type⦄ (e : E β) w b w', K (inject e) w b w' → H e (view w) b (view w') ∧ rel w w'

namespace Part

variable {H : Handler E V} {K : Handler F W} {P : Part H K} {p : Prog E α} {w w' v : W} {a : α}

abbrev code (P : Part H K) (p : Prog E α) : Prog F α := p.within P.inject

theorem exec (hx : Exec K (P.code p) w a w') :
    Exec H p (P.view w) a (P.view w') ∧ P.rel w w' := by
  generalize hq : P.code p = q at hx
  induction hx with
  | ret a w =>
    cases p with
    | ret b => cases hq; exact ⟨.ret _ _,P.refl w⟩
    | op e k => cases hq
    | loop body s k => cases hq
  | op he hk ih =>
    cases p with
    | ret b => cases hq
    | loop body s k => cases hq
    | op e k =>
      cases hq
      obtain ⟨hh,hr⟩ := P.step _ _ _ _ he
      obtain ⟨hx,hr'⟩ := ih rfl
      exact ⟨.op hh hx,P.trans _ _ _ hr hr'⟩
  | @next _ _ _ _ _ s' _ _ _ _ _ _ _ ihb ihl =>
    cases p with
    | ret b => cases hq
    | op e k => cases hq
    | loop body s k =>
      cases hq
      obtain ⟨hx,hr⟩ := ihb rfl
      obtain ⟨hx',hr'⟩ := @ihl (.loop body s' k) rfl
      exact ⟨.next hx hx',P.trans _ _ _ hr hr'⟩
  | done hbody hk ihb ihk =>
    cases p with
    | ret b => cases hq
    | op e k => cases hq
    | loop body s k =>
      cases hq
      obtain ⟨hx,hr⟩ := ihb rfl
      obtain ⟨hx',hr'⟩ := ihk rfl
      exact ⟨.done hx hx',P.trans _ _ _ hr hr'⟩

theorem moment (hm : Moment K (P.code p) w v) : Moment H p (P.view w) (P.view v) ∧ P.rel w v := by
  generalize hq : P.code p = q at hm
  induction hm with
  | here q w => exact ⟨.here _ _,P.refl w⟩
  | op he hk ih =>
    cases p with
    | ret b => cases hq
    | loop body s k => cases hq
    | op e k =>
      cases hq
      obtain ⟨hh,hr⟩ := P.step _ _ _ _ he
      obtain ⟨hx,hr'⟩ := ih rfl
      exact ⟨.op hh hx,P.trans _ _ _ hr hr'⟩
  | inside hbody ih =>
    cases p with
    | ret b => cases hq
    | op e k => cases hq
    | loop body s k =>
      cases hq
      obtain ⟨hx,hr⟩ := ih rfl
      exact ⟨.inside hx,hr⟩
  | @next _ _ _ _ _ s' _ _ _ _ hbody _ ih =>
    cases p with
    | ret b => cases hq
    | op e k => cases hq
    | loop body s k =>
      cases hq
      obtain ⟨hx,hr⟩ := exec hbody
      obtain ⟨hx',hr'⟩ := @ih (.loop body s' k) rfl
      exact ⟨.next hx hx',P.trans _ _ _ hr hr'⟩
  | done hbody hk ih =>
    cases p with
    | ret b => cases hq
    | op e k => cases hq
    | loop body s k =>
      cases hq
      obtain ⟨hx,hr⟩ := exec hbody
      obtain ⟨hx',hr'⟩ := ih rfl
      exact ⟨.done hx hx',P.trans _ _ _ hr hr'⟩

theorem wp_code {I : W → Prop} {Q : α → W → Prop}
    (hm : ∀ v, Moment H p (P.view w) (P.view v) → P.rel w v → I v)
    (hx : ∀ a w', Exec H p (P.view w) a (P.view w') → P.rel w w' → Q a w') :
    wp (K.spec.always I) (P.code p) Q w := by
  refine wp_complete (fun v hv => ?_) (fun a w' h => ?_)
  · obtain ⟨hv,hr⟩ := moment hv
    exact hm v hv hr
  · obtain ⟨h,hr⟩ := exec h
    exact hx a w' h hr

theorem halts (h : Halts H p (P.view w)) : Halts K (P.code p) w := by
  generalize hv : P.view w = v at h
  induction h generalizing w with
  | ret a v => exact .ret a w
  | op _ ih =>
    refine .op (fun b w' he => ?_)
    subst hv
    exact ih b _ (P.step _ w b w' he).1 rfl
  | loop _ _ _ ihb ihl ihk =>
    subst hv
    exact .loop (ihb rfl) (fun s' w' hx => ihl s' _ (exec hx).1 rfl)
      (fun c w' hx => ihk c _ (exec hx).1 rfl)

end Part

end Interaction
