import UbloxCellular.Interaction.Simulation
import UbloxCellular.Interaction.Halts

namespace Interaction

variable {E F : Type → Type 1} {V W G α β γ σ : Type}

inductive Moment (H : Handler E W) : {α : Type} → Prog E α → W → W → Prop
  | here {α : Type} (p : Prog E α) (w : W) : Moment H p w w
  | op {α β : Type} {e : E β} {k : β → Prog E α} {w w' v : W} {b : β} :
      H e w b w' → Moment H (k b) w' v → Moment H (.op e k) w v
  | inside {α σ γ : Type} {body : σ → Prog E (σ ⊕ γ)} {s : σ} {k : γ → Prog E α} {w v : W} :
      Moment H (body s) w v → Moment H (.loop body s k) w v
  | next {α σ γ : Type} {body : σ → Prog E (σ ⊕ γ)} {s s' : σ} {k : γ → Prog E α} {w w' v : W} :
      Exec H (body s) w (.inl s') w' → Moment H (.loop body s' k) w' v →
      Moment H (.loop body s k) w v
  | done {α σ γ : Type} {body : σ → Prog E (σ ⊕ γ)} {s : σ} {k : γ → Prog E α} {w w' v : W}
      {c : γ} : Exec H (body s) w (.inr c) w' → Moment H (k c) w' v → Moment H (.loop body s k) w v

def Spec.always (T : Spec E G) (I : G → Prop) : Spec E G :=
  fun _ e Q g => T e (fun b g' => I g' ∧ Q b g') g

theorem Spec.always_mono {T : Spec E G} (hT : Spec.Mono T) (I : G → Prop) :
    Spec.Mono (T.always I) :=
  fun _ e _ _ g h hq => hT e _ _ g (fun b g' hb => ⟨hb.1,h b g' hb.2⟩) hq

theorem wp_always_mono {T : Spec E G} (hT : Spec.Mono T) {I J : G → Prop} {p : Prog E α}
    {Q R : α → G → Prop} {g : G} (hI : ∀ g, I g → J g) (hQ : ∀ a g', Q a g' → R a g')
    (h : wp (T.always I) p Q g) : wp (T.always J) p R g := by
  induction p generalizing g with
  | ret a => exact hQ a g h
  | op e k ih => exact hT e _ _ g (fun b g' hb => ⟨hI g' hb.1,ih b hQ hb.2⟩) h
  | loop body s k ihb ihk =>
    obtain ⟨K,hs,hK⟩ := h
    refine ⟨K,hs,fun s g hg => ihb s (fun r g' hr => ?_) (hK s g hg)⟩
    cases r with
    | inl s' => exact hr
    | inr c => exact ihk c hQ hr

section Moments
variable {H : Handler E W} {I : W → Prop} {p : Prog E α} {Q : α → W → Prop} {w w' v : W} {a : α}

theorem Exec.moment (hx : Exec H p w a w') : Moment H p w w' := by
  induction hx with
  | ret a w => exact .here _ _
  | op he _ ih => exact .op he ih
  | next hbody _ _ ih => exact .next hbody ih
  | done hbody _ _ ih => exact .done hbody ih

theorem Moment.linked {R : W → W → Prop} (hrefl : ∀ w, R w w)
    (htrans : ∀ u v w, R u v → R v w → R u w)
    (hstep : ∀ ⦃β : Type⦄ (e : E β) w b w', H e w b w' → R w w') (hm : Moment H p w v) : R w v := by
  induction hm with
  | here p w => exact hrefl w
  | op he _ ih => exact htrans _ _ _ (hstep _ _ _ _ he) ih
  | inside _ ih => exact ih
  | next hbody _ ih => exact htrans _ _ _ (hbody.linked hrefl htrans hstep) ih
  | done hbody _ ih => exact htrans _ _ _ (hbody.linked hrefl htrans hstep) ih

theorem always_sound (hp : wp (H.spec.always I) p Q w) (hw : I w) (hx : Exec H p w a w') :
    I w' ∧ Q a w' := by
  induction hx with
  | ret a w => exact ⟨hw,hp⟩
  | op he _ ih =>
    obtain ⟨hi,hk⟩ := hp _ _ he
    exact ih hk hi
  | next _ _ ihb ihl =>
    obtain ⟨J,hs,hJ⟩ := hp
    obtain ⟨hi,hs'⟩ := ihb (hJ _ _ hs) hw
    exact ihl ⟨J,hs',hJ⟩ hi
  | done _ _ ihb ihk =>
    obtain ⟨J,hs,hJ⟩ := hp
    obtain ⟨hi,hk⟩ := ihb (hJ _ _ hs) hw
    exact ihk hk hi

theorem always_moment (hp : wp (H.spec.always I) p Q w) (hw : I w) (hm : Moment H p w v) : I v := by
  induction hm with
  | here => exact hw
  | op he _ ih =>
    obtain ⟨hi,hk⟩ := hp _ _ he
    exact ih hk hi
  | inside _ ih =>
    obtain ⟨J,hs,hJ⟩ := hp
    exact ih (hJ _ _ hs) hw
  | next hbody _ ih =>
    obtain ⟨J,hs,hJ⟩ := hp
    obtain ⟨hi,hs'⟩ := always_sound (hJ _ _ hs) hw hbody
    exact ih ⟨J,hs',hJ⟩ hi
  | done hbody _ ih =>
    obtain ⟨J,hs,hJ⟩ := hp
    obtain ⟨hi,hk⟩ := always_sound (hJ _ _ hs) hw hbody
    exact ih hk hi

theorem wp_complete (hm : ∀ v, Moment H p w v → I v) (hx : ∀ a w', Exec H p w a w' → Q a w') :
    wp (H.spec.always I) p Q w := by
  induction p generalizing w with
  | ret a => exact hx a w (.ret a w)
  | op e k ih =>
    refine fun b w' he => ⟨hm _ (.op he (.here _ _)),?_⟩
    exact ih b (fun v hv => hm v (.op he hv)) (fun a u hu => hx a u (.op he hu))
  | loop body s k ihb ihk =>
    refine ⟨fun s u => (∀ v, Moment H (.loop body s k) u v → I v) ∧
      ∀ a w', Exec H (.loop body s k) u a w' → Q a w',⟨hm,hx⟩,fun s u hu => ?_⟩
    refine ihb s (fun v hv => hu.1 v (.inside hv)) (fun r u' hr => ?_)
    cases r with
    | inl s' => exact ⟨fun v hv => hu.1 v (.next hr hv),fun a v hv => hu.2 a v (.next hr hv)⟩
    | inr c =>
      exact ihk c (fun v hv => hu.1 v (.done hr hv)) (fun a v hv => hu.2 a v (.done hr hv))

theorem wp_unwatched {T : Spec E G} {R : α → G → Prop} {J : G → Prop} {g : G} (hT : Spec.Mono T)
    (hp : wp (T.always J) p R g) : wp T p R g := by
  induction p generalizing g with
  | ret a => exact hp
  | op e k ih => exact hT e _ _ g (fun b g' hb => ih b hb.2) hp
  | loop body s k ihb ihk =>
    obtain ⟨K,hs,hK⟩ := hp
    refine ⟨K,hs,fun s g hg => wp_mono hT (fun r g' hr => ?_) (ihb s (hK s g hg))⟩
    cases r with
    | inl s' => exact hr
    | inr c => exact ihk c hr

theorem wp_iff_exec : wp H.spec p Q w ↔ ∀ a w', Exec H p w a w' → Q a w' :=
  ⟨fun h _ _ hx => wp_sound h hx,fun h => wp_unwatched H.spec_mono
    (@wp_complete _ _ _ _ (fun _ => True) _ _ _ (fun _ _ => trivial) h)⟩

theorem Moment.ends {R : W → W → Prop} (hrefl : ∀ w, R w w)
    (htrans : ∀ u v w, R u v → R v w → R u w)
    (hstep : ∀ ⦃β : Type⦄ (e : E β) w b w', H e w b w' → R w w')
    (hH : ∀ ⦃β : Type⦄ (e : E β) w, ∃ b w', H e w b w') (hm : Moment H p w v)
    (hp : Halts H p w) : ∃ a w', Exec H p w a w' ∧ R v w' := by
  induction hm with
  | here p w =>
    obtain ⟨a,w',hx⟩ := hp.ends hH
    exact ⟨a,w',hx,hx.linked hrefl htrans hstep⟩
  | op he _ ih =>
    cases hp with
    | op hk =>
      obtain ⟨a,w',hx,hr⟩ := ih (hk _ _ he)
      exact ⟨a,w',.op he hx,hr⟩
  | inside _ ih =>
    cases hp with
    | loop hbody hnext hdone =>
      obtain ⟨r,u,hx,hr⟩ := ih hbody
      cases r with
      | inl s' =>
        obtain ⟨a,w',hy⟩ := (hnext s' u hx).ends hH
        exact ⟨a,w',.next hx hy,htrans _ _ _ hr (hy.linked hrefl htrans hstep)⟩
      | inr c =>
        obtain ⟨a,w',hy⟩ := (hdone c u hx).ends hH
        exact ⟨a,w',.done hx hy,htrans _ _ _ hr (hy.linked hrefl htrans hstep)⟩
  | next hbody _ ih =>
    cases hp with
    | loop _ hnext _ =>
      obtain ⟨a,w',hx,hr⟩ := ih (hnext _ _ hbody)
      exact ⟨a,w',.next hbody hx,hr⟩
  | done hbody _ ih =>
    cases hp with
    | loop _ _ hdone =>
      obtain ⟨a,w',hx,hr⟩ := ih (hdone _ _ hbody)
      exact ⟨a,w',.done hbody hx,hr⟩

theorem wp_throughout (hI : ∀ ⦃β : Type⦄ (e : E β) w b w', H e w b w' → I w' → I w)
    (hH : ∀ ⦃β : Type⦄ (e : E β) w, ∃ b w', H e w b w') (hp : Halts H p w)
    (h : wp H.spec p (fun a v => I v ∧ Q a v) w) : wp (H.spec.always I) p Q w := by
  refine wp_complete (fun v hv => ?_) (fun a w' hx => (wp_sound h hx).2)
  obtain ⟨a,w',hx,hr⟩ := hv.ends (R := fun u v => I v → I u) (fun _ => id)
    (fun _ _ _ h k => h ∘ k) hI hH hp
  exact hr (wp_sound h hx).1

end Moments

namespace Frame

def watched (F : Frame E G) : Frame E G :=
  ⟨F.spec.always F.pre,Spec.always_mono F.mono F.pre,F.pre,F.rel,F.refl,F.trans,F.keep⟩

theorem Keeps.watched {F : Frame E G} {e : E β} (h : F.Keeps (Prog.perform e)) :
    F.watched.Keeps (Prog.perform e) :=
  ⟨fun g hg => F.mono e _ _ g (fun _ g' hr => ⟨F.keep g g' hr hg,hr⟩) (h.run g hg)⟩

end Frame

end Interaction
