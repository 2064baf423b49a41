import UbloxCellular.Driver.Effects
import UbloxCellular.Interaction.Schedule

namespace UbloxCellular
open Interaction Monitor Code

structure Timeouts where
  member : Int
  parser : Int
  deriving DecidableEq, Repr

def Timeouts.both (t : Int) : Timeouts := ⟨t,t⟩

section Effects
variable {S : Sig} {β : Type}

def Eff.timing : Eff S β → Timeouts → β → Timeouts → Prop
  | .atTimeout, v, b, v' => b = v.member ∧ v' = v
  | .setAtTimeout t, v, _, v' => v' = { v with member := t }
  | .parserTimeout t, v, _, v' => v' = { v with parser := t }
  | _, v, _, v' => v' = v

def Eff.state (urc : S.State → S.State → Prop) : Eff S β → S.State → β → S.State → Prop
  | .get, d, b, d' => b = d ∧ d' = d
  | .modify f, d, _, d' => d' = f d
  | .recv _, d, _, d' => Relation.ReflTransGen urc d d'
  | _, d, _, d' => d' = d

def Eff.settle : Eff S β → Timeouts → S.State → Option (β × Timeouts × S.State)
  | .atTimeout, v, d => some (v.member, v, d)
  | .setAtTimeout t, v, d => some ((), { v with member := t }, d)
  | .parserTimeout t, v, d => some ((), { v with parser := t }, d)
  | .get, v, d => some (d, v, d)
  | .modify f, v, d => some ((), v, f d)
  | .flush, v, d => some ((), v, d)
  | .wait _, v, d => some ((), v, d)
  | .timerStart, v, d => some ((), v, d)
  | .connectionStatusCb, v, d => some ((), v, d)
  | .hw _, v, d => some ((), v, d)
  | .enter _, v, d => some ((), v, d)
  | _, _, _ => none

theorem settle_sound (urc : S.State → S.State → Prop) {e : Eff S β} {v v' : Timeouts}
    {d d' : S.State} {b : β} (h : e.settle v d = some (b, v', d')) :
    e.timing v b v' ∧ e.state urc d b d' := by
  cases e <;> cases h <;> simp [Eff.timing,Eff.state]

@[reducible] def Eff.setsTimeout : Eff S β → Bool
  | .setAtTimeout _ => true
  | .parserTimeout _ => true
  | _ => false

theorem timing_kept {e : Eff S β} (he : e.setsTimeout = false) {v v' : Timeouts} {b : β}
    (h : e.timing v b v') : v' = v := by
  cases e with
  | atTimeout => exact h.2
  | setAtTimeout t => cases he
  | parserTimeout t => cases he
  | _ => exact h

end Effects

structure Client (S : Sig) (Op L : Type) where
  code : Op → Code S Unit
  urc : S.State → S.State → Prop
  start : L
  note : ∀ ⦃β : Type⦄, Eff S β → β → L → L
  guard : Op → Bool → ∀ ⦃β : Type⦄, Eff S β → Timeouts → L → β → Prop

namespace Client
variable {S : Sig} {Op L : Type}

def rules (C : Client S Op L) : Rules (Eff S) Op Timeouts S.State L where
  code := C.code
  start := C.start
  act o owns _ e v d l b v' d' l' :=
    C.guard o owns e v l b ∧ e.timing v b v' ∧ e.state C.urc d b d' ∧ l' = C.note e b l

def guarded (C : Client S Op L)
    (G : Op → Bool → ∀ ⦃β : Type⦄, Eff S β → Timeouts → L → β → Prop) : Client S Op L :=
  { C with guard := fun o b _ e v l x => C.guard o b e v l x ∧ G o b e v l x }

abbrev Script (S : Sig) := ∀ ⦃β : Type⦄, Eff S β → S.State → Option (β × S.State)

def Script.Sound (script : Script S) (urc : S.State → S.State → Prop) : Prop :=
  ∀ ⦃β : Type⦄ (e : Eff S β) (v : Timeouts) (d : S.State) (b : β) (d' : S.State),
    script e d = some (b, d') → e.timing v b v ∧ e.state urc d b d'

def play (C : Client S Op L) (script : Script S) :
    Prog.Oracle (Locked (Eff S)) (Solo Timeouts S.State L)
  | _, .lock, w => some ((), { w with depth := w.depth + 1 })
  | _, .unlock, w => some ((), { w with depth := w.depth - 1 })
  | _, .act e, w =>
    match e.settle w.val w.shared with
    | some (b, v, d) => some (b, ⟨w.depth,v,d,C.note e b w.loc⟩)
    | none => (script e w.shared).map (fun r => (r.1, ⟨w.depth,w.val,r.2,C.note e r.1 w.loc⟩))

theorem play_sound {C : Client S Op L} {o : Op}
    (hg : ∀ b (β : Type) (e : Eff S β) v l x, C.guard o b e v l x) {script : Script S}
    (hs : script.Sound C.urc) {β : Type} {e : Locked (Eff S) β}
    {w w' : Solo Timeouts S.State L} {b : β} (h : C.play script e w = some (b, w')) :
    C.rules.solo o e w b w' := by
  cases e with
  | lock => cases h; rfl
  | unlock => cases h; rfl
  | act e =>
    simp only [play] at h
    split at h
    · rename_i b v d he
      cases h
      obtain ⟨ht,hd⟩ := settle_sound C.urc he
      exact ⟨rfl,hg _ _ _ _ _ _,ht,hd,rfl⟩
    · simp only [Option.map_eq_some_iff,Prod.mk.injEq] at h
      obtain ⟨r,hr,rfl,rfl⟩ := h
      obtain ⟨ht,hd⟩ := hs e w.val w.shared r.1 r.2 hr
      exact ⟨rfl,hg _ _ _ _ _ _,ht,hd,rfl⟩

inductive Mode where
  | any
  | owned
  | fixed (t : Int)

def Mode.Holds : Mode → Option (Nat × Timeouts) → Prop
  | .any, none => True
  | .any, some (_, v) => v = .both v.member
  | .owned, none => False
  | .owned, some (_, v) => v = .both v.member
  | .fixed _, none => False
  | .fixed t, some (_, v) => v = .both t

def frame (C : Client S Op L) (T : Int) (o : Op) (m : Mode) :
    Frame (Locked (Eff S)) (Ghost Timeouts L) where
  spec := C.rules.spec (fun v => v = .both T) o
  mono := C.rules.spec_mono _ o
  pre g := m.Holds g.held
  rel g h := h.held = g.held
  refl _ := rfl
  trans _ _ _ h k := k.trans h
  keep g h hr hp := by rw [hr]; exact hp

variable {C : Client S Op L} {T : Int} {o : Op} {m : Mode} {α β : Type}

abbrev spec (C : Client S Op L) (T : Int) (o : Op) : Spec (Locked (Eff S)) (Ghost Timeouts L) :=
  C.rules.spec (fun v => v = .both T) o

theorem spec_mono : Spec.Mono (C.spec T o) := C.rules.spec_mono _ o

theorem wp_balanced (m : Mode) {p : Code S α} [hp : (C.frame T o m).Keeps p]
    {Q : α → Ghost Timeouts L → Prop} {h : Option (Nat × Timeouts)} {l : L} (hm : m.Holds h)
    (hq : ∀ a l, Q a ⟨h,l⟩) : wp (C.spec T o) p Q ⟨h,l⟩ := by
  refine wp_mono spec_mono (fun a g hg => ?_) (hp.run ⟨h,l⟩ hm)
  obtain ⟨held,l'⟩ := g
  cases hg
  exact hq a l'

theorem wp_act_owned {e : Eff S β} {Q : β → Ghost Timeouts L → Prop} {n : Nat} {v : Timeouts}
    {l : L} (h : ∀ b v', C.guard o true e v l b → e.timing v b v' →
      Q b ⟨some (n, v'),C.note e b l⟩) : wp (C.spec T o) (act e) Q ⟨some (n, v),l⟩ := by
  intro d b v' d' l' hact
  obtain ⟨hg,ht,-,rfl⟩ := hact
  exact h b v' hg ht

theorem wp_act_free {e : Eff S β} {Q : β → Ghost Timeouts L → Prop} {l : L}
    (h : ∀ v b v', C.guard o false e v l b → e.timing v b v' →
      v' = v ∧ Q b ⟨none,C.note e b l⟩) : wp (C.spec T o) (act e) Q ⟨none,l⟩ := by
  intro v d b v' d' l' hact
  obtain ⟨hg,ht,-,rfl⟩ := hact
  exact h v b v' hg ht

theorem balanced_held {p : Code S α}
    (h : ∀ n v l, m.Holds (some (n, v)) → wp (C.spec T o) p
      (fun _ g => g.held = some (n, v)) ⟨some (n, v),l⟩)
    (hn : ∀ l, m.Holds none → wp (C.spec T o) p (fun _ g => g.held = none) ⟨none,l⟩) :
    (C.frame T o m).Keeps p := by
  constructor
  intro g hg
  obtain ⟨_ | ⟨n,v⟩,l⟩ := g
  · exact hn l hg
  · exact h n v l hg

instance balanced_act {e : Eff S β} [he : Fact (e.setsTimeout = false)] : (C.frame T o m).Keeps (act e) := by
  apply balanced_held
  · intro n v l _
    refine wp_act_owned (fun b v' _ ht => ?_)
    rw [timing_kept he.out ht]
  · intro l _
    exact wp_act_free (fun v b v' _ ht => ⟨timing_kept he.out ht,rfl⟩)

instance balanced_get : (C.frame T o m).Keeps get := balanced_act
instance balanced_modify (f : S.State → S.State) : (C.frame T o m).Keeps (modify f) := balanced_act
instance balanced_send (c : S.Cmd) : (C.frame T o m).Keeps (send c) := balanced_act
instance balanced_recv (p : S.Pat β) : (C.frame T o m).Keeps (recv p) := balanced_act
instance balanced_wait (ms : Nat) : (C.frame T o m).Keeps (wait ms) := balanced_act
instance balanced_hw (h : Hw) : (C.frame T o m).Keeps (hw h) := balanced_act
instance balanced_enter (c : S.Call) : (C.frame T o m).Keeps (enter c) := balanced_act

theorem held_agree {n : Nat} {v : Timeouts} (h : m.Holds (some (n, v))) :
    v = .both v.member := by
  cases m with
  | any => exact h
  | owned => exact h
  | fixed t =>
    have hv : v = .both t := h
    rw [hv]
    rfl

instance balanced_locked {p : Code S α} [hp : (C.frame T o .owned).Keeps p] :
    (C.frame T o m).Keeps (locked p) := by
  apply balanced_held
  · intro n v l hm
    simp only [locked,lock,unlock,wp_bind,wp_perform]
    change wp (C.spec T o) _ _ ⟨some (n + 1, v),l⟩
    have hm' : Mode.owned.Holds (some (n + 1, v)) := held_agree hm
    refine wp_balanced .owned hm' (fun a l' => ?_)
    rfl
  · intro l hm
    simp only [locked,lock,unlock,wp_bind,wp_perform]
    intro v hv
    have hm : Mode.owned.Holds (some (0, v)) := by rw [hv]; rfl
    refine wp_balanced .owned hm (fun a l' => ?_)
    exact ⟨hv,rfl⟩

theorem wp_atSetTimeout {t : Int} {Q : Unit → Ghost Timeouts L → Prop} {n : Nat} {v : Timeouts}
    {l : L} (h : ∀ l, Q () ⟨some (n, .both t),l⟩) :
    wp (C.spec T o) (atSetTimeout t) Q ⟨some (n, v),l⟩ := by
  rw [atSetTimeout,wp_bind]
  refine wp_act_owned (fun u v₁ _ h₁ => ?_)
  refine wp_act_owned (fun u' v₂ _ h₂ => ?_)
  have hv₁ : v₁ = { v with member := t } := h₁
  have hv₂ : v₂ = { v₁ with parser := t } := h₂
  rw [hv₂,hv₁]
  exact h _

instance balanced_timed {t back : Int} {p : Code S α} [hp : (C.frame T o (.fixed t)).Keeps p] :
    (C.frame T o (.fixed back)).Keeps (timed t back p) := by
  apply balanced_held
  · intro n v l hv
    cases hv
    simp only [timed,wp_bind]
    apply wp_atSetTimeout
    intro l'
    refine wp_balanced (.fixed t) rfl (fun a l'' => ?_)
    apply wp_atSetTimeout
    intro l'''
    rfl
  · intro l hn
    exact hn.elim

theorem wp_atTimeout {Q : Int → Ghost Timeouts L → Prop} {n : Nat} {v : Timeouts} {l : L}
    (h : ∀ l, Q v.member ⟨some (n, v),l⟩) : wp (C.spec T o) atTimeout Q ⟨some (n, v),l⟩ := by
  refine wp_act_owned (fun b v' _ ht => ?_)
  obtain ⟨rfl,rfl⟩ := ht
  exact h _

instance balanced_sample {f : Int → Code S α} [hf : ∀ t, (C.frame T o (.fixed t)).Keeps (f t)] :
    (C.frame T o .owned).Keeps (atTimeout >>= f) := by
  apply balanced_held
  · intro n v l hv
    rw [wp_bind]
    apply wp_atTimeout
    intro l'
    refine wp_balanced (.fixed v.member) hv (fun a l'' => ?_)
    rfl
  · intro l hn
    exact hn.elim

instance balanced_handleEvent : (C.frame T o m).Keeps handleEvent := by
  rw [handleEvent]
  infer_instance

end Client
end UbloxCellular
