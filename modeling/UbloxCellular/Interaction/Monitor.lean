import UbloxCellular.Interaction.Wp
import Mathlib.Logic.Relation

namespace Interaction

namespace Monitor

variable {E : Type → Type 1} {Tid Op V D L : Type}

structure Rules (E : Type → Type 1) (Op V D L : Type) where
  code : Op → Prog (Locked E) Unit
  start : L
  act : Op → Bool → ∀ ⦃β : Type⦄, E β → V → D → L → β → V → D → L → Prop

structure Thread (E : Type → Type 1) (Op L : Type) where
  op : Op
  entry : Nat
  loc : L
  code : Prog (Locked E) Unit

structure Config (E : Type → Type 1) (Tid Op V D L : Type) where
  mutex : Option (Tid × Nat)
  val : V
  shared : D
  thread : Tid → Thread E Op L

variable [DecidableEq Tid]

def Config.holds (c : Config E Tid Op V D L) (t : Tid) : Nat :=
  c.mutex.elim 0 (fun m => if m.1 = t then m.2 else 0)

def Config.set (c : Config E Tid Op V D L) (t : Tid) (th : Thread E Op L) : Config E Tid Op V D L :=
  { c with thread := Function.update c.thread t th }

def Config.released (c : Config E Tid Op V D L) (t : Tid) : Option (Tid × Nat) :=
  if c.holds t = 0 then c.mutex else if c.holds t = 1 then none else some (t, c.holds t - 1)

inductive Step (R : Rules E Op V D L) : Config E Tid Op V D L → Config E Tid Op V D L → Prop
  | begin {c : Config E Tid Op V D L} (t : Tid) (o : Op) :
      (c.thread t).code = .ret () → Step R c (c.set t ⟨o,c.holds t,R.start,R.code o⟩)
  | lock {c : Config E Tid Op V D L} (t : Tid) (k : Unit → Prog (Locked E) Unit) :
      (c.thread t).code = .op .lock k → (c.mutex = none ∨ 0 < c.holds t) →
      Step R c ({ c with mutex := some (t, c.holds t + 1) }.set t { c.thread t with code := k () })
  | unlock {c : Config E Tid Op V D L} (t : Tid) (k : Unit → Prog (Locked E) Unit) :
      (c.thread t).code = .op .unlock k →
      Step R c ({ c with mutex := c.released t }.set t { c.thread t with code := k () })
  | act {c : Config E Tid Op V D L} {β : Type} (t : Tid) (e : E β) (k : β → Prog (Locked E) Unit)
      (b : β) (v : V) (d : D) (l : L) :
      (c.thread t).code = .op (.act e) k →
      R.act (c.thread t).op (decide (0 < c.holds t)) e c.val c.shared (c.thread t).loc b v d l →
      Step R c ({ c with val := v, shared := d }.set t { c.thread t with loc := l, code := k b })
  | unfold {c : Config E Tid Op V D L} {σ γ : Type} (t : Tid)
      (body : σ → Prog (Locked E) (σ ⊕ γ)) (s : σ) (k : γ → Prog (Locked E) Unit) :
      (c.thread t).code = .loop body s k →
      Step R c (c.set t { c.thread t with code := Prog.unfoldLoop body s k })

structure Ghost (V L : Type) where
  held : Option (Nat × V)
  loc : L

def Rules.spec (R : Rules E Op V D L) (I : V → Prop) (o : Op) : Spec (Locked E) (Ghost V L)
  | _, .lock, Q, ⟨none,l⟩ => ∀ v, I v → Q () ⟨some (0, v),l⟩
  | _, .lock, Q, ⟨some (n, v),l⟩ => Q () ⟨some (n + 1, v),l⟩
  | _, .unlock, _, ⟨none,_⟩ => False
  | _, .unlock, Q, ⟨some (0, v),l⟩ => I v ∧ Q () ⟨none,l⟩
  | _, .unlock, Q, ⟨some (n + 1, v),l⟩ => Q () ⟨some (n, v),l⟩
  | _, .act e, Q, ⟨none,l⟩ =>
    ∀ v d b v' d' l', R.act o false e v d l b v' d' l' → v' = v ∧ Q b ⟨none,l'⟩
  | _, .act e, Q, ⟨some (n, v),l⟩ =>
    ∀ d b v' d' l', R.act o true e v d l b v' d' l' → Q b ⟨some (n, v'),l'⟩

theorem Rules.spec_mono (R : Rules E Op V D L) (I : V → Prop) (o : Op) :
    Spec.Mono (R.spec I o) := by
  intro β e Q Q' g h hq
  obtain ⟨held,l⟩ := g
  cases e with
  | lock =>
    cases held with
    | none => exact fun v hv => h _ _ (hq v hv)
    | some m => exact h _ _ hq
  | unlock =>
    rcases held with _ | ⟨n,v⟩
    · exact hq
    · cases n with
      | zero => exact ⟨hq.1,h _ _ hq.2⟩
      | succ n => exact h _ _ hq
  | act e =>
    cases held with
    | none => exact fun v d b v' d' l hb => ⟨(hq v d b v' d' l hb).1,h _ _ (hq v d b v' d' l hb).2⟩
    | some m => exact fun d b v' d' l hb => h _ _ (hq d b v' d' l hb)

def Rules.Safe (R : Rules E Op V D L) (I : V → Prop) (o : Op) : Prop :=
  wp (R.spec I o) (R.code o) (fun _ g => g.held = none) ⟨none,R.start⟩

def Config.part (c : Config E Tid Op V D L) (t : Tid) : Option (Nat × V) :=
  match c.holds t with
  | 0 => none
  | n + 1 => some (n, c.val)

structure Config.Sound (R : Rules E Op V D L) (I : V → Prop) (c : Config E Tid Op V D L) :
    Prop where
  free : c.mutex = none → I c.val
  pos : ∀ t n, c.mutex = some (t, n) → 0 < n
  entry : ∀ t, (c.thread t).entry = 0
  safe : ∀ t, wp (R.spec I (c.thread t).op) (c.thread t).code (fun _ g => g.held = none)
    ⟨c.part t,(c.thread t).loc⟩

theorem holds_owner {c : Config E Tid Op V D L} {t : Tid} {n : Nat} (h : c.mutex = some (t, n)) :
    c.holds t = n := by simp [Config.holds,h]

theorem holds_other {c : Config E Tid Op V D L} {t u : Tid} {n : Nat} (h : c.mutex = some (t, n))
    (hu : u ≠ t) : c.holds u = 0 := by
  have ht : t ≠ u := fun e => hu e.symm
  simp [Config.holds,h,ht]

theorem holds_free {c : Config E Tid Op V D L} (h : c.mutex = none) (t : Tid) : c.holds t = 0 := by
  simp [Config.holds,h]

theorem part_owner {c : Config E Tid Op V D L} {t : Tid} {n : Nat}
    (h : c.mutex = some (t, n + 1)) : c.part t = some (n, c.val) := by
  simp [Config.part,holds_owner h]

theorem part_other {c : Config E Tid Op V D L} {t : Tid} (h : c.holds t = 0) :
    c.part t = none := by
  simp [Config.part,h]

theorem holds_cases (c : Config E Tid Op V D L) (t : Tid) :
    c.holds t = 0 ∨ ∃ n, c.mutex = some (t, n + 1) := by
  cases hm : c.mutex with
  | none => exact .inl (holds_free hm t)
  | some m =>
    obtain ⟨u,n⟩ := m
    by_cases hu : t = u
    · subst hu
      cases n with
      | zero => exact .inl (holds_owner hm)
      | succ n => exact .inr ⟨n,rfl⟩
    · exact .inl (holds_other hm hu)

theorem safe_set {R : Rules E Op V D L} {I : V → Prop} {c c' : Config E Tid Op V D L} {t : Tid}
    {th : Thread E Op L} (hs : c.Sound R I) (hthread : c'.thread = c.thread)
    (hother : ∀ u, u ≠ t → c'.part u = c.part u)
    (ht : wp (R.spec I th.op) th.code (fun _ g => g.held = none) ⟨c'.part t,th.loc⟩) (u : Tid) :
    wp (R.spec I ((c'.set t th).thread u).op) ((c'.set t th).thread u).code
      (fun _ g => g.held = none) ⟨(c'.set t th).part u,((c'.set t th).thread u).loc⟩ := by
  change wp (R.spec I (Function.update c'.thread t th u).op)
    (Function.update c'.thread t th u).code _ ⟨c'.part u,(Function.update c'.thread t th u).loc⟩
  by_cases hu : u = t
  · subst hu
    simpa using ht
  · rw [Function.update_of_ne hu,hthread,hother u hu]
    exact hs.safe u

theorem entry_set {c : Config E Tid Op V D L} {t : Tid} {th : Thread E Op L}
    (hc : ∀ u, (c.thread u).entry = 0) (ht : th.entry = 0) (u : Tid) :
    ((c.set t th).thread u).entry = 0 := by
  change (Function.update c.thread t th u).entry = 0
  by_cases hu : u = t
  · subst hu
    simpa using ht
  · simpa [Function.update_of_ne hu] using hc u

section Steps
variable {R : Rules E Op V D L} {I : V → Prop} {c : Config E Tid Op V D L}

theorem sound_begin (hR : ∀ o, R.Safe I o) (hs : c.Sound R I) {t : Tid} (o : Op)
    (hcode : (c.thread t).code = .ret ()) : (c.set t ⟨o,c.holds t,R.start,R.code o⟩).Sound R I := by
  have hsafe := hs.safe t
  rw [hcode] at hsafe
  have hnone : c.part t = none := hsafe
  have hholds : c.holds t = 0 := by
    rcases holds_cases c t with h0 | ⟨n,hm⟩
    · exact h0
    · rw [part_owner hm] at hnone
      cases hnone
  exact ⟨hs.free,hs.pos,entry_set hs.entry hholds,
    safe_set hs rfl (fun _ _ => rfl) (by rw [hnone]; exact hR o)⟩

theorem sound_lock (hs : c.Sound R I) {t : Tid} {k : Unit → Prog (Locked E) Unit}
    (hcode : (c.thread t).code = .op .lock k) (hfree : c.mutex = none ∨ 0 < c.holds t) :
    ({ c with mutex := some (t, c.holds t + 1) }.set t
      { c.thread t with code := k () }).Sound R I := by
  have hsafe := hs.safe t
  rw [hcode] at hsafe
  refine ⟨by simp [Config.set],?_,entry_set hs.entry (hs.entry t),safe_set hs rfl ?_ ?_⟩
  · intro u n hm
    simp only [Config.set,Option.some.injEq,Prod.mk.injEq] at hm
    omega
  · intro u hu
    have hn : c.holds u = 0 := by
      rcases hfree with h | h
      · exact holds_free h u
      · rcases holds_cases c t with h0 | ⟨n,hm⟩
        · omega
        · exact holds_other hm hu
    rw [part_other hn,part_other (holds_other rfl hu)]
  · rw [part_owner rfl]
    rcases holds_cases c t with h0 | ⟨n,hm⟩
    · rw [part_other h0] at hsafe
      rw [h0]
      exact hsafe c.val (hs.free (hfree.resolve_right (by omega)))
    · rw [part_owner hm] at hsafe
      rw [holds_owner hm]
      exact hsafe

theorem sound_unlock (hs : c.Sound R I) {t : Tid} {k : Unit → Prog (Locked E) Unit}
    (hcode : (c.thread t).code = .op .unlock k) :
    ({ c with mutex := c.released t }.set t { c.thread t with code := k () }).Sound R I := by
  have hsafe := hs.safe t
  rw [hcode] at hsafe
  rcases holds_cases c t with h0 | ⟨n,hm⟩
  · rw [part_other h0] at hsafe
    exact hsafe.elim
  rw [part_owner hm] at hsafe
  cases n with
  | zero =>
    have hr : c.released t = none := by simp [Config.released,holds_owner hm]
    rw [hr]
    refine ⟨fun _ => hsafe.1,by simp [Config.set],entry_set hs.entry (hs.entry t),
      safe_set hs rfl (fun u hu => ?_) ?_⟩
    · rw [part_other (holds_other hm hu),part_other (holds_free rfl u)]
    · rw [part_other (holds_free rfl t)]
      exact hsafe.2
  | succ n =>
    have hr : c.released t = some (t, n + 1) := by simp [Config.released,holds_owner hm]
    rw [hr]
    refine ⟨by simp [Config.set],?_,entry_set hs.entry (hs.entry t),
      safe_set hs rfl (fun u hu => ?_) ?_⟩
    · intro u m hu
      simp only [Config.set,Option.some.injEq,Prod.mk.injEq] at hu
      omega
    · rw [part_other (holds_other hm hu),part_other (holds_other rfl hu)]
    · rw [part_owner rfl]
      exact hsafe

theorem sound_act (hs : c.Sound R I) {β : Type} {t : Tid} {e : E β}
    {k : β → Prog (Locked E) Unit} {b : β} {v : V} {d : D} {l : L}
    (hcode : (c.thread t).code = .op (.act e) k)
    (hact : R.act (c.thread t).op (decide (0 < c.holds t)) e c.val c.shared (c.thread t).loc
      b v d l) :
    ({ c with val := v, shared := d }.set t
      { c.thread t with loc := l, code := k b }).Sound R I := by
  have hsafe := hs.safe t
  rw [hcode] at hsafe
  rcases holds_cases c t with h0 | ⟨n,hm⟩
  · rw [part_other h0] at hsafe
    rw [h0] at hact
    obtain ⟨rfl,hk⟩ := hsafe _ _ _ _ _ _ hact
    have hv : ({ c with shared := d } : Config E Tid Op V D L).part t = none := part_other h0
    exact ⟨hs.free,hs.pos,entry_set hs.entry (hs.entry t),
      safe_set hs rfl (fun _ _ => rfl) (by rw [hv]; exact hk)⟩
  · rw [part_owner hm] at hsafe
    rw [holds_owner hm,decide_eq_true (Nat.succ_pos n)] at hact
    refine ⟨fun h => absurd (hm.symm.trans h) (by simp),hs.pos,entry_set hs.entry (hs.entry t),
      safe_set hs rfl (fun u hu => ?_) ?_⟩
    · have hv : ({ c with val := v, shared := d } : Config E Tid Op V D L).part u = none :=
        part_other (holds_other hm hu)
      rw [part_other (holds_other hm hu),hv]
    · have hv : ({ c with val := v, shared := d } : Config E Tid Op V D L).part t =
          some (n, v) := part_owner hm
      rw [hv]
      exact hsafe _ _ _ _ _ hact

theorem step_sound (hR : ∀ o, R.Safe I o) {c' : Config E Tid Op V D L} (hs : c.Sound R I)
    (h : Step R c c') : c'.Sound R I := by
  cases h with
  | begin t o hcode => exact sound_begin hR hs o hcode
  | lock t k hcode hfree => exact sound_lock hs hcode hfree
  | unlock t k hcode => exact sound_unlock hs hcode
  | act t e k b v d l hcode hact => exact sound_act hs hcode hact
  | unfold t body s k hcode =>
    have hsafe := hs.safe t
    rw [hcode] at hsafe
    exact ⟨hs.free,hs.pos,entry_set hs.entry (hs.entry t),
      safe_set hs rfl (fun _ _ => rfl) (wp_unfoldLoop (R.spec_mono I _) hsafe)⟩

theorem run_sound (hR : ∀ o, R.Safe I o) {c' : Config E Tid Op V D L} (hs : c.Sound R I)
    (h : Relation.ReflTransGen (Step R) c c') : c'.Sound R I := by
  induction h with
  | refl => exact hs
  | tail _ hstep ih => exact step_sound hR ih hstep

theorem sound_boundary (hs : c.Sound R I) {t : Tid} (ht : (c.thread t).code = .ret ()) :
    c.holds t = (c.thread t).entry := by
  have hsafe := hs.safe t
  rw [ht] at hsafe
  rcases holds_cases c t with h0 | ⟨n,hm⟩
  · rw [h0,hs.entry t]
  · rw [part_owner hm] at hsafe
    cases hsafe

end Steps

def Config.idle (Tid : Type) (o : Op) (l : L) (v : V) (d : D) : Config E Tid Op V D L where
  mutex := none
  val := v
  shared := d
  thread := fun _ => ⟨o,0,l,.ret ()⟩

theorem idle_sound {R : Rules E Op V D L} {I : V → Prop} {o : Op} {l : L} {v : V} {d : D}
    (hv : I v) : (Config.idle Tid o l v d : Config E Tid Op V D L).Sound R I := by
  have hfree : (Config.idle Tid o l v d : Config E Tid Op V D L).mutex = none := rfl
  refine ⟨fun _ => hv,fun t n h => ?_,fun _ => rfl,fun t => part_other (holds_free hfree t)⟩
  rw [hfree] at h
  cases h

end Monitor
end Interaction
