import UbloxCellular.Interaction.Moment
import UbloxCellular.Interaction.Monitor

namespace Interaction.Monitor

variable {E : Type → Type 1} {Tid Op V D L : Type}

def Within (I : V → Prop) (g : Ghost V L) : Prop := ∀ n v, g.held = some (n, v) → I v

abbrev Rules.watch (R : Rules E Op V D L) (I : V → Prop) (o : Op) : Spec (Locked E) (Ghost V L) :=
  (R.spec I o).always (Within I)

theorem Rules.watch_mono (R : Rules E Op V D L) (I : V → Prop) (o : Op) :
    Spec.Mono (R.watch I o) :=
  Spec.always_mono (R.spec_mono I o) _

def Rules.Watched (R : Rules E Op V D L) (I : V → Prop) (o : Op) : Prop :=
  wp (R.watch I o) (R.code o) (fun _ g => g.held = none) ⟨none,R.start⟩

variable [DecidableEq Tid]

structure Config.Watched (R : Rules E Op V D L) (I : V → Prop) (c : Config E Tid Op V D L) :
    Prop where
  val : I c.val
  safe : ∀ t, wp (R.watch I (c.thread t).op) (c.thread t).code (fun _ g => g.held = none)
    ⟨c.part t,(c.thread t).loc⟩

section Steps
variable {R : Rules E Op V D L} {I : V → Prop} {c : Config E Tid Op V D L} {t : Tid}

theorem watched_set {c' : Config E Tid Op V D L} {th : Thread E Op L} (hs : c.Watched R I)
    (hthread : c'.thread = c.thread) (hval : I c'.val) (hother : ∀ u, u ≠ t → c'.part u = c.part u)
    (ht : wp (R.watch I th.op) th.code (fun _ g => g.held = none) ⟨c'.part t,th.loc⟩) :
    (c'.set t th).Watched R I := by
  refine ⟨hval,fun u => ?_⟩
  change wp (R.watch I (Function.update c'.thread t th u).op)
    (Function.update c'.thread t th u).code _ ⟨c'.part u,(Function.update c'.thread t th u).loc⟩
  by_cases hu : u = t
  · subst hu
    simpa using ht
  · rw [Function.update_of_ne hu,hthread,hother u hu]
    exact hs.safe u

theorem watched_begin (hR : ∀ o, R.Watched I o) (hs : c.Watched R I) (o : Op)
    (hcode : (c.thread t).code = .ret ()) :
    (c.set t ⟨o,c.holds t,R.start,R.code o⟩).Watched R I := by
  have hnone := hs.safe t
  rw [hcode] at hnone
  have hnone : c.part t = none := hnone
  exact watched_set hs rfl hs.val (fun _ _ => rfl) (by rw [hnone]; exact hR o)

theorem watched_lock (hs : c.Watched R I) {k : Unit → Prog (Locked E) Unit}
    (hcode : (c.thread t).code = .op .lock k) (hfree : c.mutex = none ∨ 0 < c.holds t) :
    ({ c with mutex := some (t, c.holds t + 1) }.set t
      { c.thread t with code := k () }).Watched R I := by
  have hsafe := hs.safe t
  rw [hcode] at hsafe
  refine watched_set hs rfl hs.val (fun u hu => ?_) ?_
  · have hn : c.holds u = 0 := by
      rcases hfree with h | h
      · exact holds_free h u
      · rcases holds_cases c t with h0 | ⟨n,hm⟩
        · omega
        · exact holds_other hm hu
    rw [part_other hn,part_other (holds_other rfl hu)]
  · rw [part_owner rfl]
    rcases holds_cases c t with h0 | ⟨n,hm⟩
    · rw [part_other h0] at hsafe
      rw [h0]
      exact (hsafe c.val hs.val).2
    · rw [part_owner hm] at hsafe
      rw [holds_owner hm]
      exact hsafe.2

theorem watched_unlock (hs : c.Watched R I) {k : Unit → Prog (Locked E) Unit}
    (hcode : (c.thread t).code = .op .unlock k) :
    ({ c with mutex := c.released t }.set t { c.thread t with code := k () }).Watched R I := by
  have hsafe := hs.safe t
  rw [hcode] at hsafe
  rcases holds_cases c t with h0 | ⟨n,hm⟩
  · rw [part_other h0] at hsafe
    exact hsafe.elim
  rw [part_owner hm] at hsafe
  have hr : c.released t = if n = 0 then none else some (t, n) := by
    simp [Config.released,holds_owner hm]
  rw [hr]
  cases n with
  | zero =>
    refine watched_set hs rfl hs.val (fun u hu => ?_) ?_
    · rw [part_other (holds_other hm hu),part_other (holds_free rfl u)]
    · rw [part_other (holds_free rfl t)]
      exact hsafe.2.2
  | succ n =>
    refine watched_set hs rfl hs.val (fun u hu => ?_) ?_
    · rw [part_other (holds_other hm hu),part_other (holds_other rfl hu)]
    · rw [part_owner rfl]
      exact hsafe.2

theorem watched_act (hs : c.Watched R I) {β : Type} {e : E β} {k : β → Prog (Locked E) Unit}
    {b : β} {v : V} {d : D} {l : L} (hcode : (c.thread t).code = .op (.act e) k)
    (hact : R.act (c.thread t).op (decide (0 < c.holds t)) e c.val c.shared (c.thread t).loc
      b v d l) :
    ({ c with val := v, shared := d }.set t
      { c.thread t with loc := l, code := k b }).Watched R I := by
  have hsafe := hs.safe t
  rw [hcode] at hsafe
  rcases holds_cases c t with h0 | ⟨n,hm⟩
  · rw [part_other h0] at hsafe
    rw [h0] at hact
    obtain ⟨rfl,-,hk⟩ := hsafe _ _ _ _ _ _ hact
    have hv : ({ c with shared := d } : Config E Tid Op V D L).part t = none := part_other h0
    exact watched_set hs rfl hs.val (fun _ _ => rfl) (by rw [hv]; exact hk)
  · rw [part_owner hm] at hsafe
    rw [holds_owner hm,decide_eq_true (Nat.succ_pos n)] at hact
    obtain ⟨hin,hk⟩ := hsafe _ _ _ _ _ hact
    refine watched_set hs rfl (hin n v rfl) (fun u hu => ?_) ?_
    · have hv : ({ c with val := v, shared := d } : Config E Tid Op V D L).part u = none :=
        part_other (holds_other hm hu)
      rw [part_other (holds_other hm hu),hv]
    · have hv : ({ c with val := v, shared := d } : Config E Tid Op V D L).part t =
          some (n, v) := part_owner hm
      rw [hv]
      exact hk

theorem step_watched (hR : ∀ o, R.Watched I o) {c' : Config E Tid Op V D L} (hs : c.Watched R I)
    (h : Step R c c') : c'.Watched R I := by
  cases h with
  | begin t o hcode => exact watched_begin hR hs o hcode
  | lock t k hcode hfree => exact watched_lock hs hcode hfree
  | unlock t k hcode => exact watched_unlock hs hcode
  | act t e k b v d l hcode hact => exact watched_act hs hcode hact
  | unfold t body s k hcode =>
    have hsafe := hs.safe t
    rw [hcode] at hsafe
    exact watched_set hs rfl hs.val (fun _ _ => rfl) (wp_unfoldLoop (R.watch_mono I _) hsafe)

theorem run_watched (hR : ∀ o, R.Watched I o) {c' : Config E Tid Op V D L} (hs : c.Watched R I)
    (h : Relation.ReflTransGen (Step R) c c') : c'.Watched R I := by
  induction h with
  | refl => exact hs
  | tail _ hstep ih => exact step_watched hR ih hstep

theorem Config.Watched.idle (hs : c.Watched R I) (ht : (c.thread t).code = .ret ()) :
    c.holds t = 0 := by
  have hsafe := hs.safe t
  rw [ht] at hsafe
  rcases holds_cases c t with h0 | ⟨n,hm⟩
  · exact h0
  · rw [part_owner hm] at hsafe
    cases hsafe

end Steps

theorem idle_watched {R : Rules E Op V D L} {I : V → Prop} {o : Op} {l : L} {v : V} {d : D}
    (hv : I v) : (Config.idle Tid o l v d : Config E Tid Op V D L).Watched R I := by
  have hfree : (Config.idle Tid o l v d : Config E Tid Op V D L).mutex = none := rfl
  exact ⟨hv,fun t => part_other (holds_free hfree t)⟩

end Interaction.Monitor
