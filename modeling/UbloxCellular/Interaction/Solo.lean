import UbloxCellular.Interaction.Monitor

namespace Interaction.Monitor

variable {E : Type → Type 1} {Tid Op V D L α β : Type}

structure Solo (V D L : Type) where
  depth : Nat
  val : V
  shared : D
  loc : L

def Rules.solo (R : Rules E Op V D L) (o : Op) : Handler (Locked E) (Solo V D L)
  | _, .lock, w, _, w' => w' = { w with depth := w.depth + 1 }
  | _, .unlock, w, _, w' => w' = { w with depth := w.depth - 1 }
  | _, .act e, w, b, w' => w'.depth = w.depth ∧
      R.act o (decide (0 < w.depth)) e w.val w.shared w.loc b w'.val w'.shared w'.loc

variable [DecidableEq Tid]

def Config.solo (c : Config E Tid Op V D L) (t : Tid) (o : Op) (n : Nat) (w : Solo V D L)
    (p : Prog (Locked E) Unit) : Config E Tid Op V D L where
  mutex := if w.depth = 0 then none else some (t, w.depth)
  val := w.val
  shared := w.shared
  thread := Function.update c.thread t ⟨o,n,w.loc,p⟩

section Run
variable {R : Rules E Op V D L} (c : Config E Tid Op V D L) (t : Tid) (o : Op) (n : Nat)

theorem solo_thread (w : Solo V D L) (p : Prog (Locked E) Unit) :
    (c.solo t o n w p).thread t = ⟨o,n,w.loc,p⟩ := by simp [Config.solo]

theorem solo_holds (w : Solo V D L) (p : Prog (Locked E) Unit) :
    (c.solo t o n w p).holds t = w.depth := by
  by_cases h : w.depth = 0 <;> simp [Config.solo,Config.holds,h]

theorem solo_step {w w' : Solo V D L} {p q : Prog (Locked E) Unit} {c' : Config E Tid Op V D L}
    (hs : Step R (c.solo t o n w p) (c'.set t ⟨o,n,w'.loc,q⟩))
    (hm : c'.mutex = if w'.depth = 0 then none else some (t, w'.depth)) (hv : c'.val = w'.val)
    (hd : c'.shared = w'.shared) (ht : c'.thread = (c.solo t o n w p).thread) :
    Step R (c.solo t o n w p) (c.solo t o n w' q) := by
  have he : c'.set t ⟨o,n,w'.loc,q⟩ = c.solo t o n w' q := by
    simp [Config.set,Config.solo,hm,hv,hd,ht]
  rwa [he] at hs

theorem solo_free (w : Solo V D L) (p : Prog (Locked E) Unit) :
    (c.solo t o n w p).mutex = none ∨ 0 < (c.solo t o n w p).holds t := by
  rw [solo_holds]
  by_cases h : w.depth = 0
  · exact .inl (by simp [Config.solo,h])
  · exact .inr (by omega)

theorem solo_released (w : Solo V D L) (p : Prog (Locked E) Unit) :
    (c.solo t o n w p).released t =
      if w.depth - 1 = 0 then none else some (t, w.depth - 1) := by
  simp only [Config.released,solo_holds]
  rcases w with ⟨_ | _ | d,v,s,l⟩ <;> simp [Config.solo]

theorem solo_op {e : Locked E β} {w w' : Solo V D L} {b : β} (h : R.solo o e w b w')
    (k : β → Prog (Locked E) Unit) :
    Step R (c.solo t o n w (.op e k)) (c.solo t o n w' (k b)) := by
  have ht := solo_thread c t o n w (.op e k)
  have hn := solo_holds c t o n w (.op e k)
  have hcode : ((c.solo t o n w (.op e k)).thread t).code = .op e k := by rw [ht]
  cases e with
  | lock =>
    have hw : w' = { w with depth := w.depth + 1 } := h
    subst hw
    have hs : Step R _ _ := .lock t k hcode (solo_free c t o n w _)
    rw [ht,hn] at hs
    exact solo_step c t o n hs rfl rfl rfl rfl
  | unlock =>
    have hw : w' = { w with depth := w.depth - 1 } := h
    subst hw
    have hs : Step R _ _ := .unlock t k hcode
    rw [ht,solo_released] at hs
    exact solo_step c t o n hs rfl rfl rfl rfl
  | act e =>
    obtain ⟨hd,hact⟩ := h
    have hs : Step R _ _ := .act t e k b w'.val w'.shared w'.loc hcode
      (by rw [ht,hn]; exact hact)
    rw [ht] at hs
    exact solo_step c t o n hs (by rw [hd]; rfl) rfl rfl rfl

theorem solo_unfold {σ γ : Type} (body : σ → Prog (Locked E) (σ ⊕ γ)) (s : σ)
    (k : γ → Prog (Locked E) Unit) (w : Solo V D L) :
    Step R (c.solo t o n w (.loop body s k))
      (c.solo t o n w (Prog.unfoldLoop body s k)) := by
  have ht := solo_thread c t o n w (.loop body s k)
  have hs : Step R _ _ := .unfold t body s k (by rw [ht])
  rw [ht] at hs
  exact solo_step c t o n hs rfl rfl rfl rfl

theorem solo_run {p : Prog (Locked E) α} {w w' : Solo V D L} {a : α}
    (h : Exec (R.solo o) p w a w') (k : α → Prog (Locked E) Unit) :
    Relation.ReflTransGen (Step R) (c.solo t o n w (p.bind k)) (c.solo t o n w' (k a)) := by
  induction h with
  | ret a w => exact .refl
  | op hb _ ih => exact .head (solo_op c t o n hb _) (ih k)
  | next _ _ ihb ihl => exact .head (solo_unfold c t o n _ _ _ _) ((ihb _).trans (ihl k))
  | done _ _ ihb ihk => exact .head (solo_unfold c t o n _ _ _ _) ((ihb _).trans (ihk k))

theorem solo_operation (hc : (c.thread t).code = .ret ()) (hm : c.mutex = none)
    {w' : Solo V D L} (h : Exec (R.solo o) (R.code o) ⟨0,c.val,c.shared,R.start⟩ () w') :
    Relation.ReflTransGen (Step R) c (c.solo t o 0 w' (.ret ())) := by
  have hs : Step R c _ := .begin t o hc
  have hr := solo_run c t o 0 h .ret
  rw [Prog.bind_ret] at hr
  have he : c.set t ⟨o,0,R.start,R.code o⟩ =
      c.solo t o 0 ⟨0,c.val,c.shared,R.start⟩ (R.code o) := by
    simp [Config.set,Config.solo,hm]
  rw [holds_free hm,he] at hs
  exact .head hs hr

end Run

end Interaction.Monitor
