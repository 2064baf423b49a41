import UbloxCellular.Interaction.Solo

namespace Interaction

def Prog.done {E : Type → Type 1} : Prog E Unit → Bool
  | .ret _ => true
  | _ => false

theorem Prog.done_ret {E : Type → Type 1} {p : Prog E Unit} (h : p.done = true) :
    p = .ret () := by
  cases p with
  | ret a => rfl
  | op e k => cases h
  | loop body s k => cases h

namespace Monitor

variable {E : Type → Type 1} {Tid Op V D L : Type} [DecidableEq Tid]

namespace Config

def alone (c : Config E Tid Op V D L) (t : Tid) : Solo V D L :=
  ⟨c.holds t,c.val,c.shared,(c.thread t).loc⟩

def start (c : Config E Tid Op V D L) (R : Rules E Op V D L) (t : Tid) (o : Op) :
    Config E Tid Op V D L := c.set t ⟨o,c.holds t,R.start,R.code o⟩

-- One turn of a thread, with an environment that answers its effects. A thread that has returned,
-- waits for the mutex or gets no answer stays where it is.
def turn (h : Prog.Oracle (Locked E) (Solo V D L)) (c : Config E Tid Op V D L) (t : Tid) :
    Config E Tid Op V D L :=
  match (c.thread t).code with
  | .ret _ => c
  | .op .lock k =>
    if c.mutex.isNone || 0 < c.holds t then
      { c with mutex := some (t, c.holds t + 1) }.set t { c.thread t with code := k () }
    else c
  | .op .unlock k => { c with mutex := c.released t }.set t { c.thread t with code := k () }
  | .op (.act e) k => (h (.act e) (c.alone t)).elim c (fun r =>
      { c with val := r.2.val, shared := r.2.shared }.set t
        { c.thread t with loc := r.2.loc, code := k r.1 })
  | .loop body s k => c.set t { c.thread t with code := Prog.unfoldLoop body s k }

def turns (h : Prog.Oracle (Locked E) (Solo V D L)) (c : Config E Tid Op V D L) (l : List Tid) :
    Config E Tid Op V D L := l.foldl (turn h) c

end Config

section Turns
variable {R : Rules E Op V D L} {h : Prog.Oracle (Locked E) (Solo V D L)}
  {c : Config E Tid Op V D L} {t : Tid}

theorem set_op {th : Thread E Op L} (hth : th.op = (c.thread t).op) (u : Tid) :
    ((c.set t th).thread u).op = (c.thread u).op := by
  rw [Config.set]
  by_cases hu : u = t
  · subst hu
    simp [hth]
  · simp [hu]

theorem turn_step (hh : ∀ ⦃β : Type⦄ (e : Locked E β) w b w', h e w = some (b, w') →
    R.solo (c.thread t).op e w b w') :
    Relation.ReflTransGen (Step R) c (c.turn h t) ∧
      ∀ u, ((c.turn h t).thread u).op = (c.thread u).op := by
  cases hcode : (c.thread t).code with
  | ret a =>
    have hturn : c.turn h t = c := by rw [Config.turn,hcode]
    rw [hturn]
    exact ⟨.refl,fun _ => rfl⟩
  | loop body s k =>
    rw [Config.turn,hcode]
    exact ⟨.single (.unfold t body s k hcode),set_op rfl⟩
  | op e k =>
    cases e with
    | lock =>
      rw [Config.turn,hcode]
      dsimp only
      split
      · rename_i hfree
        rw [Bool.or_eq_true,Option.isNone_iff_eq_none,decide_eq_true_iff] at hfree
        exact ⟨.single (.lock t k hcode hfree),set_op rfl⟩
      · exact ⟨.refl,fun _ => rfl⟩
    | unlock =>
      rw [Config.turn,hcode]
      exact ⟨.single (.unlock t k hcode),set_op rfl⟩
    | act e =>
      rw [Config.turn,hcode]
      dsimp only
      cases hr : h (.act e) (c.alone t) with
      | none => exact ⟨.refl,fun _ => rfl⟩
      | some r =>
        obtain ⟨b,w⟩ := r
        obtain ⟨-,hact⟩ := hh (.act e) _ b w hr
        exact ⟨.single (.act t e k b w.val w.shared w.loc hcode hact),set_op rfl⟩

theorem turns_steps {P : Op → Prop} (hh : ∀ o, P o → ∀ ⦃β : Type⦄ (e : Locked E β) w b w',
    h e w = some (b, w') → R.solo o e w b w') (hc : ∀ u, P (c.thread u).op) (l : List Tid) :
    Relation.ReflTransGen (Step R) c (c.turns h l) := by
  induction l generalizing c with
  | nil => exact .refl
  | cons t l ih =>
    obtain ⟨hstep,hop⟩ := @turn_step _ _ _ _ _ _ _ R h c t (hh _ (hc t))
    exact hstep.trans (ih (fun u => by rw [hop]; exact hc u))

end Turns

section Pair
variable {R : Rules E Op V D L} {h : Prog.Oracle (Locked E) (Solo V D L)}
  {c : Config E Bool Op V D L}

def Config.pair (c : Config E Bool Op V D L) (R : Rules E Op V D L)
    (h : Prog.Oracle (Locked E) (Solo V D L)) (o o' : Op) (n : Nat) : Config E Bool Op V D L :=
  ((c.start R true o).start R false o').turns h (List.replicate n [true,false]).flatten

theorem pair_steps {o o' : Op} (hc : ∀ t, (c.thread t).code = .ret ())
    (hh : ∀ p, p = o ∨ p = o' → ∀ ⦃β : Type⦄ (e : Locked E β) w b w',
      h e w = some (b, w') → R.solo p e w b w') (n : Nat) :
    Relation.ReflTransGen (Step R) c (c.pair R h o o' n) := by
  have hfirst : Step R c (c.start R true o) := .begin true o (hc true)
  have hsecond : Step R (c.start R true o) ((c.start R true o).start R false o') :=
    .begin false o' (by simp [Config.start,Config.set,hc])
  refine ((Relation.ReflTransGen.single hfirst).tail hsecond).trans ?_
  refine turns_steps hh (fun u => ?_) _
  cases u with
  | true => exact .inl (by simp [Config.start,Config.set])
  | false => exact .inr (by simp [Config.start,Config.set])

end Pair

end Monitor

end Interaction
