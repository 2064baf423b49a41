import UbloxCellular.Driver.Effects
import UbloxCellular.Interaction.Machine

namespace UbloxCellular
open Interaction

structure Modem (S : Sig) (X : Type) where
  event : X → S.State → X → S.State → Prop
  allow : ∀ ⦃β : Type⦄, Eff S β → X → S.State → β → Prop
  next : ∀ ⦃β : Type⦄, Eff S β → X → S.State → β → X

structure Station (S : Sig) (X : Type) where
  driver : S.State
  modem : X

@[reducible] def Eff.inside {S : Sig} {β : Type} : Eff S β → Bool
  | .atTimeout => true
  | .setAtTimeout _ => true
  | .parserTimeout _ => true
  | .flush => true
  | .poll => true
  | .wait _ => true
  | .timerStart => true
  | @Eff.uninit _ _ _ => true
  | .connectionStatusCb => true
  | _ => false

@[reducible] def Eff.asks {S : Sig} {β : Type} : Eff S β → Bool
  | .read _ _ => true
  | .write _ => true
  | .timerReadMs => true
  | .malloc _ _ => true
  | .setIpAddress _ => true
  | .addressNonzero _ => true
  | .apnconfig _ => true
  | .pppConnect _ _ _ => true
  | .pppDisconnect => true
  | .hw _ => true
  | .enter _ => true
  | _ => false

@[reducible] def Eff.modifies {S : Sig} {β : Type} : Eff S β → Bool
  | .modify _ => true
  | _ => false

namespace Modem

variable {S : Sig} {X α β : Type}

def env (M : Modem S X) : ∀ ⦃β : Type⦄, Locked (Eff S) β → Station S X → Station S X → Prop
  | _, .lock, w, w' => M.event w.modem w.driver w'.modem w'.driver
  | _, .act (.recv _), w, w' => M.event w.modem w.driver w'.modem w'.driver
  | _, _, _, _ => False

def grants (M : Modem S X) : ∀ ⦃β : Type⦄, Locked (Eff S) β → Station S X → β → Prop
  | _, .act .get, w, b => b = w.driver
  | _, .act (.modify _), _, _ => True
  | _, .act e, w, b => e.inside = true ∨ M.allow e w.modem w.driver b
  | _, _, _, _ => True

def update (M : Modem S X) : ∀ ⦃β : Type⦄, Locked (Eff S) β → Station S X → β → Station S X
  | _, .act .get, w, _ => w
  | _, .act (.modify f), w, _ => { w with driver := f w.driver }
  | _, .act e, w, b => if e.inside then w else { w with modem := M.next e w.modem w.driver b }
  | _, _, w, _ => w

def machine (M : Modem S X) : Machine (Locked (Eff S)) (Station S X) := ⟨M.env,M.grants,M.update⟩

abbrev spec (M : Modem S X) : Spec (Locked (Eff S)) (Station S X) := M.machine.spec

theorem mono (M : Modem S X) : Spec.Mono M.spec := Machine.spec_mono

abbrev Runs (M : Modem S X) (p : Code S α) (w : Station S X) (a : α) (w' : Station S X) : Prop :=
  Exec M.machine.handler p w a w'

variable {M : Modem S X} {w : Station S X}

theorem wp_still {e : Locked (Eff S) β} (he : ∀ u v, ¬ M.env e u v)
    (Q : β → Station S X → Prop) :
    wp M.spec (Prog.perform e) Q w ↔ ∀ b, M.grants e w b → Q b (M.update e w b) := by
  constructor
  · intro h b hb
    exact h b _ ⟨w,.refl,hb,rfl⟩
  · intro h
    have hm : ∀ u v, ¬ M.machine.env e u v := he
    exact Machine.wp_still hm h

abbrev Events (M : Modem S X) : Station S X → Station S X → Prop :=
  Relation.ReflTransGen (fun u v => M.event u.modem u.driver v.modem v.driver)

@[simp] theorem wp_lock (Q : Unit → Station S X → Prop) :
    wp M.spec Code.lock Q w ↔ ∀ v, M.Events w v → Q () v := by
  constructor
  · intro h v hv
    exact h () _ ⟨v,hv,trivial,rfl⟩
  · intro h
    exact Machine.wp_effect (fun v b hv _ => h v hv)

@[simp] theorem wp_unlock (Q : Unit → Station S X → Prop) :
    wp M.spec Code.unlock Q w ↔ Q () w := by
  rw [Code.unlock,wp_still (fun _ _ => id)]
  exact ⟨fun h => h () trivial,fun h _ _ => h⟩

@[simp] theorem wp_get (Q : S.State → Station S X → Prop) :
    wp M.spec Code.get Q w ↔ Q w.driver w := by
  rw [Code.get,Code.act,wp_still (fun _ _ => id)]
  refine ⟨fun h => h _ rfl,fun h b hb => ?_⟩
  obtain rfl : b = w.driver := hb
  exact h

@[simp] theorem wp_modify (f : S.State → S.State) (Q : Unit → Station S X → Prop) :
    wp M.spec (Code.modify f) Q w ↔ Q () { w with driver := f w.driver } := by
  rw [Code.modify,Code.act,wp_still (fun _ _ => id)]
  exact ⟨fun h => h () trivial,fun h _ _ => h⟩

@[simp] theorem wp_send (c : S.Cmd) (Q : Bool → Station S X → Prop) :
    wp M.spec (Code.send c) Q w ↔ ∀ b, M.allow (.send c) w.modem w.driver b →
      Q b { w with modem := M.next (.send c) w.modem w.driver b } := by
  rw [Code.send,Code.act,wp_still (fun _ _ => id)]
  refine ⟨fun h b hb => h b (.inr hb),fun h b hb => h b ?_⟩
  simpa [grants] using hb

@[simp] theorem wp_recv (p : S.Pat β) (Q : Option β → Station S X → Prop) :
    wp M.spec (Code.recv p) Q w ↔ ∀ v b, M.Events w v →
      M.allow (.recv p) v.modem v.driver b →
      Q b { v with modem := M.next (.recv p) v.modem v.driver b } := by
  constructor
  · intro h v b hv hb
    exact h b _ ⟨v,hv,.inr hb,rfl⟩
  · intro h
    refine Machine.wp_effect (fun v b hv hb => h v b hv ?_)
    simpa [machine,grants] using hb

@[simp] theorem wp_inside {e : Eff S β} (he : e.inside = true) (Q : β → Station S X → Prop) :
    wp M.spec (Code.act e) Q w ↔ ∀ b, Q b w := by
  cases e <;> cases he <;> rw [Code.act,wp_still (fun _ _ => id)] <;>
    exact ⟨fun h b => h b (.inl rfl),fun h b _ => h b⟩

@[simp] theorem wp_asks {e : Eff S β} (he : e.asks = true) (Q : β → Station S X → Prop) :
    wp M.spec (Code.act e) Q w ↔ ∀ b, M.allow e w.modem w.driver b →
      Q b { w with modem := M.next e w.modem w.driver b } := by
  cases e <;> cases he <;> rw [Code.act,wp_still (fun _ _ => id)] <;>
    exact ⟨fun h b hb => h b (.inr hb),fun h b hb => h b (hb.resolve_left (by rintro ⟨⟩))⟩

@[simp] theorem wp_wait (ms : Nat) (Q : Unit → Station S X → Prop) :
    wp M.spec (Code.wait ms) Q w ↔ Q () w := by
  rw [Code.wait,wp_inside rfl]
  exact ⟨fun h => h (),fun h _ => h⟩

@[simp] theorem wp_hw (h : Hw) (Q : Unit → Station S X → Prop) :
    wp M.spec (Code.hw h) Q w ↔ (M.allow (.hw h) w.modem w.driver () →
      Q () { w with modem := M.next (.hw h) w.modem w.driver () }) := by
  rw [Code.hw,wp_asks rfl]
  exact ⟨fun h => h (),fun h _ => h⟩

@[simp] theorem wp_enter (c : S.Call) (Q : Unit → Station S X → Prop) :
    wp M.spec (Code.enter c) Q w ↔ (M.allow (.enter c) w.modem w.driver () →
      Q () { w with modem := M.next (.enter c) w.modem w.driver () }) := by
  rw [Code.enter,wp_asks rfl]
  exact ⟨fun h => h (),fun h _ => h⟩

@[simp] theorem wp_atTimeout (Q : Int → Station S X → Prop) :
    wp M.spec Code.atTimeout Q w ↔ ∀ t, Q t w := wp_inside rfl Q

@[simp] theorem wp_atSetTimeout (t : Int) (Q : Unit → Station S X → Prop) :
    wp M.spec (Code.atSetTimeout t) Q w ↔ Q () w := by
  rw [Code.atSetTimeout,wp_bind,wp_inside rfl]
  constructor
  · intro h
    exact (wp_inside rfl Q).mp (h ()) ()
  · intro h _
    exact (wp_inside rfl Q).mpr (fun _ => h)

@[simp] theorem wp_locked (p : Code S α) (Q : α → Station S X → Prop) :
    wp M.spec (Code.locked p) Q w ↔ ∀ v, M.Events w v → wp M.spec p Q v := by
  simp only [Code.locked,wp_bind,wp_lock,wp_unlock,wp_pure]

@[simp] theorem wp_void (p : Code S α) (Q : Unit → Station S X → Prop) :
    wp M.spec (Code.void p) Q w ↔ wp M.spec p (fun _ => Q ()) w := by
  simp only [Code.void,wp_bind,wp_pure]

@[simp] theorem wp_timed (t back : Int) (p : Code S α) (Q : α → Station S X → Prop) :
    wp M.spec (Code.timed t back p) Q w ↔ wp M.spec p Q w := by
  simp only [Code.timed,wp_bind,wp_atSetTimeout,wp_pure]

theorem events_keep {P : Station S X → Prop} {v : Station S X} (h : M.Events w v)
    (hw : P w) (hstep : ∀ u v, P u → M.event u.modem u.driver v.modem v.driver → P v) : P v := by
  induction h with
  | refl => exact hw
  | tail _ huv ih => exact hstep _ _ ih huv

@[simp] theorem wp_recvOk (Q : Bool → Station S X → Prop) :
    wp M.spec Code.recvOk Q w ↔ ∀ v b, M.Events w v →
      M.allow (.recv S.ok) v.modem v.driver b →
      Q b.isSome { v with modem := M.next (.recv S.ok) v.modem v.driver b } := by
  simp only [Code.recvOk,wp_bind,wp_recv,wp_pure]

@[simp] theorem wp_exchange (c : S.Cmd) (Q : Bool → Station S X → Prop) :
    wp M.spec (Code.exchange c) Q w ↔ ∀ b, M.allow (.send c) w.modem w.driver b →
      if b then wp M.spec Code.recvOk Q { w with modem := M.next (.send c) w.modem w.driver b }
      else Q false { w with modem := M.next (.send c) w.modem w.driver b } := by
  rw [Code.exchange,wp_both,wp_send]

@[simp] theorem wp_ask (c : S.Cmd) (p : S.Pat β) (Q : Option β → Station S X → Prop) :
    wp M.spec (Code.ask c p) Q w ↔ ∀ b, M.allow (.send c) w.modem w.driver b →
      if b then wp M.spec (Code.recv p) Q { w with
        modem := M.next (.send c) w.modem w.driver b }
      else Q none { w with modem := M.next (.send c) w.modem w.driver b } := by
  simp only [Code.ask,wp_bind,wp_send,wp_ite,wp_pure]

structure Kept (M : Modem S X) where
  pre : Station S X → Prop
  rel : Station S X → Station S X → Prop
  refl : ∀ w, rel w w
  trans : ∀ u v w, rel u v → rel v w → rel u w
  keep : ∀ u v, rel u v → pre u → pre v
  event : ∀ u v, pre u → M.event u.modem u.driver v.modem v.driver → rel u v

namespace Kept
variable {K : Kept M}

def frame (K : Kept M) : Frame (Locked (Eff S)) (Station S X) :=
  ⟨M.spec,M.mono,K.pre,K.rel,K.refl,K.trans,K.keep⟩

theorem keeps_unlock : K.frame.Keeps Code.unlock := ⟨fun w _ => (wp_unlock _).mpr (K.refl w)⟩

theorem keeps_modify {f : S.State → S.State}
    (h : ∀ w, K.pre w → K.rel w { w with driver := f w.driver }) :
    K.frame.Keeps (Code.modify f) := ⟨fun w hw => (wp_modify f _).mpr (h w hw)⟩

theorem events (w v : Station S X) (hw : K.pre w) (h : M.Events w v) : K.rel w v := by
  induction h with
  | refl => exact K.refl w
  | tail _ huv ih => exact K.trans _ _ _ ih (K.event _ _ (K.keep _ _ ih hw) huv)

theorem keeps_lock : K.frame.Keeps Code.lock :=
  ⟨fun w hw => (wp_lock _).mpr (fun v hv => K.events w v hw hv)⟩

theorem keeps_act {e : Eff S β} (hm : e.modifies = false)
    (h : ∀ w b, K.pre w → M.allow e w.modem w.driver b →
      K.rel w { w with modem := M.next e w.modem w.driver b }) : K.frame.Keeps (Code.act e) := by
  constructor
  intro w hw
  cases e with
  | get => exact (wp_get _).mpr (K.refl w)
  | modify f => cases hm
  | send c => exact (wp_send c _).mpr (fun b hb => h w b hw hb)
  | recv p =>
    refine (wp_recv p _).mpr (fun v b hv hb => ?_)
    have hwv := K.events w v hw hv
    exact K.trans _ _ _ hwv (h v b (K.keep _ _ hwv hw) hb)
  | _ => first
    | exact (wp_inside rfl _).mpr (fun _ => K.refl w)
    | exact (wp_asks rfl _).mpr (fun b hb => h w b hw hb)

theorem keeps_still {e : Eff S β} (hm : e.modifies = false)
    (h : ∀ x d b, M.next e x d b = x) : K.frame.Keeps (Code.act e) := by
  refine keeps_act hm (fun w b _ _ => ?_)
  rw [h]
  exact K.refl w

structure Stable (K : M.Kept) (P : Station S X → Prop) : Prop where
  pre : ∀ w, P w → K.pre w
  rel : ∀ u v, P u → K.rel u v → P v

variable {P : Station S X → Prop}

theorem Stable.event (hP : K.Stable P) {u v : Station S X} (hu : P u)
    (h : M.event u.modem u.driver v.modem v.driver) : P v :=
  hP.rel u v hu (K.event u v (hP.pre u hu) h)

theorem Stable.events (hP : K.Stable P) {v : Station S X} (h : M.Events w v) (hw : P w) : P v :=
  hP.rel w v hw (K.events w v (hP.pre w hw) h)

theorem Stable.run (hP : K.Stable P) {p : Code S α} [hp : K.frame.Keeps p] (hw : P w) :
    wp M.spec p (fun _ => P) w :=
  wp_mono M.mono (fun _ v hv => hP.rel w v hw hv) (hp.run w (hP.pre w hw))

def Stable.kept (hP : K.Stable P) : M.Kept where
  pre _ := True
  rel u v := P u → P v
  refl _ := id
  trans _ _ _ h k := k ∘ h
  keep _ _ _ _ := trivial
  event _ _ _ he hu := hP.event hu he

theorem Stable.keeps (hP : K.Stable P) {p : Code S α}
    (h : ∀ w, P w → wp M.spec p (fun _ => P) w) : hP.kept.frame.Keeps p := by
  constructor
  intro w _
  by_cases hw : P w
  · exact wp_mono M.mono (fun _ _ hv _ => hv) (h w hw)
  · exact wp_always (fun _ _ hw' => absurd hw' hw) w

theorem Stable.holds (hP : K.Stable P) {p : Code S α} [hp : hP.kept.frame.Keeps p] (hw : P w) :
    wp M.spec p (fun _ => P) w :=
  wp_mono M.mono (fun _ _ hv => hv hw) (hp.run w trivial)

instance (priority := low) keeps_stable {hP : K.Stable P} {p : Code S α} [K.frame.Keeps p] :
    hP.kept.frame.Keeps p := hP.keeps (fun _ hw => hP.run hw)

end Kept

theorem answers (h : ∀ ⦃β : Type⦄ (e : Eff S β) x d, ∃ b, M.allow e x d b) ⦃β : Type⦄
    (e : Locked (Eff S) β) (w : Station S X) : ∃ b w', M.machine.handler e w b w' := by
  cases e with
  | lock => exact ⟨(),w,w,.refl,trivial,rfl⟩
  | unlock => exact ⟨(),w,w,.refl,trivial,rfl⟩
  | act e =>
    obtain ⟨b,hb⟩ := h e w.modem w.driver
    cases e with
    | get => exact ⟨w.driver,w,w,.refl,rfl,rfl⟩
    | modify f => exact ⟨(),_,w,.refl,trivial,rfl⟩
    | _ => exact ⟨b,_,w,.refl,.inr hb,rfl⟩

theorem sound {p : Code S α} {Q : α → Station S X → Prop} {a : α} {w' : Station S X}
    (hp : wp M.spec p Q w) (hx : M.Runs p w a w') : Q a w' := wp_sound hp hx

inductive Reached {Op : Type} (M : Modem S X) (code : Op → Code S Unit)
    (allowed : Station S X → Op → Prop) (start : Station S X) : Station S X → Prop
  | start : Reached M code allowed start start
  | call {u v : Station S X} (o : Op) : Reached M code allowed start u → allowed u o →
      M.Runs (code o) u () v → Reached M code allowed start v
  | event {u v : Station S X} : Reached M code allowed start u →
      M.event u.modem u.driver v.modem v.driver → Reached M code allowed start v

theorem Reached.keeps {Op : Type} {code : Op → Code S Unit} {allowed : Station S X → Op → Prop}
    {start : Station S X} {P : Station S X → Prop} (hw : M.Reached code allowed start w)
    (hstart : P start)
    (hcall : ∀ u o, P u → allowed u o → wp M.spec (code o) (fun _ => P) u)
    (hevent : ∀ u v, P u → M.event u.modem u.driver v.modem v.driver → P v) : P w := by
  induction hw with
  | start => exact hstart
  | call o _ ho hr ih => exact sound (hcall _ o ih ho) hr
  | event _ he ih => exact hevent _ _ ih he

inductive Told {Op : Type} (M : Modem S X) (code : Op → Code S Unit) (tell : Op → X → X)
    (start : Station S X) : Station S X → Prop
  | start : Told M code tell start start
  | call {u v : Station S X} (o : Op) : Told M code tell start u →
      M.Runs (code o) { u with modem := tell o u.modem } () v → Told M code tell start v
  | event {u v : Station S X} : Told M code tell start u →
      M.event u.modem u.driver v.modem v.driver → Told M code tell start v

theorem Told.keeps {Op : Type} {code : Op → Code S Unit} {tell : Op → X → X}
    {start : Station S X} {P : Station S X → Prop} (hw : M.Told code tell start w)
    (hstart : P start)
    (hcall : ∀ u o, P u → wp M.spec (code o) (fun _ => P) { u with modem := tell o u.modem })
    (hevent : ∀ u v, P u → M.event u.modem u.driver v.modem v.driver → P v) : P w := by
  induction hw with
  | start => exact hstart
  | call o _ hr ih => exact sound (hcall _ o ih) hr
  | event _ he ih => exact hevent _ _ ih he

structure Peer (S : Sig) (X : Type) where
  send : S.Cmd → Station S X → Bool
  recv : ∀ ⦃β : Type⦄, S.Pat β → Station S X → Option (Option β × Station S X)
  ask : ∀ ⦃β : Type⦄, Eff S β → Station S X → Option β

namespace Peer

def script (P : Peer S X) : Machine.Script (Locked (Eff S)) (Station S X)
  | _, .lock, w => some ((), w)
  | _, .unlock, w => some ((), w)
  | _, .act .get, w => some (w.driver, w)
  | _, .act (.modify _), w => some ((), w)
  | _, .act (.send c), w => some (P.send c w, w)
  | _, .act (.recv p), w => P.recv p w
  | _, .act .atTimeout, w => some (0, w)
  | _, .act (.setAtTimeout _), w => some ((), w)
  | _, .act (.parserTimeout _), w => some ((), w)
  | _, .act .flush, w => some ((), w)
  | _, .act (.wait _), w => some ((), w)
  | _, .act .timerStart, w => some ((), w)
  | _, .act (@Eff.uninit _ _ _), w => some (default, w)
  | _, .act e, w => (P.ask e w).map (fun b => (b, w))

structure Fair (M : Modem S X) (P : Peer S X) : Prop where
  send : ∀ c w, M.allow (.send c) w.modem w.driver (P.send c w)
  recv : ∀ ⦃β : Type⦄ (p : S.Pat β) w b v, P.recv p w = some (b, v) →
    M.Events w v ∧ M.allow (.recv p) v.modem v.driver b
  ask : ∀ ⦃β : Type⦄ (e : Eff S β) w b, P.ask e w = some b → M.allow e w.modem w.driver b

theorem Fair.follows {P : Peer S X} (h : Fair M P) : M.machine.Follows P.script := by
  intro β e w b v hs
  cases e with
  | lock => cases hs; exact ⟨.refl,trivial⟩
  | unlock => cases hs; exact ⟨.refl,trivial⟩
  | act e =>
    cases e with
    | get => cases hs; exact ⟨.refl,rfl⟩
    | modify f => cases hs; exact ⟨.refl,trivial⟩
    | send c => cases hs; exact ⟨.refl,.inr (h.send c w)⟩
    | recv p =>
      obtain ⟨hv,hb⟩ := h.recv p w b v hs
      exact ⟨hv,.inr hb⟩
    | _ =>
      first
        | cases hs; exact ⟨.refl,.inl rfl⟩
        | obtain ⟨b',hb,hv⟩ := Option.map_eq_some_iff.mp hs
          cases hv
          exact ⟨.refl,.inr (h.ask _ w _ hb)⟩

theorem Fair.runs {P : Peer S X} (h : Fair M P) {p : Code S α} {n : Nat} {a : α}
    {w' : Station S X} (hr : p.run (M.machine.play P.script) n w = some (a, w')) :
    M.Runs p w a w' := Machine.play_exec h.follows hr

def replay {Op : Type} (P : Peer S X) (M : Modem S X) (code : Op → Code S Unit)
    (tell : Op → X → X) (n : Nat) : List Op → Station S X → Option (Station S X)
  | [], w => some w
  | o :: os, w => ((code o).run (M.machine.play P.script) n
      { w with modem := tell o w.modem }).bind (fun r => P.replay M code tell n os r.2)

theorem Fair.told {Op : Type} {P : Peer S X} (h : Fair M P) {code : Op → Code S Unit}
    {tell : Op → X → X} {n : Nat} {os : List Op} {start w w' : Station S X}
    (hr : P.replay M code tell n os w = some w') (hw : M.Told code tell start w) :
    M.Told code tell start w' := by
  induction os generalizing w with
  | nil =>
    obtain rfl : w = w' := Option.some.inj hr
    exact hw
  | cons o os ih =>
    obtain ⟨⟨_,u⟩,hrun,hr⟩ := Option.bind_eq_some_iff.mp hr
    exact ih hr (.call o hw (h.runs hrun))

end Peer

end Modem

end UbloxCellular
