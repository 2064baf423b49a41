import UbloxCellular.Gsm.Frames

namespace UbloxCellular.Gsm
open Interaction Code

variable {I X : Type}

def Unsolicited (d d' : Driver I) : Prop :=
  d'.base = { d.base with devInfo := d'.base.devInfo }

inductive SimCall where
  | init (pin : Option String)
  | deinit
  | simPinCheckEnable (enableNotDisable : Bool)
  | changeSimPin (pin : Option String)
  | setPin (pin : Option String)

def SimCall.code : SimCall → BaseCode I Unit
  | .init pin => void (Gsm.init pin)
  | .deinit => Gsm.deinit
  | .simPinCheckEnable b => void (Gsm.simPinCheckEnable b)
  | .changeSimPin pin => void (Gsm.changeSimPin pin)
  | .setPin pin => Gsm.setPin pin

structure SimCard where
  lock : Bool
  pin : String
  verified : Bool
  deriving DecidableEq, Repr

def SimCard.status (s : SimCard) : String :=
  if s.lock && !s.verified then "SIM PIN" else "READY"

structure SimModem where
  sim : SimCard
  last : Option Cmd
  deriving DecidableEq, Repr

namespace SimModem

def Accepts (x : SimModem) : Prop :=
  match x.last with
  | some (.cpin pin) => printed pin = x.sim.pin
  | some (.clck _ pin) => printed pin = x.sim.pin
  | some (.cpwd oldPin _) => printed oldPin = x.sim.pin
  | _ => True

instance (x : SimModem) : Decidable x.Accepts := by
  rw [Accepts]
  split <;> infer_instance

def perform (x : SimModem) : SimCard :=
  match x.last with
  | some (.cpin _) => { x.sim with verified := true }
  | some (.clck mode _) => { x.sim with lock := mode = 1 }
  | some (.cpwd _ newPin) => { x.sim with pin := printed newPin }
  | _ => x.sim

def Harmless (x : SimModem) : Prop := ∀ c ∈ x.last, c.isSim = false

theorem perform_harmless {x : SimModem} (h : x.Harmless) : x.perform = x.sim := by
  rw [perform]
  split
  all_goals first | rfl | exact absurd (h _ ‹_›) (by simp [Cmd.isSim])

end SimModem

def simModem (I : Type) : Modem (sig I) SimModem where
  event x d x' d' := x' = x ∧ Unsolicited d d'
  allow
    | _, .recv .cpin, x, _, b => ∀ s, b = some s → s = x.sim.status
    | _, .recv .ok, x, _, b => b.isSome → x.Accepts
    | _, _, _, _, _ => True
  next
    | _, .send c, x, _, b => { x with last := if b then some c else none }
    | _, .recv .ok, x, _, b => ⟨if b.isSome then x.perform else x.sim,none⟩
    | _, .hw .modemPowerDown, x, _, _ => { x with sim := { x.sim with verified := false } }
    | _, _, x, _, _ => x

abbrev SimStation (I : Type) := Station (sig I) SimModem

namespace SimStation

structure SameBase (b b' : Base) : Prop where
  init : b'.modemInitialised = b.modemInitialised
  flag : b'.simPinCheckEnabled = b.simPinCheckEnabled
  pin : b'.pin = b.pin

theorem SameBase.trans {a b c : Base} (h : SameBase a b) (k : SameBase b c) : SameBase a c :=
  ⟨k.init.trans h.init,k.flag.trans h.flag,k.pin.trans h.pin⟩

theorem unsolicited_same {d d' : Driver I} (h : Unsolicited d d') : SameBase d.base d'.base := by
  rw [Unsolicited] at h
  rw [h]
  exact ⟨rfl,rfl,rfl⟩

structure Quiet (w w' : SimStation I) : Prop where
  base : SameBase w.driver.base w'.driver.base
  sim : w'.modem.sim = w.modem.sim
  harmless : w.modem.Harmless → w'.modem.Harmless

theorem Quiet.refl (w : SimStation I) : Quiet w w := ⟨⟨rfl,rfl,rfl⟩,rfl,id⟩

theorem Quiet.trans {u v w : SimStation I} (h : Quiet u v) (k : Quiet v w) : Quiet u w :=
  ⟨h.base.trans k.base,k.sim.trans h.sim,k.harmless ∘ h.harmless⟩

def quiet (I : Type) : (simModem I).Kept where
  pre w := w.modem.Harmless
  rel := Quiet
  refl := Quiet.refl
  trans _ _ _ := Quiet.trans
  keep _ _ h := h.harmless
  event u v _ h := ⟨unsolicited_same h.2,congrArg SimModem.sim h.1,fun hu => by rw [h.1]; exact hu⟩

theorem harmless_sent {c : Cmd} (hc : c.isSim = false) (s : SimCard) (b : Bool) :
    SimModem.Harmless ⟨s,if b then some c else none⟩ := by
  cases b with
  | false => intro c' h; cases h
  | true =>
    intro c' h
    cases h
    exact hc

theorem harmless_none (s : SimCard) : SimModem.Harmless ⟨s,none⟩ := by
  intro c h
  cases h

instance : Ordinary (quiet I).frame := by
  apply ordinary_kept
  · intro β e w b he hw _
    cases e with
    | recv p =>
      cases p with
      | ok =>
        refine ⟨⟨rfl,rfl,rfl⟩,?_,fun _ => harmless_none _⟩
        change (if b.isSome then w.modem.perform else w.modem.sim) = w.modem.sim
        rw [SimModem.perform_harmless hw]
        simp
      | _ => exact Quiet.refl w
    | hw h => cases he
    | send c => cases he
    | _ => exact Quiet.refl w
  · intro c w b hc hw _
    exact ⟨⟨rfl,rfl,rfl⟩,rfl,fun _ => harmless_sent (Cmd.plain_sim hc) _ b⟩
  · intro h w b hh _ _
    cases h with
    | modemPowerDown => exact absurd rfl hh
    | _ => exact Quiet.refl w
  · intro f w _
    exact ⟨⟨rfl,rfl,rfl⟩,rfl,id⟩

theorem quiet_run {α : Type} {p : BaseCode I α} [hp : (quiet I).frame.Keeps p]
    {Q : α → SimStation I → Prop} {w : SimStation I} (hw : w.modem.Harmless)
    (hq : ∀ a w', Quiet w w' → Q a w') : wp (simModem I).spec p Q w :=
  wp_mono (simModem I).mono hq (hp.run w hw)

structure Agree (w : SimStation I) : Prop where
  harmless : w.modem.Harmless
  flag : w.driver.base.modemInitialised = true →
    w.driver.base.simPinCheckEnabled = w.modem.sim.lock

def Unverified (w : SimStation I) : Prop :=
  w.modem.sim.lock = true → w.modem.sim.verified = false

structure Tried (w : SimStation I) (s : Bool × Bool) (w' : SimStation I) : Prop where
  harmless : w'.modem.Harmless
  init : w'.driver.base.modemInitialised = w.driver.base.modemInitialised
  flag : s.2 = true → w'.driver.base.simPinCheckEnabled = w'.modem.sim.lock
  fresh : s.1 = false → s.2 = false ∧ Quiet w w'

theorem events_base {w v : SimStation I} (h : (simModem I).Events w v) :
    SameBase w.driver.base v.driver.base ∧ v.modem = w.modem := by
  induction h with
  | refl => exact ⟨⟨rfl,rfl,rfl⟩,rfl⟩
  | tail _ huv ih => exact ⟨ih.1.trans (unsolicited_same huv.2),huv.1.trans ih.2⟩

theorem events_quiet {w v : SimStation I} (h : (simModem I).Events w v) : Quiet w v := by
  obtain ⟨hb,hm⟩ := events_base h
  exact ⟨hb,congrArg SimModem.sim hm,fun hw => by rw [hm]; exact hw⟩

theorem status_pin {c : SimCard} (h : c.status = "SIM PIN") : c.lock = true := by
  rw [SimCard.status] at h
  cases hl : c.lock with
  | true => rfl
  | false => simp [hl] at h

theorem status_ready {w : SimStation I} (hv : Unverified w)
    (h : w.modem.sim.status = "READY") : w.modem.sim.lock = false := by
  cases hl : w.modem.sim.lock with
  | false => rfl
  | true => simp [SimCard.status,hl,hv hl] at h

theorem pin_sent {w u : SimStation I} (pin : Option String) (hl : w.modem.sim.lock = true)
    (hu : SameBase { w.driver.base with simPinCheckEnabled := true } u.driver.base)
    (hsim : u.modem.sim = w.modem.sim) :
    wp (simModem I).spec (exchange (.cpin pin)) (fun b w' => Tried w (true, b) w') u := by
  rw [Modem.wp_exchange]
  intro b _
  cases b with
  | false => exact ⟨harmless_none _,hu.init,by rintro ⟨⟩,by rintro ⟨⟩⟩
  | true =>
    rw [if_pos rfl,Modem.wp_recvOk]
    intro v r hv _
    obtain ⟨hb,hm⟩ := events_base hv
    have hbase := hu.trans hb
    refine ⟨harmless_none _,hbase.init,fun hr => ?_,by rintro ⟨⟩⟩
    change v.driver.base.simPinCheckEnabled =
      (if r.isSome then v.modem.perform else v.modem.sim).lock
    have hlock : v.modem.perform.lock = w.modem.sim.lock := by rw [hm,← hsim]; rfl
    rw [hbase.flag,if_pos hr,hlock,hl]

theorem cpinAnswer_tried {w u : SimStation I} {s : String} (hu : Quiet w u)
    (hw : w.modem.Harmless) (hv : Unverified w) (hs : s = w.modem.sim.status) :
    wp (simModem I).spec (cpinAnswer s) (fun b w' => Tried w (true, b) w') u := by
  rw [cpinAnswer]
  by_cases hpin : s = "SIM PIN"
  · rw [if_pos hpin,wp_bind,Modem.wp_modify,wp_bind,Modem.wp_get]
    exact pin_sent _ (status_pin (hs ▸ hpin)) ⟨hu.base.init,rfl,hu.base.pin⟩ hu.sim
  · rw [if_neg hpin]
    by_cases hready : s = "READY"
    · rw [if_pos hready,wp_bind,Modem.wp_modify,wp_pure]
      refine ⟨hu.harmless hw,hu.base.init,fun _ => ?_,by rintro ⟨⟩⟩
      change false = u.modem.sim.lock
      rw [hu.sim,status_ready hv (hs ▸ hready)]
    · rw [if_neg hready,wp_pure]
      exact ⟨hu.harmless hw,hu.base.init,by rintro ⟨⟩,by rintro ⟨⟩⟩

theorem Quiet.tried {w u : SimStation I} (h : Quiet w u) (hw : w.modem.Harmless) :
    Tried w (false, false) u := ⟨h.harmless hw,h.base.init,by rintro ⟨⟩,fun _ => ⟨rfl,h⟩⟩

theorem cpin_asked (w : SimStation I) :
    wp (simModem I).spec (ask .cpinQuery .cpin)
      (fun r u => Quiet w u ∧ ∀ s, r = some s → s = w.modem.sim.status) w := by
  rw [Modem.wp_ask]
  intro b _
  have hsent : Quiet w { w with
      modem := (simModem I).next (.send .cpinQuery) w.modem w.driver b } :=
    ⟨⟨rfl,rfl,rfl⟩,rfl,fun _ => harmless_sent rfl _ b⟩
  cases b with
  | false => exact ⟨hsent,by rintro s ⟨⟩⟩
  | true =>
    rw [if_pos rfl,Modem.wp_recv]
    intro v r hv hr
    have hheard := hsent.trans (events_quiet hv)
    refine ⟨hheard,fun s hs => ?_⟩
    rw [hr s hs,hheard.sim]

theorem simTry_tried {w u : SimStation I} {s : Bool × Bool} (ht : Tried w s u) (hs : s.1 = false)
    (hw : w.modem.Harmless) (hv : Unverified w) :
    wp (simModem I).spec (simTry s) (fun s' w' => Tried w s' w') u := by
  obtain ⟨h2,hu⟩ := ht.fresh hs
  obtain rfl : s = (false, false) := Prod.ext hs h2
  rw [simTry]
  refine wp_seq (simModem I).mono (cpin_asked u) (fun r v hv' => ?_)
  obtain ⟨hq,hstatus⟩ := hv'
  have hwv := hu.trans hq
  simp only [wp_bind,Modem.wp_wait,wp_pure]
  cases r with
  | none => exact hwv.tried hw
  | some pinstr =>
    rw [Option.elim_some,wp_bind]
    refine quiet_run (hwv.harmless hw) (fun b v' hb => ?_)
    have hwv' := hwv.trans hb
    cases b with
    | false => exact hwv'.tried hw
    | true =>
      simp only [if_true,wp_bind,wp_pure]
      refine cpinAnswer_tried hwv' hw hv ?_
      rw [hstatus pinstr rfl,hu.sim]

theorem initialiseSimCard_tried {w : SimStation I} (hw : w.modem.Harmless) (hv : Unverified w) :
    wp (simModem I).spec initialiseSimCard (fun b w' => w'.modem.Harmless ∧
      w'.driver.base.modemInitialised = w.driver.base.modemInitialised ∧
      (b = true → w'.driver.base.simPinCheckEnabled = w'.modem.sim.lock)) w := by
  simp only [initialiseSimCard,Modem.wp_locked,wp_bind,wp_pure]
  intro v hwv
  have hstart := (events_quiet hwv).tried hw
  refine wp_upTo (simModem I).mono (fun _ s u => Tried w s u) ?_ ?_ ?_ hstart
  · intro n s u ht _
    exact ⟨ht.harmless,ht.init,ht.flag⟩
  · intro s u ht
    exact ⟨ht.harmless,ht.init,ht.flag⟩
  · intro n s u ht hs
    exact simTry_tried ht hs hw hv

theorem agree_uninitialised {w : SimStation I} (hw : w.modem.Harmless)
    (hi : w.driver.base.modemInitialised = false) : Agree w :=
  ⟨hw,fun h => by rw [hi] at h; cases h⟩

def ready (w : SimStation I) : SimStation I :=
  { w with driver := w.driver.onBase (fun b => { b with modemInitialised := true }) }

theorem sim_agree {w : SimStation I} (hw : w.modem.Harmless) (hv : Unverified w)
    (hi : w.driver.base.modemInitialised = false) :
    wp (simModem I).spec initialiseSimCard (fun a u =>
      if a = true then wp (simModem I).spec initAfterSim (fun a v =>
        if a = true then Agree (ready v) else Agree v) u else Agree u) w := by
  refine wp_mono (simModem I).mono (fun a u hu => ?_) (initialiseSimCard_tried hw hv)
  obtain ⟨hharm,hinit,hflag⟩ := hu
  have hiu : u.driver.base.modemInitialised = false := hinit.trans hi
  cases a with
  | false => exact agree_uninitialised hharm hiu
  | true =>
    rw [if_pos rfl]
    refine quiet_run hharm (fun b v hv => ?_)
    have hiv : v.driver.base.modemInitialised = false := hv.base.init.trans hiu
    cases b with
    | false => exact agree_uninitialised (hv.harmless hharm) hiv
    | true =>
      refine ⟨hv.harmless hharm,fun _ => ?_⟩
      change v.driver.base.simPinCheckEnabled = v.modem.sim.lock
      rw [hv.base.flag,hv.sim,hflag rfl]

theorem init_agree {w : SimStation I} (pin : Option String) (hw : Agree w)
    (hv : w.driver.base.modemInitialised = true ∨ Unverified w) :
    wp (simModem I).spec (Gsm.init pin) (fun _ => Agree) w := by
  simp only [Gsm.init,wp_bind,Modem.wp_enter,wp_get,wp_ite,Modem.wp_modify,wp_pure]
  intro _
  change if w.driver.base.modemInitialised = true then Agree w else wp _ _ _ w
  split
  · exact hw
  · rename_i hi
    have hfresh : Unverified w := hv.resolve_left hi
    have hi' : w.driver.base.modemInitialised = false := by simpa using hi
    refine quiet_run hw.harmless (fun a u hu => ?_)
    have hharm := hu.harmless hw.harmless
    have hiu := hu.base.init.trans hi'
    have hvu : Unverified u := by
      rw [Unverified]
      rw [hu.sim]
      exact hfresh
    split
    · split
      · exact sim_agree hharm hvu hiu
      · exact sim_agree hharm hvu hiu
    · exact agree_uninitialised hharm hiu

theorem Agree.same {w u : SimStation I} (hw : Agree w) (hb : SameBase w.driver.base u.driver.base)
    (hlock : u.modem.sim.lock = w.modem.sim.lock) (hu : u.modem.Harmless) : Agree u := by
  refine ⟨hu,fun hi => ?_⟩
  rw [hb.flag,hlock]
  exact hw.flag (hb.init ▸ hi)

theorem Agree.quiet {w u : SimStation I} (hw : Agree w) (h : Quiet w u) : Agree u :=
  hw.same h.base (congrArg SimCard.lock h.sim) (h.harmless hw.harmless)

theorem simLock_agree {w : SimStation I} (b : Bool) (mode : Nat) (hw : Agree w)
    (hm : decide (mode = 1) = b) :
    wp (simModem I).spec (simLock b mode)
      (fun r w' => Agree w' ∧ (r = true → w'.modem.sim.lock = b)) w := by
  simp only [simLock,wp_bind,wp_get,Modem.wp_exchange,Modem.wp_recvOk,wp_ite,Modem.wp_modify,
    wp_pure]
  intro sent _
  cases sent with
  | false => exact ⟨hw.same ⟨rfl,rfl,rfl⟩ rfl (harmless_none _),by rintro ⟨⟩⟩
  | true =>
    intro v r hv _
    obtain ⟨hb,hx⟩ := events_base hv
    have hkeep : v.modem.sim.lock = w.modem.sim.lock := by rw [hx]; rfl
    cases r with
    | none => exact ⟨hw.same hb (by rw [← hkeep]; rfl) (harmless_none _),by rintro ⟨⟩⟩
    | some u =>
      have hlock : v.modem.perform.lock = b := by
        rw [hx,← hm]
        rfl
      exact ⟨⟨harmless_none _,fun _ => hlock.symm⟩,fun _ => hlock⟩

theorem simPinCheckEnable_agree {w : SimStation I} (b : Bool) (hw : Agree w) :
    wp (simModem I).spec (Gsm.simPinCheckEnable b) (fun r w' => Agree w' ∧
      (r = true → w.driver.base.modemInitialised = true → w'.modem.sim.lock = b)) w := by
  simp only [Gsm.simPinCheckEnable,wp_bind,Modem.wp_enter,Modem.wp_locked,wp_get,wp_ite,wp_pure]
  intro _ v hv
  have hq := events_quiet hv
  have hw : Agree v := hw.quiet hq
  change if v.driver.base.pin.isSome = true then if _ then wp _ _ _ v else if _ then wp _ _ _ v
    else _ else _
  have weaken : ∀ (r : Bool) (u : SimStation I), Agree u ∧ (r = true → u.modem.sim.lock = b) →
      Agree u ∧ (r = true → w.driver.base.modemInitialised = true → u.modem.sim.lock = b) :=
    fun r u h => ⟨h.1,fun hr _ => h.2 hr⟩
  split
  · split
    · rename_i hflag
      have hb : b = false := by simpa using (Bool.and_eq_true_iff.mp hflag).2
      subst hb
      exact wp_mono (simModem I).mono weaken (simLock_agree false 0 hw rfl)
    · split
      · rename_i hflag
        have hb : b = true := (Bool.and_eq_true_iff.mp hflag).2
        subst hb
        exact wp_mono (simModem I).mono weaken (simLock_agree true 1 hw rfl)
      · rename_i hoff hon
        refine ⟨hw,fun _ hi => ?_⟩
        have hf := hw.flag (hq.base.init.trans hi)
        rw [← hf]
        revert hoff hon
        cases v.driver.base.simPinCheckEnabled <;> cases b <;> simp
  · exact ⟨hw,by rintro ⟨⟩⟩

theorem changeSimPin_agree {w : SimStation I} (pin : Option String) (hw : Agree w) :
    wp (simModem I).spec (Gsm.changeSimPin pin) (fun _ => Agree) w := by
  simp only [Gsm.changeSimPin,wp_bind,Modem.wp_enter,Modem.wp_locked,wp_get,wp_ite,wp_pure,
    Modem.wp_exchange,Modem.wp_recvOk,Modem.wp_modify]
  intro _ o ho
  have hw : Agree o := hw.quiet (events_quiet ho)
  split
  · intro sent _
    cases sent with
    | false => exact hw.same ⟨rfl,rfl,rfl⟩ rfl (harmless_none _)
    | true =>
      intro v r hv _
      obtain ⟨hb,hx⟩ := events_base hv
      have hkeep : v.modem.sim.lock = o.modem.sim.lock := by rw [hx]; rfl
      cases r with
      | none => exact hw.same hb (by rw [← hkeep]; rfl) (harmless_none _)
      | some u =>
        refine ⟨harmless_none _,fun hi => ?_⟩
        have hlock : v.modem.perform.lock = o.modem.sim.lock := by
          rw [hx]
          rfl
        have hfl := hw.flag (hb.init ▸ hi)
        exact (hb.flag.trans hfl).trans hlock.symm
  · exact hw

theorem setPin_agree {w : SimStation I} (pin : Option String) (hw : Agree w) :
    wp (simModem I).spec (Gsm.setPin pin) (fun _ => Agree) w := by
  simp only [Gsm.setPin,Modem.wp_modify]
  exact ⟨hw.harmless,hw.flag⟩

theorem deinit_agree {w : SimStation I} (hw : Agree w) :
    wp (simModem I).spec Gsm.deinit (fun _ => Agree) w := by
  simp only [Gsm.deinit,powerDown,wp_bind,Modem.wp_locked,wp_get,wp_ite,Modem.wp_exchange,
    Modem.wp_recvOk,Modem.wp_hw,Modem.wp_modify]
  intro o ho
  have hw : Agree o := hw.quiet (events_quiet ho)
  split
  · intro sent _
    split
    · intro v r _ _ _ _
      exact ⟨harmless_none _,by rintro ⟨⟩⟩
    · intro _ _
      exact ⟨harmless_sent rfl _ sent,by rintro ⟨⟩⟩
  · intro _ _
    exact ⟨hw.harmless,by rintro ⟨⟩⟩

def Fresh (w : SimStation I) : SimCall → Prop
  | .init _ => w.driver.base.modemInitialised = true ∨ Unverified w
  | _ => True

theorem call_agree {w : SimStation I} (o : SimCall) (hw : Agree w) (ho : Fresh w o) :
    wp (simModem I).spec o.code (fun _ => Agree) w := by
  cases o with
  | init pin =>
    simp only [SimCall.code,Modem.wp_void]
    exact init_agree pin hw ho
  | deinit => exact deinit_agree hw
  | simPinCheckEnable b =>
    simp only [SimCall.code,Modem.wp_void]
    exact wp_mono (simModem I).mono (fun _ _ h => h.1) (simPinCheckEnable_agree b hw)
  | changeSimPin pin =>
    simp only [SimCall.code,Modem.wp_void]
    exact changeSimPin_agree pin hw
  | setPin pin => exact setPin_agree pin hw

abbrev Runs (allowed : SimStation I → SimCall → Prop) (start w : SimStation I) : Prop :=
  (simModem I).Reached SimCall.code allowed start w

def start (baud : Int) (iface : I) (lock : Bool) (pin : String) : SimStation I :=
  ⟨⟨.initial baud,iface⟩,⟨⟨lock,pin,false⟩,none⟩⟩

theorem start_agree (baud : Int) (iface : I) (lock : Bool) (pin : String) :
    Agree (start baud iface lock pin) := ⟨harmless_none _,by rintro ⟨⟩⟩

theorem runs_agree {baud : Int} {iface : I} {lock : Bool} {pin : String} {w : SimStation I}
    (h : Runs Fresh (start baud iface lock pin) w) : Agree w := by
  refine h.keeps (start_agree baud iface lock pin) (fun u o hu ho => call_agree o hu ho) ?_
  intro u v hu huv
  exact hu.quiet (events_quiet (.single huv))

theorem sim_lock_known {baud : Int} {iface : I} {lock : Bool} {pin : String} {w : SimStation I}
    (h : Runs Fresh (start baud iface lock pin) w)
    (hi : w.driver.base.modemInitialised = true) :
    w.driver.base.simPinCheckEnabled = w.modem.sim.lock ∧
    ∀ b w', (simModem I).Runs (simPinCheckEnable b) w true w' → w'.modem.sim.lock = b := by
  have hw := runs_agree h
  refine ⟨hw.flag hi,fun b w' hr => ?_⟩
  exact (Modem.sound (simPinCheckEnable_agree b hw) hr).2 rfl hi

def card (mute : Bool) : Modem.Peer (sig I) SimModem where
  send c w := mute = false ∨ c ≠ .ati ∨ w.driver.base.simPinCheckEnabled = false
  recv
    | _, .ok, w => some (if w.modem.Accepts then some () else none, w)
    | _, .cpin, w => some (some w.modem.sim.status, w)
    | _, .ati, w => some (some "", w)
    | _, .ccid, w => some (some "", w)
    | _, .cimi, w => some (some "", w)
    | _, .cgsn, w => some (some "", w)
    | _, .gsn, w => some (some "", w)
    | _, _, w => some (none, w)
  ask
    | _, .hw _, _ => some ()
    | _, .enter _, _ => some ()
    | _, _, _ => none

theorem card_fair (mute : Bool) :
    (card mute : Modem.Peer (sig I) SimModem).Fair (simModem I) where
  send _ _ := trivial
  recv := by
    intro β p w b v h
    cases p <;> cases h
    case ok =>
      refine ⟨.refl,fun h => ?_⟩
      by_contra hr
      rw [if_neg hr] at h
      cases h
    case cpin => exact ⟨.refl,fun s hs => (Option.some.inj hs).symm⟩
    all_goals exact ⟨.refl,trivial⟩
  ask := by
    intro β e w b h
    cases e with
    | recv p => cases h
    | _ => trivial

abbrev played {β : Type} (mute : Bool) (p : BaseCode Unit β) (w : SimStation Unit) :
    Option (β × SimStation Unit) :=
  p.run ((simModem Unit).machine.play (card mute : Modem.Peer (sig Unit) SimModem).script) 0 w

theorem sim_lock_known_verified : ∃ w w' : SimStation Unit,
    Runs Fresh (start 115200 () true "1234") w ∧ w.driver.base.modemInitialised = true ∧
    w.modem.sim = ⟨true,"1234",true⟩ ∧ w.driver.base.simPinCheckEnabled = w.modem.sim.lock ∧
    (simModem Unit).Runs (simPinCheckEnable false) w true w' ∧ w'.modem.sim.lock = false := by
  have hrun : (played false (SimCall.init (some "1234")).code (start 115200 () true "1234")).bind
      (fun r => (played false (simPinCheckEnable false) r.2).map (fun q =>
        (r.2.driver.base.modemInitialised, r.2.modem.sim, q.1))) =
      some (true, ⟨true,"1234",true⟩, true) := by decide
  obtain ⟨r,hr,hrun⟩ := Option.bind_eq_some_iff.mp hrun
  obtain ⟨⟨done,v⟩,hv,he⟩ := Option.map_eq_some_iff.mp hrun
  simp only [Prod.mk.injEq] at he
  obtain ⟨hi,hsim,rfl⟩ := he
  have hfresh : Fresh (start 115200 () true "1234") (.init (some "1234")) := .inr (fun _ => rfl)
  have hw : Runs Fresh (start 115200 () true "1234") r.2 :=
    .call (SimCall.init (some "1234")) .start hfresh ((card_fair false).runs hr)
  have hoff : (simModem Unit).Runs (simPinCheckEnable false) r.2 true v := (card_fair false).runs hv
  obtain ⟨hflag,hset⟩ := sim_lock_known hw hi
  exact ⟨r.2,v,hw,hi,hsim,hflag,hoff,hset false v hoff⟩

theorem sim_lock_retry : ¬ ∀ w : SimStation Unit,
    Runs (fun _ _ => True) (start 115200 () true "1234") w →
    w.driver.base.modemInitialised = true →
    w.driver.base.simPinCheckEnabled = w.modem.sim.lock := by
  intro hall
  have hrun : (played true (SimCall.init (some "1234")).code (start 115200 () true "1234")).bind
      (fun r => (played true (SimCall.init none).code r.2).map (fun q =>
        (q.2.driver.base.modemInitialised, q.2.driver.base.simPinCheckEnabled,
          q.2.modem.sim.lock))) =
      some (true, false, true) := by decide
  obtain ⟨r,hr,hrun⟩ := Option.bind_eq_some_iff.mp hrun
  obtain ⟨q,hq,he⟩ := Option.map_eq_some_iff.mp hrun
  obtain ⟨hi,hf⟩ := Prod.mk.inj he
  obtain ⟨hflag,hlock⟩ := Prod.mk.inj hf
  have h1 : Runs (fun _ _ => True) (start 115200 () true "1234") r.2 :=
    .call (SimCall.init (some "1234")) .start trivial ((card_fair true).runs hr)
  have h2 : Runs (fun _ _ => True) (start 115200 () true "1234") q.2 :=
    .call (SimCall.init none) h1 trivial ((card_fair true).runs hq)
  have hagree := hall q.2 h2 hi
  rw [hflag,hlock] at hagree
  cases hagree

end SimStation

end UbloxCellular.Gsm
