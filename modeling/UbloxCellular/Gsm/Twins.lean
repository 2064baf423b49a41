import UbloxCellular.Driver.Modem
import UbloxCellular.Gsm.Base
import UbloxCellular.Interaction.Simulation

set_option synthInstance.maxSize 8192

namespace UbloxCellular.Gsm
open Interaction Code

variable {I J P X α β : Type}

structure Alike (f : I → P) (g : J → P) (w : Station (sig I) X) (v : Station (sig J) X) :
    Prop where
  modem : v.modem = w.modem
  base : v.driver.base = w.driver.base
  view : g v.driver.iface = f w.driver.iface

theorem Alike.symm {f : I → P} {g : J → P} {w : Station (sig I) X} {v : Station (sig J) X}
    (h : Alike f g w v) : Alike g f v w := ⟨h.modem.symm,h.base.symm,h.view.symm⟩

inductive Paired : ∀ {β : Type}, Eff (sig I) β → Eff (sig J) β → Prop
  | send (c : Cmd) : Paired (.send c) (.send c)
  | recv {β : Type} (p : Pat β) : Paired (.recv p) (.recv p)
  | hw (h : Hw) : Paired (.hw h) (.hw h)
  | enter (c : Call) : Paired (.enter c) (.enter c)

-- Whatever the one modem answers or sends by itself, so can the other.
structure Twins (f : I → P) (g : J → P) (M : Modem (sig I) X) (N : Modem (sig J) X) : Prop where
  event : ∀ u v u', Alike f g u v → M.event u.modem u.driver u'.modem u'.driver →
    ∃ v', N.Events v v' ∧ Alike f g u' v'
  act : ∀ ⦃β : Type⦄ (e : Eff (sig I) β) (e' : Eff (sig J) β) u v b, Paired e e' →
    Alike f g u v → M.allow e u.modem u.driver b → N.allow e' v.modem v.driver b ∧
      N.next e' v.modem v.driver b = M.next e u.modem u.driver b

abbrev Mirror (f : I → P) (g : J → P) (M : Modem (sig I) X) (N : Modem (sig J) X)
    (p : BaseCode I α) (q : BaseCode J α) : Prop :=
  Mirrors M.machine.handler N.machine.handler (Alike f g) p q

section Rules
variable {f : I → P} {g : J → P} {M : Modem (sig I) X} {N : Modem (sig J) X}

theorem mirror_wp {p : BaseCode I α} {q : BaseCode J α} (h : ∀ w v, Alike f g w v →
    wp M.spec p (fun a w' => ∃ v', N.Runs q v a v' ∧ Alike f g w' v') w) : Mirror f g M N p q :=
  ⟨fun w v hr _ _ hx => Modem.sound (h w v hr) hx⟩

theorem Twins.events (h : Twins f g M N) {w w' : Station (sig I) X} {v : Station (sig J) X}
    (hr : Alike f g w v) (hw : M.Events w w') : ∃ v', N.Events v v' ∧ Alike f g w' v' := by
  induction hw with
  | refl => exact ⟨v,.refl,hr⟩
  | tail _ he ih =>
    obtain ⟨u,hu,hru⟩ := ih
    obtain ⟨v',hv,hrv⟩ := h.event _ _ _ hru he
    exact ⟨v',hu.trans hv,hrv⟩

theorem runs_get {w w' : Station (sig I) X} {d : Driver I} :
    M.Runs get w d w' ↔ d = w.driver ∧ w' = w := by
  constructor
  · intro h
    exact Modem.sound (Q := fun d w' => d = w.driver ∧ w' = w) ((Modem.wp_get _).mpr ⟨rfl,rfl⟩) h
  · rintro ⟨rfl,rfl⟩
    exact exec_perform.mpr ⟨w',.refl,rfl,rfl⟩

instance mirror_get {k : Driver I → BaseCode I α} {k' : Driver J → BaseCode J α}
    [hk : ∀ b i j, Mirror f g M N (k ⟨b,i⟩) (k' ⟨b,j⟩)] :
    Mirror f g M N (get >>= k) (get >>= k') := by
  refine ⟨fun w v hr a w' hx => ?_⟩
  obtain ⟨d,u,hget,hrun⟩ := exec_bind.mp hx
  obtain ⟨rfl,rfl⟩ := runs_get.mp hget
  have hk' := hk u.driver.base u.driver.iface v.driver.iface
  obtain ⟨v',hv,hr'⟩ := hk'.run u v hr a w' hrun
  rw [← hr.base] at hv
  exact ⟨v',exec_bind.mpr ⟨v.driver,v,runs_get.mpr ⟨rfl,rfl⟩,hv⟩,hr'⟩

theorem mirror_modify {k : Driver I → Driver I} {k' : Driver J → Driver J}
    (h : ∀ d d', d'.base = d.base → g d'.iface = f d.iface →
      (k' d').base = (k d).base ∧ g (k' d').iface = f (k d).iface) :
    Mirror f g M N (modify k) (modify k') := by
  refine mirror_wp (fun w v hr => (Modem.wp_modify _ _).mpr ?_)
  obtain ⟨hbase,hview⟩ := h _ _ hr.base hr.view
  exact ⟨_,exec_perform.mpr ⟨v,.refl,trivial,rfl⟩,hr.modem,hbase,hview⟩

instance mirror_onBase (k : Base → Base) :
    Mirror f g M N (modify (Driver.onBase k)) (modify (Driver.onBase k)) :=
  mirror_modify (fun _ _ hbase hview => ⟨congrArg k hbase,hview⟩)

instance mirror_onInfo (k : DeviceInfo → DeviceInfo) :
    Mirror f g M N (modify (Driver.onInfo k)) (modify (Driver.onInfo k)) :=
  mirror_modify (fun _ _ hbase hview =>
    ⟨congrArg (fun b : Base => { b with devInfo := k b.devInfo }) hbase,hview⟩)

instance mirror_unlock : Mirror f g M N unlock unlock :=
  mirror_wp (fun _ v hr => (Modem.wp_unlock _).mpr ⟨v,exec_perform.mpr ⟨v,.refl,trivial,rfl⟩,hr⟩)

theorem mirror_inside {e : Eff (sig I) β} {e' : Eff (sig J) β} (he : e.inside = true)
    (he' : e'.inside = true) : Mirror f g M N (act e) (act e') := by
  refine mirror_wp (fun w v hr => (Modem.wp_inside he _).mpr (fun b => ⟨v,?_,hr⟩))
  refine exec_perform.mpr ⟨v,.refl,?_,?_⟩ <;> cases e' <;> cases he' <;> first | rfl | exact .inl rfl

instance mirror_atTimeout : Mirror f g M N atTimeout atTimeout := mirror_inside rfl rfl

instance mirror_wait (ms : Nat) : Mirror f g M N (wait ms) (wait ms) := mirror_inside rfl rfl

instance mirror_flush : Mirror f g M N (act .flush) (act .flush) := mirror_inside rfl rfl

instance mirror_timeout (t : Int) : Mirror f g M N (atSetTimeout t) (atSetTimeout t) := by
  have hset : Mirror f g M N (act (.setAtTimeout t)) (act (.setAtTimeout t)) :=
    mirror_inside rfl rfl
  have hparser : Mirror f g M N (act (.parserTimeout t)) (act (.parserTimeout t)) :=
    mirror_inside rfl rfl
  rw [atSetTimeout,atSetTimeout]
  infer_instance

variable [h : Fact (Twins f g M N)]

instance mirror_lock : Mirror f g M N lock lock := by
  refine mirror_wp (fun w v hr => (Modem.wp_lock _).mpr (fun w' hw => ?_))
  obtain ⟨v',hv,hr'⟩ := h.out.events hr hw
  exact ⟨v',exec_perform.mpr ⟨v',hv,trivial,rfl⟩,hr'⟩

instance mirror_send (c : Cmd) : Mirror f g M N (send c) (send c) := by
  refine mirror_wp (fun w v hr => (Modem.wp_send (S := sig I) c _).mpr (fun b hb => ?_))
  obtain ⟨hb',hnext⟩ := h.out.act _ _ w v b (.send c) hr hb
  exact ⟨_,exec_perform.mpr ⟨v,.refl,.inr hb',rfl⟩,hnext,hr.base,hr.view⟩

instance mirror_recv (p : Pat β) : Mirror f g M N (recv p) (recv p) := by
  refine mirror_wp (fun w v hr => (Modem.wp_recv (S := sig I) p _).mpr (fun w' b hw hb => ?_))
  obtain ⟨v',hv,hr'⟩ := h.out.events hr hw
  obtain ⟨hb',hnext⟩ := h.out.act _ _ w' v' b (.recv p) hr' hb
  exact ⟨_,exec_perform.mpr ⟨v',hv,.inr hb',rfl⟩,hnext,hr'.base,hr'.view⟩

instance mirror_hw (x : Hw) : Mirror f g M N (hw x) (hw x) := by
  refine mirror_wp (fun w v hr => (Modem.wp_hw x _).mpr (fun hb => ?_))
  obtain ⟨hb',hnext⟩ := h.out.act _ _ w v () (.hw x) hr hb
  exact ⟨_,exec_perform.mpr ⟨v,.refl,.inr hb',rfl⟩,hnext,hr.base,hr.view⟩

instance mirror_enter (c : Call) : Mirror f g M N (enter c) (enter c) := by
  refine mirror_wp (fun w v hr => (Modem.wp_enter (S := sig I) c _).mpr (fun hb => ?_))
  obtain ⟨hb',hnext⟩ := h.out.act _ _ w v () (.enter c) hr hb
  exact ⟨_,exec_perform.mpr ⟨v,.refl,.inr hb',rfl⟩,hnext,hr.base,hr.view⟩

instance mirror_recvOk : Mirror f g M N recvOk recvOk := by
  rw [recvOk,recvOk]
  infer_instance

instance mirror_recvUnnatural : Mirror f g M N recvUnnatural recvUnnatural := by
  rw [recvUnnatural,recvUnnatural]
  infer_instance

instance mirror_exchange (c : Cmd) : Mirror f g M N (exchange c) (exchange c) := by
  rw [exchange,exchange]
  infer_instance

instance mirror_exchanges (cs : List Cmd) : Mirror f g M N (exchanges cs) (exchanges cs) := by
  induction cs with
  | nil => exact mirrors_pure true
  | cons c cs ih =>
    rw [exchanges,exchanges]
    infer_instance

instance mirror_ask (c : Cmd) (p : Pat β) : Mirror f g M N (ask c p) (ask c p) := by
  rw [ask,ask]
  infer_instance

instance mirror_locked {p : BaseCode I α} {q : BaseCode J α} [Mirror f g M N p q] :
    Mirror f g M N (locked p) (locked q) := by
  rw [locked,locked]
  infer_instance

instance mirror_timed {t back : Int} {p : BaseCode I α} {q : BaseCode J α}
    [Mirror f g M N p q] : Mirror f g M N (timed t back p) (timed t back q) := by
  rw [timed,timed]
  infer_instance

instance mirror_readInfo (c : Cmd) (p : Pat String) (store : String → DeviceInfo → DeviceInfo) :
    Mirror f g M N (readInfo c p store) (readInfo c p store) := by
  rw [readInfo,readInfo]
  infer_instance

instance mirror_powerUp : Mirror f g M N powerUp powerUp := by
  have htry (t : Int) : Mirror f g M N (powerUpTry t) (powerUpTry t) := by
    rw [powerUpTry,powerUpTry]
    infer_instance
  rw [powerUp,powerUp]
  infer_instance

instance mirror_cpinAnswer (s : String) : Mirror f g M N (cpinAnswer s) (cpinAnswer s) := by
  rw [cpinAnswer,cpinAnswer]
  infer_instance

instance mirror_simTry (s : Bool × Bool) : Mirror f g M N (simTry s) (simTry s) := by
  rw [simTry,simTry]
  infer_instance

instance mirror_initialiseSimCard : Mirror f g M N initialiseSimCard initialiseSimCard := by
  rw [initialiseSimCard,initialiseSimCard]
  infer_instance

instance mirror_initAfterSim : Mirror f g M N initAfterSim initAfterSim := by
  have hidentity : Mirror f g M N setDeviceIdentity setDeviceIdentity := by
    rw [setDeviceIdentity,setDeviceIdentity]
    infer_instance
  have hdevice (dev : DeviceType) : Mirror f g M N (deviceInit dev) (deviceInit dev) := by
    rw [deviceInit,deviceInit]
    infer_instance
  have hsms : Mirror f g M N setSms setSms := by
    rw [setSms,setSms]
    infer_instance
  rw [initAfterSim,initAfterSim]
  simp only [getIccid,getImsi,getImei,getMeid]
  infer_instance

instance mirror_init (pin : Option String) : Mirror f g M N (init pin) (init pin) := by
  rw [init,init]
  infer_instance

instance mirror_nwkRegistration : Mirror f g M N nwkRegistration nwkRegistration := by
  have hurcs : Mirror f g M N enableUrcs enableUrcs := by
    rw [enableUrcs,enableUrcs]
    infer_instance
  rw [nwkRegistration,nwkRegistration]
  infer_instance

instance mirror_simPinCheckEnable (enable : Bool) :
    Mirror f g M N (simPinCheckEnable enable) (simPinCheckEnable enable) := by
  have hlock (on : Bool) (mode : Nat) : Mirror f g M N (simLock on mode) (simLock on mode) := by
    rw [simLock,simLock]
    infer_instance
  rw [simPinCheckEnable,simPinCheckEnable]
  infer_instance

instance mirror_changeSimPin (pin : Option String) :
    Mirror f g M N (changeSimPin pin) (changeSimPin pin) := by
  rw [changeSimPin,changeSimPin]
  infer_instance

end Rules

def recording (M : Modem (sig I) X) : Modem (sig I) (X × List Call) where
  event x d x' d' := M.event x.1 d x'.1 d' ∧ x'.2 = x.2
  allow _ e x d b := M.allow e x.1 d b
  next
    | _, .enter c, x, d, b => (M.next (.enter c) x.1 d b, c :: x.2)
    | _, e, x, d, b => (M.next e x.1 d b, x.2)

def unrecorded (w : Station (sig I) (X × List Call)) : Station (sig I) X := ⟨w.driver,w.modem.1⟩

theorem recorded_events {N : Modem (sig J) X} {v : Station (sig J) (X × List Call)}
    {v' : Station (sig J) X} (h : N.Events (unrecorded v) v') :
    (recording N).Events v ⟨v'.driver,v'.modem,v.modem.2⟩ := by
  induction h with
  | refl => exact .refl
  | tail _ he ih => exact ih.tail ⟨he,rfl⟩

theorem Twins.recording {f : I → P} {g : J → P} {M : Modem (sig I) X} {N : Modem (sig J) X}
    (h : Twins f g M N) : Twins f g (recording M) (recording N) where
  event u v u' hr he := by
    obtain ⟨he,hcalls⟩ := he
    have hr' : Alike f g (unrecorded u) (unrecorded v) :=
      ⟨congrArg Prod.fst hr.modem,hr.base,hr.view⟩
    obtain ⟨v',hv,hend⟩ := h.event _ _ (unrecorded u') hr' he
    refine ⟨_,recorded_events hv,Prod.ext hend.modem ?_,hend.base,hend.view⟩
    exact (congrArg Prod.snd hr.modem).trans hcalls.symm
  act _ e e' u v b hp hr hb := by
    have hr' : Alike f g (unrecorded u) (unrecorded v) :=
      ⟨congrArg Prod.fst hr.modem,hr.base,hr.view⟩
    obtain ⟨hb',hnext⟩ := h.act e e' _ _ b hp hr' hb
    refine ⟨hb',?_⟩
    have hcalls := congrArg Prod.snd hr.modem
    cases hp with
    | enter c => exact Prod.ext hnext (congrArg (List.cons c) hcalls)
    | _ => exact Prod.ext hnext hcalls

structure SimActions where
  simPinCheckChangePending : Bool
  simPinCheckChangePendingEnabledValue : Bool
  simPinChangePending : Bool
  simPinChangePendingNewPinValue : Option String
  deriving DecidableEq, Repr

structure SimView (I : Type) where
  actions : I → SimActions
  checked : I → I
  changed : I → I
  actions_checked : ∀ i, actions (checked i) =
    { actions i with simPinCheckChangePending := false }
  actions_changed : ∀ i, actions (changed i) = { actions i with simPinChangePending := false }

namespace SimView

def look (V : SimView I) : BaseCode I SimActions := do
  let d ← get
  return V.actions d.iface

def pendingSimActions (V : SimView I) : BaseCode I Bool := do
  let a ← V.look
  let ok ← if a.simPinCheckChangePending then do
      let done ← simPinCheckEnable a.simPinCheckChangePendingEnabledValue
      modify (Driver.onIface V.checked)
      pure done
    else pure true
  let a ← V.look
  if a.simPinChangePending then
    let done ← changeSimPin a.simPinChangePendingNewPinValue
    modify (Driver.onIface V.changed)
    return done && ok
  else return ok

def registration (V : SimView I) : BaseCode I (Except Int Unit) := do
  if ← init none then
    if ← V.pendingSimActions then
      let registered ← Prog.upTo id (fun _ => nwkRegistration) 3 false
      return if registered then .ok () else .error NsapiError.noConnection
    else return .error NsapiError.authFailure
  else return .error NsapiError.deviceError

section Mirror
variable {V : SimView I} {V' : SimView J} {M : Modem (sig I) X} {N : Modem (sig J) X}

instance mirror_look : Mirror V.actions V'.actions M N V.look V'.look := by
  refine ⟨fun w v hr a w' hx => ?_⟩
  obtain ⟨d,u,hget,hret⟩ := exec_bind.mp hx
  obtain ⟨rfl,rfl⟩ := runs_get.mp hget
  obtain ⟨rfl,rfl⟩ := exec_pure.mp hret
  exact ⟨v,exec_bind.mpr ⟨v.driver,v,runs_get.mpr ⟨rfl,rfl⟩,exec_pure.mpr ⟨hr.view.symm,rfl⟩⟩,hr⟩

instance mirror_checked : Mirror V.actions V'.actions M N
    (modify (Driver.onIface V.checked)) (modify (Driver.onIface V'.checked)) := by
  refine mirror_modify (fun d d' hbase hview => ⟨hbase,?_⟩)
  change V'.actions (V'.checked d'.iface) = V.actions (V.checked d.iface)
  rw [V.actions_checked,V'.actions_checked,hview]

instance mirror_changed : Mirror V.actions V'.actions M N
    (modify (Driver.onIface V.changed)) (modify (Driver.onIface V'.changed)) := by
  refine mirror_modify (fun d d' hbase hview => ⟨hbase,?_⟩)
  change V'.actions (V'.changed d'.iface) = V.actions (V.changed d.iface)
  rw [V.actions_changed,V'.actions_changed,hview]

instance mirror_registration [Fact (Twins V.actions V'.actions M N)] :
    Mirror V.actions V'.actions M N V.registration V'.registration := by
  have hpending : Mirror V.actions V'.actions M N V.pendingSimActions V'.pendingSimActions := by
    rw [pendingSimActions,pendingSimActions]
    infer_instance
  rw [registration,registration]
  infer_instance

end Mirror

end SimView

end UbloxCellular.Gsm
