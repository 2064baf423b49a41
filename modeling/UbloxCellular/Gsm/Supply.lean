import UbloxCellular.Gsm.Wired
import UbloxCellular.Gsm.Dialling

set_option synthInstance.maxSize 8192

namespace UbloxCellular.Gsm
open Interaction Code

-- What the modem has been switched to, and the commands sent while it could not hear them.
structure Supply where
  serial : Bool
  powered : Bool
  stray : List Cmd
  deriving DecidableEq, Repr

namespace Supply

def off : Supply := ⟨false,false,[]⟩

def hears (x : Supply) : Bool := x.serial && x.powered

def send (x : Supply) (c : Cmd) : Supply := if x.hears then x else { x with stray := c :: x.stray }

def set (x : Supply) : Hw → Supply
  | .modemInit => { x with serial := true }
  | .modemPowerUp => { x with powered := true }
  | .modemPowerDown => { x with powered := false }
  | .modemDeinit => { x with serial := false }
  | .setBaud _ => x

variable {x : Supply}

theorem send_heard (h : x.hears = true) (c : Cmd) : x.send c = x := if_pos h

theorem set_heard (h : x.hears = true) {k : Hw} (hd : k ≠ .modemPowerDown)
    (hs : k ≠ .modemDeinit) : x.set k = x := by
  obtain ⟨serial,powered,stray⟩ := x
  obtain ⟨rfl,rfl⟩ := Bool.and_eq_true_iff.mp h
  cases k with
  | modemPowerDown => exact absurd rfl hd
  | modemDeinit => exact absurd rfl hs
  | _ => rfl

end Supply

def supplyModem : Modem (sig AtInterface) Supply where
  event x d x' d' := x' = x ∧ ∃ u : Urc, d' = u.handle d
  allow _ _ _ _ _ := True
  next
    | _, .send c, x, _, _ => x.send c
    | _, .hw h, x, _, _ => x.set h
    | _, _, x, _, _ => x

abbrev SupplyStation := Station (sig AtInterface) Supply

namespace SupplyStation

variable {w v : SupplyStation}

def initialised (w : SupplyStation) : Bool := w.driver.base.modemInitialised

structure Unmoved (w v : SupplyStation) : Prop where
  modem : v.modem = w.modem
  initialised : initialised v = initialised w

theorem event_unmoved (h : supplyModem.event w.modem w.driver v.modem v.driver) : Unmoved w v := by
  obtain ⟨hm,u,hd⟩ := h
  refine ⟨hm,?_⟩
  rw [initialised,hd]
  cases u <;> rfl

def quiet : supplyModem.Kept where
  pre _ := True
  rel := Unmoved
  refl _ := ⟨rfl,rfl⟩
  trans _ _ _ h k := ⟨k.modem.trans h.modem,k.initialised.trans h.initialised⟩
  keep _ _ _ _ := trivial
  event _ _ _ := event_unmoved

theorem events_unmoved (h : supplyModem.Events w v) : Unmoved w v := quiet.events w v trivial h

section Quiet
variable {β : Type}

instance : quiet.frame.Keeps (lock : AtCode Unit) := Modem.Kept.keeps_lock
instance : quiet.frame.Keeps (unlock : AtCode Unit) := Modem.Kept.keeps_unlock
instance (p : Pat β) : quiet.frame.Keeps (recv p : AtCode (Option β)) :=
  Modem.Kept.keeps_still rfl (fun _ _ _ => rfl)
instance (e : Eff (sig AtInterface) β) [h : Fact (e.inside = true)] : quiet.frame.Keeps (act e) :=
  ⟨fun _ _ => (Modem.wp_inside h.out _).mpr (fun _ => ⟨rfl,rfl⟩)⟩
instance : quiet.frame.Keeps (get : AtCode (Driver AtInterface)) :=
  ⟨fun _ _ => (wp_get _).mpr ⟨rfl,rfl⟩⟩
instance (f : AtInterface → AtInterface) : quiet.frame.Keeps (modify (Driver.onIface f)) :=
  Modem.Kept.keeps_modify (fun _ _ => ⟨rfl,rfl⟩)
instance (f : Credentials → Credentials) : quiet.frame.Keeps (modify (Driver.onCred f)) :=
  Modem.Kept.keeps_modify (fun _ _ => ⟨rfl,rfl⟩)
instance (f : Sockets → Sockets) : quiet.frame.Keeps (modify (Driver.onSockets f)) :=
  Modem.Kept.keeps_modify (fun _ _ => ⟨rfl,rfl⟩)
instance (pin : Option String) : quiet.frame.Keeps (modify (Driver.onBase (fun b =>
    { b with pin := pin })) : AtCode Unit) := Modem.Kept.keeps_modify (fun _ _ => ⟨rfl,rfl⟩)

instance : quiet.frame.Keeps (Code.handleEvent : AtCode Unit) := by
  simp only [Code.handleEvent,locked,timed,atSetTimeout,atTimeout]
  infer_instance

instance (pin : Option String) : quiet.frame.Keeps (givePin pin) := by
  rw [givePin]
  infer_instance

end Quiet

def served : supplyModem.Kept where
  pre w := w.modem.hears = true
  rel w v := v.modem = w.modem
  refl _ := rfl
  trans _ _ _ h k := k.trans h
  keep _ _ h hu := by
    rw [h]
    exact hu
  event _ _ _ h := h.1

instance (f : Driver AtInterface → Driver AtInterface) : served.frame.Keeps (modify f) :=
  Modem.Kept.keeps_modify (fun _ _ => rfl)

instance : Wired served.frame where
  lock := Modem.Kept.keeps_lock
  unlock := Modem.Kept.keeps_unlock
  act e hm ho := by
    refine Modem.Kept.keeps_act hm (fun w b hw _ => ?_)
    cases e with
    | send c => exact Supply.send_heard hw c
    | hw h => exact Supply.set_heard hw (by rintro rfl; cases ho) (by rintro rfl; cases ho)
    | _ => rfl
  iface _ := inferInstance
  base _ _ := inferInstance

instance (c : Cmd) (p : Pat String) (store : String → DeviceInfo → DeviceInfo) :
    served.frame.Keeps (readInfo c p store) := by
  simp only [readInfo]
  infer_instance

instance : served.frame.Keeps (initAfterSim : AtCode Bool) := by
  simp only [initAfterSim,setDeviceIdentity,getIccid,getImsi,getImei,getMeid]
  infer_instance

theorem served_run {α : Type} {p : AtCode α} [hp : served.frame.Keeps p]
    {Q : α → SupplyStation → Prop} (hw : w.modem.hears = true)
    (hq : ∀ a v, v.modem = w.modem → Q a v) : wp supplyModem.spec p Q w :=
  wp_mono supplyModem.mono hq (hp.run w hw)

structure Woken (w v : SupplyStation) : Prop where
  hears : v.modem.hears = true
  stray : v.modem.stray = w.modem.stray

theorem Woken.later {u : SupplyStation} (h : Woken w u) (k : v.modem = u.modem) : Woken w v :=
  ⟨k ▸ h.hears,k ▸ h.stray⟩

theorem powerUpTry_woken (t : Int) (h : w.modem.serial = true) :
    wp supplyModem.spec (powerUpTry t) (fun _ => Woken w) w := by
  simp only [powerUpTry]
  rw [wp_bind,Modem.wp_hw]
  intro _
  have hwoken : Woken w { w with modem := { w.modem with powered := true } } :=
    ⟨Bool.and_eq_true_iff.mpr ⟨h,rfl⟩,rfl⟩
  exact served_run hwoken.hears (fun _ _ hv => hwoken.later hv)

theorem powerUp_woken : wp supplyModem.spec powerUp (fun _ => Woken w) w := by
  simp only [powerUp,wp_bind,Modem.wp_locked,Modem.wp_atTimeout,Modem.wp_hw,Modem.wp_wait]
  intro u hu timeout _
  have htries : Prog.upTo id (fun _ => powerUpTry timeout) 20 false =
      (powerUpTry timeout >>= Prog.upTo id (fun _ => powerUpTry timeout) 19 : AtCode Bool) := rfl
  rw [htries,wp_bind]
  refine wp_mono supplyModem.mono (fun b v hv => ?_) (powerUpTry_woken timeout rfl)
  have hstray : ({ u.modem with serial := true } : Supply).stray = w.modem.stray := by
    rw [(events_unmoved hu).modem]
  have hwoken : Woken w v := ⟨hv.hears,hv.stray.trans hstray⟩
  refine served_run hv.hears (fun success v' hv' => ?_)
  have hlater := hwoken.later hv'
  exact served_run hlater.hears (fun _ _ h => hlater.later h)

structure Powered (w : SupplyStation) : Prop where
  hears : initialised w = true → w.modem.hears = true
  stray : w.modem.stray = []

theorem Powered.unmoved (h : Powered w) (k : Unmoved w v) : Powered v where
  hears hi := by
    rw [k.modem]
    exact h.hears (k.initialised ▸ hi)
  stray := k.modem ▸ h.stray

theorem Powered.woken (h : Powered w) (k : Woken w v) : Powered v :=
  ⟨fun _ => k.hears,k.stray.trans h.stray⟩

theorem powered_run {α : Type} {p : AtCode α} [served.frame.Keeps p] (h : Powered w)
    (hw : w.modem.hears = true) :
    wp supplyModem.spec p (fun _ v => Powered v ∧ v.modem.hears = true) w :=
  served_run hw (fun _ _ hv => ⟨⟨fun _ => hv ▸ hw,hv ▸ h.stray⟩,hv ▸ hw⟩)

theorem init_powered (pin : Option String) (h : Powered w) :
    wp supplyModem.spec (init pin : AtCode Bool) (fun _ => Powered) w := by
  rw [init,wp_bind,Modem.wp_enter]
  intro _
  rw [wp_bind,wp_get]
  split
  · exact h
  · refine wp_seq supplyModem.mono powerUp_woken (fun b v hv => ?_)
    have hpowered := h.woken hv
    split
    · refine wp_mono supplyModem.mono (fun _ _ hu => hu.1) (powered_run hpowered hv.hears)
    · exact (wp_bind _ _ _ _).mpr ((wp_get _).mpr hpowered)

theorem init_reports (pin : Option String) (w : SupplyStation) :
    wp supplyModem.spec (init pin : AtCode Bool) (fun b v => b = true → initialised v = true) w := by
  simp only [init,wp_bind,Modem.wp_enter,wp_get,wp_ite,wp_pure,Modem.wp_modify]
  intro _
  split
  · rename_i hi
    exact fun _ => hi
  · refine wp_always (fun powered v => ?_) w
    cases powered with
    | false => exact id
    | true =>
      rw [if_pos rfl]
      split
      all_goals
        refine wp_always (fun found u => ?_) _
        cases found with
        | false => exact id
        | true =>
          refine wp_always (fun read u' => ?_) u
          cases read <;> exact id

theorem init_then {α : Type} {pin : Option String} {f : Bool → AtCode α} (h : Powered w)
    [served.frame.Keeps (f true)]
    (hf : ∀ v, Powered v → wp supplyModem.spec (f false) (fun _ => Powered) v) :
    wp supplyModem.spec (init pin >>= f) (fun _ => Powered) w := by
  have hinit := Handler.wp_and (init_powered pin h) (init_reports pin w)
  refine wp_seq supplyModem.mono hinit (fun b v hv => ?_)
  cases b with
  | false => exact hf v hv.1
  | true =>
    exact wp_mono supplyModem.mono (fun _ _ hu => hu.1)
      (powered_run hv.1 (hv.1.hears (hv.2 rfl)))

theorem connect_powered (h : Powered w) : wp supplyModem.spec connect (fun _ => Powered) w := by
  rw [connect]
  refine init_then h (fun v hv => ?_)
  exact hv

theorem immediately_powered {action : AtCode Bool} [served.frame.Keeps action] (h : Powered w) :
    wp supplyModem.spec (immediately action) (fun _ => Powered) w := by
  rw [immediately]
  exact init_then h (fun v hv => hv)

theorem quiet_run {α : Type} {p : AtCode α} [hp : quiet.frame.Keeps p] (h : Powered w) :
    wp supplyModem.spec p (fun _ => Powered) w :=
  wp_mono supplyModem.mono (fun _ _ hv => h.unmoved hv) (hp.run w trivial)

theorem connectWith_powered {simPin apn uname pwd : Option String} (h : Powered w) :
    wp supplyModem.spec (connectWith simPin apn uname pwd) (fun _ => Powered) w := by
  rw [connectWith]
  refine wp_seq supplyModem.mono (quiet_run h) (fun _ u hu => ?_)
  exact wp_seq supplyModem.mono (quiet_run hu) (fun _ v hv => connect_powered hv)

theorem setSimPinCheck_powered {set immediate : Bool} {simPin : Option String} (h : Powered w) :
    wp supplyModem.spec (setSimPinCheck set immediate simPin) (fun _ => Powered) w := by
  rw [setSimPinCheck]
  refine wp_seq supplyModem.mono (quiet_run h) (fun _ u hu => ?_)
  split
  · exact immediately_powered hu
  · exact quiet_run hu

theorem setNewSimPin_powered {newPin : Option String} {immediate : Bool} {oldPin : Option String}
    (h : Powered w) :
    wp supplyModem.spec (setNewSimPin newPin immediate oldPin) (fun _ => Powered) w := by
  rw [setNewSimPin]
  refine wp_seq supplyModem.mono (quiet_run h) (fun _ u hu => ?_)
  split
  · exact immediately_powered hu
  · exact quiet_run hu

structure Off (v : SupplyStation) : Prop where
  serial : v.modem.serial = false
  powered : v.modem.powered = false
  stray : v.modem.stray = []
  registered : v.driver.base.isRegistered = false

theorem switchOff_off (h : w.modem.stray = []) :
    wp supplyModem.spec (do
      hw .modemPowerDown
      hw .modemDeinit
      modify (Driver.onInfo DeviceInfo.notRegistered) : AtCode Unit) (fun _ => Off) w := by
  simp only [wp_bind,Modem.wp_hw,Modem.wp_modify]
  exact fun _ _ => ⟨rfl,rfl,h,rfl⟩

theorem powerDown_off (h : Powered w) :
    wp supplyModem.spec (powerDown : AtCode Unit) (fun _ => Off) w := by
  rw [powerDown,Modem.wp_locked]
  intro v hv
  have hpowered := h.unmoved (events_unmoved hv)
  rw [wp_bind,wp_get]
  split
  · rename_i hi
    refine wp_seq supplyModem.mono (powered_run hpowered (hpowered.hears hi)) (fun b u hu => ?_)
    exact switchOff_off hu.1.stray
  · exact switchOff_off hpowered.stray

theorem deinit_off (h : Powered w) : wp supplyModem.spec (deinit : AtCode Unit)
    (fun _ v => Off v ∧ initialised v = false) w := by
  rw [deinit]
  refine wp_seq supplyModem.mono (powerDown_off h) (fun _ v hv => ?_)
  exact (Modem.wp_modify _ _).mpr ⟨⟨hv.serial,hv.powered,hv.stray,hv.registered⟩,rfl⟩

end SupplyStation

def Operation.standalone : Operation → Bool
  | .handleEvent => true
  | .init _ => true
  | .isRegistered => true
  | .deinit => true
  | .setPin _ => true
  | .socketAttach _ _ _ => true
  | .unsupported => true
  | .setAuthentication _ => true
  | .setCredentials _ _ _ => true
  | .connect => true
  | .connectWith _ _ _ _ => true
  | .setSimPinCheck _ _ _ => true
  | .setNewSimPin _ _ _ => true
  | _ => false

namespace SupplyStation

variable {w v : SupplyStation}

theorem operation_powered (o : Operation) (h : Powered w)
    (ho : o.standalone = true ∨ initialised w = true) :
    wp supplyModem.spec o.code (fun _ => Powered) w := by
  have hserved (p : AtCode Unit) [served.frame.Keeps p] (hs : o.standalone = false) :
      wp supplyModem.spec p (fun _ => Powered) w :=
    wp_mono supplyModem.mono (fun _ _ hu => hu.1)
      (powered_run h (h.hears (ho.resolve_left (by rw [hs]; exact Bool.false_ne_true))))
  cases o with
  | handleEvent => exact quiet_run (p := Code.handleEvent) h
  | init pin => exact (Modem.wp_void _ _).mpr (init_powered pin h)
  | isRegistered => exact quiet_run (p := void get) h
  | deinit =>
    refine wp_mono supplyModem.mono (fun _ v hv => ?_) (deinit_off h)
    exact ⟨fun hi => absurd hi (by rw [hv.2]; exact Bool.false_ne_true),hv.1.stray⟩
  | setPin pin => exact quiet_run (p := modify _) h
  | socketAttach x a b => exact quiet_run (p := modify (Driver.onSockets _)) h
  | unsupported => exact h
  | setAuthentication auth => exact quiet_run (p := modify (Driver.onIface _)) h
  | setCredentials a u p => exact quiet_run (p := modify (Driver.onCred _)) h
  | connect => exact (Modem.wp_void _ _).mpr (connect_powered h)
  | connectWith s a u p => exact (Modem.wp_void _ _).mpr (connectWith_powered h)
  | setSimPinCheck b i p => exact (Modem.wp_void _ _).mpr (setSimPinCheck_powered h)
  | setNewSimPin n i p => exact (Modem.wp_void _ _).mpr (setNewSimPin_powered h)
  | _ =>
    simp only [Operation.code]
    exact hserved _ rfl

abbrev Allowed (w : SupplyStation) (o : Operation) : Prop :=
  o.standalone = true ∨ initialised w = true

def start (baud : Int) : SupplyStation := ⟨⟨.initial baud,.initial⟩,.off⟩

theorem never_stray {baud : Int} (hw : supplyModem.Reached Operation.code Allowed (start baud) w) :
    w.modem.stray = [] ∧ (initialised w = true → w.modem.serial = true ∧ w.modem.powered = true) := by
  have h : Powered w := hw.keeps ⟨by rintro ⟨⟩,rfl⟩ (fun u o hu ho => operation_powered o hu ho)
    (fun u v hu he => hu.unmoved (event_unmoved he))
  exact ⟨h.stray,fun hi => Bool.and_eq_true_iff.mp (h.hears hi)⟩

theorem never_stray_started : ∃ w, supplyModem.Reached Operation.code Allowed (start 115200) w ∧
    initialised w = true ∧ w.modem.stray = [] ∧
    (initialised w = true → w.modem.serial = true ∧ w.modem.powered = true) := by
  have hfair : (refusing AtInterface Supply none).Fair supplyModem :=
    refusing_fair (fun _ _ _ _ _ => trivial) (fun _ _ => ⟨rfl,.creg 1,rfl⟩)
  have hrun : ((Operation.init none).code.run
      (supplyModem.machine.play (refusing AtInterface Supply none).script) 0
      (start 115200)).map (fun r => initialised r.2) = some true := by decide +kernel
  obtain ⟨⟨_,w⟩,hr,hi⟩ := Option.map_eq_some_iff.mp hrun
  have hreached : supplyModem.Reached Operation.code Allowed (start 115200) w :=
    .call (.init none) .start (.inl rfl) (hfair.runs hr)
  exact ⟨w,hreached,hi,never_stray hreached⟩

end SupplyStation

end UbloxCellular.Gsm
