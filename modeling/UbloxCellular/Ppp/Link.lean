import UbloxCellular.Gsm.Frames
import UbloxCellular.Ppp.Interface

namespace UbloxCellular.Ppp
open Interaction Code
open Gsm

-- The PPP stack: whether the link is up, whether a drop was reported since it last came up,
-- whether nsapi_ppp_disconnect has returned NSAPI_ERROR_OK since that drop, and how often
-- connect() has got past its guard.
structure Stack where
  up : Bool
  reported : Bool
  released : Bool
  tries : Nat
  deriving DecidableEq, Repr

namespace Stack

def down : Stack := ⟨false,false,false,0⟩

def connected (x : Stack) (error : Int) : Stack :=
  if error = NsapiError.ok then ⟨true,false,false,x.tries⟩ else x

def disconnected (x : Stack) (error : Int) : Stack :=
  if error = NsapiError.ok then { x with up := false, released := true } else x

def dropped (x : Stack) : Stack := ⟨false,true,false,x.tries⟩

-- What the flag must be for a driver that is never told of a drop.
def believed (x : Stack) : Bool := x.up || (x.reported && !x.released)

end Stack

def linkModem : Modem (sig PppInterface) Stack where
  event x d x' d' := (x' = x ∧ ∃ u : Urc, d' = u.handle d) ∨
    (x.up = true ∧ x' = x.dropped ∧ d' = d)
  allow _ _ _ _ _ := True
  next
    | _, .pppConnect _ _ _, x, _, b => x.connected b
    | _, .pppDisconnect, x, _, b => x.disconnected b
    | _, .enter .init, x, _, _ => { x with tries := x.tries + 1 }
    | _, _, x, _, _ => x

abbrev LinkStation := Station (sig PppInterface) Stack

namespace LinkStation

def flag (w : LinkStation) : Bool := w.driver.iface.pppConnectionUp

structure Consistent (w : LinkStation) : Prop where
  flag : w.flag = w.modem.believed
  fresh : w.modem.up = true → w.modem.reported = false

structure Quiet (w w' : LinkStation) : Prop where
  flag : w'.flag = w.flag
  tries : w.modem.tries ≤ w'.modem.tries
  sound : w.Consistent → w'.Consistent

theorem Quiet.refl (w : LinkStation) : Quiet w w := ⟨rfl,Nat.le_refl _,id⟩

theorem Quiet.trans {u v w : LinkStation} (h : Quiet u v) (k : Quiet v w) : Quiet u w :=
  ⟨k.flag.trans h.flag,Nat.le_trans h.tries k.tries,k.sound ∘ h.sound⟩

theorem quiet_driver {w : LinkStation} {d : PppDriver}
    (hd : d.iface.pppConnectionUp = w.flag) : Quiet w { w with driver := d } :=
  ⟨hd,Nat.le_refl _,fun h => ⟨hd.trans h.flag,h.fresh⟩⟩

theorem quiet_tried (w : LinkStation) :
    Quiet w { w with modem := { w.modem with tries := w.modem.tries + 1 } } :=
  ⟨rfl,Nat.le_succ _,fun h => ⟨h.flag,h.fresh⟩⟩

theorem event_quiet {u v : LinkStation}
    (h : linkModem.event u.modem u.driver v.modem v.driver) : Quiet u v := by
  obtain ⟨du,xu⟩ := u
  obtain ⟨dv,xv⟩ := v
  rcases h with ⟨hx,r,hd⟩ | ⟨hup,hx,hd⟩
  · cases hx
    cases hd
    refine quiet_driver ?_
    change (r.handle du).iface.pppConnectionUp = du.iface.pppConnectionUp
    rw [Urc.handle_iface]
  · cases hx
    cases hd
    change xu.up = true at hup
    refine ⟨rfl,Nat.le_refl _,fun h => ⟨?_,by rintro ⟨⟩⟩⟩
    have hflag := h.flag
    change du.iface.pppConnectionUp = (xu.up || _) at hflag
    rw [hup] at hflag
    exact hflag

def quiet : linkModem.Kept where
  pre _ := True
  rel := Quiet
  refl := Quiet.refl
  trans _ _ _ := Quiet.trans
  keep _ _ _ _ := trivial
  event _ _ _ := event_quiet

instance : Ordinary quiet.frame := by
  apply ordinary_kept
  · intro β e w b he _ _
    cases e with
    | enter c => cases he
    | pppConnect => cases he
    | pppDisconnect => cases he
    | _ => exact Quiet.refl w
  · intro c w b _ _ _
    exact Quiet.refl w
  · intro h w b _ _ _
    exact Quiet.refl w
  · intro f w _
    exact quiet_driver rfl

theorem keeps_iface {f : PppInterface → PppInterface}
    (hf : ∀ i, (f i).pppConnectionUp = i.pppConnectionUp) :
    quiet.frame.Keeps (modify (Driver.onIface f)) :=
  Modem.Kept.keeps_modify (fun w _ => quiet_driver (hf w.driver.iface))

theorem keeps_send (c : Cmd) : quiet.frame.Keeps (send c : PppCode Bool) :=
  Modem.Kept.keeps_act rfl (fun w _ _ _ => Quiet.refl w)

theorem keeps_recv {β : Type} (p : Pat β) : quiet.frame.Keeps (recv p : PppCode (Option β)) :=
  Modem.Kept.keeps_act rfl (fun w _ _ _ => Quiet.refl w)

instance : Basal quiet.frame where
  sim c _ := keeps_send c
  cpin := keeps_recv .cpin
  power := Modem.Kept.keeps_act rfl (fun w _ _ _ => Quiet.refl w)
  base _ := Modem.Kept.keeps_modify (fun _ _ => quiet_driver rfl)
  enter c _ := Modem.Kept.keeps_act rfl (fun w _ _ _ => by
    cases c with
    | init => exact quiet_tried w
    | _ => exact Quiet.refl w)

section Keeps

instance keeps_cgdcont (cid : Int) (apn : String) :
    quiet.frame.Keeps (send (.cgdcont cid apn) : PppCode Bool) := keeps_send _
instance keeps_atd : quiet.frame.Keeps (send .atd : PppCode Bool) := keeps_send _
instance keeps_escape : quiet.frame.Keeps (send .escape : PppCode Bool) := keeps_send _
instance keeps_connect : quiet.frame.Keeps (recv .connect : PppCode (Option Unit)) := keeps_recv _
instance keeps_noCarrier : quiet.frame.Keeps (recv .noCarrier : PppCode (Option Unit)) :=
  keeps_recv _
instance keeps_setCred (f : Credentials → Credentials) :
    quiet.frame.Keeps (modify (Driver.onIface (setCred f))) := keeps_iface (fun _ => rfl)
instance keeps_apnconfig (imsi : String) :
    quiet.frame.Keeps (act (.apnconfig imsi) : PppCode (Option (List String))) :=
  Modem.Kept.keeps_act rfl (fun w _ _ _ => Quiet.refl w)

instance : quiet.frame.Keeps setupContextAndCredentials := by
  rw [setupContextAndCredentials]
  infer_instance

instance : quiet.frame.Keeps setAtd := by
  rw [setAtd]
  infer_instance

instance : quiet.frame.Keeps commandMode := by
  rw [commandMode]
  infer_instance

instance (config : Option (List String)) : quiet.frame.Keeps (getNextCredentials config) := by
  rw [getNextCredentials]
  infer_instance

set_option synthInstance.maxSize 8192 in
instance (error : Int) : quiet.frame.Keeps (pendingSimActions error) := by
  have hcheck : quiet.frame.Keeps (modify (Driver.onIface
      (fun i : PppInterface => { i with simPinCheckChangePending := false }))) :=
    keeps_iface (fun _ => rfl)
  have hpin : quiet.frame.Keeps (modify (Driver.onIface
      (fun i : PppInterface => { i with simPinChangePending := false }))) :=
    keeps_iface (fun _ => rfl)
  rw [pendingSimActions]
  infer_instance

instance (pin : Option String) : quiet.frame.Keeps (givePin pin) := by
  rw [givePin]
  infer_instance

instance (action : PppCode Bool) [quiet.frame.Keeps action] :
    quiet.frame.Keeps (immediately action) := by
  rw [immediately]
  infer_instance

end Keeps

theorem quiet_run {α : Type} {p : PppCode α} [hp : quiet.frame.Keeps p]
    {Q : α → LinkStation → Prop} {w : LinkStation} (hq : ∀ a w', Quiet w w' → Q a w') :
    wp linkModem.spec p Q w := wp_mono linkModem.mono hq (hp.run w trivial)

structure Sound (tries : Nat) (w : LinkStation) : Prop where
  consistent : w.Consistent
  tries : tries ≤ w.modem.tries

theorem Sound.quiet {n : Nat} {w w' : LinkStation} (h : Sound n w) (hq : Quiet w w') :
    Sound n w' := ⟨hq.sound h.consistent,Nat.le_trans h.tries hq.tries⟩

theorem pppConnect_sound {n : Nat} {w : LinkStation} (hw : Sound n w) (hflag : w.flag = false) :
    wp linkModem.spec pppConnect (fun _ => Sound n) w := by
  rw [pppConnect,wp_bind,Modem.wp_wait,wp_bind,wp_get,wp_bind,Modem.wp_asks rfl]
  intro error _
  rw [wp_bind,Modem.wp_modify]
  by_cases he : error = NsapiError.ok
  · simp only [he,ne_eq,not_true,if_false,wp_pure]
    exact ⟨⟨rfl,fun _ => rfl⟩,hw.tries⟩
  · simp only [he,ne_eq,not_false_eq_true,if_true,wp_bind,wp_pure]
    refine quiet_run (fun _ u hu => Sound.quiet ?_ hu)
    have hsame : linkModem.next (Eff.pppConnect w.driver.iface.connectionStatusCb
        w.driver.iface.cred.uname w.driver.iface.cred.pwd) w.modem w.driver error = w.modem :=
      if_neg he
    rw [hsame]
    exact hw.quiet (quiet_driver hflag.symm)

theorem connectOnce_sound {n : Nat} {w : LinkStation} (hw : Sound n w) (hflag : w.flag = false)
    (config : Option (List String)) :
    wp linkModem.spec (connectOnce config) (fun _ => Sound n) w := by
  rw [connectOnce,wp_bind]
  refine quiet_run (fun config u hu => ?_)
  rw [wp_bind]
  refine quiet_run (fun error v hv => ?_)
  have huv := hu.trans hv
  rw [wp_ite]
  split
  · rw [wp_bind]
    refine quiet_run (fun ok x hx => ?_)
    have hx := huv.trans hx
    rw [wp_ite]
    split
    · rw [wp_bind]
      exact wp_mono linkModem.mono (fun _ _ h => h)
        (pppConnect_sound (hw.quiet hx) (hx.flag.trans hflag))
    · exact hw.quiet hx
  · exact hw.quiet huv

theorem connectLoop_sound {n : Nat} {w : LinkStation} (hw : Sound n w) (hflag : w.flag = false)
    (config : Option (List String)) :
    wp linkModem.spec (connectLoop config) (fun _ => Sound n) w := by
  refine wp_iterate (fun _ (u : LinkStation) => Sound n u ∧ u.flag = false) ⟨hw,hflag⟩ (fun config u hu => ?_)
  refine wp_seq linkModem.mono (connectOnce_sound hu.1 hu.2 config) (fun r v hv => ?_)
  rw [wp_bind,wp_get,wp_pure]
  split
  · rename_i hmore
    exact ⟨hv,(Bool.not_eq_true' _).mp (Bool.and_eq_true_iff.mp hmore).1⟩
  · exact hv

set_option synthInstance.maxSize 8192 in
theorem init_tried (pin : Option String) {w : LinkStation} :
    wp linkModem.spec (Gsm.init pin)
      (fun _ w' => Quiet w w' ∧ w.modem.tries + 1 ≤ w'.modem.tries) w := by
  rw [Gsm.init,wp_bind,Modem.wp_enter]
  intro _
  exact quiet_run (fun _ u hu => ⟨(quiet_tried w).trans hu,hu.tries⟩)

theorem connect_sound {w : LinkStation} (hw : w.Consistent) :
    wp linkModem.spec connect
      (fun _ => Sound (w.modem.tries + if w.flag then 0 else 1)) w := by
  rw [connect,wp_bind,wp_get,wp_ite]
  cases hflag : w.flag with
  | true =>
    have hflag' : w.driver.iface.pppConnectionUp = true := hflag
    rw [if_pos hflag',wp_pure]
    exact ⟨hw,Nat.le_refl _⟩
  | false =>
    have hflag' : w.driver.iface.pppConnectionUp = false := hflag
    rw [hflag',if_neg Bool.false_ne_true,if_neg Bool.false_ne_true,wp_bind,register]
    refine wp_seq linkModem.mono (init_tried none) (fun ready u hu => ?_)
    obtain ⟨hu,htries⟩ := hu
    have hsound : Sound (w.modem.tries + 1) u := ⟨hu.sound hw,htries⟩
    refine quiet_run (fun error v hv => ?_)
    have hsv := hsound.quiet hv
    have hflagv : v.flag = false := (hu.trans hv).flag.trans hflag
    rw [wp_ite]
    split
    · simp only [dial,wp_bind,wp_get,wp_ite,wp_pure]
      split
      · refine quiet_run (fun config x hx => ?_)
        exact connectLoop_sound (hsv.quiet hx) (hx.flag.trans hflagv) config
      · exact connectLoop_sound hsv hflagv none
    · exact hsv

theorem disconnect_sound {w : LinkStation} (hw : w.Consistent) :
    wp linkModem.spec disconnect (fun _ => Consistent) w := by
  rw [disconnect,wp_bind,Modem.wp_asks rfl]
  intro error _
  by_cases he : error = NsapiError.ok
  · rw [if_pos he,wp_bind,Modem.wp_modify]
    refine quiet_run (fun _ u hu => hu.sound ⟨?_,?_⟩)
    · change false = (w.modem.disconnected error).believed
      rw [Stack.disconnected,if_pos he]
      simp [Stack.believed]
    · change (w.modem.disconnected error).up = true → _
      rw [Stack.disconnected,if_pos he]
      rintro ⟨⟩
  · have hsame : linkModem.next Eff.pppDisconnect w.modem w.driver error = w.modem := if_neg he
    rw [if_neg he,wp_pure,hsame]
    exact hw

theorem call_consistent {w : LinkStation} (o : Op) (hw : w.Consistent) :
    wp linkModem.spec o.code (fun _ => Consistent) w := by
  have hquiet {α : Type} {p : PppCode α} [quiet.frame.Keeps p] :
      wp linkModem.spec p (fun _ => Consistent) w := quiet_run (fun _ _ hu => hu.sound hw)
  cases o with
  | connect =>
    rw [Op.code,Modem.wp_void]
    exact wp_mono linkModem.mono (fun _ _ h => h.consistent) (connect_sound hw)
  | connectWith simPin apn uname pwd =>
    rw [Op.code,Modem.wp_void,connectWith,wp_bind]
    refine quiet_run (fun _ u hu => ?_)
    rw [wp_bind]
    refine quiet_run (fun _ v hv => ?_)
    exact wp_mono linkModem.mono (fun _ _ h => h.consistent)
      (connect_sound ((hu.trans hv).sound hw))
  | disconnect =>
    rw [Op.code,Modem.wp_void]
    exact disconnect_sound hw
  | init pin =>
    rw [Op.code,Modem.wp_void]
    exact hquiet
  | deinit => exact hquiet (p := Gsm.deinit)
  | setSimPin pin => exact hquiet (p := setPin pin)
  | setCredentials apn uname pwd => exact hquiet (p := modify (Driver.onIface (setCred _)))
  | setSimPinCheck set immediate simPin =>
    have hset : quiet.frame.Keeps (modify (Driver.onIface (fun i : PppInterface => { i with
        simPinCheckChangePending := true, simPinCheckChangePendingEnabledValue := set }))) :=
      keeps_iface (fun _ => rfl)
    rw [Op.code,Modem.wp_void,setSimPinCheck]
    exact hquiet
  | setNewSimPin newPin immediate oldPin =>
    have hset : quiet.frame.Keeps (modify (Driver.onIface (fun i : PppInterface => { i with
        simPinChangePending := true, simPinChangePendingNewPinValue := newPin }))) :=
      keeps_iface (fun _ => rfl)
    rw [Op.code,Modem.wp_void,setNewSimPin]
    exact hquiet
  | connectionStatusCb cb =>
    have hset : quiet.frame.Keeps (modify (Driver.onIface
        (fun i : PppInterface => { i with connectionStatusCb := cb }))) :=
      keeps_iface (fun _ => rfl)
    exact hquiet (p := modify _)
  | nwkRegistration =>
    rw [Op.code,Modem.wp_void]
    exact hquiet
  | nwkDeregistration =>
    rw [Op.code,Modem.wp_void]
    exact hquiet
  | simPinCheckEnable enable =>
    rw [Op.code,Modem.wp_void]
    exact hquiet
  | changeSimPin newPin =>
    rw [Op.code,Modem.wp_void]
    exact hquiet

abbrev Runs (start w : LinkStation) : Prop :=
  linkModem.Reached Op.code (fun _ _ => True) start w

def start (baud : Int) : LinkStation := ⟨⟨.initial baud,.initial⟩,.down⟩

theorem runs_consistent {baud : Int} {w : LinkStation} (h : Runs (start baud) w) :
    w.Consistent :=
  h.keeps ⟨rfl,by rintro ⟨⟩⟩ (fun _ o hu _ => call_consistent o hu)
    (fun _ _ hu huv => (event_quiet huv).sound hu)

structure Follows (w : LinkStation) : Prop where
  disconnected : ∀ b v, linkModem.Runs isConnected w b v → b = false
  retried : ∀ r v, linkModem.Runs connect w r v → w.modem.tries < v.modem.tries

theorem Consistent.flag_reported {w : LinkStation} (h : w.Consistent)
    (hr : w.modem.reported = true) : w.flag = !w.modem.released := by
  have hup : w.modem.up = false := by
    cases hu : w.modem.up with
    | false => rfl
    | true =>
      rw [h.fresh hu] at hr
      cases hr
  rw [h.flag,Stack.believed,hup,hr]
  rfl

theorem link_followed {baud : Int} {w : LinkStation} (h : Runs (start baud) w)
    (hr : w.modem.reported = true) : Follows w ↔ w.modem.released = true := by
  have hc := runs_consistent h
  have hflag := hc.flag_reported hr
  constructor
  · intro hw
    have hdown : w.flag = false := isConnected_iff.mp hw.disconnected
    rw [hflag] at hdown
    simpa using hdown
  · intro hreleased
    have hdown : w.flag = false := by
      rw [hflag,hreleased]
      rfl
    refine ⟨isConnected_iff.mpr hdown,fun r v hx => ?_⟩
    have hsound := Modem.sound (connect_sound hc) hx
    rw [hdown,if_neg Bool.false_ne_true] at hsound
    exact hsound.tries

def linking : Modem.Peer (sig PppInterface) Stack where
  send _ _ := true
  recv
    | _, .ok, w => some (some (), w)
    | _, .cpin, w => some (some "READY", w)
    | _, .ati, w => some (some "", w)
    | _, .ccid, w => some (some "", w)
    | _, .cimi, w => some (some "", w)
    | _, .cgsn, w => some (some "", w)
    | _, .gsn, w => some (some "", w)
    | _, .connect, w => some (some (), w)
    | _, .unnatural, w => some (none, { w with driver := (Urc.cgreg 1).handle w.driver })
    | _, _, w => some (none, w)
  ask
    | _, .pppConnect _ _ _, _ => some NsapiError.ok
    | _, .pppDisconnect, _ => some NsapiError.ok
    | _, .apnconfig _, _ => some none
    | _, .hw _, _ => some ()
    | _, .enter _, _ => some ()
    | _, _, _ => none

theorem linking_fair : linking.Fair linkModem where
  send _ _ := trivial
  recv := by
    intro β p w b v h
    cases p <;> cases h
    case unnatural => exact ⟨.single (.inl ⟨rfl,.cgreg 1,rfl⟩),trivial⟩
    all_goals exact ⟨.refl,trivial⟩
  ask _ _ _ _ _ := trivial

abbrev played (o : Op) (w : LinkStation) : Option (Unit × LinkStation) :=
  o.code.run (linkModem.machine.play linking.script) 1 w

def dropped (w : LinkStation) : LinkStation := { w with modem := w.modem.dropped }

theorem runs_dropped {start w : LinkStation} (h : Runs start w) (hup : w.modem.up = true) :
    Runs start (dropped w) := .event h (.inr ⟨hup,rfl,rfl⟩)

theorem link_followed_released : ∃ w : LinkStation, Runs (start 115200) w ∧
    w.modem.reported = true ∧ (Follows w ↔ w.modem.released = true) := by
  have hrun : (played .connect (start 115200)).bind (fun x =>
      (played .disconnect (dropped x.2)).map (fun y => (x.2.modem.up, y.2.modem.reported))) =
      some (true, true) := by decide
  obtain ⟨x,hx,hrun⟩ := Option.bind_eq_some_iff.mp hrun
  obtain ⟨y,hy,he⟩ := Option.map_eq_some_iff.mp hrun
  obtain ⟨hup,hr⟩ := Prod.mk.inj he
  have hw : Runs (start 115200) y.2 :=
    .call Op.disconnect (runs_dropped (.call Op.connect .start trivial (linking_fair.runs hx)) hup)
      trivial (linking_fair.runs hy)
  exact ⟨y.2,hw,hr,link_followed hw hr⟩

theorem drop_unnoticed : ¬ ∀ (baud : Int) (w : LinkStation), Runs (start baud) w →
    w.modem.reported = true → Follows w := by
  intro hall
  have hrun : (played .connect (start 115200)).map
      (fun x => (x.2.modem.up, x.2.flag)) = some (true, true) := by decide
  obtain ⟨x,hx,he⟩ := Option.map_eq_some_iff.mp hrun
  obtain ⟨hup,hflag⟩ := Prod.mk.inj he
  have hw := hall 115200 (dropped x.2)
    (runs_dropped (.call Op.connect .start trivial (linking_fair.runs hx)) hup) rfl
  have hdown : x.2.flag = false := isConnected_iff.mp hw.disconnected
  rw [hflag] at hdown
  cases hdown

end LinkStation

end UbloxCellular.Ppp
