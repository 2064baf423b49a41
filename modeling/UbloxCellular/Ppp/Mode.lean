import UbloxCellular.Gsm.Frames
import UbloxCellular.Ppp.Interface

namespace UbloxCellular.Ppp
open Interaction Code
open Gsm

inductive Dial where
  | idle
  | awaited
  | abandoned
  deriving DecidableEq, Repr

-- The serial line: whether ATD*99***1# is waiting for its answer, or was when set_atd() gave up on
-- it; whether what goes over the line is PPP, and whether it has been since a CONNECT that came
-- that late; the commands that were written into the PPP stream, and whether one was after a late
-- CONNECT.
structure Wire where
  dial : Dial
  data : Bool
  late : Bool
  garbled : List Cmd
  spoken : Bool
  deriving DecidableEq, Repr

namespace Wire

def command : Wire := ⟨.idle,false,false,[],false⟩

def lift (m : Wire) (late : Bool) : Wire := { m with dial := .idle, data := true, late := late }

def await (m : Wire) : Wire := { m with dial := .awaited }

def abandon (m : Wire) : Wire := { m with dial := .abandoned }

def ended (m : Wire) : Wire := { m with data := false, late := false }

def sent (m : Wire) (c : Cmd) (written : Bool) : Wire :=
  if c = .escape then m.ended
  else if m.data then { m with garbled := c :: m.garbled, spoken := m.spoken || m.late }
  else if c = .atd ∧ written then m.await
  else m

def answered (m : Wire) (connected : Bool) : Wire :=
  if m.dial = .awaited then
    if connected then m.lift false else m.abandon
  else m

end Wire

-- The modem is in data mode from its CONNECT until the escape sequence, the end of the PPP session
-- or a drop of the link. A dial that set_atd() has given up on may still connect.
inductive WireEvent : Wire → PppDriver → Wire → PppDriver → Prop
  | urc (m : Wire) (d : PppDriver) (u : Urc) : WireEvent m d m (u.handle d)
  | drop (m : Wire) (d : PppDriver) : m.data = true → WireEvent m d m.ended d
  | connect (m : Wire) (d : PppDriver) : m.dial = .abandoned → WireEvent m d (m.lift true) d

-- nsapi_ppp_disconnect() ends the session that nsapi_ppp_connect() began; there is none on a link
-- with a late CONNECT.
def wireModem : Modem (sig PppInterface) Wire where
  event := WireEvent
  allow
    | _, .send .escape, _, _, b => b = true
    | _, _, _, _, _ => True
  next
    | _, .send c, m, _, b => m.sent c b
    | _, .recv .connect, m, _, b => m.answered b.isSome
    | _, .pppDisconnect, m, _, b => if b = NsapiError.ok ∧ m.late = false then m.ended else m
    | _, _, m, _, _ => m

-- The calls that speak to the modem without looking at the state of the link.
def Op.heedless : Op → Bool
  | .init _ => true
  | .deinit => true
  | .setSimPinCheck _ immediate _ => immediate
  | .setNewSimPin _ immediate _ => immediate
  | .nwkRegistration => true
  | .nwkDeregistration => true
  | .simPinCheckEnable _ => true
  | .changeSimPin _ => true
  | _ => false

abbrev WireStation := Station (sig PppInterface) Wire

namespace WireStation

def flag (w : WireStation) : Bool := w.driver.iface.pppConnectionUp

structure Sound (m : Wire) : Prop where
  dial : m.dial ≠ .awaited
  garbled : m.garbled = [] ↔ m.spoken = false

structure Commanding (w : WireStation) : Prop where
  sound : Sound w.modem
  data : w.modem.data = true → w.modem.late = true

structure Clear (w : WireStation) : Prop where
  sound : Sound w.modem
  data : w.modem.data = true → w.flag = true ∨ w.modem.late = true

theorem Clear.commanding {w : WireStation} (h : Clear w) (hf : w.flag = false) : Commanding w where
  sound := h.sound
  data hd := by
    rcases h.data hd with hup | hlate
    · exact absurd (hf.symm.trans hup) Bool.false_ne_true
    · exact hlate

theorem Commanding.clear {w : WireStation} (h : Commanding w) : Clear w :=
  ⟨h.sound,fun hd => .inr (h.data hd)⟩

theorem event_flag {m m' : Wire} {d d' : PppDriver} (h : WireEvent m d m' d') :
    d'.iface.pppConnectionUp = d.iface.pppConnectionUp := by
  cases h with
  | urc u => rw [Urc.handle_iface]
  | drop => rfl
  | connect => rfl

theorem event_sound {m m' : Wire} {d d' : PppDriver} (hm : Sound m) (h : WireEvent m d m' d') :
    Sound m' := by
  cases h with
  | urc u => exact hm
  | drop => exact ⟨hm.dial,hm.garbled⟩
  | connect => exact ⟨by rintro ⟨⟩,hm.garbled⟩

theorem event_commanding {u v : WireStation} (hu : Commanding u)
    (h : wireModem.event u.modem u.driver v.modem v.driver) : Commanding v ∧ v.flag = u.flag := by
  have hflag : v.flag = u.flag := event_flag h
  refine ⟨⟨event_sound hu.sound h,?_⟩,hflag⟩
  obtain ⟨d,m⟩ := u
  obtain ⟨d',m'⟩ := v
  cases h with
  | urc r => exact hu.data
  | drop => rintro ⟨⟩
  | connect => exact fun _ => rfl

def Ready (u v : WireStation) : Prop := Commanding u → Commanding v ∧ v.flag = u.flag

def commanding : wireModem.Kept where
  pre := Commanding
  rel := Ready
  refl _ h := ⟨h,rfl⟩
  trans _ _ _ h k hu := ⟨(k (h hu).1).1,(k (h hu).1).2.trans (h hu).2⟩
  keep _ _ h hu := (h hu).1
  event _ _ _ he hu := event_commanding hu he

theorem commanding_driver {w : WireStation} {d : PppDriver}
    (hd : d.iface.pppConnectionUp = w.flag) : Ready w { w with driver := d } :=
  fun h => ⟨⟨h.sound,h.data⟩,hd⟩

theorem Sound.sent {m : Wire} (h : Sound m) (hd : m.data = true → m.late = true) {c : Cmd}
    {written : Bool} (hc : c = .atd → written = true → m.data = true) :
    Sound (m.sent c written) := by
  rw [Wire.sent]
  split
  · exact ⟨h.dial,h.garbled⟩
  · split
    · rename_i hdata
      refine ⟨h.dial,iff_of_false (List.cons_ne_nil _ _) ?_⟩
      rw [hd hdata,Bool.or_true]
      exact Bool.false_ne_true.symm
    · rename_i hdata
      rw [if_neg (fun hand => hdata (hc hand.1 hand.2))]
      exact h

theorem sent_data {m : Wire} (hd : m.data = true → m.late = true) (c : Cmd) (written : Bool) :
    (m.sent c written).data = true → (m.sent c written).late = true := by
  rw [Wire.sent]
  split
  · rintro ⟨⟩
  · split
    · exact hd
    · split <;> exact hd

theorem ready_sent {w : WireStation} {c : Cmd} {written : Bool}
    (hc : c = .atd → written = true → w.modem.data = true) :
    Ready w { w with modem := w.modem.sent c written } :=
  fun h => ⟨⟨h.sound.sent h.data hc,sent_data h.data c written⟩,rfl⟩

theorem commanding_sent (c : Cmd) (hc : c ≠ .atd) :
    commanding.frame.Keeps (send c : PppCode Bool) :=
  Modem.Kept.keeps_act rfl (fun _ _ _ _ => ready_sent (fun h => absurd h hc))

instance : Ordinary commanding.frame := by
  apply ordinary_kept
  · intro β e w b he _ _
    cases e with
    | recv p =>
      cases p with
      | connect => cases he
      | _ => exact commanding.refl w
    | pppDisconnect => cases he
    | send c => cases he
    | _ => exact commanding.refl w
  · intro c w b hc _ _
    refine ready_sent ?_
    rintro rfl
    cases hc
  · intro h w b _ _ _
    exact commanding.refl w
  · intro f w _
    exact commanding_driver rfl

instance : Basal commanding.frame where
  sim c hc := commanding_sent c (by rintro rfl; cases hc)
  cpin := Modem.Kept.keeps_act rfl (fun w _ _ _ => commanding.refl w)
  power := Modem.Kept.keeps_act rfl (fun w _ _ _ => commanding.refl w)
  base _ := Modem.Kept.keeps_modify (fun _ _ => commanding_driver rfl)
  enter _ _ := Modem.Kept.keeps_act rfl (fun w _ _ _ => commanding.refl w)

section Keeps

instance keeps_cgdcont (cid : Int) (apn : String) :
    commanding.frame.Keeps (send (.cgdcont cid apn) : PppCode Bool) :=
  commanding_sent _ (by rintro ⟨⟩)
instance keeps_noCarrier : commanding.frame.Keeps (recv .noCarrier : PppCode (Option Unit)) :=
  Modem.Kept.keeps_act rfl (fun w _ _ _ => commanding.refl w)
instance keeps_apnconfig (imsi : String) :
    commanding.frame.Keeps (act (.apnconfig imsi) : PppCode (Option (List String))) :=
  Modem.Kept.keeps_act rfl (fun w _ _ _ => commanding.refl w)

theorem keeps_iface {f : PppInterface → PppInterface}
    (hf : ∀ i, (f i).pppConnectionUp = i.pppConnectionUp) :
    commanding.frame.Keeps (modify (Driver.onIface f)) :=
  Modem.Kept.keeps_modify (fun w _ => commanding_driver (hf w.driver.iface))

instance keeps_setCred (f : Credentials → Credentials) :
    commanding.frame.Keeps (modify (Driver.onIface (setCred f))) := keeps_iface (fun _ => rfl)

instance : commanding.frame.Keeps setupContextAndCredentials := by
  rw [setupContextAndCredentials]
  infer_instance

instance (config : Option (List String)) : commanding.frame.Keeps (getNextCredentials config) := by
  rw [getNextCredentials]
  infer_instance

set_option synthInstance.maxSize 8192 in
instance (error : Int) : commanding.frame.Keeps (pendingSimActions error) := by
  have hcheck : commanding.frame.Keeps (modify (Driver.onIface
      (fun i : PppInterface => { i with simPinCheckChangePending := false }))) :=
    keeps_iface (fun _ => rfl)
  have hpin : commanding.frame.Keeps (modify (Driver.onIface
      (fun i : PppInterface => { i with simPinChangePending := false }))) :=
    keeps_iface (fun _ => rfl)
  rw [pendingSimActions]
  infer_instance

instance : commanding.frame.Keeps register := by
  rw [register]
  infer_instance

instance (action : PppCode Bool) [commanding.frame.Keeps action] :
    commanding.frame.Keeps (immediately action) := by
  rw [immediately]
  infer_instance

end Keeps

abbrev Allowed (w : WireStation) (o : Op) : Prop := o.heedless = true → w.flag = false

theorem Clear.driver {w : WireStation} (hw : Clear w) {d : PppDriver}
    (hd : d.iface.pppConnectionUp = w.flag) : Clear { w with driver := d } :=
  ⟨hw.sound,fun h => (hw.data h).imp_left hd.trans⟩

def start (baud : Int) : WireStation := ⟨⟨.initial baud,.initial⟩,.command⟩

def obliging (inTime : Bool) : Modem.Peer (sig PppInterface) Wire where
  send _ _ := true
  recv
    | _, .ok, w => some (some (), w)
    | _, .cpin, w => some (some "READY", w)
    | _, .ati, w => some (some "", w)
    | _, .ccid, w => some (some "", w)
    | _, .cimi, w => some (some "", w)
    | _, .cgsn, w => some (some "", w)
    | _, .gsn, w => some (some "", w)
    | _, .connect, w => some (if inTime then some () else none, w)
    | _, .unnatural, w => some (none, { w with driver := (Urc.cgreg 1).handle w.driver })
    | _, _, w => some (none, w)
  ask
    | _, .pppConnect _ _ _, _ => some NsapiError.ok
    | _, .pppDisconnect, _ => some NsapiError.ok
    | _, .apnconfig _, _ => some none
    | _, .hw _, _ => some ()
    | _, .enter _, _ => some ()
    | _, _, _ => none

theorem obliging_fair (inTime : Bool) : (obliging inTime).Fair wireModem where
  send c w := by
    cases c <;> first | rfl | trivial
  recv := by
    intro β p w b v h
    cases p <;> cases h
    case unnatural => exact ⟨.single (.urc _ _ (.cgreg 1)),trivial⟩
    all_goals exact ⟨.refl,trivial⟩
  ask _ e w b _ := by
    cases e <;> trivial

def played (inTime : Bool) (o : Op) (w : WireStation) : Option WireStation :=
  (o.code.run (wireModem.machine.play (obliging inTime).script) 1 w).map Prod.snd

def dropped (w : WireStation) : WireStation := ⟨w.driver,w.modem.ended⟩

end WireStation

end UbloxCellular.Ppp
