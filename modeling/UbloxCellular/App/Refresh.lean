import UbloxCellular.App.System
import UbloxCellular.Ppp.Interface
import UbloxCellular.Gsm.Dialling

namespace UbloxCellular.App
open Interaction Ppp

-- INTERFACE_CLASS as main.cpp has it in a comment.
def pppInterface : InterfaceClass (Locked (Eff (Gsm.sig PppInterface))) where
  init := Gsm.init
  setCredentials := Ppp.setCredentials
  connect := Ppp.connect
  disconnect := Ppp.disconnect
  deinit := Gsm.deinit

def requests : List Event → List Event
  | [] => []
  | .call i (.registerObject s l) :: es => .call i (.registerObject s l) :: requests es
  | .call i (.updateRegistration s n) :: es => .call i (.updateRegistration s n) :: requests es
  | _ :: es => requests es

theorem requests_around {h h' : Host} (hh : Around h h') :
    requests h'.trace = requests h.trace := by
  induction hh with
  | refl => rfl
  | tail _ hstep ih =>
    cases hstep with
    | callback c hi => exact ih
    | button => exact ih

section Refresh
variable {X G β : Type} {M : Modem (Gsm.sig PppInterface) X} {K : Handler I2c.Bus G} {l : List Event}
  {w v : System (Station (Gsm.sig PppInterface) X) G}

def linkUp (x : Station (Gsm.sig PppInterface) X) : Prop := x.driver.iface.pppConnectionUp = true

structure Idle (l : List Event) (w : System (Station (Gsm.sig PppInterface) X) G) : Prop where
  up : linkUp w.cellular
  requests : requests w.host.trace = l

abbrev idling (M : Modem (Gsm.sig PppInterface) X) (K : Handler I2c.Bus G) (l : List Event) :
    Spec (AppEff (Locked (Eff (Gsm.sig PppInterface)))) (System (Station (Gsm.sig PppInterface) X) G) :=
  (system M.machine.handler K).spec.always (Idle l)

theorem idling_mono : Spec.Mono (idling M K l) := Spec.always_mono (Handler.spec_mono _) _

theorem idle_effect {e : AppEff (Locked (Eff (Gsm.sig PppInterface))) β}
    (h : ∀ u b v, act M.machine.handler K e u b v →
      v.cellular = u.cellular ∧ requests v.host.trace = requests u.host.trace) (hw : Idle l w) :
    wp (idling M K l) (Prog.perform e) (fun _ => Idle l) w := by
  rintro b v ⟨h',hh,hact⟩
  obtain ⟨hcellular,hrequests⟩ := h _ b v hact
  have hidle : Idle l v := ⟨hcellular ▸ hw.up,
    hrequests.trans ((requests_around hh).trans hw.requests)⟩
  exact ⟨hidle,hidle⟩

theorem connect_up {x : Station (Gsm.sig PppInterface) X} (hx : linkUp x) :
    wp (M.machine.handler.spec.always linkUp) Ppp.connect
      (fun error y => error = NsapiError.isConnected ∧ linkUp y) x := by
  have hread : wp M.spec Code.get (fun d y => linkUp y ∧ d = x.driver ∧ y = x) x :=
    (Modem.wp_get _).mpr ⟨hx,rfl,rfl⟩
  rw [Ppp.connect]
  refine (wp_bind _ _ _ _).mpr (M.mono _ _ _ _ (fun d y hy => ⟨hy.1,?_⟩) hread)
  obtain ⟨-,rfl,rfl⟩ := hy
  refine (wp_pure _ _ _).mpr ?_
  have hup : y.driver.iface.pppConnectionUp = true := hx
  rw [if_pos hup]
  exact ⟨rfl,hx⟩

theorem connect_idle (hw : Idle l w) : wp (idling M K l) (cellular pppInterface.connect)
    (fun error v => error = NsapiError.isConnected ∧ Idle l v) w := by
  have hidle {v : System (Station (Gsm.sig PppInterface) X) G} (hv : linkUp v.cellular)
      (hr : Around w.host v.host) : Idle l v :=
    ⟨hv,(requests_around hr).trans hw.requests⟩
  refine Part.wp_code (P := cellularPart M.machine.handler K) (fun v hv hr => ?_)
    (fun error v hx hr => ?_)
  · exact hidle (always_moment (connect_up hw.up) hw.up hv) hr.2
  · obtain ⟨hup,herror,-⟩ := always_sound (connect_up hw.up) hw.up hx
    exact ⟨herror,hidle hup hr.2⟩

theorem round_idle {b : Board} {o : Objects} (hw : Idle l w) :
    wp (idling M K l) (round pppInterface b o ()) (fun _ => Idle l) w := by
  refine wp_seq idling_mono (idle_effect (fun _ _ _ h => by rw [h.2]; exact ⟨rfl,rfl⟩) hw)
    (fun pressed u hu => ?_)
  rw [wp_ite]
  split
  · exact hu
  have hleds (x : Leds) {u : System (Station (Gsm.sig PppInterface) X) G} (hu : Idle l u) :
      wp (idling M K l) (Prog.perform (.leds x)) (fun _ => Idle l) u :=
    idle_effect (fun _ _ _ h => by rw [h]; exact ⟨rfl,rfl⟩) hu
  refine wp_seq idling_mono (hleds .on hu) (fun _ u hu => ?_)
  refine wp_seq idling_mono (connect_idle hu) (fun error u hu => ?_)
  obtain ⟨rfl,hu⟩ := hu
  refine wp_seq idling_mono (idle_effect (fun _ _ _ h => by rw [h]; exact ⟨rfl,rfl⟩) hu)
    (fun _ u hu => ?_)
  have hserve : serve b o NsapiError.isConnected =
      (ledOff : AppCode (Locked (Eff (Gsm.sig PppInterface))) Unit) := if_neg (by decide)
  rw [hserve]
  refine wp_seq idling_mono (hleds .off hu) (fun _ u hu => ?_)
  refine wp_seq idling_mono (hleds .off hu) (fun _ u hu => ?_)
  exact wp_seq idling_mono (idle_effect (fun _ _ _ h => by rw [h]; exact ⟨rfl,rfl⟩) hu)
    (fun _ _ hu => hu)

theorem never_refreshes {b : Board} {o : Objects} (hw : linkUp w.cellular)
    (hv : Moment (system M.machine.handler K) (Prog.iterate (round pppInterface b o) ()) w v) :
    requests v.host.trace = requests w.host.trace ∧ linkUp v.cellular := by
  have hidle : Idle (requests w.host.trace) w := ⟨hw,rfl⟩
  have hloop : wp (idling M K (requests w.host.trace)) (Prog.iterate (round pppInterface b o) ())
      (fun _ => Idle (requests w.host.trace)) w :=
    wp_iterate (fun _ => Idle (requests w.host.trace)) hidle (fun _ u hu =>
      wp_mono idling_mono (fun r x hx => by cases r <;> exact hx) (round_idle hu))
  have h := always_moment hloop hidle hv
  exact ⟨h.requests,h.up⟩

end Refresh

def whatever : Modem (Gsm.sig PppInterface) Unit :=
  ⟨fun _ _ _ _ => True,fun _ _ _ _ _ => True,fun _ _ x _ _ => x⟩

def up : Station (Gsm.sig PppInterface) Unit :=
  ⟨⟨.initial 115200,{ PppInterface.initial with pppConnectionUp := true }⟩,()⟩

def impatient (h : Host) : Host :=
  match h.trace with
  | .mark (.connected _) :: _ => { h.say .button with buttonPressed := true, leds := .on }
  | _ => h

theorem impatient_around (h : Host) : Around h (impatient h) := by
  unfold impatient
  split
  · exact .single (.button h)
  · exact .refl

theorem never_refreshes_up : ∃ v : System (Station (Gsm.sig PppInterface) Unit) Unit,
    linkUp up ∧ Moment (system whatever.machine.handler fun _ _ _ _ _ => True)
      (Prog.iterate (round pppInterface ⟨true,0⟩ ⟨none,none,[]⟩) ()) ⟨up,(),.start⟩ v ∧
    v.host.trace = [.button,.mark (.connected NsapiError.isConnected)] ∧
    requests v.host.trace = [] ∧ linkUp v.cellular := by
  have hfair : (Gsm.refusing PppInterface Unit none).Fair whatever :=
    Gsm.refusing_fair (fun _ _ _ _ _ => trivial) (fun _ _ => trivial)
  have hrun : ((Prog.iterate (round pppInterface ⟨true,0⟩ ⟨none,none,[]⟩) ()).run
      (rehearse (whatever.machine.play (Gsm.refusing PppInterface Unit none).script) deadBus
        impatient (fun _ => some 7)) 3 ⟨up,(),.start⟩).map (fun r => r.2.host.trace) =
      some [.button,.mark (.connected NsapiError.isConnected)] := by decide +kernel
  obtain ⟨⟨_,v⟩,hr,hv⟩ := Option.map_eq_some_iff.mp hrun
  have hx := run_exec (H := system whatever.machine.handler fun _ _ _ _ _ => True) id
    (rehearse_system _ _ (fun _ _ _ _ _ he => Machine.play_handler hfair.follows he)
      (fun _ _ _ _ _ _ => trivial) impatient_around) hr
  have hup : linkUp up := rfl
  exact ⟨v,hup,hx.moment,hv,never_refreshes hup hx.moment⟩

end UbloxCellular.App
