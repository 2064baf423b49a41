import UbloxCellular.App.Course
import UbloxCellular.Gsm.Supply
import UbloxCellular.Gsm.Endings

namespace UbloxCellular.App
open Interaction Code Gsm

-- INTERFACE_CLASS without NBIOT.
def atInterface : InterfaceClass (Locked (Eff (sig AtInterface))) where
  init := Gsm.init
  setCredentials := Gsm.setCredentials
  connect := Gsm.connect
  disconnect := Gsm.disconnect
  deinit := Gsm.deinit

namespace SupplyStation
open Gsm.SupplyStation

variable {w v : SupplyStation} {α β : Type}

structure InUse (w : SupplyStation) : Prop where
  initialised : initialised w = true
  hears : w.modem.hears = true
  stray : w.modem.stray = []

theorem InUse.powered (h : InUse w) : Powered w := ⟨fun _ => h.hears,h.stray⟩

def running : supplyModem.Kept where
  pre := InUse
  rel := Unmoved
  refl := quiet.refl
  trans := quiet.trans
  keep _ _ h hw := ⟨h.initialised.trans hw.initialised,h.modem ▸ hw.hears,h.modem ▸ hw.stray⟩
  event _ _ _ := event_unmoved

instance : Wired running.frame where
  lock := Modem.Kept.keeps_lock
  unlock := Modem.Kept.keeps_unlock
  act e hm ho := by
    refine Modem.Kept.keeps_act hm (fun w b hw _ => ⟨?_,rfl⟩)
    cases e with
    | send c => exact Supply.send_heard hw.hears c
    | hw h => exact Supply.set_heard hw.hears (by rintro rfl; cases ho) (by rintro rfl; cases ho)
    | _ => rfl
  iface _ := Modem.Kept.keeps_modify (fun _ _ => ⟨rfl,rfl⟩)
  base _ hf := Modem.Kept.keeps_modify (fun _ _ => ⟨rfl,(hf _).initialised⟩)

instance watchedWired {F : Frame (Locked (Eff (sig AtInterface))) SupplyStation} [hF : Wired F] :
    Wired F.watched where
  lock := hF.lock.watched
  unlock := hF.unlock.watched
  act e hm ho := (hF.act e hm ho).watched
  iface f := (hF.iface f).watched
  base f hf := (hF.base f hf).watched

theorem init_running (pin : Option String) (hw : InUse w) :
    wp running.frame.watched.spec (Gsm.init pin : AtCode Bool)
      (fun ready v => ready = true ∧ running.rel w v) w := by
  rw [Gsm.init]
  refine wp_seq running.frame.watched.mono
    ((Wired.act (F := running.frame.watched) (.enter .init) rfl rfl).run w hw) (fun _ u hu => ?_)
  have huse : InUse u := running.keep w u hu hw
  have hread : wp supplyModem.spec get (fun d x => InUse x ∧ d = u.driver ∧ x = u) u :=
    (Modem.wp_get _).mpr ⟨huse,rfl,rfl⟩
  refine (wp_bind _ _ _ _).mpr (supplyModem.mono _ _ _ _ (fun d x hx => ⟨hx.1,?_⟩) hread)
  obtain ⟨-,rfl,rfl⟩ := hx
  have hi : x.driver.base.modemInitialised = true := huse.initialised
  refine (wp_pure _ _ _).mpr ?_
  rw [if_pos hi]
  exact ⟨rfl,hu⟩

instance (pin : Option String) : running.frame.watched.Keeps (Gsm.init pin : AtCode Bool) :=
  ⟨fun _ hw => wp_mono running.frame.watched.mono (fun _ _ h => h.2) (init_running pin hw)⟩

set_option synthInstance.maxSize 8192 in
instance : running.frame.watched.Keeps Gsm.connect := by
  simp only [Gsm.connect]
  infer_instance

instance : running.frame.watched.Keeps Gsm.disconnect := inferInstance

theorem running_watched {p : AtCode α} [hp : running.frame.watched.Keeps p] (hw : InUse w) :
    wp (supplyModem.machine.handler.spec.always InUse) p (fun _ => InUse) w :=
  wp_mono (Spec.always_mono supplyModem.mono _) (fun _ v hv => running.keep w v hv hw)
    (hp.run w hw)

theorem send_stray {x : Supply} {c : Cmd} (h : (x.send c).stray = []) : x.stray = [] := by
  rw [Supply.send] at h
  split at h
  · exact h
  · cases h

theorem env_unmoved {e : Locked (Eff (sig AtInterface)) β} (h : supplyModem.machine.env e w v) :
    v.modem = w.modem := by
  cases e with
  | lock => exact h.1
  | unlock => cases h
  | act e =>
    cases e with
    | recv p => exact h.1
    | _ => cases h

theorem stray_stays ⦃β : Type⦄ (e : Locked (Eff (sig AtInterface)) β) (w : SupplyStation) (b : β)
    (v : SupplyStation) (h : supplyModem.machine.handler e w b v) (hv : v.modem.stray = []) :
    w.modem.stray = [] := by
  obtain ⟨u,hu,-,rfl⟩ := h
  have hmodem : u.modem = w.modem := by
    clear hv
    induction hu with
    | refl => rfl
    | tail _ hstep ih => exact (env_unmoved hstep).trans ih
  rw [← hmodem]
  cases e with
  | act e =>
    cases e with
    | send c => exact send_stray hv
    | hw k => cases k <;> exact hv
    | _ => exact hv
  | _ => exact hv

theorem answers ⦃β : Type⦄ (e : Locked (Eff (sig AtInterface)) β) (w : SupplyStation) :
    ∃ b v, supplyModem.machine.handler e w b v := by
  refine Modem.answers (fun β e x d => ?_) e w
  cases e with
  | get => exact ⟨d,trivial⟩
  | malloc b size => exact ⟨true,trivial⟩
  | _ => exact ⟨default,trivial⟩

def inUse : List Mark → Bool
  | .initialised true :: _ => true
  | .connected _ :: _ => true
  | _ => false

structure Supplied (m : List Mark) (w : SupplyStation) : Prop where
  stray : w.modem.stray = []
  used : inUse m = true → initialised w = true ∧ w.modem.serial = true ∧ w.modem.powered = true
  off : m.head? = some .deinitialised →
    initialised w = false ∧ w.modem.serial = false ∧ w.modem.powered = false

def Used (m : List Mark) (w : SupplyStation) : Prop := inUse m = true ∧ InUse w

def Left (m : List Mark) (w : SupplyStation) : Prop :=
  inUse m = false ∧ m.head? ≠ some .deinitialised ∧ InUse w

theorem Used.supplied {m : List Mark} (h : Used m w) : Supplied m w where
  stray := h.2.stray
  used _ := ⟨h.2.initialised,Bool.and_eq_true_iff.mp h.2.hears⟩
  off hm := by
    match m, h.1 with
    | .initialised true :: _, _ => cases hm
    | .connected _ :: _, _ => cases hm

theorem supplied_stray {m : List Mark} (hm : inUse m = false) (hd : m.head? ≠ some .deinitialised)
    (h : w.modem.stray = []) : Supplied m w :=
  ⟨h,fun hu => absurd hu (by rw [hm]; exact Bool.false_ne_true),fun h => absurd h hd⟩

theorem used_run {m : List Mark} {p : AtCode α} [running.frame.watched.Keeps p]
    {Q : α → SupplyStation → Prop} (hw : Used m w) (hQ : ∀ a v, InUse v → Q a v) :
    wp (supplyModem.machine.handler.spec.always (Supplied m)) p Q w :=
  wp_always_mono supplyModem.mono (fun _ hv => Used.supplied ⟨hw.1,hv⟩) hQ (running_watched hw.2)

theorem stray_run {m : List Mark} {p : AtCode α} {Q : α → SupplyStation → Prop}
    (hm : inUse m = false) (hd : m.head? ≠ some .deinitialised)
    [hp : Halting supplyModem.machine.handler p]
    (h : wp supplyModem.spec p (fun a v => v.modem.stray = [] ∧ Q a v) w) :
    wp (supplyModem.machine.handler.spec.always (Supplied m)) p Q w :=
  wp_always_mono supplyModem.mono (fun _ hv => supplied_stray hm hd hv) (fun _ _ hq => hq)
    (wp_throughout stray_stays answers (hp.run w) h)

theorem course (baud : Int) : Course supplyModem.machine.handler atInterface Supplied Used Left
    (Gsm.SupplyStation.start baud) where
  start := supplied_stray rfl nofun rfl
  init := by
    have hstart : Powered (Gsm.SupplyStation.start baud) := ⟨nofun,rfl⟩
    refine stray_run (p := Gsm.init (some "0000")) rfl nofun (wp_mono supplyModem.mono
      (fun ready v hv => ⟨hv.1.stray,?_⟩)
      (Handler.wp_and (init_powered (some "0000") hstart) (init_reports (some "0000") _)))
    cases ready with
    | true => exact ⟨rfl,hv.2 rfl,hv.1.hears (hv.2 rfl),hv.1.stray⟩
    | false => exact supplied_stray rfl nofun hv.1.stray
  used _ _ := Used.supplied
  setCredentials m u hu :=
    used_run (p := Gsm.setCredentials none none none) hu (fun _ v hv => ⟨hu.1,hv⟩)
  connect m u hu := used_run (p := Gsm.connect) hu (fun _ v hv => ⟨rfl,hv⟩)
  disconnect m u hu := used_run (p := Gsm.disconnect) hu (fun _ v hv => ⟨rfl,nofun,hv⟩)
  left m u hu := supplied_stray hu.1 hu.2.1 hu.2.2.stray
  deinit m u hu := by
    refine stray_run (p := Gsm.deinit) hu.1 hu.2.1 (wp_mono supplyModem.mono
      (fun _ v hv => ⟨hv.1.stray,?_⟩)
      (deinit_off hu.2.2.powered))
    exact ⟨hv.1.stray,nofun,fun _ => ⟨hv.2,hv.1.serial,hv.1.powered⟩⟩

variable {G : Type} {K : Handler I2c.Bus G} {b : Board} {g : G}

theorem main_supplied {baud : Int} {s : System SupplyStation G}
    (hs : Moment (system supplyModem.machine.handler K) (main atInterface b)
      ⟨Gsm.SupplyStation.start baud,g,.start⟩ s) :
    s.cellular.modem.stray = [] ∧
    (inUse (marks s.host.trace) = true → initialised s.cellular = true ∧
      s.cellular.modem.serial = true ∧ s.cellular.modem.powered = true) ∧
    ((marks s.host.trace).head? = some .deinitialised → initialised s.cellular = false ∧
      s.cellular.modem.serial = false ∧ s.cellular.modem.powered = false) := by
  have h : Supplied (marks s.host.trace) s.cellular := course_moment (course baud) hs
  exact ⟨h.stray,h.used,h.off⟩

def willing : Modem.Peer (sig AtInterface) Supply :=
  { refusing AtInterface Supply none with
    recv := fun β p w => match β, p with
      | _, .upsndStatus => some (some 1, w)
      | _, p => (refusing AtInterface Supply none).recv p w
    ask := fun β e w => match β, e with
      | _, .malloc _ _ => some false
      | _, e => (refusing AtInterface Supply none).ask e w }

theorem willing_fair : willing.Fair supplyModem where
  send _ _ := trivial
  recv := by
    have hfair : (refusing AtInterface Supply none).Fair supplyModem :=
      refusing_fair (fun _ _ _ _ _ => trivial) (fun _ _ => ⟨rfl,.creg 1,rfl⟩)
    intro β p w b v h
    cases p with
    | upsndStatus => cases h; exact ⟨.refl,trivial⟩
    | _ => exact hfair.recv _ w b v h
  ask _ _ _ _ _ := trivial

theorem main_supplied_stopped : ∃ s : System SupplyStation Unit,
    Moment (system supplyModem.machine.handler fun _ _ _ _ _ => True) (main atInterface ⟨true,0⟩)
      ⟨Gsm.SupplyStation.start 115200,(),.start⟩ s ∧
    marks s.host.trace = [.deinitialised,.disconnected NsapiError.deviceError,.connected 0,
      .connected 0,.initialised true] ∧
    s.cellular.modem.stray = [] ∧
    (inUse (marks s.host.trace) = true → initialised s.cellular = true ∧
      s.cellular.modem.serial = true ∧ s.cellular.modem.powered = true) ∧
    ((marks s.host.trace).head? = some .deinitialised → initialised s.cellular = false ∧
      s.cellular.modem.serial = false ∧ s.cellular.modem.powered = false) := by
  have hrun : ((main atInterface ⟨true,0⟩).run (rehearse (supplyModem.machine.play willing.script)
      deadBus lively (fun _ => some 7)) 5 ⟨Gsm.SupplyStation.start 115200,(),.start⟩).map
        (fun r => marks r.2.host.trace) =
      some [.deinitialised,.disconnected NsapiError.deviceError,.connected 0,.connected 0,
        .initialised true] := by decide +kernel
  obtain ⟨⟨_,s⟩,hr,hm⟩ := Option.map_eq_some_iff.mp hrun
  have hx := run_exec (H := system supplyModem.machine.handler fun _ _ _ _ _ => True) id
    (rehearse_system _ _ (fun _ _ _ _ _ he => Machine.play_handler willing_fair.follows he)
      (fun _ _ _ _ _ _ => trivial) lively_around) hr
  exact ⟨s,hx.moment,hm,main_supplied hx.moment⟩

end SupplyStation

end UbloxCellular.App
