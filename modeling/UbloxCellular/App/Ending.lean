import UbloxCellular.App.Supply

namespace UbloxCellular.App
open Interaction Gsm

section Ending
variable {E : Type → Type 1} {V G W α β : Type}

-- The system of main() with a user who lets it read the button unpressed so many times.
def waiting (S : Handler (AppEff E) W) : Handler (AppEff E) (Nat × W)
  | _, .buttonPressed, x, pressed, y => S .buttonPressed x.2 pressed y.2 ∧
      x.1 = if pressed then y.1 else y.1 + 1
  | _, e, x, b, y => S e x.2 b y.2 ∧ y.1 = x.1

variable {H : Handler E V} {K : Handler I2c.Bus G} {S : Handler (AppEff E) W}

theorem waiting_step (e : AppEff E β) (x : Nat × W) (b : β) (y : Nat × W)
    (h : waiting S e x b y) : S e x.2 b y.2 ∧ y.1 ≤ x.1 := by
  cases e with
  | buttonPressed =>
    refine ⟨h.1,?_⟩
    rw [h.2]
    split
    · exact Nat.le_refl _
    · exact Nat.le_succ _
  | _ => exact ⟨h.1,Nat.le_of_eq h.2⟩

theorem waiting_exec {p : AppCode E α} {x y : Nat × W} {a : α} (h : Exec (waiting S) p x a y) :
    Exec S p x.2 a y.2 ∧ y.1 ≤ x.1 := by
  constructor
  · exact h.view (fun _ e x b y h => (waiting_step e x b y h).1)
  · exact h.linked (R := fun x y => y.1 ≤ x.1) (fun _ => Nat.le_refl _)
      (fun _ _ _ h k => Nat.le_trans k h) (fun _ e x b y h => (waiting_step e x b y h).2)

def cellularWaiting (H : Handler E V) (K : Handler I2c.Bus G) : Part H (waiting (system H K)) where
  inject _ e := .cellular e
  view x := x.2.cellular
  rel _ _ := True
  refl _ := trivial
  trans _ _ _ _ _ := trivial
  step _ e x b y h := ⟨((cellularPart H K).step e x.2 b y.2 h.1).1,trivial⟩

def gaugeWaiting (H : Handler E V) (K : Handler I2c.Bus G) : Part K (waiting (system H K)) where
  inject _ e := .gauge e
  view x := x.2.gauge
  rel _ _ := True
  refl _ := trivial
  trans _ _ _ _ _ := trivial
  step _ e x b y h := ⟨((gaugePart H K).step e x.2 b y.2 h.1).1,trivial⟩

instance (p : Prog E α) [hp : Halting H p] : Halting (waiting (system H K)) (cellular p) :=
  ⟨fun x => Part.halts (P := cellularWaiting H K) (hp.run x.2.cellular)⟩

instance (q : I2c.BusCode α) [hq : Halting K q] :
    Halting (waiting (system H K)) (gauge q : AppCode E α) :=
  ⟨fun x => Part.halts (P := gaugeWaiting H K) (hq.run x.2.gauge)⟩

section Functions
variable {T : Handler (AppEff E) (Nat × W)}

instance halting_setAll (object : Pointer) (l : List (Resource × Value)) :
    Halting T (setAll object l : AppCode E Unit) := by
  induction l with
  | nil => exact Halting.halting_pure ()
  | cons x l ih =>
    simp only [setAll,set]
    infer_instance

set_option synthInstance.maxSize 8192 in
instance halting_createObjects (led temp : Pointer) :
    Halting T (createObjects led temp : AppCode E Objects) := by
  simp only [createObjects,createInterface,createRegisterObject,createDeviceObject,
    createFirmwareObject,createServerObject,createWith,setRegisterObject,setClient,create,call,
    client]
  infer_instance

end Functions

instance halting_serve (b : Board) (o : Objects) (error : Int)
    [Halting K (Gauge.batteryPercentage b.targetUbloxC030 b.gAddress)] :
    Halting (waiting (system H K)) (serve b o error : AppCode E Unit) := by
  simp only [serve,online,registerSuccessful,refresh,memoryFree,testUpdateRegister,testRegister,
    heapSize,set,call,client,ledOff]
  infer_instance

instance halting_stop (interface : InterfaceClass E) [Halting H interface.disconnect]
    [Halting H interface.deinit] :
    Halting (waiting (system H K)) (stop interface : AppCode E Unit) := by
  simp only [stop,testUnregister,wait,call,client,ledOff,mark]
  infer_instance

section Loop
variable {interface : InterfaceClass E} {b : Board} {o : Objects}

set_option synthInstance.maxSize 8192 in
instance halting_round [Halting H interface.connect]
    [Halting K (Gauge.batteryPercentage b.targetUbloxC030 b.gAddress)] (u : Unit) :
    Halting (waiting (system H K)) (round interface b o u) := by
  simp only [round,buttonPressed,ledOn,ledOff,mark,wait]
  infer_instance

theorem round_down {x y : Nat × System V G} {u : Unit}
    (h : Exec (waiting (system H K)) (round interface b o ()) x (.inl u) y) : y.1 < x.1 := by
  rw [round] at h
  obtain ⟨pressed,z,hread,hrest⟩ := exec_bind.mp h
  obtain ⟨-,hz⟩ := exec_perform.mp hread
  cases pressed with
  | true =>
    obtain ⟨he,-⟩ := exec_pure.mp hrest
    cases he
  | false =>
    obtain ⟨-,hy⟩ := waiting_exec hrest
    rw [hz]
    exact Nat.lt_succ_of_le hy

instance halting_loop [Halting H interface.connect]
    [Halting K (Gauge.batteryPercentage b.targetUbloxC030 b.gAddress)] (u : Unit) :
    Halting (waiting (system H K)) (Prog.iterate (round interface b o) u) := by
  constructor
  intro x
  have hless : WellFounded (fun (x y : Unit × Nat × System V G) => x.2.1 < y.2.1) :=
    InvImage.wf (fun x : Unit × Nat × System V G => x.2.1) Nat.lt_wfRel.wf
  refine Halts.iterate hless (fun _ _ => True) trivial (fun s w _ => Halting.run w) ?_
  intro s w _
  refine wp_iff_exec.mpr ?_
  rintro r y hx s' rfl
  exact ⟨trivial,round_down hx⟩

end Loop

end Ending

set_option synthInstance.maxSize 8192 in
instance halting_main {E : Type → Type 1} {V G : Type} {H : Handler E V} {K : Handler I2c.Bus G}
    (interface : InterfaceClass E) (b : Board) [Halting H (interface.init (some "0000"))]
    [Halting H (interface.setCredentials none none none)] [Halting H interface.connect]
    [Halting H interface.disconnect] [Halting H interface.deinit]
    [Halting K (Gauge.batteryPercentage b.targetUbloxC030 b.gAddress)] :
    Halting (waiting (system H K)) (main interface b) := by
  simp only [main,work,ledOff,create,mark]
  infer_instance

namespace SupplyStation

section AtInterface
variable {H : Handler (Locked (Eff (sig AtInterface))) V} {V : Type}

instance (pin : Option String) : Halting H (atInterface.init pin) :=
  inferInstanceAs (Halting H (Gsm.init pin))
instance (apn uname pwd : Option String) : Halting H (atInterface.setCredentials apn uname pwd) :=
  inferInstanceAs (Halting H (Gsm.setCredentials apn uname pwd))
instance : Halting H atInterface.connect := inferInstanceAs (Halting H Gsm.connect)
instance : Halting H atInterface.disconnect := inferInstanceAs (Halting H Gsm.disconnect)
instance : Halting H atInterface.deinit := inferInstanceAs (Halting H Gsm.deinit)

end AtInterface

theorem main_ends (b : Board) (baud : Int) (chip : I2c.Node Gauge.Chip) (patience : Nat) :
    Halts (waiting (system supplyModem.machine.handler (Gauge.answering 0xaa).handler))
      (main atInterface b) (patience, ⟨Gsm.SupplyStation.start baud,chip,.start⟩) ∧
    ∀ n s, Exec (waiting (system supplyModem.machine.handler (Gauge.answering 0xaa).handler))
      (main atInterface b) (patience, ⟨Gsm.SupplyStation.start baud,chip,.start⟩) () (n, s) →
      marks s.host.trace = [.initialised false] ∨ (Gsm.SupplyStation.initialised s.cellular = false ∧
        s.cellular.modem.serial = false ∧ s.cellular.modem.powered = false) := by
  constructor
  · exact (halting_main atInterface b).run _
  · intro n s hx
    obtain ⟨hsupplied,hfinished⟩ := (always_sound (main_course (course baud)) (course baud).start
      (waiting_exec hx).1).2
    have hmarks : Supplied (marks s.host.trace) s.cellular := hsupplied
    match hm : marks s.host.trace, hfinished with
    | .deinitialised :: _, _ => exact .inr (hmarks.off (by rw [hm]; rfl))
    | [.initialised false], _ => exact .inl rfl

end SupplyStation

end UbloxCellular.App
