import UbloxCellular.App.Session

namespace UbloxCellular.App
open Interaction I2c

def levels : List Event → List Int
  | [] => []
  | .set _ .batteryLevel (.number n) :: es => n :: levels es
  | _ :: es => levels es

theorem levels_around {h h' : Host} (hh : Around h h') : levels h'.trace = levels h.trace := by
  induction hh with
  | refl => rfl
  | tail _ hstep ih =>
    cases hstep with
    | callback c hi => exact ih
    | button => exact ih

theorem device_around {h h' : Host} (hh : Around h h') : h'.client.device = h.client.device := by
  induction hh with
  | refl => rfl
  | tail _ hstep ih =>
    cases hstep with
    | button => exact ih
    | callback c hi =>
      refine Eq.trans ?_ ih
      cases c with
      | bootstrapDone serverObject => cases serverObject <;> rfl
      | _ => rfl

inductive Measured : List Int → Tape → Prop
  | nothing (t : Tape) : Measured [] t
  | level {l : List Int} {n : Int} {s t u : Tape} :
      Measured l s → Gauge.Reported s n t → t <:+ u → Measured (n :: l) u

theorem Measured.later {l : List Int} {t u : Tape} (h : Measured l t) (htu : t <:+ u) :
    Measured l u := by
  cases h with
  | nothing => exact .nothing u
  | level hl hn hs => exact .level hl hn (hs.trans htu)

section Level
variable {E : Type → Type 1} {V α β : Type} {H : Handler E V} {w v : System V Tape}

structure Gauged (w : System V Tape) : Prop where
  measured : Measured (levels w.host.trace) w.gauge
  device : w.host.client.device = device

theorem Gauged.around {h : Host} (hw : Gauged w) (hh : Around w.host h) :
    Gauged { w with host := h } where
  measured := by
    rw [levels_around hh]
    exact hw.measured
  device := (device_around hh).trans hw.device

def gauging (H : Handler E V) : Frame (AppEff E) (System V Tape) where
  spec := (system H Tape.handler).spec.always Gauged
  mono := Spec.always_mono (Handler.spec_mono _) _
  pre := Gauged
  rel w v := Gauged w → Gauged v
  refl _ := id
  trans _ _ _ h k := k ∘ h
  keep _ _ h hw := h hw

theorem gauging_effect {e : AppEff E β} (h : ∀ u b v, Gauged u → act H Tape.handler e u b v →
    Gauged v) : (gauging H).Keeps (Prog.perform e) := by
  constructor
  rintro w hw b v ⟨h',hh,hact⟩
  have hv := h _ b v (hw.around hh) hact
  exact ⟨hv,fun _ => hv⟩

theorem gauging_say {e : AppEff E β} {c : β → Event}
    (h : ∀ u b v, act H Tape.handler e u b v → v = u.onHost (fun h => h.say (c b)))
    (hc : ∀ b l, levels (c b :: l) = levels l) : (gauging H).Keeps (Prog.perform e) := by
  refine gauging_effect (fun u b v hu hv => ?_)
  obtain rfl := h u b v hv
  refine ⟨?_,hu.device⟩
  rw [show levels (u.onHost (fun h => h.say (c b))).host.trace = levels u.host.trace from hc b _]
  exact hu.measured

instance (k : Kind) : (gauging H).Keeps (create k : AppCode E Pointer) :=
  gauging_say (fun _ _ _ h => h) (fun _ _ => rfl)

instance (i : Pointer) (s : Service) : (gauging H).Keeps (call i s : AppCode E Unit) :=
  gauging_say (fun _ _ _ h => h) (fun _ _ => rfl)

instance (m : Mark) : (gauging H).Keeps (mark m : AppCode E Unit) :=
  gauging_say (fun _ _ _ h => h) (fun _ _ => rfl)

instance : (gauging H).Keeps (ledOn : AppCode E Unit) :=
  gauging_effect (fun _ _ _ hu h => h ▸ ⟨hu.measured,hu.device⟩)

instance : (gauging H).Keeps (ledOff : AppCode E Unit) :=
  gauging_effect (fun _ _ _ hu h => h ▸ ⟨hu.measured,hu.device⟩)

instance : (gauging H).Keeps (client : AppCode E MbedClient) :=
  gauging_effect (fun _ _ _ hu h => h.2 ▸ hu)

instance : (gauging H).Keeps (heapSize : AppCode E UInt32) :=
  gauging_effect (fun _ _ _ hu h => h ▸ hu)

instance : (gauging H).Keeps (buttonPressed : AppCode E Bool) :=
  gauging_effect (fun _ _ _ hu h => h.2 ▸ hu)

instance (ms : Nat) : (gauging H).Keeps (wait ms : AppCode E Unit) :=
  gauging_effect (fun _ _ _ hu h => h ▸ hu)

theorem gauging_setClient {f : MbedClient → MbedClient} (hf : ∀ c, (f c).device = c.device) :
    (gauging H).Keeps (setClient f : AppCode E Unit) :=
  gauging_effect (fun _ _ _ hu h => h ▸ ⟨hu.measured,(hf _).trans hu.device⟩)

instance (q : Prog E α) : (gauging H).Keeps (cellular q : AppCode E α) := by
  constructor
  intro w hw
  have hpart {v : System V Tape} (h : v.gauge = w.gauge ∧ Around w.host v.host) : Gauged v := by
    have hv := hw.around h.2
    exact ⟨h.1 ▸ hv.measured,hv.device⟩
  exact Part.wp_code (P := cellularPart H Tape.handler) (fun v _ h => hpart h)
    (fun _ _ _ h _ => hpart h)

theorem moment_suffix {q : BusCode α} {t u : Tape} (h : Moment Tape.handler q t u) : t <:+ u :=
  h.linked (R := fun t u => t <:+ u) (fun _ => List.suffix_rfl) (fun _ _ _ => List.IsSuffix.trans)
    (fun _ _ _ _ _ => Tape.step_suffix)

theorem wp_gauging {q : BusCode α} {Q : α → System V Tape → Prop} (hw : Gauged w)
    (h : ∀ a v, Exec Tape.handler q w.gauge a v.gauge → Gauged v →
      levels v.host.trace = levels w.host.trace → Q a v) :
    wp (gauging H).spec (gauge q) Q w := by
  have hpart {v : System V Tape} (ht : w.gauge <:+ v.gauge)
      (h : v.cellular = w.cellular ∧ Around w.host v.host) : Gauged v := by
    have hv := hw.around h.2
    exact ⟨hv.measured.later ht,hv.device⟩
  refine Part.wp_code (P := gaugePart H Tape.handler) (fun v hm hr => ?_) (fun a v hx hr => ?_)
  · exact hpart (moment_suffix hm) hr
  · exact h a v hx (hpart (Tape.exec_suffix hx) hr) (levels_around hr.2)

theorem set_level {o : Pointer} {n : Int} (hw : Gauged w) {t : Tape}
    (ht : Measured (levels w.host.trace) t) (hn : Gauge.Reported t n w.gauge) :
    wp (gauging H).spec (set o .batteryLevel (.number n)) (fun _ => Gauged) w := by
  rintro b v ⟨h,hh,rfl⟩
  have hv : Gauged (System.onHost { w with host := h }
      (fun h => h.say (.set o .batteryLevel (.number n)))) := by
    refine ⟨?_,(device_around hh).trans hw.device⟩
    have hl : Measured (levels h.trace) t := by
      rw [levels_around hh]
      exact ht
    exact .level hl hn List.suffix_rfl
  exact ⟨hv,hv⟩

theorem gauging_set {o : Pointer} {r : Resource} {x : Value}
    (hx : r = .batteryLevel → x = .number 0) : (gauging H).Keeps (set o r x : AppCode E Unit) := by
  by_cases hr : r = .batteryLevel
  · obtain rfl := hr
    obtain rfl := hx rfl
    constructor
    intro w hw
    exact wp_mono (gauging H).mono (fun _ _ h _ => h) (set_level hw hw.measured (.inl rfl))
  · refine gauging_say (c := fun _ => .set o r x) (fun _ _ _ h => h) (fun _ l => ?_)
    cases r with
    | batteryLevel => exact absurd rfl hr
    | _ => rfl

theorem gauging_createWith {k : Kind} {l : List (Resource × Value)}
    (hl : ∀ y ∈ l, y.1 = .batteryLevel → y.2 = .number 0) :
    (gauging H).Keeps (createWith k l : AppCode E Pointer) := by
  have hall (o : Pointer) : (gauging H).Keeps (setAll o l : AppCode E Unit) := by
    induction l with
    | nil => exact Frame.keeps_pure ()
    | cons y l ih =>
      have hy : (gauging H).Keeps (set o y.1 y.2 : AppCode E Unit) :=
        gauging_set (hl y List.mem_cons_self)
      have ih := ih (fun z hz => hl z (List.mem_cons_of_mem _ hz))
      simp only [setAll]
      infer_instance
  simp only [createWith]
  infer_instance

instance (b : Board) (o : Pointer) : (gauging H).Keeps (refresh b o : AppCode E Unit) := by
  constructor
  intro w hw
  refine (wp_bind _ _ _ _).mpr (wp_gauging hw (fun n v hx hv hl => ?_))
  have hset := set_level (H := H) (o := o) hv (hl ▸ hw.measured) (Gauge.percentage_reported hx)
  refine wp_seq (gauging H).mono hset (fun _ u hu => ?_)
  have hfree : (gauging H).Keeps (do
      let free ← memoryFree
      set o .memoryFree (.number free)
      testUpdateRegister : AppCode E Unit) := by
    have hkeeps (x : Value) : (gauging H).Keeps (set o .memoryFree x : AppCode E Unit) :=
      gauging_set nofun
    simp only [memoryFree,testUpdateRegister]
    infer_instance
  exact wp_mono (gauging H).mono (fun _ _ h _ => h hu) (hfree.run u hu)

instance : (gauging H).Keeps (createDeviceObject : AppCode E Pointer) := by
  constructor
  rintro w hw c v ⟨h,hh,rfl,rfl⟩
  have hv := hw.around hh
  refine ⟨hv,?_⟩
  have hcreate : (gauging H).Keeps (createWith .device
      [(.manufacturer,.text h.client.device.manufacturer),(.deviceType,.text h.client.device.type),
        (.modelNumber,.text h.client.device.modelNumber),
        (.serialNumber,.text h.client.device.serialNumber),
        (.hardwareVersion,.text h.client.device.hardwareVersion),
        (.firmwareVersion,.text h.client.device.firmwareVersion),
        (.softwareVersion,.text h.client.device.softwareVersion),
        (.batteryLevel,.number h.client.device.batteryLevel),
        (.batteryStatus,.number h.client.device.batteryStatus),
        (.memoryFree,.number h.client.device.memoryFree),
        (.memoryTotal,.number h.client.device.memoryTotal)] : AppCode E Pointer) := by
    rw [show h.client.device = device from hv.device]
    exact gauging_createWith (by decide)
  exact wp_mono (gauging H).mono (fun _ _ h _ => h hv) (hcreate.run _ hv)

instance (led temp : Pointer) : (gauging H).Keeps (createObjects led temp : AppCode E Objects) := by
  have haddress (a : String) : (gauging H).Keeps (setClient (fun c =>
      { c with serverAddress := a }) : AppCode E Unit) := gauging_setClient (fun _ => rfl)
  have hinterface (i : Pointer) : (gauging H).Keeps (setClient (fun c =>
      { c with interface := i }) : AppCode E Unit) := gauging_setClient (fun _ => rfl)
  have hsecurity (s : Pointer) : (gauging H).Keeps (setRegisterObject s : AppCode E Unit) :=
    gauging_setClient (fun c => by split <;> rfl)
  have hregister : (gauging H).Keeps (createRegisterObject : AppCode E Pointer) := by
    have hwith (c : MbedClient) : (gauging H).Keeps (createWith .security
        [(.m2mServerUri,.text c.serverAddress),(.securityMode,.certificate),
          (.serverPublicKey,.certificate),(.publicKey,.certificate),(.secretkey,.certificate)] :
        AppCode E Pointer) := gauging_createWith (by simp)
    simp only [createRegisterObject]
    infer_instance
  have hfirmware : (gauging H).Keeps (createFirmwareObject : AppCode E Pointer) :=
    gauging_createWith (by decide)
  have hserver : (gauging H).Keeps (createServerObject : AppCode E Pointer) :=
    gauging_createWith (by decide)
  simp only [createObjects,createInterface]
  infer_instance

set_option synthInstance.maxSize 8192 in
instance (interface : InterfaceClass E) (b : Board) (o : Objects) (u : Unit) :
    (gauging H).Keeps (round interface b o u) := by
  simp only [round,serve,online,registerSuccessful,testRegister]
  infer_instance

set_option synthInstance.maxSize 8192 in
instance (interface : InterfaceClass E) (b : Board) : (gauging H).Keeps (main interface b) := by
  simp only [main,work,stop,testUnregister]
  infer_instance

theorem levels_measured {interface : InterfaceClass E} {b : Board} {x : V} {t : Tape}
    (hw : Moment (system H Tape.handler) (main interface b) ⟨x,t,.start⟩ w) :
    Measured (levels w.host.trace) w.gauge := by
  have hmain : (gauging H).Keeps (main interface b) := inferInstance
  have hstart : Gauged (V := V) ⟨x,t,.start⟩ := ⟨.nothing t,rfl⟩
  exact (always_moment (hmain.run _ hstart) hstart hw).measured

end Level

theorem levels_measured_charged : ∃ w : System Unit Tape,
    Moment (system anything Tape.handler) (main ready ⟨true,0⟩) ⟨(),[],.start⟩ w ∧
    levels w.host.trace = [57,0] ∧ Measured (levels w.host.trace) w.gauge := by
  have hrun : ((main ready ⟨true,0⟩).run (rehearse deadBus Gauge.charged lively (fun _ => some 7)) 3
      ⟨(),[],.start⟩).map (fun r => levels r.2.host.trace) = some [57,0] := by decide +kernel
  obtain ⟨⟨_,w⟩,hr,hw⟩ := Option.map_eq_some_iff.mp hrun
  have hcharged : ∀ ⦃β : Type⦄ (e : Bus β) t b t', Gauge.charged e t = some (b, t') →
      Tape.handler e t b t' := by
    intro β e t b t' he
    cases e <;> cases he <;> rfl
  have hx := run_exec (H := system anything Tape.handler) id (rehearse_system anything Tape.handler
    (fun _ _ _ _ _ _ => trivial) hcharged lively_around) hr
  exact ⟨w,hx.moment,hw,levels_measured hx.moment⟩

end UbloxCellular.App
