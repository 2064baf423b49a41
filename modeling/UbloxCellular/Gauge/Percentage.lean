import UbloxCellular.Gauge.Power
import UbloxCellular.Gauge.Readings
import UbloxCellular.Gauge.Flags
import UbloxCellular.Gauge.Halting
import UbloxCellular.Interaction.Moment

namespace UbloxCellular.Gauge
open Interaction I2c BatteryGaugeBq27441

def waking (g : BatteryGaugeBq27441) : BusCode BatteryGaugeBq27441 :=
  if g.isGaugeEnabled then pure g else do return (← g.enableGauge false).2

def measured (g : BatteryGaugeBq27441) : BusCode (BatteryGaugeBq27441 ⊕ Int) := do
  let g ← waking g
  if g.isGaugeEnabled then
    let r ← g.getRemainingPercentage
    if r.1 then return .inr (r.2.getD 0)
    else
      wait 500
      return .inl g
  else return .inr 0

def detected (g : BatteryGaugeBq27441) : BusCode (BatteryGaugeBq27441 ⊕ Int) := do
  if ← g.isBatteryDetected then measured g else return .inr 0

def measure (g : BatteryGaugeBq27441) : BusCode (BatteryGaugeBq27441 ⊕ Int) := do
  let r ← detected g
  wait 500
  return r

-- Only the build for the C030 board has disableBatteryDetect().
def measurements (targetUbloxC030 : Bool) (g : BatteryGaugeBq27441) : BusCode Int :=
  if targetUbloxC030 then do
    let _ ← g.disableBatteryDetect
    Prog.iterate measure g
  else Prog.iterate measure g

def batteryPercentage (targetUbloxC030 : Bool) (gAddress : Byte) : BusCode Int := do
  let r ← (new gAddress).init true 0x55 0x8000
  if r.1 then measurements targetUbloxC030 r.2 else return 0

section Value
variable {t u t' : Tape} {g : BatteryGaugeBq27441}

def Charge (t t' : Tape) (w : Word) : Prop :=
  ∃ u lo hi, t <:+ u ∧ w = hi ++ lo ∧
    t' = .read 0xaa 2 (some [lo,hi]) :: .write 0xaa [0x1c] true :: u

structure Held (t : Tape) (g : BatteryGaugeBq27441) (u : Tape) : Prop where
  since : t <:+ u
  address : g.gAddress = 0xaa

theorem Held.later (h : Held t g u) (hu : u <:+ t') : Held t g t' := ⟨h.since.trans hu,h.address⟩

def Reported (t : Tape) (r : Int) (t' : Tape) : Prop := r = 0 ∨ ∃ w, Charge t t' w ∧ r = w.toNat

theorem enableGauge_self {W : Type} {H : Handler Bus W} {w w' : W} {isSlow : Bool}
    {r : Bool × BatteryGaugeBq27441} (h : Exec H (g.enableGauge isSlow) w r w') :
    r.2 = { g with gGaugeOn := r.2.gGaugeOn } := by
  rw [enableGauge] at h
  split at h
  · obtain ⟨_,_,-,hrest⟩ := exec_bind.mp h
    obtain ⟨b,_,-,hend⟩ := exec_bind.mp hrest
    cases b with
    | true =>
      obtain ⟨_,_,-,hunlocked⟩ := exec_bind.mp hend
      obtain ⟨_,_,-,hret⟩ := exec_bind.mp hunlocked
      obtain ⟨rfl,-⟩ := exec_pure.mp hret
      rfl
    | false =>
      obtain ⟨_,_,-,hret⟩ := exec_bind.mp hend
      obtain ⟨rfl,-⟩ := exec_pure.mp hret
      rfl
  · obtain ⟨rfl,-⟩ := exec_pure.mp h
    rfl

theorem waking_held {g' : BatteryGaugeBq27441} (h : Exec Tape.handler (waking g) u g' t')
    (hg : Held t g u) : Held t g' t' := by
  rw [waking] at h
  split at h
  · obtain ⟨rfl,rfl⟩ := exec_pure.mp h
    exact hg
  · obtain ⟨r,v,henable,hret⟩ := exec_bind.mp h
    obtain ⟨rfl,rfl⟩ := exec_pure.mp hret
    rw [enableGauge_self henable]
    exact ⟨hg.since.trans (Tape.exec_suffix henable),hg.address⟩

theorem charge_read {x : Bool × Option Int}
    (h : Exec Tape.handler g.getRemainingPercentage u x t') (hg : Held t g u)
    (hon : g.isGaugeEnabled = true) (hx : x.1 = true) : Reported t (x.2.getD 0) t' := by
  obtain ⟨w,⟨v,lo,hi,hv,rfl,rfl⟩,hstored⟩ :=
    (wp_sound (getter_spec .remainingPercentage g u) h).answered hx
  have hnone : g.hibernated = [] := if_pos hon
  rw [hnone,hstored,hg.address]
  exact .inr ⟨_,⟨v,lo,hi,hg.since.trans hv,rfl,rfl⟩,rfl⟩

theorem measured_held {r : BatteryGaugeBq27441 ⊕ Int} (h : Exec Tape.handler (measured g) u r t')
    (hg : Held t g u) : r.elim (fun g' => Held t g' t') (fun v => Reported t v t') := by
  obtain ⟨g',v,hwaking,hrest⟩ := exec_bind.mp h
  have hheld := waking_held hwaking hg
  split at hrest
  · rename_i hon
    obtain ⟨x,v',hread,hend⟩ := exec_bind.mp hrest
    split at hend
    · rename_i hx
      obtain ⟨rfl,rfl⟩ := exec_pure.mp hend
      exact charge_read hread hheld hon hx
    · obtain ⟨_,v'',hwait,hret⟩ := exec_bind.mp hend
      obtain ⟨rfl,rfl⟩ := exec_pure.mp hret
      exact hheld.later ((Tape.exec_suffix hread).trans (Tape.exec_suffix hwait))
  · obtain ⟨rfl,rfl⟩ := exec_pure.mp hrest
    exact .inl rfl

theorem detected_held {r : BatteryGaugeBq27441 ⊕ Int} (h : Exec Tape.handler (detected g) u r t')
    (hg : Held t g u) : r.elim (fun g' => Held t g' t') (fun v => Reported t v t') := by
  obtain ⟨b,v,hb,hrest⟩ := exec_bind.mp h
  cases b with
  | true => exact measured_held hrest (hg.later (Tape.exec_suffix hb))
  | false =>
    obtain ⟨rfl,rfl⟩ := exec_pure.mp hrest
    exact .inl rfl

theorem measure_held {r : BatteryGaugeBq27441 ⊕ Int} (h : Exec Tape.handler (measure g) u r t')
    (hg : Held t g u) : r.elim (fun g' => Held t g' t') (fun v => Reported t v t') := by
  obtain ⟨r',v,hr,hend⟩ := exec_bind.mp h
  obtain ⟨_,v',hwait,hret⟩ := exec_bind.mp hend
  obtain rfl : v' = v := exec_perform.mp hwait
  obtain ⟨rfl,rfl⟩ := exec_pure.mp hret
  exact detected_held hr hg

theorem measures_reported {r : Int} (h : Exec Tape.handler (Prog.iterate measure g) u r t')
    (hg : Held t g u) : Reported t r t' :=
  wp_sound (wp_iterate (Q := Reported t) (fun g v => Held t g v) hg (fun g v hv =>
    wp_iff_exec.mpr (fun r w hx => by
      cases r <;> exact measure_held hx hv))) h

theorem percentage_reported {targetUbloxC030 : Bool} {gAddress : Byte} {r : Int}
    (h : Exec Tape.handler (batteryPercentage targetUbloxC030 gAddress) t r t') :
    Reported t r t' := by
  obtain ⟨x,u,hinit,hrest⟩ := exec_bind.mp h
  obtain ⟨o,-,rfl⟩ := init_taped hinit
  have hheld : Held t { (new gAddress).given 0x55 0x8000 with
      gReady := o.getD (new gAddress).gReady } u := ⟨Tape.exec_suffix hinit,rfl⟩
  split at hrest
  · rw [measurements] at hrest
    split at hrest
    · obtain ⟨_,v,hdisable,hloop⟩ := exec_bind.mp hrest
      exact measures_reported hloop (hheld.later (Tape.exec_suffix hdisable))
    · exact measures_reported hrest hheld
  · obtain ⟨rfl,rfl⟩ := exec_pure.mp hrest
    exact .inl rfl

def charged : Prog.Oracle Bus Tape :=
  Tape.play (fun _ _ => true) (fun t _ => some (.ofFn (fun i =>
    if t.take 2 = [.write 0xaa [0x00] true,.write 0xaa [0x00,0x02,0x00] true] then
      if i.val = 0 then 0x09 else 0x01
    else if t.head? = some (.write 0xaa [0x06] true) then
      if i.val = 0 then if configUpdate 0xaa t then 0x18 else 0x08 else 0x00
    else if t.head? = some (.write 0xaa [0x60] true) then 0xff
    else if t.head? = some (.write 0xaa [0x1c] true) then if i.val = 0 then 57 else 0
    else 0x00)))

end Value

section Power
variable {address : Byte} {g : BatteryGaugeBq27441} {n n' : Node Chip}

structure Kept (g : BatteryGaugeBq27441) (n : Node Chip) : Prop where
  sound : Sound g n
  guarded : g.guarded = true

theorem Kept.still (h : Kept g n) (hs : Sound g n') : Kept g n' := ⟨hs,h.guarded⟩

theorem Kept.awake (h : Kept g n) (hon : g.isGaugeEnabled = true) : n.core.hibernating = false := by
  have hsettled : n.core.hibernating = !g.gGaugeOn :=
    h.sound.power (Bool.and_eq_true_iff.mp h.guarded).1
  rw [hsettled,show g.gGaugeOn = true from hon]
  rfl

theorem waking_kept {g' : BatteryGaugeBq27441}
    (h : Exec (answering address).handler (waking g) n g' n') (hg : Kept g n) : Kept g' n' := by
  rw [waking] at h
  split at h
  · obtain ⟨rfl,rfl⟩ := exec_pure.mp h
    exact hg
  · obtain ⟨r,v,henable,hret⟩ := exec_bind.mp h
    obtain ⟨rfl,rfl⟩ := exec_pure.mp hret
    refine ⟨(wp_sound (enableGauge_sound false hg.sound) henable).1,?_⟩
    rw [enableGauge_self henable]
    exact hg.guarded

theorem charge_answered (hg : g.guarded = true) (hon : g.isGaugeEnabled = true) :
    wp (answering address).spec g.getRemainingPercentage (fun x _ => x.1 = true) n := by
  have hon' : g.gGaugeOn = true := hon
  rw [getRemainingPercentage,if_pos hg,recent,if_pos hon',hibernate,if_pos hon']
  simp only [wp_bind,wp_pure,if_true,Device.wp_lock]
  refine fun x _ => wp_word (Bool.and_eq_true_iff.mp hg).2 (fun _ _ _ h => ?_)
    (fun p y lo hi _ _ _ => ?_)
  · exact absurd h (by simp)
  · rw [sleep,if_pos hon']
    simp only [wp_pure,Device.wp_unlock]
    exact fun _ _ => rfl

def Done (r : BatteryGaugeBq27441 ⊕ Int) (n : Node Chip) : Prop :=
  ∃ v, r = .inr v ∧ (v ≠ 0 → n.core.hibernating = false)

theorem measured_done {r : BatteryGaugeBq27441 ⊕ Int}
    (h : Exec (answering address).handler (measured g) n r n') (hg : Kept g n) : Done r n' := by
  obtain ⟨g',v,hwaking,hrest⟩ := exec_bind.mp h
  have hkept := waking_kept hwaking hg
  split at hrest
  · rename_i hon
    obtain ⟨x,v',hread,hend⟩ := exec_bind.mp hrest
    have hx : x.1 = true :=
      wp_sound (Q := fun x _ => x.1 = true) (charge_answered hkept.guarded hon) hread
    rw [if_pos hx] at hend
    obtain ⟨rfl,rfl⟩ := exec_pure.mp hend
    have hsound : Sound g' n' :=
      wp_sound (Q := fun _ => Sound g') (getRemainingPercentage_sound hkept.sound) hread
    exact ⟨_,rfl,fun _ => (hkept.still hsound).awake hon⟩
  · obtain ⟨rfl,rfl⟩ := exec_pure.mp hrest
    exact ⟨0,rfl,absurd rfl⟩

theorem measure_done {r : BatteryGaugeBq27441 ⊕ Int}
    (h : Exec (answering address).handler (measure g) n r n') (hg : Kept g n) : Done r n' := by
  obtain ⟨r',v,hr,hend⟩ := exec_bind.mp h
  obtain ⟨_,v',hwait,hret⟩ := exec_bind.mp hend
  obtain ⟨rfl,rfl⟩ := exec_pure.mp hret
  obtain ⟨b,u,hb,hrest⟩ := exec_bind.mp hr
  have hkept : Kept g u :=
    hg.still (wp_sound (Q := fun _ => Sound g) (isBatteryDetected_sound hg.sound) hb)
  cases b with
  | true =>
    obtain ⟨c,rfl,hawake⟩ := measured_done hrest hkept
    refine ⟨c,rfl,fun hc => ?_⟩
    have hsame := wp_sound (kept_hibernating (wait 500) inferInstance) hwait
    exact hsame.trans (hawake hc)
  | false =>
    obtain ⟨rfl,rfl⟩ := exec_pure.mp hrest
    exact ⟨0,rfl,absurd rfl⟩

instance : Halting (answering address).handler (measure g) := by
  simp only [measure,detected,measured,waking]
  infer_instance

theorem measures_done (hg : Kept g n) :
    Halts (answering address).handler (Prog.iterate measure g) n ∧
      wp (answering address).spec (Prog.iterate measure g)
        (fun v n' => v ≠ 0 → n'.core.hibernating = false) n := by
  constructor
  · refine .loop (Halting.run n) (fun s' n' h => ?_) (fun c n' _ => .ret c n')
    obtain ⟨v,hv,-⟩ := measure_done h hg
    cases hv
  · refine wp_iterate Kept hg (fun g m hm => wp_iff_exec.mpr (fun r m' hx => ?_))
    obtain ⟨v,rfl,hv⟩ := measure_done hx hm
    exact hv

theorem init_self {W : Type} {H : Handler Bus W} {w w' : W} {a : Byte} {code : Word}
    {r : Bool × BatteryGaugeBq27441} (h : Exec H (g.init true a code) w r w') :
    r.2.gpI2c = true := by
  rw [init,if_pos rfl] at h
  obtain ⟨_,_,-,hrest⟩ := exec_bind.mp h
  obtain ⟨_,_,-,hend⟩ := exec_bind.mp hrest
  obtain ⟨_,_,-,hret⟩ := exec_bind.mp hend
  obtain ⟨rfl,-⟩ := exec_pure.mp hret
  rfl

theorem initialised_kept {a : Byte} {r : Bool × BatteryGaugeBq27441}
    (h : Exec (answering address).handler ((new a).init true 0x55 0x8000) n r n')
    (hr : r.1 = true) : Kept r.2 n' := by
  have hcode : Inert 0x8000 := ⟨by decide,by decide⟩
  obtain ⟨hsound,hready,-⟩ := wp_sound (init_sound 0x55 (fun _ => ⟨rfl,hcode⟩) (new_sound a n)) h
  exact ⟨hsound,Bool.and_eq_true_iff.mpr ⟨hready.symm.trans hr,init_self h⟩⟩

theorem measurements_done (targetUbloxC030 : Bool) (hg : Kept g n) :
    Halts (answering address).handler (measurements targetUbloxC030 g) n ∧
      wp (answering address).spec (measurements targetUbloxC030 g)
        (fun v n' => v ≠ 0 → n'.core.hibernating = false) n := by
  cases targetUbloxC030 with
  | false => exact measures_done hg
  | true =>
    have hdisabled : ∀ b n', Exec (answering address).handler g.disableBatteryDetect n b n' →
        Kept g n' := fun b n' hx =>
      hg.still (wp_sound (Q := fun _ => Sound g) (disableBatteryDetect_sound hg.sound) hx)
    constructor
    · exact (Halting.run n).bind (fun b n' hx => (measures_done (hdisabled b n' hx)).1)
    · exact wp_seq (Device.mono _) (wp_iff_exec.mpr hdisabled) (fun b n' hk => (measures_done hk).2)

instance halting_percentage (targetUbloxC030 : Bool) (a : Byte) :
    Halting (answering 0xaa).handler (batteryPercentage targetUbloxC030 a) := by
  refine ⟨fun n => (Halting.run n).bind (fun r m hr => ?_)⟩
  split
  · rename_i hready
    exact (measurements_done targetUbloxC030 (initialised_kept hr hready)).1
  · exact .ret _ _

theorem percentage_power (targetUbloxC030 : Bool) (a : Byte) (n : Node Chip) :
    Halts (answering 0xaa).handler (batteryPercentage targetUbloxC030 a) n ∧
      ∀ v n', Exec (answering 0xaa).handler (batteryPercentage targetUbloxC030 a) n v n' →
        v ≠ 0 → n'.core.hibernating = false := by
  refine ⟨Halting.run n,fun v n' h => ?_⟩
  obtain ⟨r,m,hr,hrest⟩ := exec_bind.mp h
  split at hrest
  · rename_i hready
    exact wp_sound (measurements_done targetUbloxC030 (initialised_kept hr hready)).2 hrest
  · obtain ⟨rfl,-⟩ := exec_pure.mp hrest
    exact absurd rfl

def charge (c : Chip) (a : Byte) : Byte :=
  if a = 0x1c then 57 else if a = 0x06 then if c.configFlag then 0x18 else 0x08 else c.answer a

theorem percentage_power_charged : ∃ n', Exec (answering 0xaa).handler (batteryPercentage true 0x00)
    ⟨0x00,factory false 0x00⟩ 57 n' ∧ n'.core.hibernating = false := by
  have hrun : ((batteryPercentage true 0x00).run
      ((answering 0xaa).play charge Chip.settle) 1 ⟨0x00,factory false 0x00⟩).map Prod.fst =
      some 57 := by decide +kernel
  obtain ⟨⟨_,n'⟩,hr,rfl⟩ := Option.map_eq_some_iff.mp hrun
  have hexec := Device.play_exec (fun _ _ => trivial) (fun c => c.settle_drifts) hr
  exact ⟨n',hexec,(percentage_power true 0x00 _).2 _ _ hexec (by decide)⟩

end Power

end UbloxCellular.Gauge
