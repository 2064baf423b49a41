import UbloxCellular.Gauge.Driver
import UbloxCellular.Interaction.Part
import UbloxCellular.Interaction.Schedule
import UbloxCellular.Interaction.Watch

namespace UbloxCellular.Gauge
open Interaction Monitor I2c BatteryGaugeBq27441

-- The transfers of the bus, whose lock is the one of the I2C object.
inductive Wires : Type → Type 1 where
  | write (address : Byte) (data : List Byte) (repeated : Bool) : Wires Bool
  | read (address : Byte) (length : Nat) : Wires (Option (Vector Byte length))
  | wait (ms : Nat) : Wires Unit

def onBus : ∀ ⦃β : Type⦄, Bus β → Locked Wires β
  | _, .lock => .lock
  | _, .unlock => .unlock
  | _, .write a data repeated => .act (.write a data repeated)
  | _, .read a n => .act (.read a n)
  | _, .wait ms => .act (.wait ms)

abbrev Selection := Option (Byte × Byte)

def selects (a : Byte) (data : List Byte) (ack : Bool) : Selection :=
  if ack then data.head?.map (fun r => (a, r)) else none

-- The register that the next read will be answered from, and how many transfers went astray: made
-- without the lock, or read from a register that another task had selected.
structure Traffic where
  selected : Selection
  astray : Nat
  deriving DecidableEq, Repr

def Traffic.stray (v : Traffic) : Traffic := { v with astray := v.astray + 1 }

-- A call of an operation on an object of the task's own.
structure Job where
  op : Op
  gauge : BatteryGaugeBq27441

def sharing : Rules Wires Job Traffic Unit Selection where
  code o := (do
    let _ ← o.op.code o.gauge
    return () : BusCode Unit).within onBus
  start := none
  act
    | _, true, _, .write a data _, v, _, _, b, v', _, l' =>
      v' = { v with selected := selects a data b } ∧ l' = selects a data b
    | _, false, _, .write _ _ _, v, _, _, _, v', _, l' => v' = v.stray ∧ l' = none
    | _, true, _, .read a _, v, _, l, _, v', _, l' =>
      l' = l ∧ v' = if l.isSome ∧ l.map Prod.fst = some a ∧ l = v.selected then v else v.stray
    | _, false, _, .read _ _, v, _, l, _, v', _, l' => v' = v.stray ∧ l' = l
    | _, _, _, .wait _, v, _, l, _, v', _, l' => v' = v ∧ l' = l

def Fine (v : Traffic) : Prop := v.astray = 0

abbrev Tracks := Ghost Traffic Selection

abbrev bus (j : Job) : Spec Bus Tracks := fun _ e Q => sharing.watch Fine j (onBus e) Q

theorem bus_mono (j : Job) : Spec.Mono (bus j) :=
  fun _ e _ _ _ h hq => sharing.watch_mono Fine j (onBus e) _ _ _ h hq

def Inside (n : Nat) (t : Tracks) : Prop := ∃ v, t.held = some (n, v) ∧ Fine v

theorem within_inside {n : Nat} {v : Traffic} {l : Selection} (h : Fine v) :
    Within Fine (⟨some (n, v),l⟩ : Tracks) := by
  rintro _ _ ⟨⟩
  exact h

theorem within_free {l : Selection} : Within Fine (⟨none,l⟩ : Tracks) := by
  rintro _ _ ⟨⟩

structure Selected (a : Byte) (n : Nat) (t : Tracks) : Prop where
  held : ∃ v, t.held = some (n, v) ∧ Fine v ∧ t.loc = v.selected
  own : ∃ r, t.loc = some (a, r)

theorem Selected.inside {a : Byte} {n : Nat} {t : Tracks} (h : Selected a n t) : Inside n t := by
  obtain ⟨v,hv,hfine,-⟩ := h.held
  exact ⟨v,hv,hfine⟩

def inside (j : Job) (n : Nat) : Frame Bus Tracks where
  spec := bus j
  mono := bus_mono j
  pre := Inside n
  rel t u := Inside n t → Inside n u
  refl _ := id
  trans _ _ _ h k := k ∘ h
  keep _ _ h := h

section Rules
variable {j : Job} {n k : Nat} {t : Tracks} {g : BatteryGaugeBq27441} {α : Type}

theorem wp_transfer {data : List Byte} {r : Byte} {repeated : Bool} {f : Bool → BusCode α}
    {Q : α → Tracks → Prop} (ht : Inside n t)
    (hack : ∀ u, Selected g.gAddress n u → wp (bus j) (f true) Q u)
    (hnack : ∀ u, Inside n u → wp (bus j) (f false) Q u) :
    wp (bus j) (Prog.perform (.write g.gAddress (r :: data) repeated) >>= f) Q t := by
  obtain ⟨held,loc⟩ := t
  obtain ⟨v,hv,hfine⟩ := ht
  cases hv
  refine (wp_bind _ _ _ _).mpr ?_
  rintro _ b v' _ l' ⟨rfl,rfl⟩
  refine ⟨within_inside hfine,?_⟩
  cases b with
  | true => exact hack _ ⟨⟨_,rfl,hfine,rfl⟩,_,rfl⟩
  | false => exact hnack _ ⟨_,rfl,hfine⟩

theorem wp_choose {data : List Byte} {r : Byte} {f : Bool → BusCode α} {Q : α → Tracks → Prop}
    (ht : Inside n t) (hack : ∀ u, Selected g.gAddress n u → wp (bus j) (f true) Q u)
    (hnack : ∀ u, Inside n u → wp (bus j) (f false) Q u) :
    wp (bus j) (g.write (r :: data) >>= f) Q t := wp_transfer ht hack hnack

theorem wp_chooseRepeated {data : List Byte} {r : Byte} {f : Bool → BusCode α}
    {Q : α → Tracks → Prop} (ht : Inside n t)
    (hack : ∀ u, Selected g.gAddress n u → wp (bus j) (f true) Q u)
    (hnack : ∀ u, Inside n u → wp (bus j) (f false) Q u) :
    wp (bus j) (g.writeRepeated (r :: data) >>= f) Q t := wp_transfer ht hack hnack

theorem wp_fetch {f : Option (Vector Byte k) → BusCode α} {Q : α → Tracks → Prop}
    (ht : Selected g.gAddress n t) (h : ∀ x, wp (bus j) (f x) Q t) :
    wp (bus j) (g.read k >>= f) Q t := by
  obtain ⟨held,loc⟩ := t
  obtain ⟨⟨v,hv,hfine,hloc⟩,r,hr⟩ := ht
  cases hv
  refine (wp_bind _ _ _ _).mpr ?_
  rintro _ x v' _ l' ⟨rfl,rfl⟩
  have hl : l' = some (g.gAddress, r) := hr
  have hown : l'.isSome = true ∧ l'.map Prod.fst = some g.gAddress ∧ l' = v.selected := by
    refine ⟨?_,?_,hloc⟩ <;> rw [hl] <;> rfl
  rw [if_pos hown]
  exact ⟨within_inside hfine,h x⟩

end Rules

section Keeps
variable {j : Job} {n : Nat} {g : BatteryGaugeBq27441}

theorem keeps_of {α : Type} {p : BusCode α}
    (h : ∀ t, Inside n t → wp (bus j) p (fun _ => Inside n) t) : (inside j n).Keeps p :=
  ⟨fun t ht => wp_mono (bus_mono j) (fun _ _ hu _ => hu) (h t ht)⟩

theorem inside_run {α : Type} {p : BusCode α} [hp : (inside j n).Keeps p] {t : Tracks}
    (ht : Inside n t) : wp (bus j) p (fun _ => Inside n) t :=
  wp_mono (bus_mono j) (fun _ _ hu => hu ht) (hp.run t ht)

instance (r : Byte) (data : List Byte) : (inside j n).Keeps (g.write (r :: data)) := by
  rw [← bind_pure (g.write (r :: data))]
  exact keeps_of (fun _ ht => wp_choose ht (fun _ hu => hu.inside) (fun _ hu => hu))

instance (w : Word) : (inside j n).Keeps (g.control w) := by
  rw [BatteryGaugeBq27441.control]
  infer_instance

instance (ms : Nat) : (inside j n).Keeps (wait ms) := by
  refine keeps_of ?_
  rintro ⟨held,l⟩ ⟨v,hv,hfine⟩
  cases hv
  rintro _ b v' _ l' ⟨rfl,rfl⟩
  exact ⟨within_inside hfine,_,rfl,hfine⟩

instance (r : Byte) : (inside j n).Keeps (g.getTwoBytes r) := by
  rw [getTwoBytes]
  split
  · refine keeps_of (fun t ht => wp_choose ht (fun u hu => ?_) (fun u hu => hu))
    exact wp_fetch hu (fun _ => hu.inside)
  · exact Frame.keeps_pure none

instance : (inside j n).Keeps g.controlStatus := by
  rw [controlStatus]
  infer_instance

instance : (inside j n).Keeps g.isSealed := by
  rw [isSealed]
  infer_instance

instance : (inside j n).Keeps g.seal' := by
  rw [seal']
  infer_instance

instance (w : Word) : (inside j n).Keeps (g.unseal' w) := by
  rw [unseal']
  infer_instance

instance (b : Bool) : (inside j n).Keeps (g.accessible b) := by
  rw [accessible]
  infer_instance

instance (subClassId : Byte) (offset : Int) :
    (inside j n).Keeps (g.loadBlock subClassId offset) := by
  refine keeps_of (fun t ht => wp_choose ht (fun t ht => ?_) (fun _ ht => ht))
  refine wp_choose ht.inside (fun t ht => ?_) (fun _ ht => ht)
  refine wp_chooseRepeated ht.inside (fun t ht => wp_fetch ht (fun block => ?_)) (fun _ ht => ht)
  cases block with
  | none => exact ht.inside
  | some block =>
    refine wp_chooseRepeated ht.inside (fun t ht => wp_fetch ht (fun _ => ht.inside))
      (fun _ ht => ht)

instance (subClassId : Byte) (offset length : Int) :
    (inside j n).Keeps (g.readBlock subClassId offset length) := by
  refine keeps_of (fun t ht => wp_seq (bus_mono j) (inside_run ht) (fun block t ht => ?_))
  cases block with
  | none => exact ht
  | some block =>
    exact wp_chooseRepeated ht (fun t ht => wp_fetch ht (fun _ => ht.inside)) (fun _ ht => ht)

instance (subClassId : Byte) (offset length : Int) (pData : Bool) :
    (inside j n).Keeps (g.readExtendedData subClassId offset length pData) := by
  rw [readExtendedData]
  infer_instance

instance (unread : Word) (settled : Word → Bool) :
    (inside j n).Keeps (g.pollFlags unread settled) := by
  rw [pollFlags]
  infer_instance

instance : (inside j n).Keeps g.enterConfig := by
  rw [enterConfig]
  infer_instance

instance (offset : Int) (data : List Byte) (block : Vector Byte 32) :
    (inside j n).Keeps (g.storeBlock offset data block) := by
  rw [storeBlock]
  infer_instance

instance (b : Bool) : (inside j n).Keeps (g.leaveConfig b) := by
  rw [leaveConfig]
  infer_instance

instance (b : Bool) (subClassId : Byte) (offset : Int) (data : List Byte) :
    (inside j n).Keeps (g.writeBlock b subClassId offset data) := by
  rw [writeBlock]
  infer_instance

instance (subClassId : Byte) (offset length : Int) (pData : Option (List Byte)) :
    (inside j n).Keeps (g.writeExtendedData subClassId offset length pData) := by
  rw [writeExtendedData]
  infer_instance

instance : (inside j n).Keeps g.setHibernate := by
  rw [setHibernate]
  infer_instance

instance : (inside j n).Keeps g.configure := by
  rw [configure]
  infer_instance

instance (isSlow : Bool) : (inside j n).Keeps (g.setSleep isSlow) := by
  rw [setSleep]
  infer_instance

instance : (inside j n).Keeps g.hibernate := by
  rw [hibernate]
  infer_instance

instance (b : Bool) : (inside j n).Keeps (g.sleep b) := by
  rw [sleep]
  infer_instance

instance : (inside j n).Keeps g.clearReseal := by
  rw [clearReseal]
  infer_instance

instance (b : Bool) : (inside j n).Keeps (g.resetUnsealed b) := by
  rw [resetUnsealed]
  infer_instance

end Keeps

def Outside (t : Tracks) : Prop := t.held = none

def outside (j : Job) : Frame Bus Tracks where
  spec := bus j
  mono := bus_mono j
  pre := Outside
  rel t u := Outside t → Outside u
  refl _ := id
  trans _ _ _ h k := k ∘ h
  keep _ _ h k := h k

class Releases {α : Type} (j : Job) (p : BusCode α) : Prop where
  run : ∀ t, Inside 0 t → wp (bus j) p (fun _ => Outside) t

section Releases
variable {j : Job} {g : BatteryGaugeBq27441} {α β : Type}

instance releases_unlock : Releases j unlock := by
  refine ⟨?_⟩
  rintro ⟨held,l⟩ ⟨v,hv,hfine⟩
  cases hv
  exact ⟨hfine,within_free,rfl⟩

instance releases_after {p : BusCode α} {f : α → BusCode β} [(inside j 0).Keeps p]
    [hf : ∀ a, Releases j (f a)] : Releases j (p >>= f) :=
  ⟨fun _ ht => wp_seq (bus_mono j) (inside_run ht) (fun a u hu => (hf a).run u hu)⟩

instance releases_before {p : BusCode α} {f : α → BusCode β} [hp : Releases j p]
    [hf : ∀ a, (outside j).Keeps (f a)] : Releases j (p >>= f) :=
  ⟨fun t ht => wp_seq (bus_mono j) (hp.run t ht) (fun a u hu =>
    wp_mono (bus_mono j) (fun _ _ h => h hu) ((hf a).run u hu))⟩

instance releases_ite {c : Prop} [Decidable c] {p q : BusCode α} [Releases j p] [Releases j q] :
    Releases j (if c then p else q) := by
  split <;> infer_instance

instance keeps_section {f : Unit → BusCode β} [hf : Releases j (f ())] :
    (outside j).Keeps (lock >>= f) := by
  refine ⟨?_⟩
  rintro ⟨held,l⟩ ht
  have hheld : held = none := ht
  subst hheld
  exact fun v hv => ⟨within_inside hv,wp_mono (bus_mono j) (fun _ _ hu _ => hu)
    (hf.run _ ⟨v,rfl,hv⟩)⟩

instance keeps_pause (ms : Nat) : (outside j).Keeps (wait ms) := by
  refine ⟨?_⟩
  rintro ⟨held,l⟩ ht
  have hheld : held = none := ht
  subst hheld
  rintro v _ b v' _ l' ⟨rfl,rfl⟩
  exact ⟨rfl,within_free,fun _ => rfl⟩

instance keeps_makeAdcReading : (outside j).Keeps g.makeAdcReading := by
  rw [makeAdcReading]
  infer_instance

instance keeps_recent : (outside j).Keeps g.recent := by
  rw [recent]
  infer_instance

end Releases

theorem op_kept (j : Job) (o : Op) (g : BatteryGaugeBq27441) : (outside j).Keeps (o.code g) := by
  cases o with
  | init pI2c address sealCode =>
    simp only [Op.code,BatteryGaugeBq27441.init]
    infer_instance
  | enableGauge isSlow =>
    simp only [Op.code,enableGauge]
    infer_instance
  | disableGauge =>
    simp only [Op.code,disableGauge]
    infer_instance
  | disableBatteryDetect =>
    simp only [Op.code,plain,disableBatteryDetect]
    infer_instance
  | enableBatteryDetect =>
    simp only [Op.code,plain,enableBatteryDetect]
    infer_instance
  | isBatteryDetected =>
    simp only [Op.code,plain,isBatteryDetected]
    infer_instance
  | getTemperature =>
    simp only [Op.code,valued,getTemperature,BatteryGaugeBq27441.reading]
    infer_instance
  | getVoltage =>
    simp only [Op.code,valued,getVoltage,BatteryGaugeBq27441.reading]
    infer_instance
  | getCurrent =>
    simp only [Op.code,valued,getCurrent,BatteryGaugeBq27441.reading]
    infer_instance
  | getRemainingCapacity =>
    simp only [Op.code,valued,getRemainingCapacity,BatteryGaugeBq27441.reading]
    infer_instance
  | getRemainingPercentage =>
    simp only [Op.code,valued,getRemainingPercentage]
    infer_instance
  | advancedGetConfig subClassId offset length pData =>
    simp only [Op.code,valued,advancedGetConfig]
    infer_instance
  | advancedSetConfig subClassId offset length pData =>
    simp only [Op.code,plain,advancedSetConfig]
    infer_instance
  | advancedSendControlWord controlWord pDataReturned =>
    simp only [Op.code,valued,advancedSendControlWord]
    infer_instance
  | advancedGet address =>
    simp only [Op.code,valued,advancedGet]
    infer_instance
  | advancedIsSealed =>
    simp only [Op.code,plain,advancedIsSealed]
    infer_instance
  | advancedSeal =>
    simp only [Op.code,plain,advancedSeal]
    infer_instance
  | advancedUnseal sealCode =>
    simp only [Op.code,plain,advancedUnseal]
    infer_instance
  | advancedReset =>
    simp only [Op.code,plain,advancedReset]
    infer_instance

theorem job_watched (j : Job) : sharing.Watched Fine j := by
  have hcode := (op_kept j j.op j.gauge).run ⟨none,sharing.start⟩ rfl
  have hrun : wp (bus j) (do
      let _ ← j.op.code j.gauge
      return () : BusCode Unit) (fun _ => Outside) ⟨none,sharing.start⟩ :=
    wp_seq (bus_mono j) hcode (fun _ _ hu => hu rfl)
  exact wp_within.mpr hrun

abbrev Tasks (Tid : Type) := Config Wires Tid Job Traffic Unit Selection

def Tasks.start (Tid : Type) (g : BatteryGaugeBq27441) (selected : Selection) : Tasks Tid :=
  .idle Tid ⟨.disableGauge,g⟩ none ⟨selected,0⟩ ()

theorem transfers_own {Tid : Type} [DecidableEq Tid] {g : BatteryGaugeBq27441}
    {selected : Selection} {c : Tasks Tid}
    (h : Relation.ReflTransGen (Step sharing) (Tasks.start Tid g selected) c) :
    c.val.astray = 0 ∧ ∀ t, (c.thread t).code = .ret () → c.holds t = 0 := by
  have hfine : Fine ⟨selected,0⟩ := rfl
  have hs : c.Watched sharing Fine := run_watched job_watched (idle_watched hfine) h
  exact ⟨hs.val,fun t => hs.idle⟩

def acknowledge : Prog.Oracle (Locked Wires) (Solo Traffic Unit Selection)
  | _, .lock, w => some ((), { w with depth := w.depth + 1 })
  | _, .unlock, w => some ((), { w with depth := w.depth - 1 })
  | _, .act (.write a data _), w =>
    if 0 < w.depth then
      some (true, { w with
        val := { w.val with selected := selects a data true }
        loc := selects a data true })
    else none
  | _, .act (.read a k), w =>
    if 0 < w.depth ∧ w.loc.isSome ∧ w.loc.map Prod.fst = some a ∧ w.loc = w.val.selected then
      some (some (.replicate k 0), w)
    else none
  | _, .act (.wait _), w => some ((), w)

theorem acknowledge_sound {j : Job} {β : Type} {e : Locked Wires β}
    {w w' : Solo Traffic Unit Selection} {b : β} (h : acknowledge e w = some (b, w')) : sharing.solo j e w b w' := by
  rcases e with _ | _ | e
  · cases h; rfl
  · cases h; rfl
  cases e with
  | write a data repeated =>
    simp only [acknowledge,Option.ite_none_right_eq_some,Option.some.injEq,Prod.mk.injEq] at h
    obtain ⟨hd,rfl,rfl⟩ := h
    rw [Rules.solo,decide_eq_true hd]
    exact ⟨rfl,rfl,rfl⟩
  | read a k =>
    simp only [acknowledge,Option.ite_none_right_eq_some,Option.some.injEq,Prod.mk.injEq] at h
    obtain ⟨⟨hd,hown⟩,rfl,rfl⟩ := h
    rw [Rules.solo,decide_eq_true hd]
    exact ⟨rfl,rfl,(if_pos hown).symm⟩
  | wait ms =>
    cases h
    refine ⟨rfl,?_⟩
    generalize decide (0 < w.depth) = within
    cases within <;> exact ⟨rfl,rfl⟩

def gauge (gAddress : Byte) : BatteryGaugeBq27441 := ⟨true,gAddress,0x8000,true,false⟩

def voltageWhile (n : Nat) : Tasks Bool :=
  (Tasks.start Bool (gauge 0xaa) none).pair sharing acknowledge ⟨.getVoltage,gauge 0xaa⟩
    ⟨.getRemainingPercentage,gauge 0xac⟩ n

theorem voltageWhile_steps (n : Nat) : Relation.ReflTransGen (Step sharing)
    (Tasks.start Bool (gauge 0xaa) none) (voltageWhile n) :=
  pair_steps (fun _ => rfl) (fun _ _ _ _ _ _ _ h => acknowledge_sound h) n

theorem transfers_own_voltage : ∃ c d e : Tasks Bool,
    c.holds false = 1 ∧ c.val.selected = some (0xac, 0x00) ∧
    d.holds true = 1 ∧ d.val.selected = some (0xaa, 0x04) ∧ (d.thread false).code.done = false ∧
    e.val.astray = 0 ∧ e.holds true = 0 ∧ e.holds false = 0 := by
  have htrue : ((voltageWhile 15).thread true).code.done = true := by decide +kernel
  have hfalse : ((voltageWhile 15).thread false).code.done = true := by decide +kernel
  obtain ⟨hastray,hidle⟩ := transfers_own (voltageWhile_steps 15)
  exact ⟨voltageWhile 4,voltageWhile 7,voltageWhile 15,by decide +kernel,by decide +kernel,
    by decide +kernel,by decide +kernel,by decide +kernel,hastray,hidle true (Prog.done_ret htrue),
    hidle false (Prog.done_ret hfalse)⟩

end UbloxCellular.Gauge
