import UbloxCellular.Gauge.Chip
import UbloxCellular.I2c.Tape

namespace UbloxCellular.Gauge
open Interaction I2c

inductive Quantity where
  | temperature
  | voltage
  | current
  | remainingCapacity
  | remainingPercentage
  deriving DecidableEq, Repr

namespace Quantity

def register : Quantity → Byte
  | .temperature => 0x02
  | .voltage => 0x04
  | .current => 0x10
  | .remainingCapacity => 0x0c
  | .remainingPercentage => 0x1c

-- Tenths of kelvin to whole degrees C, and a current that may flow either way.
def decode : Quantity → Word → Int
  | .temperature, w => (w.toNat : Int) / 10 - 273
  | .current, w => w.toInt
  | _, w => w.toNat

def getter (g : BatteryGaugeBq27441) : Quantity → BusCode (Bool × Option Int)
  | .temperature => g.getTemperature
  | .voltage => g.getVoltage
  | .current => g.getCurrent
  | .remainingCapacity => g.getRemainingCapacity
  | .remainingPercentage => g.getRemainingPercentage

def stored : Quantity → Word → Int
  | .current, _ => 0
  | q, w => q.decode w

theorem stored_decode (q : Quantity) (w : Word) :
    q.stored w = q.decode w ↔ q = .current → w = 0 := by
  cases q with
  | current => simp [stored,decode,eq_comm,← BitVec.toInt_inj]
  | _ => simp [stored]

end Quantity

namespace BatteryGaugeBq27441
variable {g : BatteryGaugeBq27441} {r : Byte} {t u t' : Tape} {x : Bool × Option Int} {w : Word}

def hibernated (g : BatteryGaugeBq27441) : Tape :=
  if g.gGaugeOn then [] else [.write g.gAddress [0x00,0x11,0x00] true]

def Answered (g : BatteryGaugeBq27441) (r : Byte) (t t' : Tape) (w : Word) : Prop :=
  ∃ u lo hi, t <:+ u ∧ w = hi ++ lo ∧
    t' = g.hibernated ++ .read g.gAddress 2 (some [lo,hi]) :: .write g.gAddress [r] true :: u

theorem answered_unique {v : Word} (hw : g.Answered r t t' w) (hv : g.Answered r t t' v) :
    w = v := by
  obtain ⟨u,lo,hi,-,rfl,rfl⟩ := hw
  obtain ⟨u',lo',hi',-,rfl,heq⟩ := hv
  have hread := (List.cons.inj (List.append_cancel_left heq)).1
  simp only [Transfer.read.injEq,Option.some.injEq,List.cons.injEq] at hread
  rw [hread.2.2.1,hread.2.2.2.1]

structure Reading (g : BatteryGaugeBq27441) (r : Byte) (unit : Word → Int) (t : Tape)
    (x : Bool × Option Int) (t' : Tape) : Prop where
  answered : x.1 = true → ∃ w, g.Answered r t t' w ∧ x.2 = some (unit w)
  success : (∃ w, g.Answered r t t' w) → x.1 = true

theorem wp_getTwoBytes {Q : Option Word → Tape → Prop} (hi2c : g.gpI2c = true)
    (hunsent : Q none (.write g.gAddress [r] false :: t))
    (hunread : Q none (.read g.gAddress 2 none :: .write g.gAddress [r] true :: t))
    (hread : ∀ lo hi, Q (some (hi ++ lo))
      (.read g.gAddress 2 (some [lo,hi]) :: .write g.gAddress [r] true :: t)) :
    wp Tape.spec (g.getTwoBytes r) Q t := by
  rw [getTwoBytes,if_pos hi2c,wp_bind,write,Tape.wp_write]
  intro sent
  cases sent with
  | false => exact hunsent
  | true =>
    rw [if_pos rfl,wp_bind,read,Tape.wp_read]
    intro data
    cases data with
    | none => exact hunread
    | some v =>
      have hv : v.toList = [v[0],v[1]] := by
        refine List.ext_getElem (by simp) (fun i hi hi' => ?_)
        obtain rfl | rfl : i = 0 ∨ i = 1 := by
          rw [Vector.length_toList] at hi
          omega
        · simp
        · simp
      rw [wp_pure,Option.map_some,Option.map_some,hv]
      exact hread v[0] v[1]

theorem wp_setHibernate (Q : Bool → Tape → Prop) : wp Tape.spec g.setHibernate Q t ↔
    Q true (.write g.gAddress [0x00,0x11,0x00] true :: t) ∧
      Q false (.write g.gAddress [0x00,0x11,0x00] false :: t) := by
  rw [setHibernate,control,write,Tape.wp_write,Bool.forall_bool,and_comm]
  rfl

theorem wp_sleep (b : Bool) (Q : Bool → Tape → Prop) : wp Tape.spec (g.sleep b) Q t ↔
    if g.gGaugeOn then Q b t else Q b (.write g.gAddress [0x00,0x11,0x00] true :: t) ∧
      Q false (.write g.gAddress [0x00,0x11,0x00] false :: t) := by
  simp only [sleep,wp_ite,wp_pure,wp_bind,wp_setHibernate,if_true,Bool.false_eq_true,if_false]

theorem reading_failed {unit : Word → Int} {v : Option Int} (h : ∀ w, ¬ g.Answered r t t' w) :
    g.Reading r unit t (false, v) t' := ⟨by simp,fun ⟨w,hw⟩ => absurd hw (h w)⟩

theorem reading_answered {unit : Word → Int} (lo hi : Byte) (hu : t <:+ u) :
    g.Reading r unit t (true, some (unit (hi ++ lo))) (g.hibernated ++
      .read g.gAddress 2 (some [lo,hi]) :: .write g.gAddress [r] true :: u) :=
  ⟨fun _ => ⟨_,⟨u,lo,hi,hu,rfl,rfl⟩,rfl⟩,fun _ => rfl⟩

theorem metered_spec {unit : Word → Int} (hi2c : g.gpI2c = true) (hu : t <:+ u) :
    wp Tape.spec (do
      let data ← g.getTwoBytes r
      let success ← g.sleep data.isSome
      unlock
      return (success, data.map unit)) (fun x t' => g.Reading r unit t x t') u := by
  have hanswered := fun lo hi => @reading_answered g r t u unit lo hi hu
  simp only [wp_bind,wp_sleep,Tape.wp_unlock,wp_pure]
  cases hon : g.gGaugeOn with
  | true =>
    simp only [hibernated,hon,if_true,List.nil_append] at hanswered ⊢
    refine wp_getTwoBytes hi2c ?_ ?_ hanswered
    · exact reading_failed (by simp [Answered,hibernated,hon])
    · exact reading_failed (by simp [Answered,hibernated,hon])
  | false =>
    simp only [hibernated,hon,Bool.false_eq_true,if_false,List.cons_append,List.nil_append]
      at hanswered ⊢
    refine wp_getTwoBytes hi2c ⟨?_,?_⟩ ⟨?_,?_⟩ (fun lo hi => ⟨hanswered lo hi,?_⟩)
    all_goals exact reading_failed (by simp [Answered,hibernated,hon])

theorem recent_then {unit : Word → Int} {q : BusCode (Bool × Option Int)}
    (hq : ∀ u, t <:+ u → wp Tape.spec q (fun x t' => g.Reading r unit t x t') u) :
    wp Tape.spec (do
      if ← g.recent then
        lock
        q
      else return (false, none)) (fun x t' => g.Reading r unit t x t') t := by
  rw [recent,wp_bind,wp_ite]
  split
  · rw [wp_pure,if_pos rfl,wp_bind,Tape.wp_lock]
    exact hq t List.suffix_rfl
  · rename_i hoff
    simp only [makeAdcReading,control,write,wp_bind,Tape.wp_lock,Tape.wp_write,Tape.wp_unlock,
      Tape.wp_wait,wp_pure,wp_ite]
    intro b
    cases b with
    | true => exact hq _ (List.suffix_cons _ _)
    | false => exact reading_failed (by simp [Answered,hibernated,hoff])

theorem guarded_reading {unit : Word → Int} {q : BusCode (Bool × Option Int)}
    (hq : g.gpI2c = true → wp Tape.spec q (fun x t' => g.Reading r unit t x t') t) :
    wp Tape.spec (if g.guarded then q else pure (false, none))
      (fun x t' => g.Reading r unit t x t') t := by
  rw [wp_ite]
  split
  · rename_i hg
    exact hq (Bool.and_eq_true_iff.mp hg).2
  · refine reading_failed ?_
    rintro w ⟨u,lo,hi,hu,-,heq⟩
    have hlen := congrArg List.length heq
    have hle := hu.length_le
    simp only [List.length_append,List.length_cons] at hlen
    omega

theorem getter_spec (q : Quantity) (g : BatteryGaugeBq27441) (t : Tape) :
    wp Tape.spec (q.getter g) (fun x t' => g.Reading q.register q.stored t x t') t := by
  have hreading (r : Byte) (unit : Word → Int) :
      wp Tape.spec (g.reading r unit) (fun x t' => g.Reading r unit t x t') t :=
    guarded_reading (fun hi2c => recent_then (fun _ hu => metered_spec hi2c hu))
  cases q with
  | remainingPercentage =>
    refine guarded_reading (fun hi2c => recent_then (fun u hu => ?_))
    rw [wp_bind,hibernate,wp_ite]
    split
    · exact metered_spec hi2c hu
    · rw [wp_bind,wp_setHibernate]
      exact ⟨metered_spec hi2c (hu.trans (List.suffix_cons _ _)),
        metered_spec hi2c (hu.trans (List.suffix_cons _ _))⟩
  | _ => exact hreading _ _

end BatteryGaugeBq27441

section Getters
open BatteryGaugeBq27441
variable {q : Quantity} {g : BatteryGaugeBq27441} {t t' : Tape} {x : Bool × Option Int}

def Faithful (q : Quantity) (g : BatteryGaugeBq27441) (t : Tape) (x : Bool × Option Int)
    (t' : Tape) : Prop :=
  x.1 = true → ∃ w, g.Answered q.register t t' w ∧ x.2 = some (q.decode w)

theorem reading_faithful_iff (h : Exec Tape.handler (q.getter g) t x t') :
    Faithful q g t x t' ↔ (q = .current → ∀ w, g.Answered q.register t t' w → w = 0) := by
  obtain ⟨hanswered,hsuccess⟩ := wp_sound (getter_spec q g t) h
  constructor
  · intro hf hq w hw
    have hx := hsuccess ⟨w,hw⟩
    obtain ⟨v,hv,hdecoded⟩ := hf hx
    obtain ⟨v',hv',hstored⟩ := hanswered hx
    obtain rfl := answered_unique hv hw
    obtain rfl := answered_unique hv' hv
    exact (q.stored_decode v').mp (Option.some.inj (hstored.symm.trans hdecoded)) hq
  · intro hzero hx
    obtain ⟨w,hw,hstored⟩ := hanswered hx
    rw [(q.stored_decode w).mpr (fun hq => hzero hq w hw)] at hstored
    exact ⟨w,hw,hstored⟩

def constant (w : Word) : Prog.Oracle Bus Tape :=
  Tape.play (fun _ _ => true) (fun _ _ =>
    some (.ofFn (fun i => if i.val = 0 then lowByte w else highByte w)))

theorem reading_faithful_iff_warm : ∃ t',
    Exec Tape.handler (Quantity.temperature.getter ⟨true,0xaa,0x8000,true,false⟩) []
      (true, some 24) t' ∧
    (Faithful .temperature ⟨true,0xaa,0x8000,true,false⟩ [] (true, some 24) t' ↔
      (Quantity.temperature = .current → ∀ w,
        Answered ⟨true,0xaa,0x8000,true,false⟩ 0x02 [] t' w → w = 0)) := by
  have hrun : ((Quantity.temperature.getter ⟨true,0xaa,0x8000,true,false⟩).run (constant 2971) 0
      []).map Prod.fst = some (true, some 24) := by decide +kernel
  obtain ⟨⟨_,t'⟩,hr,rfl⟩ := Option.map_eq_some_iff.mp hrun
  have hexec := Tape.play_exec hr
  exact ⟨t',hexec,reading_faithful_iff hexec⟩

theorem current_unfaithful : ∃ t',
    Exec Tape.handler (Quantity.current.getter ⟨true,0xaa,0x8000,true,true⟩) [] (true, some 0) t' ∧
    Answered ⟨true,0xaa,0x8000,true,true⟩ 0x10 [] t' 0xffb0 ∧ Quantity.current.decode 0xffb0 = -80 ∧
    ¬ Faithful .current ⟨true,0xaa,0x8000,true,true⟩ [] (true, some 0) t' := by
  have hrun : (Quantity.current.getter ⟨true,0xaa,0x8000,true,true⟩).run (constant 0xffb0) 0 [] =
      some ((true, some 0), [.read 0xaa 2 (some [0xb0,0xff]),.write 0xaa [0x10] true]) := by
    decide +kernel
  have hanswered : Answered ⟨true,0xaa,0x8000,true,true⟩ 0x10 []
      [.read 0xaa 2 (some [0xb0,0xff]),.write 0xaa [0x10] true] 0xffb0 :=
    ⟨[],0xb0,0xff,List.suffix_rfl,by decide,rfl⟩
  refine ⟨_,Tape.play_exec hrun,hanswered,by decide,fun hf => ?_⟩
  obtain ⟨w,hw,hvalue⟩ := hf rfl
  obtain rfl := answered_unique hw hanswered
  exact absurd hvalue (by decide)

end Getters

end UbloxCellular.Gauge
