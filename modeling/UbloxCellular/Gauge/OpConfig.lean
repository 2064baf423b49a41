import UbloxCellular.Gauge.Memory

namespace UbloxCellular.Gauge
open Interaction I2c

-- Bit 5 is SLEEP in the low byte of OpConfig and BIE in the high one.
def withFifth (b : Bool) (d : Byte) : Byte := if b then d ||| 0x20 else d &&& ~~~0x20

section Fifth
variable {b : Bool} {d : Byte}

theorem mask_bit (i : Nat) : (0x20 : Byte).getLsbD i = decide (i = 5) := by
  by_cases hi : i < 8
  · revert hi
    revert i
    decide
  · rw [BitVec.getLsbD_of_ge _ _ (by omega)]
    exact (decide_eq_false (by omega)).symm

theorem withFifth_get (i : Nat) :
    (withFifth b d).getLsbD i = if i = 5 then b else d.getLsbD i := by
  by_cases hi : i < 8
  · cases b with
    | true =>
      rw [withFifth,if_pos rfl,BitVec.getLsbD_or,mask_bit]
      by_cases h5 : i = 5 <;> simp [h5]
    | false =>
      rw [withFifth,if_neg Bool.false_ne_true,BitVec.getLsbD_and,BitVec.getLsbD_not,mask_bit]
      by_cases h5 : i = 5 <;> simp [h5,hi]
  · rw [BitVec.getLsbD_of_ge _ _ (by omega),BitVec.getLsbD_of_ge _ _ (by omega),if_neg (by omega)]

theorem withFifth_same : withFifth (d.getLsbD 5) d = d := by
  refine BitVec.eq_of_getLsbD_eq (fun i _ => ?_)
  rw [withFifth_get]
  split_ifs with hi
  · rw [hi]
  · rfl

end Fifth

section Rules
open BatteryGaugeBq27441
variable {G : Type} {T : Spec Bus G} {g : BatteryGaugeBq27441} {x : G} {hi lo : Byte}
  {S : G → Prop} {Q : Bool → G → Prop}

theorem wp_setSleep (hT : Spec.Mono T) {isSlow : Bool} (hnone : ∀ y, Q false y)
    (hread : wp T (g.readExtendedData 64 0 2 true)
      (fun r y => ∀ data, r = some data → data = [hi,lo] ∧ S y) x)
    (hsame : lo.getLsbD 5 = isSlow → ∀ y, S y → Q true y)
    (hwrite : lo.getLsbD 5 = !isSlow → ∀ y, S y →
      wp T (g.writeExtendedData 64 0 2 (some [hi,withFifth isSlow lo])) Q y) :
    wp T (g.setSleep isSlow) Q x := by
  rw [setSleep]
  refine wp_seq hT hread (fun r y hr => ?_)
  cases r with
  | none => exact hnone y
  | some data =>
    obtain ⟨rfl,hy⟩ := hr data rfl
    simp only [Option.elim_some,List.getD_cons_succ,List.getD_cons_zero]
    cases isSlow <;> cases hbit : lo.getLsbD 5
    · exact hsame hbit y hy
    · exact hwrite hbit y hy
    · exact hwrite hbit y hy
    · exact hsame hbit y hy

theorem wp_detect (hT : Spec.Mono T) {f : Byte → Byte → BusCode Bool} (hnone : ∀ y, Q false y)
    (hread : wp T (g.readExtendedData 64 0 2 true)
      (fun r y => ∀ data, r = some data → data = [hi,lo] ∧ S y) x)
    (hf : ∀ y, S y → wp T (f hi lo) Q y)
    (hend : ∀ ok y, Q ok y → wp T g.hibernate (fun _ z => wp T unlock (fun _ => Q ok) z) y) :
    wp T (do
      let data ← g.readExtendedData 64 0 2 true
      let success ← data.elim (pure false) (fun data => f (data.getD 0 0) (data.getD 1 0))
      g.hibernate
      unlock
      return success) Q x := by
  refine wp_seq hT hread (fun r y hr => ?_)
  rw [wp_bind]
  have hsuccess : wp T (r.elim (pure false) (fun data => f (data.getD 0 0) (data.getD 1 0))) Q y := by
    cases r with
    | none => exact hnone y
    | some data =>
      obtain ⟨rfl,hy⟩ := hr data rfl
      exact hf y hy
  refine wp_mono hT (fun ok z hz => ?_) hsuccess
  simp only [wp_bind,wp_pure]
  exact hend ok z hz

end Rules

def Rewritten (c : Chip) (hi lo : Byte) (c' : Chip) : Prop :=
  ∀ s, ∀ o < 8192, c'.byte s o = c.patched 64 0 2 [hi,lo] s o

section Rewriting
variable {c c' c'' : Chip} {hi lo : Byte}

theorem Rewritten.kept (h : Rewritten c hi lo c') (hmem : c''.mem = c'.mem) :
    Rewritten c hi lo c'' := fun s o ho => (BatteryGaugeBq27441.byte_mem hmem s o).trans (h s o ho)

theorem rewritten_same (hmem : c'.mem = c.mem) :
    Rewritten c (c.byte 64 0) (c.byte 64 1) c' := by
  intro s o _
  rw [BatteryGaugeBq27441.byte_mem hmem,Chip.patched]
  split_ifs with hin
  · obtain ⟨rfl,-,ho⟩ := hin
    obtain rfl | rfl : o = 0 ∨ o = 1 := by omega
    · rfl
    · rfl
  · rfl

end Rewriting

namespace BatteryGaugeBq27441
variable {address : Byte} {g : BatteryGaugeBq27441} {n m : Node Chip} {hi lo : Byte}

theorem opConfig_shown (hmem : m.core.mem = n.core.mem) :
    wp (unreliable address).spec (g.readExtendedData 64 0 2 true) (fun r n' => ∀ data,
      r = some data → data = [n.core.byte 64 0,n.core.byte 64 1] ∧
        n'.core.mem = n.core.mem) m := by
  refine wp_mono (Device.mono _) (fun r n' h data hdata => ⟨?_,h.1.trans hmem⟩)
    (Handler.wp_and (kept_memory _) (@readExtendedData_spec address g m 64 0 2 true (by decide)))
  rw [← byte_mem hmem,← byte_mem hmem]
  exact h.2 data hdata

theorem opConfig_stored (hmem : m.core.mem = n.core.mem) :
    wp (unreliable address).spec (g.writeExtendedData 64 0 2 (some [hi,lo])) (fun ok n' =>
      ok = true → Rewritten n.core hi lo n'.core) m := by
  refine wp_mono (Device.mono _) (fun ok n' h hok s o ho => ?_)
    (@writeExtendedData_spec address g m 64 0 2 [hi,lo] (by decide))
  subst hok
  rw [hmem] at h
  exact @patched_stored n.core n'.core 64 0 2 [hi,lo] (by decide) (by decide) (Nat.le_refl 2) h s o ho

theorem setSleep_rewritten (isSlow : Bool) (hmem : m.core.mem = n.core.mem) :
    wp (unreliable address).spec (g.setSleep isSlow) (fun ok n' => ok = true →
      Rewritten n.core (n.core.byte 64 0) (withFifth isSlow (n.core.byte 64 1)) n'.core) m := by
  refine wp_setSleep (Device.mono _) (by simp) (opConfig_shown hmem) ?_ ?_
  · rintro rfl l hl -
    rw [withFifth_same]
    exact rewritten_same hl
  · exact fun _ l hl => opConfig_stored hl

theorem enableGauge_rewritten (isSlow : Bool) :
    wp (unreliable address).spec (g.enableGauge isSlow) (fun r n' => r.1 = true →
      Rewritten n.core (n.core.byte 64 0) (withFifth isSlow (n.core.byte 64 1)) n'.core) n := by
  rw [enableGauge,wp_ite]
  split
  · refine wp_seq (Device.mono _) (kept_memory lock) (fun _ m hm => ?_)
    refine wp_seq (Device.mono _) (kept_memory (g.control 0x0012)) (fun woken l hl => ?_)
    cases woken with
    | false =>
      simp only [Bool.false_eq_true,if_false,wp_bind,wp_pure]
      exact wp_always (fun _ _ h => h.elim) l
    | true =>
      rw [if_pos rfl]
      refine wp_seq (Device.mono _) (setSleep_rewritten isSlow (hl.trans hm))
        (fun success k hk => ?_)
      exact wp_seq (Device.mono _) (kept_memory unlock) (fun _ j hj hok => (hk hok).kept hj)
  · simp

theorem detect_rewritten {f : Byte → Byte → BusCode Bool}
    (hf : ∀ m : Node Chip, m.core.mem = n.core.mem →
      wp (unreliable address).spec (f (n.core.byte 64 0) (n.core.byte 64 1)) (fun ok n' =>
        ok = true → Rewritten n.core hi lo n'.core) m) :
    wp (unreliable address).spec (do
      lock
      let data ← g.readExtendedData 64 0 2 true
      let success ← data.elim (pure false) (fun data => f (data.getD 0 0) (data.getD 1 0))
      g.hibernate
      unlock
      return success) (fun ok n' => ok = true → Rewritten n.core hi lo n'.core) n := by
  refine wp_seq (Device.mono _) (kept_memory lock) (fun _ m hm => ?_)
  refine wp_detect (Device.mono _) (by simp) (opConfig_shown hm) hf (fun ok k hk => ?_)
  refine wp_mono (Device.mono _) (fun _ j hj => ?_) (kept_memory g.hibernate)
  exact wp_mono (Device.mono _) (fun _ i hi hok => (hk hok).kept (hi.trans hj))
    (kept_memory unlock)

theorem detect_same {b : Bool} (hbit : (n.core.byte 64 0).getLsbD 5 = b)
    (hmem : m.core.mem = n.core.mem) :
    Rewritten n.core (withFifth b (n.core.byte 64 0)) (n.core.byte 64 1) m.core := by
  subst hbit
  rw [withFifth_same]
  exact rewritten_same hmem

theorem disableBatteryDetect_rewritten :
    wp (unreliable address).spec g.disableBatteryDetect (fun ok n' => ok = true →
      Rewritten n.core (withFifth false (n.core.byte 64 0)) (n.core.byte 64 1) n'.core) n := by
  rw [disableBatteryDetect,wp_ite]
  split
  · refine detect_rewritten (f := fun d e => if d.getLsbD 5 then
      (g.writeExtendedData 64 0 2 (some [d &&& ~~~insertBit,e])).both (g.control 0x000c)
      else pure true) (fun m hmem => ?_)
    cases hbit : (n.core.byte 64 0).getLsbD 5 with
    | false => exact fun _ => detect_same hbit hmem
    | true =>
      simp only [if_true,wp_both]
      refine wp_mono (Device.mono _) (fun ok l hl => ?_) (opConfig_stored hmem)
      cases ok with
      | false => simp
      | true =>
        exact wp_mono (Device.mono _) (fun _ k hk _ => (hl rfl).kept hk)
          (kept_memory (g.control 0x000c))
  · simp

theorem enableBatteryDetect_rewritten :
    wp (unreliable address).spec g.enableBatteryDetect (fun ok n' => ok = true →
      Rewritten n.core (withFifth true (n.core.byte 64 0)) (n.core.byte 64 1) n'.core) n := by
  rw [enableBatteryDetect,wp_ite]
  split
  · refine detect_rewritten (f := fun d e => if !d.getLsbD 5 then
      g.writeExtendedData 64 0 2 (some [d ||| insertBit,e]) else pure true) (fun m hmem => ?_)
    cases hbit : (n.core.byte 64 0).getLsbD 5 with
    | false => exact opConfig_stored hmem
    | true => exact fun _ => detect_same hbit hmem
  · simp

end BatteryGaugeBq27441

def Op.sleeps (o : Op) : Option Bool :=
  match o with
  | .enableGauge isSlow => some isSlow
  | _ => none

def Op.detects (o : Op) : Option Bool :=
  match o with
  | .enableBatteryDetect => some true
  | .disableBatteryDetect => some false
  | _ => none

def Op.updates (o : Op) : Bool := o.sleeps.isSome || o.detects.isSome

def latest (f : Op → Option Bool) (ops : List Op) (b : Bool) : Bool :=
  ops.foldl (fun b o => (f o).getD b) b

structure OwnBits (ops : List Op) (c c' : Chip) : Prop where
  sleep : (c'.byte 64 1).getLsbD 5 = latest Op.sleeps ops ((c.byte 64 1).getLsbD 5)
  detect : (c'.byte 64 0).getLsbD 5 = latest Op.detects ops ((c.byte 64 0).getLsbD 5)
  bits : ∀ o < 2, ∀ i, i ≠ 5 → (c'.byte 64 o).getLsbD i = (c.byte 64 o).getLsbD i
  bytes : ∀ s, ∀ o < 8192, ¬ (s = 64 ∧ o < 2) → c'.byte s o = c.byte s o

section Calls
open BatteryGaugeBq27441
variable {address : Byte} {g : BatteryGaugeBq27441} {n : Node Chip} {c c' c'' : Chip}

theorem OwnBits.trans {ops ops' : List Op} (h : OwnBits ops c c') (h' : OwnBits ops' c' c'') :
    OwnBits (ops ++ ops') c c'' where
  sleep := by rw [h'.sleep,h.sleep,latest,latest,latest,List.foldl_append]
  detect := by rw [h'.detect,h.detect,latest,latest,latest,List.foldl_append]
  bits o ho i hi := (h'.bits o ho i hi).trans (h.bits o ho i hi)
  bytes s o ho hout := (h'.bytes s o ho hout).trans (h.bytes s o ho hout)

theorem ownBits_rewritten {o : Op}
    (h : Rewritten c (withFifth (latest Op.detects [o] ((c.byte 64 0).getLsbD 5)) (c.byte 64 0))
      (withFifth (latest Op.sleeps [o] ((c.byte 64 1).getLsbD 5)) (c.byte 64 1)) c') :
    OwnBits [o] c c' := by
  have hhigh : c'.byte 64 0 = withFifth _ (c.byte 64 0) := h 64 0 (by decide)
  have hlow : c'.byte 64 1 = withFifth _ (c.byte 64 1) := h 64 1 (by decide)
  refine ⟨?_,?_,fun k hk i hi => ?_,fun s k hk hout => ?_⟩
  · rw [hlow,withFifth_get,if_pos rfl]
  · rw [hhigh,withFifth_get,if_pos rfl]
  · obtain rfl | rfl : k = 0 ∨ k = 1 := by omega
    · rw [hhigh,withFifth_get,if_neg hi]
    · rw [hlow,withFifth_get,if_neg hi]
  · rw [h s k hk,Chip.patched,if_neg (fun hin => hout ⟨hin.1,by omega⟩)]

theorem call_ownBits {o : Op} (ho : o.updates = true) : wp (unreliable address).spec (o.code g)
    (fun r n' => r.1 = true → OwnBits [o] n.core n'.core) n := by
  cases o with
  | enableGauge isSlow =>
    refine wp_mono (Device.mono _) (fun r n' h hok => ?_) (enableGauge_rewritten isSlow)
    refine ownBits_rewritten ?_
    change Rewritten n.core (withFifth ((n.core.byte 64 0).getLsbD 5) _) _ _
    rw [withFifth_same]
    exact h hok
  | disableBatteryDetect =>
    simp only [Op.code,plain,wp_bind,wp_pure]
    refine wp_mono (Device.mono _) (fun r n' h hok => ?_) disableBatteryDetect_rewritten
    refine ownBits_rewritten ?_
    change Rewritten n.core _ (withFifth ((n.core.byte 64 1).getLsbD 5) _) _
    rw [withFifth_same]
    exact h hok
  | enableBatteryDetect =>
    simp only [Op.code,plain,wp_bind,wp_pure]
    refine wp_mono (Device.mono _) (fun r n' h hok => ?_) enableBatteryDetect_rewritten
    refine ownBits_rewritten ?_
    change Rewritten n.core _ (withFifth ((n.core.byte 64 1).getLsbD 5) _) _
    rw [withFifth_same]
    exact h hok
  | _ => cases ho

theorem opConfig_own_bits {s t : BatteryGaugeBq27441} {w v : Node Chip}
    {log : List (Call Op BatteryGaugeBq27441 Bool (Node Chip))}
    (h : object.Session (unreliable address).handler s w log t v)
    (hlog : ∀ c ∈ log, c.op.updates = true ∧ c.result = true) :
    OwnBits (log.map Call.op) w.core v.core := by
  induction h with
  | nil s w => exact ⟨rfl,rfl,fun _ _ _ _ => rfl,fun _ _ _ _ => rfl⟩
  | @cons c log _ _ hc _ ih =>
    obtain ⟨hop,hok⟩ := hlog c List.mem_cons_self
    have hcall := wp_sound (Q := fun r n' => r.1 = true → OwnBits [c.op] c.world.core n'.core)
      (call_ownBits hop) hc hok
    exact hcall.trans (ih (fun d hd => hlog d (List.mem_cons_of_mem _ hd)))

theorem opConfig_own_bits_updated : ∃ log t v,
    object.Session (unreliable 0xaa).handler ⟨true,0xaa,0x8000,true,false⟩
      ⟨0x00,factory true 0x80⟩ log t v ∧
    log.map (fun c => (c.op, c.result)) = [(.enableGauge true, true),
      (.enableBatteryDetect, true),(.disableBatteryDetect, true),(.enableBatteryDetect, true)] ∧
    OwnBits (log.map Call.op) (factory true 0x80) v.core := by
  have hrun : (object.replay (obliging (unreliable 0xaa)) 0
      [.enableGauge true,.enableBatteryDetect,.disableBatteryDetect,.enableBatteryDetect]
      ⟨true,0xaa,0x8000,true,false⟩ ⟨0x00,factory true 0x80⟩).map (fun r =>
        r.1.map (fun c => (c.op, c.result))) = some [(.enableGauge true, true),
      (.enableBatteryDetect, true),(.disableBatteryDetect, true),(.enableBatteryDetect, true)] := by
    decide +kernel
  obtain ⟨⟨log,t,v⟩,hr,hlog⟩ := Option.map_eq_some_iff.mp hrun
  have hsession := Object.replay_session (fun _ _ _ _ hp =>
    Device.play_exec (fun c a => (c.answer_shows a).1) Chip.settle_drifts hp) hr
  refine ⟨log,t,v,hsession,hlog,opConfig_own_bits hsession (fun c hc => ?_)⟩
  have hmem : (c.op, c.result) ∈ log.map (fun c => (c.op, c.result)) := List.mem_map_of_mem hc
  simp only [hlog,List.mem_cons,Prod.mk.injEq,List.not_mem_nil,or_false] at hmem
  rcases hmem with ⟨hop,hok⟩ | ⟨hop,hok⟩ | ⟨hop,hok⟩ | ⟨hop,hok⟩ <;> exact ⟨by rw [hop]; rfl,hok⟩

end Calls

end UbloxCellular.Gauge
