import UbloxCellular.Gauge.Memory
import UbloxCellular.I2c.Tape
import Mathlib.Algebra.BigOperators.Fin

namespace UbloxCellular.Gauge
open Interaction I2c

section Sums

theorem sum_differs {ι M : Type} [Fintype ι] [DecidableEq ι] [AddCancelCommMonoid M] {f g : ι → M}
    {i : ι} (hi : f i ≠ g i) (hother : ∀ j, j ≠ i → f j = g j) : ∑ j, f j ≠ ∑ j, g j := by
  intro h
  have hrest : ∑ j ∈ Finset.univ.erase i, f j = ∑ j ∈ Finset.univ.erase i, g j :=
    Finset.sum_congr rfl (fun j hj => hother j (Finset.ne_of_mem_erase hj))
  rw [← Finset.add_sum_erase _ f (Finset.mem_univ i),← Finset.add_sum_erase _ g (Finset.mem_univ i),
    hrest] at h
  exact hi (add_right_cancel h)

def DifferInOne (b c : Block) : Prop := ∃! i : Fin 32, b.get i ≠ c.get i

theorem block_sum (b : Block) : b.toList.sum = ∑ i, b.get i := by
  have hlist : b.toList = List.ofFn b.get := by
    refine List.ext_getElem (by simp) (fun i hi hi' => ?_)
    rw [List.getElem_ofFn,Vector.getElem_toList]
    rfl
  rw [hlist,List.sum_ofFn]

theorem checksum_differs {b c : Block} (h : DifferInOne b c) :
    computeChecksum b ≠ computeChecksum c := by
  obtain ⟨i,hi,hother⟩ := h
  intro heq
  rw [computeChecksum_eq,computeChecksum_eq,checksum,checksum,BitVec.not_inj,block_sum,
    block_sum] at heq
  exact sum_differs hi (fun j hj => by_contra fun hne => hj (hother j hne)) heq

end Sums

-- What was transferred, and the block that the chip last served with one byte corrupted.
structure Served where
  tape : Tape
  truth : Block

-- One byte of each block is corrupted, and the checksum is that of the true block.
def Serves (length : Nat) (bytes : Option (List Byte)) (truth truth' : Block) : Prop :=
  if length = 32 then ∀ v : Block, bytes = some v.toList → DifferInOne truth' v
  else truth' = truth ∧ (length = 1 → ∀ sum, bytes = some [sum] → sum = computeChecksum truth)

def corrupting : Handler Bus Served
  | _, .write a data _, w, b, w' => w' = ⟨.write a data b :: w.tape,w.truth⟩
  | _, .read a k, w, r, w' => w'.tape = .read a k (r.map Vector.toList) :: w.tape ∧
      Serves k (r.map Vector.toList) w.truth w'.truth
  | _, _, w, _, w' => w' = w

def touchesBlock : Transfer → Bool
  | .write _ (a :: data) _ => (List.range data.length).any (fun i =>
      0x40 ≤ a + BitVec.ofNat 8 i && a + BitVec.ofNat 8 i < 0x60)
  | _ => false

def BlockSpared (w w' : Served) : Prop :=
  ∃ own, w'.tape = own ++ w.tape ∧ own.any touchesBlock = false

section Rules
variable {w : Served} {g : BatteryGaugeBq27441}

theorem wp_sent (data : List Byte) (Q : Bool → Served → Prop) :
    wp corrupting.spec (g.write data) Q w ↔
      ∀ b, Q b ⟨.write g.gAddress data b :: w.tape,w.truth⟩ :=
  ⟨fun h b => h b _ rfl,fun h b _ hw => hw ▸ h b⟩

theorem wp_sentRepeated (data : List Byte) (Q : Bool → Served → Prop) :
    wp corrupting.spec (g.writeRepeated data) Q w ↔
      ∀ b, Q b ⟨.write g.gAddress data b :: w.tape,w.truth⟩ :=
  ⟨fun h b => h b _ rfl,fun h b _ hw => hw ▸ h b⟩

theorem wp_served {k : Nat} {Q : Option (Vector Byte k) → Served → Prop}
    (h : ∀ r truth, Serves k (r.map Vector.toList) w.truth truth →
      Q r ⟨.read g.gAddress k (r.map Vector.toList) :: w.tape,truth⟩) :
    wp corrupting.spec (g.read k) Q w := by
  rintro r ⟨t,truth⟩ ⟨rfl,hr⟩
  exact h r truth hr

end Rules

def untouched : Frame Bus Served where
  spec := corrupting.spec
  mono := Handler.spec_mono _
  pre _ := True
  rel := BlockSpared
  refl w := ⟨[],rfl,rfl⟩
  trans := by
    rintro u v w ⟨own,hown,ht⟩ ⟨own',hown',ht'⟩
    exact ⟨own' ++ own,by rw [hown',hown,List.append_assoc],by rw [List.any_append,ht,ht']; rfl⟩
  keep _ _ _ h := h

theorem one_byte (v : Vector Byte 1) : v.toList = [v.head] := by
  refine List.ext_getElem v.length_toList (fun i hi _ => ?_)
  obtain rfl : i = 0 := Nat.lt_one_iff.mp (v.length_toList ▸ hi)
  rfl

namespace BatteryGaugeBq27441
variable {g : BatteryGaugeBq27441} {w w' : Served}

theorem untouched_write {data : List Byte}
    (h : ∀ b, touchesBlock (.write g.gAddress data b) = false) (r : Bool) :
    untouched.Keeps (Prog.perform (.write g.gAddress data r)) := by
  refine ⟨fun w _ b w' hw => ?_⟩
  obtain rfl : w' = _ := hw
  exact ⟨[.write g.gAddress data b],rfl,by rw [List.any_cons,h]; rfl⟩

theorem untouched_outside {r d : Byte} (h : ¬ (0x40 ≤ r ∧ r < 0x60)) (b : Bool) :
    touchesBlock (.write g.gAddress [r,d] b) = false := by
  simpa [touchesBlock] using h

instance untouched_polled : Polled untouched where
  wait _ := ⟨fun _ _ _ _ hw => ⟨[],by rw [hw]; rfl,rfl⟩⟩
  read g k := ⟨fun _ _ r _ hw => ⟨[.read g.gAddress k (r.map Vector.toList)],hw.1,rfl⟩⟩
  select g r := untouched_write (fun _ => rfl) false

instance untouched_control (c : Word) : untouched.Keeps (g.control c) :=
  untouched_write (fun _ => rfl) false

set_option synthInstance.maxSize 8192 in
instance untouched_load (subClassId : Byte) (offset : Int) :
    untouched.Keeps (g.loadBlock subClassId offset) := by
  have hread := fun k => untouched_polled.read g k
  have hsum : untouched.Keeps (g.writeRepeated [0x60]) := untouched_write (fun _ => rfl) true
  have hcontrol : untouched.Keeps (g.write [0x61,0x00]) :=
    untouched_write (untouched_outside (by decide)) false
  have hclass : untouched.Keeps (g.write [0x3e,subClassId]) :=
    untouched_write (untouched_outside (by decide)) false
  have hblock (d : Byte) : untouched.Keeps (g.writeRepeated [0x3f,d]) :=
    untouched_write (untouched_outside (by decide)) true
  rw [loadBlock]
  infer_instance

theorem load_caught (subClassId : Byte) (offset : Int) :
    wp corrupting.spec (g.loadBlock subClassId offset) (fun r _ => r = none) w := by
  simp only [loadBlock,wp_bind,wp_sent,wp_sentRepeated,wp_ite,wp_pure]
  intro control
  split
  · intro subClass
    split
    · intro block
      split
      · refine wp_served (fun r truth hr => ?_)
        cases r with
        | none => rfl
        | some v =>
          rw [Option.elim_some,wp_bind,wp_sentRepeated]
          intro selected
          split
          · rw [wp_bind]
            refine wp_served (fun sum truth' hsum => ?_)
            have hone : DifferInOne truth v := hr v rfl
            cases sum with
            | none => rfl
            | some sum =>
              have heq : sum.head = computeChecksum truth :=
                hsum.2 rfl _ (congrArg some (one_byte sum))
              rw [wp_pure,Option.bind_some,if_neg]
              intro h
              exact checksum_differs hone (heq.symm.trans h)
          · rfl
      · trivial
    · trivial
  · trivial

theorem kept_block {α : Type} (p : BusCode α) [hp : untouched.Keeps p] :
    wp corrupting.spec p (fun _ w' => BlockSpared w w') w := hp.run w trivial

theorem resealed_none {α : Type} (wasSealed : Bool) :
    wp corrupting.spec (if wasSealed then do
      if ← g.seal' then return (none : Option α) else return none
      else return none) (fun r _ => r = none) w := by
  cases wasSealed with
  | false => rfl
  | true =>
    rw [if_pos rfl]
    refine wp_seq (Handler.spec_mono _) (kept_block g.seal') (fun b w' _ => ?_)
    cases b <;> rfl

theorem readExtendedData_caught (subClassId : Byte) (offset length : Int) (pData : Bool) :
    wp corrupting.spec (g.readExtendedData subClassId offset length pData) (fun r _ => r = none)
      w := by
  rw [readExtendedData,wp_ite]
  split
  · refine wp_seq (Handler.spec_mono _) (kept_block g.isSealed) (fun wasSealed u _ => ?_)
    refine wp_seq (Handler.spec_mono _) (kept_block (g.accessible wasSealed)) (fun opened v _ => ?_)
    rw [wp_bind,wp_ite]
    split
    · rw [readBlock]
      refine wp_seq (Handler.spec_mono _) (load_caught subClassId offset) (fun r x hr => ?_)
      subst hr
      exact resealed_none wasSealed
    · exact resealed_none wasSealed
  · rfl

theorem writeBlock_caught (wasSealed : Bool) (subClassId : Byte) (offset : Int)
    (data : List Byte) : wp corrupting.spec (g.writeBlock wasSealed subClassId offset data)
      (fun ok w' => ok = false ∧ BlockSpared w w') w := by
  rw [writeBlock,wp_both]
  refine wp_mono (Handler.spec_mono _) (fun entered u hu => ?_) (kept_block g.enterConfig)
  cases entered with
  | false => exact ⟨rfl,hu⟩
  | true =>
    rw [if_pos rfl]
    refine wp_seq (Handler.spec_mono _)
      (Handler.wp_and (load_caught subClassId offset) (kept_block _)) (fun r v hv => ?_)
    obtain ⟨rfl,hv⟩ := hv
    exact ⟨rfl,untouched.trans _ _ _ hu hv⟩

theorem writeExtendedData_caught (subClassId : Byte) (offset length : Int)
    (pData : Option (List Byte)) :
    wp corrupting.spec (g.writeExtendedData subClassId offset length pData)
      (fun ok w' => ok = false ∧ BlockSpared w w') w := by
  rw [writeExtendedData,wp_ite]
  split
  · refine wp_seq (Handler.spec_mono _) (kept_block g.isSealed) (fun wasSealed u hu => ?_)
    refine wp_seq (Handler.spec_mono _) (kept_block (g.accessible wasSealed))
      (fun opened v hv => ?_)
    refine wp_seq (Handler.spec_mono _) (Q := fun ok x => ok = false ∧ BlockSpared v x) ?_
      (fun ok x hx => ?_)
    · split
      · exact writeBlock_caught wasSealed subClassId offset _
      · exact ⟨rfl,untouched.refl v⟩
    · obtain ⟨rfl,hx⟩ := hx
      have hux := untouched.trans _ _ _ (untouched.trans _ _ _ hu hv) hx
      cases wasSealed with
      | false => exact ⟨rfl,hux⟩
      | true =>
        simp only [Bool.not_false,Bool.and_self,if_true,wp_bind]
        refine wp_mono (Handler.spec_mono _) (fun _ y hy => ?_) (kept_block g.seal')
        exact ⟨rfl,untouched.trans _ _ _ hux hy⟩
  · exact ⟨rfl,untouched.refl w⟩

theorem corruption_caught : (∀ b c : Block, DifferInOne b c →
      computeChecksum b ≠ computeChecksum c) ∧
    (∀ (g : BatteryGaugeBq27441) (subClassId : Byte) (offset length : Int) (pData : Bool) w r w',
      Exec corrupting (g.readExtendedData subClassId offset length pData) w r w' → r = none) ∧
    ∀ (g : BatteryGaugeBq27441) (subClassId : Byte) (offset length : Int)
      (pData : Option (List Byte)) w ok w',
      Exec corrupting (g.writeExtendedData subClassId offset length pData) w ok w' →
        ok = false ∧ BlockSpared w w' := by
  refine ⟨fun b c => checksum_differs,?_,?_⟩
  · intro g subClassId offset length pData w r w' h
    exact wp_sound (Q := fun r _ => r = none)
      (readExtendedData_caught subClassId offset length pData) h
  · intro g subClassId offset length pData w ok w' h
    exact wp_sound (Q := fun ok w' => ok = false ∧ BlockSpared w w')
      (writeExtendedData_caught subClassId offset length pData) h

def spoiled (truth : Block) (k : Nat) : Vector Byte k :=
  .ofFn (fun i => if k = 1 then computeChecksum truth
    else if i.val = 0 then (if k = 2 then 0x10 else 0x01) else 0x00)

def spoiling : Prog.Oracle Bus Served
  | _, .write a data _, w => some (true, ⟨.write a data true :: w.tape,w.truth⟩)
  | _, .read a k, w => some (some (spoiled w.truth k),
      ⟨.read a k (some (spoiled w.truth k).toList) :: w.tape,
        if k = 32 then .replicate 32 0x00 else w.truth⟩)
  | _, .lock, w => some ((), w)
  | _, .unlock, w => some ((), w)
  | _, .wait _, w => some ((), w)

theorem spoiled_serves (truth : Block) (k : Nat) : Serves k (some (spoiled truth k).toList) truth
    (if k = 32 then .replicate 32 0x00 else truth) := by
  rw [Serves]
  split
  · subst k
    rintro v hv
    obtain rfl : v = spoiled truth 32 := (Vector.toList_inj.mp (Option.some.inj hv)).symm
    have hone : DifferInOne (.replicate 32 0x00)
        (.ofFn (fun i : Fin 32 => if i.val = 0 then 0x01 else 0x00)) :=
      ⟨0,by decide,by decide⟩
    exact hone
  · refine ⟨rfl,?_⟩
    rintro rfl sum hsum
    rw [one_byte] at hsum
    cases hsum
    rfl

theorem spoiling_exec {α : Type} {p : BusCode α} {k : Nat} {w w' : Served} {a : α}
    (h : p.run spoiling k w = some (a, w')) : Exec corrupting p w a w' := by
  refine run_exec id (fun γ e w b w' he => ?_) h
  cases e with
  | read a k =>
    cases he
    exact ⟨rfl,spoiled_serves w.truth k⟩
  | _ => cases he; rfl

theorem corruption_caught_ones : ∃ w',
    Exec corrupting (writeExtendedData ⟨true,0xaa,0x8000,true,false⟩ 64 0 2 (some [0x00,0x00]))
      ⟨[],.replicate 32 0x00⟩ false w' ∧
    .read 0xaa 32 (some (0x01 :: List.replicate 31 0x00)) ∈ w'.tape ∧
    BlockSpared ⟨[],.replicate 32 0x00⟩ w' := by
  have hrun : ((writeExtendedData ⟨true,0xaa,0x8000,true,false⟩ 64 0 2 (some [0x00,0x00])).run
      spoiling 0 ⟨[],.replicate 32 0x00⟩).map (fun r => (r.1, decide
        (.read 0xaa 32 (some (0x01 :: List.replicate 31 0x00)) ∈ r.2.tape))) = some (false, true) := by
    decide +kernel
  obtain ⟨⟨ok,w'⟩,hr,heq⟩ := Option.map_eq_some_iff.mp hrun
  obtain ⟨rfl,hmem⟩ := Prod.mk.inj heq
  have hexec := spoiling_exec hr
  exact ⟨w',hexec,of_decide_eq_true hmem,(corruption_caught.2.2 _ _ _ _ _ _ _ _ hexec).2⟩

end BatteryGaugeBq27441

end UbloxCellular.Gauge
