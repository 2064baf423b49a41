import UbloxCellular.Gauge.OpConfig

namespace UbloxCellular.Gauge
open Interaction I2c

theorem working_within {address : Byte} ⦃β : Type⦄ (e : Bus β) (n : Node Chip) (b : β)
    (n' : Node Chip) (h : (working address).handler e n b n') :
    (unreliable address).handler e n b n' := by
  cases e with
  | write a data r =>
    obtain ⟨x,hx,hb⟩ := h
    cases b with
    | true =>
      have hput := Device.put_same (D := working address) (F := unreliable address) rfl data
        ⟨n.pointer,x⟩
      exact ⟨x,hx,hb.1,hb.2.trans hput⟩
    | false => exact hb.elim
  | read a k =>
    obtain ⟨x,hx,hr⟩ := h
    cases b with
    | none => exact hr.elim
    | some v => exact ⟨x,hx,hr.1,fun i hi => (hr.2.1 i hi).1,hr.2.2⟩
  | lock => exact h
  | unlock => exact h
  | wait ms => exact h

namespace BatteryGaugeBq27441
variable {address : Byte} {g : BatteryGaugeBq27441} {n : Node Chip} {α : Type}

theorem wp_working {p : BusCode α} {Q : α → Node Chip → Prop}
    (h : wp (unreliable address).spec p Q n) : wp (working address).spec p Q n :=
  Handler.wp_within working_within h

def sealing (address : Byte) : (working address).Kept Bool where
  part := Chip.sealed
  event := drift_keep (fun _ _ => rfl)
  lost _ _ _ h := h.elim
  missed _ _ h := h.elim

theorem poke_sealed {r d : Byte} {c : Chip} (hr : r ≠ 0x01) :
    (c.poke r d).sealed = c.sealed := by
  simp only [Chip.poke,hr,if_false]
  split_ifs <;> rfl

instance sealing_quiet : Quiet (sealing address).frame :=
  quiet_chip (fun _ _ _ h _ => poke_sealed h)

theorem sealing_control {w : Word} (hw : w ∈ Chip.subCommands) (h : w ≠ 0x0020)
    (h' : w ≠ 0x0042) : (sealing address).frame.Keeps (g.control w) := by
  refine keeps_control (fun c => ?_)
  change Chip.sealedAfter w _ = c.sealed
  rw [Chip.sealedAfter,if_neg h,if_neg (fun hc => h' hc.1),if_neg (fun hc => hc.1 hw)]

instance sealing_insert : (sealing address).frame.Keeps (g.control 0x000c) :=
  sealing_control (by decide) (by decide) (by decide)

instance sealing_setHibernate : (sealing address).frame.Keeps (g.control 0x0011) :=
  sealing_control (by decide) (by decide) (by decide)

instance sealing_clearHibernate : (sealing address).frame.Keeps (g.control 0x0012) :=
  sealing_control (by decide) (by decide) (by decide)

instance sealing_enter : (sealing address).frame.Keeps (g.control 0x0013) :=
  sealing_control (by decide) (by decide) (by decide)

theorem kept_sealed (p : BusCode α) [hp : (sealing address).frame.Keeps p] :
    wp (working address).spec p (fun _ n' => n'.core.sealed = n.core.sealed) n := hp.run n trivial

theorem word_high (hi lo : Byte) : (hi ++ lo : Word).getLsbD 13 = hi.getLsbD 5 := by
  rw [BitVec.getLsbD_append]
  exact if_neg (by decide)

theorem drifts_sealed {c c' : Chip} (h : (working address).Drifts c c') :
    c'.sealed = c.sealed := by rw [drifts_mode h]

theorem controlStatus_spec (hi2c : g.gpI2c = true) :
    wp (working address).spec g.controlStatus (fun o n' => n'.core.sealed = n.core.sealed ∧
      ∃ w, o = some w ∧ w.getLsbD 13 = n.core.sealed) n := by
  rw [controlStatus,wp_bind]
  refine wp_control (fun _ _ h => h.elim) (fun p x hx => ?_)
  rw [if_pos rfl]
  refine wp_word hi2c (fun _ _ _ h => (h.elim id id).elim) (fun q y lo hi hy _ hhi => ?_)
  have hsealed : y.sealed = n.core.sealed := by
    rw [drifts_sealed hy,← drifts_sealed hx]
    rfl
  have hword : y.word = 0x0000 := by rw [drifts_mode hy]; rfl
  exact ⟨hsealed,_,rfl,by rw [word_high,hhi.2 rfl hword,hsealed]⟩

theorem isSealed_spec (hi2c : g.gpI2c = true) :
    wp (working address).spec g.isSealed (fun b n' => n'.core.sealed = n.core.sealed ∧
      b = n.core.sealed) n := by
  rw [isSealed]
  refine wp_seq (Device.mono _) (controlStatus_spec hi2c) (fun o n' h => ?_)
  obtain ⟨hsame,w,rfl,hw⟩ := h
  exact ⟨hsame,hw⟩

theorem seal_spec (hi2c : g.gpI2c = true) :
    wp (working address).spec g.seal' (fun b n' => b = true → n'.core.sealed = true) n := by
  rw [seal',wp_both]
  refine wp_control (fun _ _ h => h.elim) (fun p x hx => ?_)
  rw [if_pos rfl]
  refine wp_seq (Device.mono _) (controlStatus_spec hi2c) (fun o n' h => ?_)
  obtain ⟨hsame,w,rfl,hw⟩ := h
  exact fun hb => hsame.trans (hw.symm.trans hb)

theorem unseal_spec (hi2c : g.gpI2c = true) (sealCode : Word) :
    wp (working address).spec (g.unseal' sealCode)
      (fun b n' => b = true → n'.core.sealed = false) n := by
  rw [unseal',wp_both]
  refine wp_control (fun _ _ h => h.elim) (fun p x hx => ?_)
  rw [if_pos rfl,wp_both]
  refine wp_control (fun _ _ h => h.elim) (fun q y hy => ?_)
  rw [if_pos rfl]
  refine wp_seq (Device.mono _) (controlStatus_spec hi2c) (fun o n' h => ?_)
  obtain ⟨hsame,w,rfl,hw⟩ := h
  intro hb
  rw [hsame,← hw]
  simpa using hb

theorem accessible_spec (hi2c : g.gpI2c = true) :
    wp (working address).spec (g.accessible n.core.sealed)
      (fun b n' => b = true → n'.core.sealed = false) n := by
  cases hs : n.core.sealed with
  | true => exact unseal_spec hi2c g.gSealCode
  | false => exact fun _ => hs

theorem returned_sealed (hi2c : g.gpI2c = true) {r : Option (List Byte)} {wasSealed : Bool}
    (h : r.isSome = true → n.core.sealed = false) :
    wp (working address).spec (if wasSealed then do
      if ← g.seal' then return r else return none
      else return r) (fun r n' => r.isSome = true → n'.core.sealed = wasSealed) n := by
  cases wasSealed with
  | false => exact h
  | true =>
    simp only [if_true,wp_bind]
    refine wp_mono (Device.mono _) (fun b m hm => ?_) (seal_spec hi2c)
    cases b with
    | false => simp
    | true => exact fun _ => hm rfl

theorem readExtendedData_sealed (subClassId : Byte) (offset length : Int) (pData : Bool) :
    wp (working address).spec (g.readExtendedData subClassId offset length pData)
      (fun r n' => r.isSome = true → n'.core.sealed = n.core.sealed) n := by
  rw [readExtendedData,wp_ite]
  split
  · rename_i hguard
    have hi2c : g.gpI2c = true := by
      simp only [Bool.and_eq_true] at hguard
      exact hguard.1.1
    refine wp_seq (Device.mono _) (isSealed_spec hi2c) (fun wasSealed m hm => ?_)
    obtain ⟨hsame,rfl⟩ := hm
    rw [wp_bind,← hsame]
    refine wp_mono (Device.mono _) (fun opened l hl => ?_) (accessible_spec hi2c)
    rw [wp_bind,wp_ite]
    cases opened with
    | true =>
      refine wp_mono (Device.mono _) (fun r j hj => ?_) (kept_sealed (g.readBlock _ _ _))
      exact returned_sealed hi2c (fun _ => hj.trans (hl rfl))
    | false => exact returned_sealed hi2c (fun h => by cases h)
  · simp

theorem storeBlock_sealed {offset : Nat} {data : List Byte} {block : Block}
    (hfit : offset % 32 + data.length ≤ 32) :
    wp (working address).spec (g.storeBlock offset data block)
      (fun _ n' => n'.core.sealed = n.core.sealed) n := by
  rw [storeBlock,wp_both]
  refine wp_window hfit (fun _ _ _ h => h.elim) (fun p x hx => ?_)
  rw [if_pos rfl]
  refine wp_data (fun _ _ h => h.elim) (fun y hy => ?_)
  have hy' := drifts_sealed hy
  have hpoke (d : Byte) : (y.poke 0x60 d).sealed = y.sealed := poke_sealed (by decide)
  dsimp only at hy' ⊢
  rw [hpoke,hy',drifts_sealed hx]

theorem leaveConfig_spec (wasSealed : Bool) (hc : n.core.mode = .config) :
    wp (working address).spec (g.leaveConfig wasSealed)
      (fun _ n' => n'.core.sealed = (n.core.sealed || n.core.reseals)) n := by
  rw [leaveConfig,wp_both]
  refine wp_control (fun _ _ h => h.elim) (fun p x hx => ?_)
  obtain rfl := drifts_config hx hc
  rw [if_pos rfl]
  refine wp_mono (Device.mono _) (fun _ m hm => ?_) (kept_sealed _)
  rw [hm]
  change Chip.sealedAfter 0x0042 _ = _
  rw [Chip.sealedAfter,if_neg (by decide),if_pos ⟨rfl,hc⟩]
  rfl

theorem reseals_mem {c c' : Chip} (h : c'.mem = c.mem) : c'.reseals = c.reseals := by
  rw [Chip.reseals,byte_mem h,Chip.reseals]

theorem writeBlock_sealed {subClassId : Byte} {offset : Nat} {data : List Byte} (wasSealed : Bool)
    (hfit : offset % 32 + data.length ≤ 32) :
    wp (working address).spec (g.writeBlock wasSealed subClassId offset data) (fun ok n' =>
      ok = true → n'.core.sealed = (n.core.sealed || n'.core.reseals)) n := by
  rw [writeBlock,wp_both]
  refine wp_mono (Device.mono _) (fun b m hb => ?_)
    (Handler.wp_and (kept_sealed g.enterConfig) (wp_working enterConfig_spec))
  obtain ⟨henter,hmode⟩ := hb
  cases b with
  | false => simp
  | true =>
    rw [if_pos rfl]
    refine wp_seq (Device.mono _) (Handler.wp_and (kept_sealed _)
      (wp_working (loadBlock_spec subClassId offset))) (fun r k hr => ?_)
    obtain ⟨hload,hblock⟩ := hr
    cases r with
    | none => simp
    | some block =>
      obtain ⟨hloaded,rfl,hconfig⟩ := hblock block rfl
      simp only [Option.elim_some,wp_both]
      refine wp_mono (Device.mono _) (fun ok p hp => ?_) (Handler.wp_and (storeBlock_sealed hfit)
        (wp_working (storeBlock_spec hfit hloaded (hconfig (hmode rfl)))))
      obtain ⟨hstore,-,hstill⟩ := hp
      cases ok with
      | false => simp
      | true =>
        refine wp_mono (Device.mono _) (fun done q hq _ => ?_)
          (Handler.wp_and (leaveConfig_spec wasSealed (hstill rfl)) (wp_working (kept_memory _)))
        rw [hq.1,reseals_mem hq.2,hstore,hload,henter]

theorem settled_sealed (hi2c : g.gpI2c = true) {success wasSealed : Bool}
    (h : success = true → n.core.sealed = n.core.reseals) :
    wp (working address).spec (if !success && wasSealed then do
      let _ ← g.seal'
      return false
      else return success) (fun ok n' => ok = true → n'.core.sealed = n'.core.reseals) n := by
  cases success with
  | true => exact h
  | false =>
    cases wasSealed with
    | false => exact h
    | true =>
      simp only [Bool.not_false,Bool.and_self,if_true,wp_bind]
      refine wp_mono (Device.mono _) (fun _ m _ => ?_) (seal_spec hi2c)
      simp

theorem writeExtendedData_sealed {subClassId : Byte} {offset k : Nat} {pData : Option (List Byte)}
    (hfit : offset % 32 + k ≤ 32) :
    wp (working address).spec (g.writeExtendedData subClassId offset k pData) (fun ok n' =>
      ok = true → n'.core.sealed = n'.core.reseals) n := by
  have hlen : offset % 32 + ((pData.getD []).take k).length ≤ 32 := by
    rw [List.length_take]
    omega
  rw [writeExtendedData,wp_ite]
  split
  · rename_i hguard
    have hi2c : g.gpI2c = true := by
      simp only [Bool.and_eq_true] at hguard
      exact hguard.1.1
    refine wp_seq (Device.mono _) (isSealed_spec hi2c) (fun wasSealed m hm => ?_)
    obtain ⟨hsame,rfl⟩ := hm
    rw [wp_bind,← hsame]
    refine wp_mono (Device.mono _) (fun opened l hl => ?_) (accessible_spec hi2c)
    rw [wp_bind,wp_ite]
    cases opened with
    | true =>
      refine wp_mono (Device.mono _) (fun ok j hj => settled_sealed hi2c (fun hok => ?_))
        (writeBlock_sealed _ hlen)
      rw [hj hok,hl rfl,Bool.false_or]
    | false => exact settled_sealed hi2c (fun h => by cases h)
  · simp

theorem writeExtendedData_resealed {subClassId : Byte} {offset k : Nat}
    {pData : Option (List Byte)} (hbound : offset < 8192) (hfit : offset % 32 + k ≤ 32)
    (hout : ¬ (subClassId = 82 ∧ offset ≤ 2 ∧ 2 < offset + k)) :
    wp (working address).spec (g.writeExtendedData subClassId offset k pData) (fun ok n' =>
      ok = true → n'.core.sealed = n.core.reseals) n := by
  cases pData with
  | none => simp [writeExtendedData]
  | some data =>
    refine wp_mono (Device.mono _) (fun ok n' h hok => ?_)
      (Handler.wp_and (writeExtendedData_sealed hfit) (wp_working (writeExtendedData_spec hfit)))
    obtain ⟨hseal,hmem⟩ := h
    subst hok
    rw [hseal rfl,Chip.reseals,Chip.reseals,byte_outside hbound (List.length_take_le k data) hmem
      (by decide) (fun h => hout ⟨h.1.symm,h.2⟩)]

def Untouched (n m : Node Chip) : Prop :=
  m.core.mem = n.core.mem ∧ m.core.sealed = n.core.sealed

theorem untouched_kept {m : Node Chip} (p : BusCode α) [(memory address).frame.Keeps p]
    [(sealing address).frame.Keeps p] (hm : Untouched n m) :
    wp (working address).spec p (fun _ n' => Untouched n n') m :=
  wp_mono (Device.mono _) (fun _ _ h => ⟨h.1.trans hm.1,h.2.trans hm.2⟩)
    (Handler.wp_and (wp_working (kept_memory p)) (kept_sealed p))

theorem opConfig_read {m : Node Chip} (hm : Untouched n m) :
    wp (working address).spec (g.readExtendedData 64 0 2 true) (fun r n' => ∀ data,
      r = some data → data = [n.core.byte 64 0,n.core.byte 64 1] ∧ Untouched n n') m := by
  refine wp_mono (Device.mono _) (fun r n' h data hdata => ?_)
    (Handler.wp_and (readExtendedData_sealed 64 0 2 true) (wp_working (opConfig_shown hm.1)))
  obtain ⟨hbytes,hmem⟩ := h.2 data hdata
  subst hdata
  exact ⟨hbytes,hmem,(h.1 rfl).trans hm.2⟩

theorem opConfig_written {data : List Byte} {m : Node Chip} (hm : Untouched n m) :
    wp (working address).spec (g.writeExtendedData 64 0 2 (some data)) (fun ok n' =>
      ok = true → n'.core.sealed = n.core.reseals) m := by
  rw [← reseals_mem hm.1]
  exact @writeExtendedData_resealed address g m 64 0 2 (some data) (by decide) (by decide)
    (by decide)

theorem setSleep_sealed (isSlow : Bool) {m : Node Chip} (hm : Untouched n m) :
    wp (working address).spec (g.setSleep isSlow) (fun ok n' => ok = true → n'.core.sealed =
      if (n.core.byte 64 1).getLsbD 5 != isSlow then n.core.reseals else n.core.sealed) m := by
  refine wp_setSleep (Device.mono _) (by simp) (opConfig_read hm) ?_ ?_
  · intro hbit l hl _
    rw [hbit,bne_self_eq_false]
    exact hl.2
  · intro hbit l hl
    rw [hbit,if_pos (by cases isSlow <;> rfl)]
    exact opConfig_written hl

theorem sleep_sealed (b : Bool) : wp (working address).spec (g.sleep b)
    (fun ok n' => (ok = true → b = true) ∧ n'.core.sealed = n.core.sealed) n := by
  refine Handler.wp_and ?_ (kept_sealed _)
  rw [sleep,wp_ite]
  split
  · exact id
  · refine wp_seq (Device.mono _) (kept_sealed g.setHibernate) (fun c m _ => ?_)
    cases c with
    | false => simp
    | true => exact id

end BatteryGaugeBq27441

def Op.writes (o : Op) (c : Chip) : Bool :=
  match o with
  | .advancedSetConfig _ _ _ _ => true
  | .enableGauge isSlow => (c.byte 64 1).getLsbD 5 != isSlow
  | .disableBatteryDetect => (c.byte 64 0).getLsbD 5
  | .enableBatteryDetect => !(c.byte 64 0).getLsbD 5
  | _ => false

def Op.preserving (o : Op) : Prop :=
  match o with
  | .advancedGetConfig _ _ _ _ => True
  | .advancedSetConfig subClassId offset length _ => 0 ≤ offset ∧ offset ≤ 8191 ∧ 1 ≤ length ∧
      ¬ (subClassId = 82 ∧ offset ≤ 2 ∧ 2 < offset + length)
  | .enableGauge _ => True
  | .disableBatteryDetect => True
  | .enableBatteryDetect => True
  | _ => False

section Calls
open BatteryGaugeBq27441
variable {address : Byte} {g : BatteryGaugeBq27441} {n : Node Chip}

def Reseal (o : Op) (n : Node Chip) (ok : Bool) (n' : Node Chip) : Prop :=
  ok = true → n'.core.sealed = if o.writes n.core then n.core.reseals else n.core.sealed

theorem advancedGetConfig_sealed (subClassId : Byte) (offset length : Int) (pData : Bool) :
    wp (working address).spec (g.advancedGetConfig subClassId offset length pData)
      (fun r n' => r.1 = true → n'.core.sealed = n.core.sealed) n := by
  rw [advancedGetConfig,wp_ite]
  split
  · rw [wp_bind,Device.wp_lock]
    intro x hx
    refine wp_seq (Device.mono _) (readExtendedData_sealed _ _ _ _) (fun data m hm => ?_)
    refine wp_seq (Device.mono _) (sleep_sealed _) (fun ok l hl => ?_)
    rw [wp_bind,Device.wp_unlock]
    intro y hy hok
    rw [drifts_sealed hy,hl.2,hm (hl.1 hok)]
    exact drifts_sealed hx
  · simp

theorem drifts_mem {c c' : Chip} (h : (working address).Drifts c c') : c'.mem = c.mem := by
  rw [drifts_mode h]

theorem drifts_reseals {c c' : Chip} (h : (working address).Drifts c c') :
    c'.reseals = c.reseals := reseals_mem (drifts_mem h)

theorem advancedSetConfig_sealed {subClassId : Byte} {offset length : Int}
    {pData : Option (List Byte)} (hoffset : 0 ≤ offset) (hbound : offset ≤ 8191)
    (hlength : 1 ≤ length) (hout : ¬ (subClassId = 82 ∧ offset ≤ 2 ∧ 2 < offset + length)) :
    wp (working address).spec (g.advancedSetConfig subClassId offset length pData)
      (fun ok n' => ok = true → n'.core.sealed = n.core.reseals) n := by
  obtain ⟨o,rfl⟩ := Int.eq_ofNat_of_zero_le hoffset
  obtain ⟨k,rfl⟩ := Int.eq_ofNat_of_zero_le (show (0 : Int) ≤ length by omega)
  rw [advancedSetConfig,wp_ite]
  split
  · rw [wp_bind,Device.wp_lock]
    intro x hx
    rw [wp_bind]
    have hwritten : wp (working address).spec (g.writeExtendedData subClassId o k pData)
        (fun ok n' => ok = true → n'.core.sealed = n.core.reseals) ⟨n.pointer,x⟩ := by
      by_cases hin : withinBlock o k = true
      · rw [← drifts_reseals hx]
        exact @writeExtendedData_resealed address g ⟨n.pointer,x⟩ _ _ _ _ (by omega)
          (withinBlock_fits (by omega) hin) (fun h => hout ⟨h.1,by omega,by omega⟩)
      · rw [writeExtendedData,if_neg (fun h => hin (Bool.and_eq_true_iff.mp h).2)]
        simp
    refine wp_mono (Device.mono _) (fun written m hm => ?_) hwritten
    refine wp_seq (Device.mono _) (sleep_sealed _) (fun ok l hl => ?_)
    rw [wp_bind,Device.wp_unlock]
    intro y hy hok
    rw [drifts_sealed hy,hl.2,hm (hl.1 hok)]
  · simp

theorem enableGauge_sealed (isSlow : Bool) : wp (working address).spec (g.enableGauge isSlow)
    (fun r n' => r.1 = true → n'.core.sealed =
      if (n.core.byte 64 1).getLsbD 5 != isSlow then n.core.reseals else n.core.sealed) n := by
  rw [enableGauge,wp_ite]
  split
  · refine wp_seq (Device.mono _) (untouched_kept lock ⟨rfl,rfl⟩) (fun _ m hm => ?_)
    refine wp_seq (Device.mono _) (untouched_kept (g.control 0x0012) hm) (fun woken l hl => ?_)
    cases woken with
    | false => simp
    | true =>
      rw [if_pos rfl]
      refine wp_seq (Device.mono _) (setSleep_sealed isSlow hl) (fun success k hk => ?_)
      exact wp_seq (Device.mono _) (kept_sealed unlock) (fun _ j hj hok => hj.trans (hk hok))
  · simp

theorem detect_sealed {f : Byte → Byte → BusCode Bool} {b : Bool}
    (hf : ∀ m : Node Chip, Untouched n m →
      wp (working address).spec (f (n.core.byte 64 0) (n.core.byte 64 1)) (fun ok n' =>
        ok = true → n'.core.sealed = if b then n.core.reseals else n.core.sealed) m) :
    wp (working address).spec (do
      lock
      let data ← g.readExtendedData 64 0 2 true
      let success ← data.elim (pure false) (fun data => f (data.getD 0 0) (data.getD 1 0))
      g.hibernate
      unlock
      return success) (fun ok n' => ok = true →
        n'.core.sealed = if b then n.core.reseals else n.core.sealed) n := by
  refine wp_seq (Device.mono _) (untouched_kept lock ⟨rfl,rfl⟩) (fun _ m hm => ?_)
  refine wp_detect (Device.mono _) (by simp) (opConfig_read hm) hf (fun ok k hk => ?_)
  refine wp_mono (Device.mono _) (fun _ j hj => ?_) (kept_sealed g.hibernate)
  exact wp_mono (Device.mono _) (fun _ i hi hok => (hi.trans hj).trans (hk hok))
    (kept_sealed unlock)

theorem disableBatteryDetect_sealed : wp (working address).spec g.disableBatteryDetect
    (fun ok n' => ok = true → n'.core.sealed =
      if (n.core.byte 64 0).getLsbD 5 then n.core.reseals else n.core.sealed) n := by
  rw [disableBatteryDetect,wp_ite]
  split
  · refine detect_sealed (f := fun d e => if d.getLsbD 5 then
      (g.writeExtendedData 64 0 2 (some [d &&& ~~~insertBit,e])).both (g.control 0x000c)
      else pure true) (fun m hm => ?_)
    cases (n.core.byte 64 0).getLsbD 5 with
    | false => exact fun _ => hm.2
    | true =>
      simp only [if_true,wp_both]
      refine wp_mono (Device.mono _) (fun ok l hl => ?_) (opConfig_written hm)
      cases ok with
      | false => simp
      | true =>
        refine wp_mono (Device.mono _) (fun _ k hk _ => ?_) (kept_sealed (g.control 0x000c))
        exact hk.trans (hl rfl)
  · simp

theorem enableBatteryDetect_sealed : wp (working address).spec g.enableBatteryDetect
    (fun ok n' => ok = true → n'.core.sealed =
      if !(n.core.byte 64 0).getLsbD 5 then n.core.reseals else n.core.sealed) n := by
  rw [enableBatteryDetect,wp_ite]
  split
  · refine detect_sealed (f := fun d e => if !d.getLsbD 5 then
      g.writeExtendedData 64 0 2 (some [d ||| insertBit,e]) else pure true) (fun m hm => ?_)
    cases (n.core.byte 64 0).getLsbD 5 with
    | false => exact opConfig_written hm
    | true => exact fun _ => hm.2
  · simp

theorem call_sealed {o : Op} (ho : o.preserving) : wp (working address).spec (o.code g)
    (fun r n' => Reseal o n r.1 n') n := by
  cases o with
  | advancedGetConfig s p l d =>
    simp only [Op.code,valued,wp_bind,wp_pure]
    exact advancedGetConfig_sealed s p l d
  | advancedSetConfig s p l d =>
    obtain ⟨hoffset,hbound,hlength,hout⟩ := ho
    simp only [Op.code,plain,wp_bind,wp_pure]
    exact advancedSetConfig_sealed hoffset hbound hlength hout
  | enableGauge b => exact enableGauge_sealed b
  | disableBatteryDetect =>
    simp only [Op.code,plain,wp_bind,wp_pure]
    exact disableBatteryDetect_sealed
  | enableBatteryDetect =>
    simp only [Op.code,plain,wp_bind,wp_pure]
    exact enableBatteryDetect_sealed
  | _ => exact ho.elim

theorem seal_preserved_iff {s t : BatteryGaugeBq27441} {w v : Node Chip}
    {log : List (Call Op BatteryGaugeBq27441 Bool (Node Chip))}
    (h : object.Session (working address).handler s w log t v) :
    ∀ c ∈ log, c.op.preserving → c.result = true →
      (c.world'.core.sealed = c.world.core.sealed ↔
        c.op.writes c.world.core = false ∨ c.world.core.sealed = c.world.core.reseals) := by
  intro c hc hop hok
  have hsealed := wp_sound (Q := fun r n' => Reseal c.op c.world r.1 n') (call_sealed hop)
    (h.made c hc) hok
  rw [hsealed]
  cases c.op.writes c.world.core with
  | false => simp
  | true => simp [eq_comm]

def resealing : List Op := [.init true 0x55 0x8000,.advancedUnseal 0x8000,.advancedSeal,
  .advancedSetConfig 68 9 2 (some [0x13,0x88])]

theorem resealing_session : ∃ log t v,
    object.Session (working 0xaa).handler (.new 0x00) ⟨0x00,factory true 0x80⟩ log t v ∧
    log.map (fun c => (c.op, c.result, c.world.core.sealed, c.world'.core.sealed)) =
      [(.init true 0x55 0x8000, true, true, true),(.advancedUnseal 0x8000, true, true, false),
        (.advancedSeal, true, false, true),
        (.advancedSetConfig 68 9 2 (some [0x13,0x88]), true, true, false)] := by
  have hrun : (object.replay (obliging (working 0xaa)) 0 resealing (.new 0x00)
      ⟨0x00,factory true 0x80⟩).map (fun r => r.1.map (fun c =>
        (c.op, c.result, c.world.core.sealed, c.world'.core.sealed))) =
      some [(.init true 0x55 0x8000, true, true, true),(.advancedUnseal 0x8000, true, true, false),
        (.advancedSeal, true, false, true),
        (.advancedSetConfig 68 9 2 (some [0x13,0x88]), true, true, false)] := by
    decide +kernel
  obtain ⟨⟨log,t,v⟩,hr,hlog⟩ := Option.map_eq_some_iff.mp hrun
  exact ⟨log,t,v,Object.replay_session (fun _ _ _ _ h =>
    Device.play_exec Chip.answer_shows Chip.settle_drifts h) hr,hlog⟩

theorem seal_preserved_iff_resealing : ∃ log t v,
    object.Session (working 0xaa).handler (.new 0x00) ⟨0x00,factory true 0x80⟩ log t v ∧
    log.map (fun c => (c.op, c.result, c.world.core.sealed, c.world'.core.sealed)) =
      [(.init true 0x55 0x8000, true, true, true),(.advancedUnseal 0x8000, true, true, false),
        (.advancedSeal, true, false, true),
        (.advancedSetConfig 68 9 2 (some [0x13,0x88]), true, true, false)] ∧
    ∀ c ∈ log, c.op.preserving → c.result = true →
      (c.world'.core.sealed = c.world.core.sealed ↔
        c.op.writes c.world.core = false ∨ c.world.core.sealed = c.world.core.reseals) := by
  obtain ⟨log,t,v,hsession,hlog⟩ := resealing_session
  exact ⟨log,t,v,hsession,hlog,seal_preserved_iff hsession⟩

theorem seal_lost : ∃ log t v,
    object.Session (working 0xaa).handler (.new 0x00) ⟨0x00,factory true 0x80⟩ log t v ∧
    log.map Call.op = resealing ∧ ∃ c ∈ log, c.op.preserving ∧ c.result = true ∧
      c.world.core.sealed = true ∧ c.world'.core.sealed = false := by
  obtain ⟨log,t,v,hsession,hlog⟩ := resealing_session
  refine ⟨log,t,v,hsession,?_,?_⟩
  · have hops := congrArg (List.map Prod.fst) hlog
    rwa [List.map_map] at hops
  · have hmem : (.advancedSetConfig 68 9 2 (some [0x13,0x88]), true, true, false) ∈
        log.map (fun c => (c.op, c.result, c.world.core.sealed, c.world'.core.sealed)) := by
      rw [hlog]
      simp
    obtain ⟨c,hc,heq⟩ := List.mem_map.mp hmem
    simp only [Prod.mk.injEq] at heq
    refine ⟨c,hc,?_,heq.2.1,heq.2.2.1,heq.2.2.2⟩
    rw [heq.1]
    exact ⟨by decide,by decide,by decide,by decide⟩

end Calls

end UbloxCellular.Gauge
