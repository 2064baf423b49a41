import UbloxCellular.Gauge.Memory

namespace UbloxCellular.Gauge
open Interaction I2c

namespace BatteryGaugeBq27441
variable {address : Byte} {g : BatteryGaugeBq27441} {n : Node Chip} {α β : Type}

def hibernation (address : Byte) : (answering address).Kept Bool where
  part := Chip.hibernating
  event := drift_keep (fun _ _ => rfl)
  lost _ _ _ h := h.elim
  missed _ _ h := h.elim

theorem poke_hibernating {r d : Byte} {c : Chip} (hr : r ≠ 0x01) :
    (c.poke r d).hibernating = c.hibernating := by
  simp only [Chip.poke,hr,if_false]
  split_ifs <;> rfl

instance hibernation_quiet : Quiet (hibernation address).frame :=
  quiet_chip (fun _ _ _ h _ => poke_hibernating h)

theorem hibernation_control {w : Word} (h : w ≠ 0x0011) (h' : w ≠ 0x0012) :
    (hibernation address).frame.Keeps (g.control w) := by
  refine keeps_control (fun c => ?_)
  change Chip.hibernatingAfter w _ = c.hibernating
  rw [Chip.hibernatingAfter,if_neg h,if_neg h']

instance hibernation_status : (hibernation address).frame.Keeps (g.control 0x0000) :=
  hibernation_control (by decide) (by decide)

instance hibernation_version : (hibernation address).frame.Keeps (g.control 0x0002) :=
  hibernation_control (by decide) (by decide)

instance hibernation_insert : (hibernation address).frame.Keeps (g.control 0x000c) :=
  hibernation_control (by decide) (by decide)

instance hibernation_enter : (hibernation address).frame.Keeps (g.control 0x0013) :=
  hibernation_control (by decide) (by decide)

instance hibernation_seal : (hibernation address).frame.Keeps (g.control 0x0020) :=
  hibernation_control (by decide) (by decide)

instance hibernation_reset : (hibernation address).frame.Keeps (g.control 0x0041) :=
  hibernation_control (by decide) (by decide)

instance hibernation_leave : (hibernation address).frame.Keeps (g.control 0x0042) :=
  hibernation_control (by decide) (by decide)

theorem windowAddress_clear (offset : Int) {i : Nat} (hi : i < 32) :
    windowAddress offset + BitVec.ofNat 8 i ≠ 0x01 := by
  have hlo : -31 ≤ offset.tmod 32 := by
    have := Int.lt_tmod_of_pos offset (show (0 : Int) < 32 by decide)
    omega
  have hhi : offset.tmod 32 < 32 := Int.tmod_lt_of_pos offset (by decide)
  obtain ⟨a,ha⟩ := Int.eq_ofNat_of_zero_le (show 0 ≤ 0x40 + offset.tmod 32 by omega)
  intro h
  rw [windowAddress,ha,BitVec.ofInt_natCast] at h
  have hn := congrArg BitVec.toNat h
  rw [← BitVec.ofNat_add,BitVec.toNat_ofNat] at hn
  change (a + i) % 256 = 1 at hn
  omega

theorem keeps_storeBlock {offset : Int} {data : List Byte} {block : Block}
    (hlen : data.length ≤ 32) : (hibernation address).frame.Keeps (g.storeBlock offset data block) := by
  have hwindow : (hibernation address).frame.Keeps (g.write (windowAddress offset :: data)) := by
    refine Device.Kept.keeps_performWrite (fun n => ?_) _ _
    exact Device.pokes_keep (f := Chip.hibernating) (fun i hi d x =>
      poke_hibernating (windowAddress_clear offset (by omega)))
  have hsum (c : Byte) : (hibernation address).frame.Keeps (g.write [0x60,c]) :=
    Device.Kept.keeps_performWrite (fun n => by
      rw [put_data]
      exact poke_hibernating (by decide)) _ _
  rw [storeBlock]
  infer_instance

def Inert (w : Word) : Prop := w ≠ 0x0011 ∧ w ≠ 0x0012

theorem keeps_sealCode (h : Inert g.gSealCode) :
    (hibernation address).frame.Keeps (g.control g.gSealCode) := hibernation_control h.1 h.2

theorem keeps_writeExtendedData (h : Inert g.gSealCode) (subClassId : Byte) (offset length : Int)
    (pData : Option (List Byte)) :
    (hibernation address).frame.Keeps (g.writeExtendedData subClassId offset length pData) := by
  have hcode : (hibernation address).frame.Keeps (g.control g.gSealCode) := keeps_sealCode h
  rw [writeExtendedData]
  split
  · rename_i hguard
    have hlength : length ≤ 32 := by
      simp only [withinBlock,Bool.and_eq_true,decide_eq_true_eq] at hguard
      exact hguard.2.1
    have hstore (block : Block) : (hibernation address).frame.Keeps
        (g.storeBlock offset ((pData.getD []).take length.toNat) block) := by
      refine keeps_storeBlock ?_
      rw [List.length_take]
      omega
    have hwrite (wasSealed : Bool) : (hibernation address).frame.Keeps
        (g.writeBlock wasSealed subClassId offset ((pData.getD []).take length.toNat)) := by
      rw [writeBlock]
      infer_instance
    infer_instance
  · infer_instance

theorem keeps_readExtended (h : Inert g.gSealCode) (subClassId : Byte) (offset length : Int)
    (pData : Bool) :
    (hibernation address).frame.Keeps (g.readExtendedData subClassId offset length pData) := by
  have hcode : (hibernation address).frame.Keeps (g.control g.gSealCode) := keeps_sealCode h
  infer_instance

theorem kept_hibernating (p : BusCode α) (hp : (hibernation address).frame.Keeps p) :
    wp (answering address).spec p (fun _ n' => n'.core.hibernating = n.core.hibernating) n :=
  hp.run n trivial

theorem drifts_hibernating {c c' : Chip} (h : (answering address).Drifts c c') :
    c'.hibernating = c.hibernating := by rw [drifts_mode h]

theorem setHibernate_spec : wp (answering address).spec g.setHibernate (fun b n' =>
    b = true ∧ n'.core.hibernating = true) n :=
  wp_control (fun _ _ h => h.elim) (fun _ _ _ => ⟨rfl,rfl⟩)

theorem clearHibernate_spec : wp (answering address).spec (g.control 0x0012) (fun b n' =>
    b = true ∧ n'.core.hibernating = false) n :=
  wp_control (fun _ _ h => h.elim) (fun _ _ _ => ⟨rfl,rfl⟩)

def Awake (g : BatteryGaugeBq27441) (n : Node Chip) : Prop :=
  g.gGaugeOn = true → n.core.hibernating = false

def Settled (g : BatteryGaugeBq27441) (n : Node Chip) : Prop :=
  n.core.hibernating = !g.gGaugeOn

theorem Settled.awake (h : Settled g n) : Awake g n := fun hon => by rw [h,hon]; rfl

theorem awake_kept {p : BusCode α} (hp : (hibernation address).frame.Keeps p) (h : Awake g n) :
    wp (answering address).spec p (fun _ n' => Awake g n') n :=
  wp_mono (Device.mono _) (fun _ _ hk hon => hk.trans (h hon)) (kept_hibernating p hp)

theorem settled_kept {p : BusCode α} (hp : (hibernation address).frame.Keeps p) (h : Settled g n) :
    wp (answering address).spec p (fun _ n' => Settled g n') n :=
  wp_mono (Device.mono _) (fun _ _ hk => hk.trans h) (kept_hibernating p hp)

theorem wp_then {p : BusCode α} {q : α → BusCode β} {P : Node Chip → Prop} {Q : β → Node Chip → Prop}
    (hp : wp (answering address).spec p (fun _ n' => P n') n)
    (hq : ∀ a m, P m → wp (answering address).spec (q a) Q m) :
    wp (answering address).spec (p >>= q) Q n :=
  wp_seq (Device.mono _) hp hq

theorem asleep_settled {a : α} {q : Bool → BusCode α}
    [hq : ∀ b, (hibernation address).frame.Keeps (q b)] (h : Awake g n) :
    wp (answering address).spec (if g.gGaugeOn then pure a else g.setHibernate >>= q)
      (fun _ n' => Settled g n') n := by
  rw [wp_ite]
  split
  · rename_i hon
    rw [wp_pure,Settled,h hon,hon]
    rfl
  · rename_i hoff
    refine wp_then (P := Settled g) (wp_mono (Device.mono _) (fun _ _ hm => ?_) setHibernate_spec)
      (fun b _ hm => settled_kept (hq b) hm)
    rw [Settled,hm.2]
    simp [hoff]

theorem sleep_settled (b : Bool) (h : Awake g n) :
    wp (answering address).spec (g.sleep b) (fun _ n' => Settled g n') n := asleep_settled h

theorem hibernate_settled (h : Awake g n) :
    wp (answering address).spec g.hibernate (fun _ n' => Settled g n') n := asleep_settled h

theorem recent_awake (h : Awake g n) :
    wp (answering address).spec g.recent (fun b n' => b = true ∧ Awake g n') n := by
  rw [recent,wp_ite]
  split
  · exact ⟨rfl,h⟩
  · rename_i hoff
    rw [makeAdcReading,wp_bind,Device.wp_lock]
    intro x _
    refine wp_seq (Device.mono _) clearHibernate_spec (fun b m hm => ?_)
    simp only [wp_bind,Device.wp_unlock,Device.wp_wait,wp_pure]
    exact fun y _ z _ => ⟨hm.1,fun hon => absurd hon hoff⟩

theorem locked_settled {q : BusCode α} (h : Awake g n)
    (hq : ∀ m, Awake g m → wp (answering address).spec q (fun _ n' => Settled g n') m) :
    wp (answering address).spec (lock >>= fun _ => q) (fun _ n' => Settled g n') n :=
  wp_then (awake_kept inferInstance h) (fun _ m hm => hq m hm)

theorem slept_settled {b : Bool} {f : Bool → α} (h : Awake g n) :
    wp (answering address).spec (do
      let success ← g.sleep b
      unlock
      return f success) (fun _ n' => Settled g n') n :=
  wp_then (sleep_settled b h) (fun _ _ hm => settled_kept inferInstance hm)

theorem hibernated_settled {a : α} (h : Awake g n) :
    wp (answering address).spec (do
      g.hibernate
      unlock
      return a) (fun _ n' => Settled g n') n :=
  wp_then (hibernate_settled h) (fun _ _ hm => settled_kept inferInstance hm)

theorem recent_settled {q : BusCode α} {d : α} (h : Awake g n)
    (hq : ∀ m, Awake g m → wp (answering address).spec q (fun _ n' => Settled g n') m) :
    wp (answering address).spec (do
      if ← g.recent then q else return d) (fun _ n' => Settled g n') n := by
  refine wp_seq (Device.mono _) (recent_awake h) (fun b m hm => ?_)
  obtain ⟨rfl,hawake⟩ := hm
  rw [if_pos rfl]
  exact hq m hawake

theorem control_awake {w : Word} (hw : g.gGaugeOn = true → w ≠ 0x0011) (h : Awake g n) :
    wp (answering address).spec (g.control w) (fun _ n' => Awake g n') n := by
  refine wp_control (fun _ _ h => h.elim) (fun p x hx hon => ?_)
  change Chip.hibernatingAfter w _ = false
  rw [Chip.hibernatingAfter,if_neg (hw hon)]
  split_ifs
  · rfl
  · exact (drifts_hibernating hx).trans (h hon)

theorem unseal_awake {w : Word} (hw : g.gGaugeOn = true → w ≠ 0x0011) (h : Awake g n) :
    wp (answering address).spec (g.unseal' w) (fun _ n' => Awake g n') n := by
  rw [unseal',Prog.both]
  refine wp_then (control_awake hw h) (fun b m hm => ?_)
  cases b with
  | false => exact hm
  | true =>
    refine wp_then (control_awake hw hm) (fun c l hl => ?_)
    cases c with
    | false => exact hl
    | true => exact awake_kept inferInstance hl

structure Sound (g : BatteryGaugeBq27441) (n : Node Chip) : Prop where
  on : g.gGaugeOn = true → g.gReady = true
  power : g.gReady = true → Settled g n
  code : g.gpI2c = true → Inert g.gSealCode

theorem guarded_sound {c : Bool} {body : BusCode α} {d : α} (hs : Sound g n)
    (hc : c = true → g.guarded = true) (hbody : c = true → Settled g n → Inert g.gSealCode →
      wp (answering address).spec body (fun _ n' => Settled g n') n) :
    wp (answering address).spec (if c then body else pure d) (fun _ n' => Sound g n') n := by
  rw [wp_ite]
  split
  · rename_i h
    obtain ⟨hready,hi2c⟩ := Bool.and_eq_true_iff.mp (hc h)
    exact wp_mono (Device.mono _) (fun _ m hm => ⟨hs.on,fun _ => hm,hs.code⟩)
      (hbody h (hs.power hready) (hs.code hi2c))
  · exact hs

theorem reading_sound (r : Byte) (unit : Word → Int) (hs : Sound g n) :
    wp (answering address).spec (g.reading r unit) (fun _ n' => Sound g n') n := by
  refine guarded_sound hs id (fun _ h _ => recent_settled h.awake (fun m hm => ?_))
  refine locked_settled hm (fun m hm => ?_)
  exact wp_then (awake_kept inferInstance hm) (fun _ m hm => slept_settled hm)

theorem isBatteryDetected_sound (hs : Sound g n) :
    wp (answering address).spec g.isBatteryDetected (fun _ n' => Sound g n') n := by
  refine guarded_sound hs id (fun _ h _ => recent_settled h.awake (fun m hm => ?_))
  refine locked_settled hm (fun m hm => ?_)
  exact wp_then (awake_kept inferInstance hm) (fun _ m hm => hibernated_settled hm)

theorem getRemainingPercentage_sound (hs : Sound g n) :
    wp (answering address).spec g.getRemainingPercentage (fun _ n' => Sound g n') n := by
  refine guarded_sound hs id (fun _ h _ => recent_settled h.awake (fun m hm => ?_))
  refine locked_settled hm (fun m hm => ?_)
  refine wp_then (hibernate_settled hm) (fun _ m hm => ?_)
  exact wp_then (awake_kept inferInstance hm.awake) (fun _ m hm => slept_settled hm)

theorem advancedGetConfig_sound (subClassId : Byte) (offset length : Int) (pData : Bool)
    (hs : Sound g n) : wp (answering address).spec (g.advancedGetConfig subClassId offset length pData)
      (fun _ n' => Sound g n') n := by
  refine guarded_sound hs (fun h => (Bool.and_eq_true_iff.mp h).1) (fun _ h hcode => ?_)
  refine locked_settled h.awake (fun m hm => ?_)
  exact wp_then (awake_kept (keeps_readExtended hcode _ _ _ _) hm) (fun _ m hm => slept_settled hm)

theorem advancedSetConfig_sound (subClassId : Byte) (offset length : Int)
    (pData : Option (List Byte)) (hs : Sound g n) :
    wp (answering address).spec (g.advancedSetConfig subClassId offset length pData)
      (fun _ n' => Sound g n') n := by
  refine guarded_sound hs (fun h => (Bool.and_eq_true_iff.mp h).1) (fun _ h hcode => ?_)
  refine locked_settled h.awake (fun m hm => ?_)
  exact wp_then (awake_kept (keeps_writeExtendedData hcode _ _ _ _) hm)
    (fun _ m hm => slept_settled hm)

theorem advancedSendControlWord_sound {w : Word} (wanted : Bool) (hw : Inert w) (hs : Sound g n) :
    wp (answering address).spec (g.advancedSendControlWord w wanted) (fun _ n' => Sound g n') n := by
  refine guarded_sound hs id (fun _ h _ => ?_)
  have hword : (hibernation address).frame.Keeps (g.control w) := hibernation_control hw.1 hw.2
  exact settled_kept inferInstance h

theorem advancedGet_sound (r : Byte) (hs : Sound g n)
    (hon : g.guarded = true → g.gGaugeOn = true) :
    wp (answering address).spec (g.advancedGet r) (fun _ n' => Sound g n') n := by
  refine guarded_sound hs id (fun hg h _ => ?_)
  rw [recent,if_pos (hon hg)]
  exact settled_kept inferInstance h

theorem advancedIsSealed_sound (hs : Sound g n) :
    wp (answering address).spec g.advancedIsSealed (fun _ n' => Sound g n') n := by
  refine guarded_sound hs id (fun _ h _ => locked_settled h.awake (fun m hm => ?_))
  exact wp_then (awake_kept inferInstance hm) (fun _ m hm => hibernated_settled hm)

theorem advancedSeal_sound (hs : Sound g n) :
    wp (answering address).spec g.advancedSeal (fun _ n' => Sound g n') n := by
  refine guarded_sound hs id (fun _ h _ => locked_settled h.awake (fun m hm => ?_))
  exact wp_then (awake_kept inferInstance hm) (fun _ m hm => slept_settled hm)

theorem keeps_clearReseal (h : Inert g.gSealCode) :
    (hibernation address).frame.Keeps g.clearReseal := by
  have hread := @keeps_readExtended address g h
  have hwrite := @keeps_writeExtendedData address g h
  rw [clearReseal]
  infer_instance

theorem advancedUnseal_sound {w : Word} (hw : g.gGaugeOn = true → w ≠ 0x0011) (hs : Sound g n) :
    wp (answering address).spec (g.advancedUnseal w) (fun _ n' => Sound g n') n := by
  refine guarded_sound hs id (fun _ h hcode => locked_settled h.awake (fun m hm => ?_))
  refine wp_then (wp_then (unseal_awake hw hm) (fun b m hm => ?_)) (fun _ m hm => slept_settled hm)
  cases b with
  | false => exact hm
  | true => exact awake_kept (keeps_clearReseal hcode) hm

theorem advancedReset_sound (hs : Sound g n) :
    wp (answering address).spec g.advancedReset (fun _ n' => Sound g n') n := by
  refine guarded_sound hs id (fun _ h hcode => locked_settled h.awake (fun m hm => ?_))
  have hkeeps : (hibernation address).frame.Keeps (g.control g.gSealCode) := keeps_sealCode hcode
  refine wp_then (awake_kept inferInstance hm) (fun wasSealed m hm => ?_)
  refine wp_then (awake_kept inferInstance hm) (fun opened m hm => ?_)
  refine wp_then (awake_kept ?_ hm) (fun _ m hm => slept_settled hm)
  have hreset : (hibernation address).frame.Keeps (g.resetUnsealed wasSealed) := by
    rw [resetUnsealed]
    infer_instance
  infer_instance

theorem setSleep_hibernation (h : Inert g.gSealCode) (isSlow : Bool) :
    (hibernation address).frame.Keeps (g.setSleep isSlow) := by
  have hread := @keeps_readExtended address g h
  have hwrite := @keeps_writeExtendedData address g h
  rw [setSleep]
  infer_instance

theorem enableGauge_sound (isSlow : Bool) (hs : Sound g n) :
    wp (answering address).spec (g.enableGauge isSlow) (fun r n' => Sound r.2 n' ∧
      r.2.gReady = g.gReady) n := by
  rw [enableGauge,wp_ite]
  split
  · rename_i hguard
    obtain ⟨hready,hi2c⟩ := Bool.and_eq_true_iff.mp hguard
    rw [wp_bind,Device.wp_lock]
    intro x hx
    refine wp_seq (Device.mono _) clearHibernate_spec (fun b m hm => ?_)
    obtain ⟨rfl,hawake⟩ := hm
    rw [if_pos rfl]
    have hsettled : Settled { g with gGaugeOn := true } m := hawake
    refine wp_then (settled_kept (setSleep_hibernation (hs.code hi2c) isSlow) hsettled)
      (fun success l hl => ?_)
    refine wp_then (settled_kept inferInstance hl) (fun _ k hk => ?_)
    exact ⟨⟨fun _ => hready,fun _ => hk,hs.code⟩,rfl⟩
  · exact ⟨hs,rfl⟩

theorem disableGauge_sound (hs : Sound g n) :
    wp (answering address).spec g.disableGauge (fun r n' => Sound r.2 n' ∧
      r.2.gReady = g.gReady) n := by
  rw [disableGauge,wp_ite]
  split
  · rw [wp_bind,Device.wp_lock]
    intro x hx
    refine wp_seq (Device.mono _) setHibernate_spec (fun b m hm => ?_)
    obtain ⟨rfl,hasleep⟩ := hm
    rw [wp_bind,Device.wp_unlock]
    intro y hy
    exact ⟨⟨by simp,fun _ => (drifts_hibernating hy).trans hasleep,hs.code⟩,rfl⟩
  · exact ⟨hs,rfl⟩

theorem disableBatteryDetect_sound (hs : Sound g n) :
    wp (answering address).spec g.disableBatteryDetect (fun _ n' => Sound g n') n := by
  refine guarded_sound hs id (fun _ h hcode => locked_settled h.awake (fun m hm => ?_))
  have hwrite := @keeps_writeExtendedData address g hcode
  refine wp_then (awake_kept (keeps_readExtended hcode _ _ _ _) hm) (fun r m hm => ?_)
  exact wp_then (awake_kept inferInstance hm) (fun _ m hm => hibernated_settled hm)

theorem enableBatteryDetect_sound (hs : Sound g n) :
    wp (answering address).spec g.enableBatteryDetect (fun _ n' => Sound g n') n := by
  refine guarded_sound hs id (fun _ h hcode => locked_settled h.awake (fun m hm => ?_))
  have hwrite := @keeps_writeExtendedData address g hcode
  refine wp_then (awake_kept (keeps_readExtended hcode _ _ _ _) hm) (fun r m hm => ?_)
  exact wp_then (awake_kept inferInstance hm) (fun _ m hm => hibernated_settled hm)

theorem configure_spec (hcode : Inert g.gSealCode) : wp (answering address).spec g.configure
    (fun r n' => (r = none → n'.core.hibernating = n.core.hibernating) ∧
      ∀ b, r = some b → b = true ∧ n'.core.hibernating = true) n := by
  have hwrite := @keeps_writeExtendedData address g hcode
  rw [configure]
  refine wp_seq (Device.mono _) (kept_hibernating (g.control 0x0002) inferInstance)
    (fun a m hm => ?_)
  cases a with
  | false => exact ⟨fun _ => hm,by simp⟩
  | true =>
    rw [if_pos rfl]
    refine wp_seq (Device.mono _) (kept_hibernating (g.getTwoBytes 0x00) inferInstance)
      (fun o l hl => ?_)
    rw [wp_ite]
    split
    · refine wp_seq (Device.mono _) (kept_hibernating _ inferInstance) (fun b k hk => ?_)
      cases b with
      | false => exact ⟨fun _ => hk.trans (hl.trans hm),by simp⟩
      | true =>
        rw [if_pos rfl]
        refine wp_seq (Device.mono _) setHibernate_spec (fun c j hj => ?_)
        simp only [wp_pure]
        exact ⟨by simp,by simpa using hj⟩
    · exact ⟨fun _ => hl.trans hm,by simp⟩

theorem init_sound {pI2c : Bool} {code : Word} (a : Byte)
    (hinit : pI2c = true → g.gGaugeOn = false ∧ Inert code) (hs : Sound g n) :
    wp (answering address).spec (g.init pI2c a code) (fun r n' => Sound r.2 n' ∧
      r.1 = r.2.gReady ∧ (g.gReady = true → r.2.gReady = true)) n := by
  rw [init,wp_ite]
  split
  · rename_i hp
    obtain ⟨hoff,hcode⟩ := hinit hp
    rw [wp_bind,Device.wp_lock]
    intro x hx
    refine wp_seq (Device.mono _) (configure_spec hcode) (fun r m hm => ?_)
    dsimp only
    rw [wp_bind,Device.wp_unlock]
    intro y hy
    have hsame : y.hibernating = m.core.hibernating := drifts_hibernating hy
    cases r with
    | none =>
      refine ⟨⟨fun hon => hs.on hon,fun hready => ?_,fun _ => hcode⟩,rfl,id⟩
      have hsettled : n.core.hibernating = !g.gGaugeOn := hs.power hready
      exact hsame.trans ((hm.1 rfl).trans ((drifts_hibernating hx).trans hsettled))
    | some b =>
      obtain ⟨rfl,hasleep⟩ := hm.2 b rfl
      refine ⟨⟨fun _ => rfl,fun _ => ?_,fun _ => hcode⟩,rfl,fun _ => rfl⟩
      rw [Settled,hsame,hasleep,hoff]
      rfl
  · rename_i hp
    exact ⟨⟨hs.on,hs.power,fun h => absurd h hp⟩,rfl,id⟩

end BatteryGaugeBq27441

def Op.economical (o : Op) (g : BatteryGaugeBq27441) : Prop :=
  match o with
  | .init pI2c _ sealCode => pI2c = true →
      g.gGaugeOn = false ∧ BatteryGaugeBq27441.Inert sealCode
  | .advancedGet _ => g.guarded = true → g.gGaugeOn = true
  | .advancedUnseal sealCode => g.gGaugeOn = true → sealCode ≠ 0x0011
  | .advancedSendControlWord controlWord _ => BatteryGaugeBq27441.Inert controlWord
  | _ => True

def Op.Initialises (o : Op) : Prop := ∃ pI2c address sealCode, o = .init pI2c address sealCode

section Calls
open BatteryGaugeBq27441
variable {address : Byte} {g : BatteryGaugeBq27441} {n : Node Chip} {α : Type}

structure Stepped (o : Op) (g : BatteryGaugeBq27441) (r : Bool × BatteryGaugeBq27441)
    (n : Node Chip) : Prop where
  sound : Sound r.2 n
  ready : g.gReady = true → r.2.gReady = true
  initialised : o.Initialises → r.1 = r.2.gReady

theorem plain_stepped {o : Op} {p : BusCode Bool} (ho : ¬ o.Initialises)
    (h : wp (answering address).spec p (fun _ n' => Sound g n') n) :
    wp (answering address).spec (g.plain p) (fun r n' => Stepped o g r n') n := by
  rw [plain]
  exact wp_seq (Device.mono _) h (fun _ m hm => ⟨hm,id,fun h => absurd h ho⟩)

theorem valued_stepped {o : Op} {p : BusCode (Bool × α)} (ho : ¬ o.Initialises)
    (h : wp (answering address).spec p (fun _ n' => Sound g n') n) :
    wp (answering address).spec (g.valued p) (fun r n' => Stepped o g r n') n := by
  rw [valued]
  exact wp_seq (Device.mono _) h (fun _ m hm => ⟨hm,id,fun h => absurd h ho⟩)

theorem call_stepped {o : Op} (hs : Sound g n) (ho : o.economical g) :
    wp (answering address).spec (o.code g) (fun r n' => Stepped o g r n') n := by
  cases o with
  | init p a w =>
    exact wp_mono (Device.mono _) (fun r m hm => ⟨hm.1,hm.2.2,fun _ => hm.2.1⟩)
      (init_sound a ho hs)
  | enableGauge b =>
    refine wp_mono (Device.mono _) (fun r m hm => ⟨hm.1,hm.2.trans,?_⟩) (enableGauge_sound b hs)
    rintro ⟨_,_,_,h⟩
    cases h
  | disableGauge =>
    refine wp_mono (Device.mono _) (fun r m hm => ⟨hm.1,hm.2.trans,?_⟩) (disableGauge_sound hs)
    rintro ⟨_,_,_,h⟩
    cases h
  | disableBatteryDetect => exact plain_stepped (by simp [Op.Initialises]) (disableBatteryDetect_sound hs)
  | enableBatteryDetect => exact plain_stepped (by simp [Op.Initialises]) (enableBatteryDetect_sound hs)
  | isBatteryDetected => exact plain_stepped (by simp [Op.Initialises]) (isBatteryDetected_sound hs)
  | getTemperature => exact valued_stepped (by simp [Op.Initialises]) (reading_sound _ _ hs)
  | getVoltage => exact valued_stepped (by simp [Op.Initialises]) (reading_sound _ _ hs)
  | getCurrent => exact valued_stepped (by simp [Op.Initialises]) (reading_sound _ _ hs)
  | getRemainingCapacity => exact valued_stepped (by simp [Op.Initialises]) (reading_sound _ _ hs)
  | getRemainingPercentage =>
    exact valued_stepped (by simp [Op.Initialises]) (getRemainingPercentage_sound hs)
  | advancedGetConfig s p l d =>
    exact valued_stepped (by simp [Op.Initialises]) (advancedGetConfig_sound s p l d hs)
  | advancedSetConfig s p l d =>
    exact plain_stepped (by simp [Op.Initialises]) (advancedSetConfig_sound s p l d hs)
  | advancedSendControlWord w d =>
    exact valued_stepped (by simp [Op.Initialises]) (advancedSendControlWord_sound d ho hs)
  | advancedGet a => exact valued_stepped (by simp [Op.Initialises]) (advancedGet_sound a hs ho)
  | advancedIsSealed => exact plain_stepped (by simp [Op.Initialises]) (advancedIsSealed_sound hs)
  | advancedSeal => exact plain_stepped (by simp [Op.Initialises]) (advancedSeal_sound hs)
  | advancedUnseal w => exact plain_stepped (by simp [Op.Initialises]) (advancedUnseal_sound ho hs)
  | advancedReset => exact plain_stepped (by simp [Op.Initialises]) (advancedReset_sound hs)

theorem session_sound {s t : BatteryGaugeBq27441} {w v : Node Chip}
    {log : List (Call Op BatteryGaugeBq27441 Bool (Node Chip))}
    (h : object.Session (answering address).handler s w log t v) (hs : Sound s w)
    (hlog : ∀ c ∈ log, c.op.economical c.self) : Sound t v ∧
      ((s.gReady = true ∨ ∃ c ∈ log, c.op.Initialises ∧ c.result = true) → t.gReady = true) := by
  induction h with
  | nil => exact ⟨hs,by simp⟩
  | @cons c log _ _ hc _ ih =>
    have hstep := wp_sound (Q := fun r n' => Stepped c.op c.self r n')
      (call_stepped hs (hlog c List.mem_cons_self)) hc
    obtain ⟨hsound,hready⟩ := ih hstep.sound (fun d hd => hlog d (List.mem_cons_of_mem _ hd))
    refine ⟨hsound,?_⟩
    rintro (hr | ⟨d,hd,hinit,hok⟩)
    · exact hready (.inl (hstep.ready hr))
    · rcases List.mem_cons.mp hd with rfl | hd
      · exact hready (.inl ((hstep.initialised hinit).symm.trans hok))
      · exact hready (.inr ⟨d,hd,hinit,hok⟩)

theorem new_sound (a : Byte) (n : Node Chip) : Sound (.new a) n :=
  ⟨by simp [new],by simp [new],by simp [new]⟩

theorem power_state {a : Byte} {t : BatteryGaugeBq27441} {w v : Node Chip}
    {log : List (Call Op BatteryGaugeBq27441 Bool (Node Chip))}
    (h : object.Session (answering address).handler (.new a) w log t v)
    (hlog : ∀ c ∈ log, c.op.economical c.self)
    (hinit : ∃ c ∈ log, c.op.Initialises ∧ c.result = true) :
    v.core.hibernating = true ↔ t.isGaugeEnabled = false := by
  obtain ⟨hsound,hready⟩ := session_sound h (new_sound a w) hlog
  have hpower : v.core.hibernating = !t.gGaugeOn := hsound.power (hready (.inr hinit))
  rw [hpower,isGaugeEnabled,Bool.not_eq_true']

abbrev Made := Call Op BatteryGaugeBq27441 Bool (Node Chip)

def entry (c : Made) : Op × Bool × Bool := (c.op, c.self.gGaugeOn, c.result)

theorem answering_session (ops : List Op) (l : List (Op × Bool × Bool)) (b : Bool × Bool)
    (h : (object.replay (obliging (answering 0xaa)) 0 ops (.new 0x00)
      ⟨0x00,factory true 0x80⟩).map (fun r => (r.1.map entry, r.2.1.gGaugeOn,
        r.2.2.core.hibernating)) = some (l, b)) : ∃ log t v,
    object.Session (answering 0xaa).handler (.new 0x00) ⟨0x00,factory true 0x80⟩ log t v ∧
    log.map entry = l ∧ t.isGaugeEnabled = b.1 ∧ v.core.hibernating = b.2 := by
  obtain ⟨⟨log,t,v⟩,hr,heq⟩ := Option.map_eq_some_iff.mp h
  simp only [Prod.mk.injEq] at heq
  obtain ⟨hlog,rfl⟩ := heq
  exact ⟨log,t,v,Object.replay_session (fun _ _ _ _ hp =>
    Device.play_exec (fun _ _ => trivial) Chip.settle_drifts hp) hr,hlog,rfl,rfl⟩

theorem power_state_gauging : ∃ log t v,
    object.Session (answering 0xaa).handler (.new 0x00) ⟨0x00,factory true 0x80⟩ log t v ∧
    log.map entry = [(.init true 0x55 0x8000, false, true),(.enableGauge true, false, true),
      (.getVoltage, true, true)] ∧
    (v.core.hibernating = true ↔ t.isGaugeEnabled = false) := by
  obtain ⟨log,t,v,hsession,hlog,-,-⟩ := answering_session
    [.init true 0x55 0x8000,.enableGauge true,.getVoltage]
    [(.init true 0x55 0x8000, false, true),(.enableGauge true, false, true),
      (.getVoltage, true, true)] (true, false) (by decide +kernel)
  refine ⟨log,t,v,hsession,hlog,power_state hsession (fun c hc => ?_) ?_⟩
  · have hmem : entry c ∈ log.map entry := List.mem_map_of_mem hc
    rw [hlog] at hmem
    simp only [entry,List.mem_cons,Prod.mk.injEq,List.not_mem_nil,or_false] at hmem
    rcases hmem with ⟨hop,hoff,-⟩ | ⟨hop,-,-⟩ | ⟨hop,-,-⟩ <;> rw [hop]
    · exact fun _ => ⟨hoff,by decide,by decide⟩
    · trivial
    · trivial
  · have hmem : (.init true 0x55 0x8000, false, true) ∈ log.map entry := by
      rw [hlog]
      exact List.mem_cons_self
    obtain ⟨c,hc,heq⟩ := List.mem_map.mp hmem
    simp only [entry,Prod.mk.injEq] at heq
    exact ⟨c,hc,⟨_,_,_,heq.1⟩,heq.2.2⟩

theorem power_state_lost : (∃ log t v,
    object.Session (answering 0xaa).handler (.new 0x00) ⟨0x00,factory true 0x80⟩ log t v ∧
    log.map entry = [(.init true 0x55 0x8000, false, true),(.advancedGet 0x04, false, true)] ∧
    t.isGaugeEnabled = false ∧ v.core.hibernating = false) ∧ ∃ log t v,
    object.Session (answering 0xaa).handler (.new 0x00) ⟨0x00,factory true 0x80⟩ log t v ∧
    log.map entry = [(.init true 0x55 0x8000, false, true),(.enableGauge false, false, true),
      (.init true 0x55 0x8000, true, true)] ∧
    t.isGaugeEnabled = true ∧ v.core.hibernating = true :=
  ⟨answering_session [.init true 0x55 0x8000,.advancedGet 0x04] _ (false, false)
    (by decide +kernel),
  answering_session [.init true 0x55 0x8000,.enableGauge false,.init true 0x55 0x8000] _
    (true, true) (by decide +kernel)⟩

end Calls

end UbloxCellular.Gauge
