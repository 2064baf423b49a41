import UbloxCellular.Gauge.Chip

namespace UbloxCellular.Gauge
open Interaction I2c

class Quiet {G : Type} (F : Frame Bus G) : Prop where
  lock : F.Keeps lock
  unlock : F.Keeps unlock
  wait : ∀ ms, F.Keeps (wait ms)
  read : ∀ (g : BatteryGaugeBq27441) k, F.Keeps (g.read k)
  select : ∀ (g : BatteryGaugeBq27441) r, F.Keeps (g.write [r])
  selectRepeated : ∀ (g : BatteryGaugeBq27441) r, F.Keeps (g.writeRepeated [r])
  data : ∀ (g : BatteryGaugeBq27441) r d, r ≠ 0x01 → r ≠ 0x60 → F.Keeps (g.write [r,d])
  dataRepeated : ∀ (g : BatteryGaugeBq27441) r d, r ≠ 0x01 → r ≠ 0x60 →
    F.Keeps (g.writeRepeated [r,d])

class Polled {G : Type} (F : Frame Bus G) : Prop where
  wait : ∀ ms, F.Keeps (wait ms)
  read : ∀ (g : BatteryGaugeBq27441) k, F.Keeps (g.read k)
  select : ∀ (g : BatteryGaugeBq27441) r, F.Keeps (g.write [r])

namespace BatteryGaugeBq27441

section Poll
variable {G : Type} {F : Frame Bus G} {g : BatteryGaugeBq27441} [hp : Polled F]

instance keeps_wait (ms : Nat) : F.Keeps (wait ms) := hp.wait ms

instance keeps_getTwoBytes (r : Byte) : F.Keeps (g.getTwoBytes r) := by
  have hread := hp.read g
  have hselect := hp.select g
  rw [getTwoBytes]
  infer_instance

instance keeps_controlStatus [F.Keeps (g.control 0x0000)] : F.Keeps g.controlStatus := by
  rw [controlStatus]
  infer_instance

instance keeps_isSealed [F.Keeps (g.control 0x0000)] : F.Keeps g.isSealed := by
  rw [isSealed]
  infer_instance

instance keeps_seal [F.Keeps (g.control 0x0000)] [F.Keeps (g.control 0x0020)] :
    F.Keeps g.seal' := by
  rw [seal']
  infer_instance

instance keeps_unseal (w : Word) [F.Keeps (g.control 0x0000)] [F.Keeps (g.control w)] :
    F.Keeps (g.unseal' w) := by
  rw [unseal']
  infer_instance

instance keeps_accessible (b : Bool) [F.Keeps (g.control 0x0000)]
    [F.Keeps (g.control g.gSealCode)] : F.Keeps (g.accessible b) := by
  rw [accessible]
  infer_instance

instance keeps_pollFlags (unread : Word) (settled : Word → Bool) :
    F.Keeps (g.pollFlags unread settled) := by
  rw [pollFlags]
  infer_instance

instance keeps_enterConfig [F.Keeps (g.control 0x0013)] : F.Keeps g.enterConfig := by
  rw [enterConfig]
  infer_instance

instance keeps_leaveConfig (b : Bool) [F.Keeps (g.control 0x0042)] :
    F.Keeps (g.leaveConfig b) := by
  rw [leaveConfig]
  infer_instance

instance keeps_setHibernate [F.Keeps (g.control 0x0011)] : F.Keeps g.setHibernate := by
  rw [setHibernate]
  infer_instance

instance keeps_sleep (b : Bool) [F.Keeps (g.control 0x0011)] : F.Keeps (g.sleep b) := by
  rw [sleep]
  infer_instance

instance keeps_hibernate [F.Keeps (g.control 0x0011)] : F.Keeps g.hibernate := by
  rw [hibernate]
  infer_instance

end Poll

section Frame
variable {G : Type} {F : Frame Bus G} {g : BatteryGaugeBq27441} [hq : Quiet F]

instance quiet_polled : Polled F := ⟨hq.wait,hq.read,hq.select⟩

instance keeps_lock : F.Keeps lock := hq.lock
instance keeps_unlock : F.Keeps unlock := hq.unlock

set_option synthInstance.maxSize 8192 in
instance keeps_loadBlock (subClassId : Byte) (offset : Int) :
    F.Keeps (g.loadBlock subClassId offset) := by
  have hread := hq.read g
  have hsum := hq.selectRepeated g
  have hcontrol := hq.data g 0x61 0x00 (by decide) (by decide)
  have hclass := hq.data g 0x3e subClassId (by decide) (by decide)
  have hblock := fun d => hq.dataRepeated g 0x3f d (by decide) (by decide)
  rw [loadBlock]
  infer_instance

instance keeps_readBlock (subClassId : Byte) (offset length : Int) :
    F.Keeps (g.readBlock subClassId offset length) := by
  have hread := hq.read g
  have hselect := hq.selectRepeated g
  rw [readBlock]
  infer_instance

instance keeps_readExtendedData (subClassId : Byte) (offset length : Int) (pData : Bool)
    [F.Keeps (g.control 0x0000)] [F.Keeps (g.control 0x0020)] [F.Keeps (g.control g.gSealCode)] :
    F.Keeps (g.readExtendedData subClassId offset length pData) := by
  rw [readExtendedData]
  infer_instance

end Frame

end BatteryGaugeBq27441

section Chip
variable {address : Byte} {shows : Chip → Byte → Byte → Prop}
  {lost : List Byte → Chip → Chip → Prop} {β : Type}
  {K : (chipOn address shows lost).Kept β} {g : BatteryGaugeBq27441}

theorem keeps_control {w : Word}
    (h : ∀ c : Chip, K.part ({ c with low := lowByte w }.command w) = K.part c) :
    K.frame.Keeps (g.control w) :=
  Device.Kept.keeps_performWrite (fun n => by rw [put_control]; exact h n.core) _ _

theorem quiet_chip (h : ∀ (r d : Byte) (c : Chip), r ≠ 0x01 → r ≠ 0x60 →
    K.part (c.poke r d) = K.part c) : Quiet K.frame where
  lock := Device.Kept.keeps_lock
  unlock := Device.Kept.keeps_unlock
  wait := Device.Kept.keeps_wait
  read _ := Device.Kept.keeps_read _
  select _ r := Device.Kept.keeps_performWrite (fun n => by rw [put_select]) _ _
  selectRepeated _ r := Device.Kept.keeps_performWrite (fun n => by rw [put_select]) _ _
  data _ r d h1 h2 := Device.Kept.keeps_performWrite
    (fun n => by rw [put_data]; exact h r d n.core h1 h2) _ _
  dataRepeated _ r d h1 h2 := Device.Kept.keeps_performWrite
    (fun n => by rw [put_data]; exact h r d n.core h1 h2) _ _

end Chip

end UbloxCellular.Gauge
