import UbloxCellular.Gauge.Driver
import UbloxCellular.Interaction.Halts

namespace UbloxCellular.Gauge.BatteryGaugeBq27441
open Interaction I2c

variable {W : Type} {H : Handler Bus W} (g : BatteryGaugeBq27441)

instance halting_lock : Halting H lock := Halting.halting_perform _
instance halting_unlock : Halting H unlock := Halting.halting_perform _
instance halting_wait (ms : Nat) : Halting H (wait ms) := Halting.halting_perform _
instance halting_write (data : List Byte) : Halting H (g.write data) := Halting.halting_perform _
instance halting_writeRepeated (data : List Byte) : Halting H (g.writeRepeated data) :=
  Halting.halting_perform _
instance halting_read (length : Nat) : Halting H (g.read length) := Halting.halting_perform _
instance halting_control (word : Word) : Halting H (g.control word) := Halting.halting_perform _

instance halting_getTwoBytes (r : Byte) : Halting H (g.getTwoBytes r) := by
  rw [getTwoBytes]
  infer_instance

instance halting_controlStatus : Halting H g.controlStatus := by
  rw [controlStatus]
  infer_instance

instance halting_isSealed : Halting H g.isSealed := by
  rw [isSealed]
  infer_instance

instance halting_seal : Halting H g.seal' := by
  rw [seal']
  infer_instance

instance halting_unseal (sealCode : Word) : Halting H (g.unseal' sealCode) := by
  rw [unseal']
  infer_instance

instance halting_accessible (wasSealed : Bool) : Halting H (g.accessible wasSealed) := by
  rw [accessible]
  infer_instance

set_option synthInstance.maxSize 8192 in
instance halting_loadBlock (subClassId : Byte) (offset : Int) :
    Halting H (g.loadBlock subClassId offset) := by
  rw [loadBlock]
  infer_instance

instance halting_readBlock (subClassId : Byte) (offset length : Int) :
    Halting H (g.readBlock subClassId offset length) := by
  rw [readBlock]
  infer_instance

instance halting_readExtendedData (subClassId : Byte) (offset length : Int) (pData : Bool) :
    Halting H (g.readExtendedData subClassId offset length pData) := by
  rw [readExtendedData]
  infer_instance

instance halting_pollFlags (unread : Word) (settled : Word → Bool) :
    Halting H (g.pollFlags unread settled) := by
  rw [pollFlags]
  infer_instance

instance halting_enterConfig : Halting H g.enterConfig := by
  rw [enterConfig]
  infer_instance

instance halting_storeBlock (offset : Int) (data : List Byte) (block : Vector Byte 32) :
    Halting H (g.storeBlock offset data block) := by
  rw [storeBlock]
  infer_instance

instance halting_leaveConfig (wasSealed : Bool) : Halting H (g.leaveConfig wasSealed) := by
  rw [leaveConfig]
  infer_instance

instance halting_writeBlock (wasSealed : Bool) (subClassId : Byte) (offset : Int)
    (data : List Byte) : Halting H (g.writeBlock wasSealed subClassId offset data) := by
  rw [writeBlock]
  infer_instance

instance halting_writeExtendedData (subClassId : Byte) (offset length : Int)
    (pData : Option (List Byte)) :
    Halting H (g.writeExtendedData subClassId offset length pData) := by
  rw [writeExtendedData]
  infer_instance

instance halting_makeAdcReading : Halting H g.makeAdcReading := by
  rw [makeAdcReading]
  infer_instance

instance halting_setHibernate : Halting H g.setHibernate := halting_control g _

instance halting_configure : Halting H g.configure := by
  rw [configure]
  infer_instance

instance halting_init (pI2c : Bool) (address : Byte) (sealCode : Word) :
    Halting H (g.init pI2c address sealCode) := by
  rw [init]
  infer_instance

instance halting_setSleep (isSlow : Bool) : Halting H (g.setSleep isSlow) := by
  rw [setSleep]
  infer_instance

instance halting_enableGauge (isSlow : Bool) : Halting H (g.enableGauge isSlow) := by
  rw [enableGauge]
  infer_instance

instance halting_hibernate : Halting H g.hibernate := by
  rw [hibernate]
  infer_instance

instance halting_sleep (success : Bool) : Halting H (g.sleep success) := by
  rw [sleep]
  infer_instance

instance halting_disableBatteryDetect : Halting H g.disableBatteryDetect := by
  rw [disableBatteryDetect]
  infer_instance

instance halting_recent : Halting H g.recent := by
  rw [recent]
  infer_instance

instance halting_isBatteryDetected : Halting H g.isBatteryDetected := by
  rw [isBatteryDetected]
  infer_instance

instance halting_getRemainingPercentage : Halting H g.getRemainingPercentage := by
  rw [getRemainingPercentage]
  infer_instance

end UbloxCellular.Gauge.BatteryGaugeBq27441
