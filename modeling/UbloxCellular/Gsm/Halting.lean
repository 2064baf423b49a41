import UbloxCellular.Driver.Halting
import UbloxCellular.Gsm.Base

set_option synthInstance.maxSize 8192

namespace UbloxCellular.Gsm
open Interaction Code

variable {I W : Type} {H : Handler (Locked (Eff (sig I))) W}

instance halting_getDriver : Halting H (get : BaseCode I (Driver I)) := Halting.halting_perform _

instance halting_sendCmd (c : Cmd) : Halting H (send c : BaseCode I Bool) :=
  Halting.halting_perform _

instance halting_readInfo (c : Cmd) (p : Pat String) (store : String → DeviceInfo → DeviceInfo) :
    Halting H (readInfo c p store) := by
  rw [readInfo]
  infer_instance

instance halting_getIccid : Halting H (Gsm.getIccid : BaseCode I Bool) := by
  rw [Gsm.getIccid]
  infer_instance

instance halting_getImsi : Halting H (Gsm.getImsi : BaseCode I Bool) := by
  rw [Gsm.getImsi]
  infer_instance

instance halting_getImei : Halting H (Gsm.getImei : BaseCode I Bool) := by
  rw [Gsm.getImei]
  infer_instance

instance halting_getMeid : Halting H (Gsm.getMeid : BaseCode I Bool) := by
  rw [Gsm.getMeid]
  infer_instance

instance halting_setSms : Halting H (Gsm.setSms : BaseCode I Bool) := by
  rw [Gsm.setSms]
  infer_instance

instance halting_powerUpTry (t : Int) : Halting H (Gsm.powerUpTry t : BaseCode I Bool) := by
  rw [Gsm.powerUpTry]
  infer_instance

instance halting_powerUp : Halting H (Gsm.powerUp : BaseCode I Bool) := by
  rw [Gsm.powerUp]
  infer_instance

instance halting_powerDown : Halting H (Gsm.powerDown : BaseCode I Unit) := by
  rw [Gsm.powerDown]
  infer_instance

instance halting_setDeviceIdentity : Halting H (Gsm.setDeviceIdentity : BaseCode I Bool) := by
  rw [Gsm.setDeviceIdentity]
  infer_instance

instance halting_deviceInit (dev : DeviceType) : Halting H (Gsm.deviceInit dev : BaseCode I Bool) := by
  rw [Gsm.deviceInit]
  infer_instance

instance halting_cpinAnswer (s : String) : Halting H (Gsm.cpinAnswer s : BaseCode I Bool) := by
  rw [Gsm.cpinAnswer]
  infer_instance

instance halting_simTry (s : Bool × Bool) : Halting H (Gsm.simTry s : BaseCode I (Bool × Bool)) := by
  rw [Gsm.simTry]
  infer_instance

instance halting_initialiseSimCard : Halting H (Gsm.initialiseSimCard : BaseCode I Bool) := by
  rw [Gsm.initialiseSimCard]
  infer_instance

instance halting_initAfterSim : Halting H (Gsm.initAfterSim : BaseCode I Bool) := by
  rw [Gsm.initAfterSim]
  infer_instance

instance halting_init (pin : Option String) : Halting H (Gsm.init pin : BaseCode I Bool) := by
  rw [Gsm.init]
  infer_instance

instance halting_enableUrcs : Halting H (Gsm.enableUrcs : BaseCode I Unit) := by
  rw [Gsm.enableUrcs]
  infer_instance

instance halting_nwkRegistration : Halting H (Gsm.nwkRegistration : BaseCode I Bool) := by
  rw [Gsm.nwkRegistration]
  infer_instance

instance halting_nwkDeregistration : Halting H (Gsm.nwkDeregistration : BaseCode I Bool) := by
  rw [Gsm.nwkDeregistration]
  infer_instance

instance halting_deinit : Halting H (Gsm.deinit : BaseCode I Unit) := by
  rw [Gsm.deinit]
  infer_instance

instance halting_simLock (b : Bool) (n : Nat) : Halting H (Gsm.simLock b n : BaseCode I Bool) := by
  rw [Gsm.simLock]
  infer_instance

instance halting_simPinCheckEnable (b : Bool) : Halting H (Gsm.simPinCheckEnable b : BaseCode I Bool) := by
  rw [Gsm.simPinCheckEnable]
  infer_instance

instance halting_changeSimPin (pin : Option String) : Halting H (Gsm.changeSimPin pin : BaseCode I Bool) := by
  rw [Gsm.changeSimPin]
  infer_instance

end UbloxCellular.Gsm
