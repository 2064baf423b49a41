import UbloxCellular.Gsm.Frames

namespace UbloxCellular.Gsm
open Interaction Code

variable {G : Type}

class Dialling (F : Frame (Locked (Eff (sig AtInterface))) G) : Prop extends Ordinary F where
  sends : ∀ c : Cmd, F.Keeps (Code.send c)
  context : F.Keeps (Code.recv .cgdcont)
  address : ∀ s, F.Keeps (Code.act (.setIpAddress s))

section Dialling
variable {F : Frame (Locked (Eff (sig AtInterface))) G} [hF : Dialling F]

instance keeps_sends (c : Cmd) : F.Keeps (send c) := hF.sends c
instance keeps_context : F.Keeps (recv .cgdcont : AtCode (Option (Int × String))) := hF.context
instance keeps_address (s : String) : F.Keeps (act (.setIpAddress s) : AtCode Bool) :=
  hF.address s
instance keeps_driver : F.Keeps (get : AtCode (Driver AtInterface)) := keeps_get

instance (t : Int) : F.Keeps (activate t) := by
  simp only [activate]
  infer_instance

instance (t : Int) (activated : Bool) (protocol : Int) :
    F.Keeps (tryProtocol t activated protocol) := by
  simp only [tryProtocol]
  infer_instance

set_option synthInstance.maxSize 8192 in
instance (apn username password : String) (auth : Security) :
    F.Keeps (activateProfile apn username password auth) := by
  simp only [activateProfile]
  infer_instance

set_option synthInstance.maxSize 8192 in
instance : F.Keeps activateProfileReuseExternal := by
  simp only [activateProfileReuseExternal]
  infer_instance

instance (cid : Int) (apn username password : String) (auth : Security) :
    F.Keeps (activateProfileByCid cid apn username password auth) := by
  simp only [activateProfileByCid]
  infer_instance

end Dialling

section Connect
variable {F : Frame (Locked (Eff (sig AtInterface))) G}

set_option synthInstance.maxSize 8192 in
instance [Basal F] [F.Keeps (modify (Driver.onIface (fun i : AtInterface =>
      { i with simPinCheckChangePending := false })))]
    [F.Keeps (modify (Driver.onIface (fun i : AtInterface =>
      { i with simPinChangePending := false })))]
    [F.Keeps (get : AtCode (Driver AtInterface))] : F.Keeps pendingSimActions := by
  simp only [pendingSimActions]
  infer_instance

instance [F.Keeps (init none : AtCode Bool)] [F.Keeps (nwkRegistration : AtCode Bool)]
    [F.Keeps pendingSimActions] [F.Keeps connectModemStack] : F.Keeps connect := by
  simp only [connect]
  infer_instance

end Connect

def refusing (I X : Type) (config : Option (List String)) : Modem.Peer (sig I) X where
  send c _ := c ≠ .upsda 3
  recv
    | _, .ok, w => some (some (), w)
    | _, .unnatural, w =>
        some (none, { w with driver := w.driver.onInfo (fun i => { i with regStatusCsd := 1 }) })
    | _, .ati, w => some (some "", w)
    | _, .cpin, w => some (some "READY", w)
    | _, .ccid, w => some (some "", w)
    | _, .cimi, w => some (some "", w)
    | _, .cgsn, w => some (some "", w)
    | _, .gsn, w => some (some "", w)
    | _, .upsndStatus, w => some (some 0, w)
    | _, .connect, w => some (some (), w)
    | _, _, w => some (none, w)
  ask
    | _, .apnconfig _, _ => some config
    | _, .pppConnect _ _ _, _ => some NsapiError.noConnection
    | _, .hw _, _ => some ()
    | _, .enter _, _ => some ()
    | _, _, _ => none

theorem refusing_fair {I X : Type} {M : Modem (sig I) X} {config : Option (List String)}
    (hallow : ∀ ⦃β : Type⦄ (e : Eff (sig I) β) x d b, M.allow e x d b)
    (hevent : ∀ x d, M.event x d x (d.onInfo (fun i => { i with regStatusCsd := 1 }))) :
    (refusing I X config).Fair M where
  send _ _ := hallow _ _ _ _
  recv := by
    intro β p w b v h
    cases p <;> cases h
    case unnatural => exact ⟨.single (hevent _ _),hallow _ _ _ _⟩
    all_goals exact ⟨.refl,hallow _ _ _ _⟩
  ask _ _ _ _ _ := hallow _ _ _ _

end UbloxCellular.Gsm
