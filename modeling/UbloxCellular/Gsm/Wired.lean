import UbloxCellular.Gsm.Discipline
import UbloxCellular.Gsm.Frames

set_option synthInstance.maxSize 8192

namespace UbloxCellular.Gsm
open Interaction Code

variable {G : Type}

@[reducible] def offline {S : Sig} {β : Type} : Eff S β → Bool
  | .hw .modemPowerDown => true
  | .hw .modemDeinit => true
  | _ => false

structure Identity where
  dev : DeviceType
  iccid : String
  imsi : String
  imei : String
  meid : String
  deriving DecidableEq, Repr

def DeviceInfo.identity (i : DeviceInfo) : Identity := ⟨i.dev,i.iccid,i.imsi,i.imei,i.meid⟩

structure Base.Same (b b' : Base) : Prop where
  initialised : b'.modemInitialised = b.modemInitialised
  identity : b'.devInfo.identity = b.devInfo.identity

class Wired (F : Frame (Locked (Eff (sig AtInterface))) G) : Prop where
  lock : F.Keeps lock
  unlock : F.Keeps unlock
  act : ∀ {β : Type} (e : Eff (sig AtInterface) β), e.modifies = false →
    offline e = false → F.Keeps (act e)
  iface : ∀ f, F.Keeps (modify (Driver.onIface f))
  base : ∀ f : Base → Base, (∀ b, Base.Same b (f b)) → F.Keeps (modify (Driver.onBase f))

namespace Wired

variable {F : Frame (Locked (Eff (sig AtInterface))) G} [hF : Wired F] {β : Type}

instance : F.Keeps (Code.lock : AtCode Unit) := hF.lock
instance : F.Keeps (Code.unlock : AtCode Unit) := hF.unlock
instance (e : Eff (sig AtInterface) β) [hm : Fact (e.modifies = false)]
    [ho : Fact (offline e = false)] : F.Keeps (Code.act e) := hF.act e hm.out ho.out
instance : F.Keeps (get : AtCode (Driver AtInterface)) := hF.act _ rfl rfl
instance (c : Cmd) : F.Keeps (send c : AtCode Bool) := hF.act _ rfl rfl
instance (p : Pat β) : F.Keeps (recv p : AtCode (Option β)) := hF.act _ rfl rfl
instance : F.Keeps (recv (S := sig AtInterface) (sig AtInterface).ok) := hF.act _ rfl rfl
instance (ms : Nat) : F.Keeps (wait ms : AtCode Unit) := hF.act _ rfl rfl
instance (c : Call) : F.Keeps (enter c : AtCode Unit) := hF.act _ rfl rfl
instance : F.Keeps (atTimeout : AtCode Int) := hF.act _ rfl rfl
instance : F.Keeps (hw .modemPowerUp : AtCode Unit) := hF.act _ rfl rfl
instance (baud : Int) : F.Keeps (hw (.setBaud baud) : AtCode Unit) := hF.act _ rfl rfl
instance (f : AtInterface → AtInterface) : F.Keeps (modify (Driver.onIface f)) := hF.iface f
instance (f : Credentials → Credentials) : F.Keeps (modify (Driver.onCred f)) :=
  hF.iface (fun i => { i with cred := f i.cred })
instance (f : Sockets → Sockets) : F.Keeps (modify (Driver.onSockets f)) :=
  hF.iface (fun i => { i with sockets := f i.sockets })

instance (pin : Option String) : F.Keeps (modify (Driver.onBase (fun b => { b with pin := pin })) :
    AtCode Unit) := hF.base _ (fun _ => ⟨rfl,rfl⟩)
instance (enabled : Bool) : F.Keeps (modify (Driver.onBase (fun b =>
    { b with simPinCheckEnabled := enabled })) : AtCode Unit) := hF.base _ (fun _ => ⟨rfl,rfl⟩)
instance : F.Keeps (modify (Driver.onInfo DeviceInfo.notRegistered) : AtCode Unit) :=
  hF.base (fun b => { b with devInfo := b.devInfo.notRegistered }) (fun _ => ⟨rfl,rfl⟩)
instance (rat : UInt8) : F.Keeps (modify (Driver.onInfo (fun i => { i with rat := rat })) :
    AtCode Unit) :=
  hF.base (fun b => { b with devInfo := { b.devInfo with rat := rat } }) (fun _ => ⟨rfl,rfl⟩)

instance (t : Int) : F.Keeps (atSetTimeout t : AtCode Unit) := by
  rw [atSetTimeout]
  infer_instance

instance (t back : Int) {p : AtCode β} [F.Keeps p] : F.Keeps (timed t back p) := by
  rw [timed]
  infer_instance

end Wired

section Base
variable {F : Frame (Locked (Eff (sig AtInterface))) G} [Wired F]

instance wired_powerUpTry (t : Int) : F.Keeps (powerUpTry t : AtCode _) := by
  simp only [powerUpTry]
  infer_instance

instance wired_setSms : F.Keeps (setSms : AtCode _) := by
  simp only [setSms]
  infer_instance

instance wired_deviceInit (dev : DeviceType) : F.Keeps (deviceInit dev : AtCode _) := by
  simp only [deviceInit]
  infer_instance

instance wired_cpinAnswer (s : String) : F.Keeps (cpinAnswer s : AtCode _) := by
  simp only [cpinAnswer]
  infer_instance

instance wired_simTry (s : Bool × Bool) : F.Keeps (simTry s : AtCode _) := by
  simp only [simTry]
  infer_instance

instance wired_initialiseSimCard : F.Keeps (initialiseSimCard : AtCode _) := by
  simp only [initialiseSimCard]
  infer_instance

instance wired_enableUrcs : F.Keeps (enableUrcs : AtCode _) := by
  simp only [enableUrcs]
  infer_instance

instance wired_nwkRegistration : F.Keeps (nwkRegistration : AtCode _) := by
  simp only [nwkRegistration]
  infer_instance

instance wired_nwkDeregistration : F.Keeps (nwkDeregistration : AtCode _) := by
  simp only [nwkDeregistration]
  infer_instance

instance wired_setPin (pin : Option String) : F.Keeps (setPin pin : AtCode _) := by
  simp only [setPin]
  infer_instance

instance wired_simLock (enable : Bool) (mode : Nat) : F.Keeps (simLock enable mode : AtCode _) := by
  simp only [simLock]
  infer_instance

instance wired_simPinCheckEnable (b : Bool) : F.Keeps (simPinCheckEnable b : AtCode _) := by
  simp only [simPinCheckEnable]
  infer_instance

instance wired_changeSimPin (pin : Option String) : F.Keeps (changeSimPin pin : AtCode _) := by
  simp only [changeSimPin]
  infer_instance

end Base

section Interface
variable {F : Frame (Locked (Eff (sig AtInterface))) G} [Wired F]

instance wired_getNextCredentials (config : Option (List String)) :
    F.Keeps (getNextCredentials config : AtCode _) := by
  simp only [getNextCredentials]
  infer_instance

instance wired_activate (t : Int) : F.Keeps (activate t : AtCode _) := by
  simp only [activate]
  infer_instance

instance wired_tryProtocol (t : Int) (b : Bool) (n : Int) :
    F.Keeps (tryProtocol t b n : AtCode _) := by
  simp only [tryProtocol]
  infer_instance

instance wired_activateProfile (a u p : String) (s : Security) :
    F.Keeps (activateProfile a u p s : AtCode _) := by
  simp only [activateProfile]
  infer_instance

instance wired_activateProfileReuseExternal :
    F.Keeps (activateProfileReuseExternal : AtCode _) := by
  simp only [activateProfileReuseExternal]
  infer_instance

instance wired_activateProfileByCid (n : Int) (a u p : String) (s : Security) :
    F.Keeps (activateProfileByCid n a u p s : AtCode _) := by
  simp only [activateProfileByCid]
  infer_instance

instance wired_connectOnce (config : Option (List String)) :
    F.Keeps (connectOnce config : AtCode _) := by
  simp only [connectOnce]
  infer_instance

instance wired_connectLoop (config : Option (List String)) :
    F.Keeps (connectLoop config : AtCode _) := by
  simp only [connectLoop]
  infer_instance

instance wired_connectModemStack : F.Keeps (connectModemStack : AtCode _) := by
  simp only [connectModemStack]
  infer_instance

instance wired_checkIpAddress : F.Keeps (checkIpAddress : AtCode _) := by
  simp only [checkIpAddress]
  infer_instance

instance wired_getIpAddress : F.Keeps (getIpAddress : AtCode _) := by
  simp only [getIpAddress]
  infer_instance

instance wired_disconnectModemStack : F.Keeps (disconnectModemStack : AtCode _) := by
  simp only [disconnectModemStack]
  infer_instance

instance wired_openReply (x : Handle) : F.Keeps (openReply x : AtCode _) := by
  simp only [openReply]
  infer_instance

instance wired_openWith (x : Handle) (n : Int) : F.Keeps (openWith x n : AtCode _) := by
  simp only [openWith]
  infer_instance

instance wired_socketOpen (p : Protocol) : F.Keeps (socketOpen p : AtCode _) := by
  cases p <;> simp only [socketOpen] <;> infer_instance

instance wired_closeExchange (x : Handle) : F.Keeps (closeExchange x : AtCode _) := by
  simp only [closeExchange]
  infer_instance

instance wired_socketClose (x : Handle) : F.Keeps (socketClose x : AtCode _) := by
  simp only [socketClose]
  infer_instance

instance wired_reopen (x : Handle) (s : SockCtrl) (n : Int) (k : Nat) :
    F.Keeps (reopen x s n k : AtCode _) := by
  simp only [reopen]
  infer_instance

instance wired_socketBind (x : Handle) (k : Nat) : F.Keeps (socketBind x k : AtCode _) := by
  simp only [socketBind]
  infer_instance

instance wired_socketConnect (x : Handle) (ip : String) (k : Nat) :
    F.Keeps (socketConnect x ip k : AtCode _) := by
  simp only [socketConnect]
  infer_instance

instance wired_sendBlock (c : Int → Cmd) (x : Handle) (l : List UInt8) :
    F.Keeps (sendBlock c x l : AtCode _) := by
  simp only [sendBlock]
  infer_instance

instance wired_sendLoop (c : Nat → Int → Cmd) (x : Handle) (l : List UInt8) :
    F.Keeps (sendLoop c x l : AtCode _) := by
  simp only [sendLoop]
  infer_instance

instance wired_socketSend (x : Handle) (l : List UInt8) : F.Keeps (socketSend x l : AtCode _) := by
  simp only [socketSend]
  infer_instance

instance wired_socketSendto (x : Handle) (ip : String) (k : Nat) (l : List UInt8) :
    F.Keeps (socketSendto x ip k l : AtCode _) := by
  simp only [socketSendto]
  infer_instance

instance wired_subPending (x : Handle) (n : Nat) : F.Keeps (subPending x n : AtCode _) := by
  simp only [subPending]
  infer_instance

instance wired_recvWait (s : RecvState) : F.Keeps (recvWait s : AtCode _) := by
  simp only [recvWait]
  infer_instance

instance wired_recvBlock (x : Handle) (s : RecvState) : F.Keeps (recvBlock x s : AtCode _) := by
  simp only [recvBlock]
  infer_instance

instance wired_recvfromBlock (x : Handle) (s : RecvState) :
    F.Keeps (recvfromBlock x s : AtCode _) := by
  simp only [recvfromBlock]
  infer_instance

instance wired_socketRecv (x : Handle) (n : UInt32) : F.Keeps (socketRecv x n : AtCode _) := by
  simp only [socketRecv,recvLoop,recvIteration]
  infer_instance

instance wired_socketRecvfrom (x : Handle) (n : UInt32) :
    F.Keeps (socketRecvfrom x n : AtCode _) := by
  simp only [socketRecvfrom,recvLoop,recvIteration]
  infer_instance

instance wired_socketAttach (x : Handle) (a b : Option Nat) :
    F.Keeps (socketAttach x a b : AtCode _) := by
  simp only [socketAttach]
  infer_instance

instance wired_unsupported : F.Keeps (unsupported : AtCode _) := by
  simp only [unsupported]
  infer_instance

instance wired_setAuthentication (s : Security) : F.Keeps (setAuthentication s : AtCode _) := by
  simp only [setAuthentication]
  infer_instance

instance wired_setCredentials (a u p : Option String) :
    F.Keeps (setCredentials a u p : AtCode _) := by
  simp only [setCredentials]
  infer_instance

instance wired_gethostbyname (h : String) : F.Keeps (gethostbyname h : AtCode _) := by
  simp only [gethostbyname]
  infer_instance

instance wired_pendingSimActions : F.Keeps (pendingSimActions : AtCode _) := by
  simp only [pendingSimActions]
  infer_instance

instance wired_givePin (p : Option String) : F.Keeps (givePin p : AtCode _) := by
  simp only [givePin]
  infer_instance

instance wired_disconnect : F.Keeps (disconnect : AtCode _) := by
  simp only [disconnect]
  infer_instance

instance wired_isConnected : F.Keeps (isConnected : AtCode _) := by
  simp only [isConnected]
  infer_instance

instance wired_getGateway : F.Keeps (getGateway : AtCode _) := by
  simp only [getGateway]
  infer_instance

end Interface

end UbloxCellular.Gsm
