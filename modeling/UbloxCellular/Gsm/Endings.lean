import UbloxCellular.Gsm.Halting
import UbloxCellular.Gsm.Discipline

set_option synthInstance.maxSize 8192

namespace UbloxCellular.Gsm
open Interaction Code

section Interface
variable {W : Type} {H : Handler (Locked (Eff (sig AtInterface))) W}

instance halting_atDriver : Halting H (get : AtCode (Driver AtInterface)) := halting_getDriver

instance (config : Option (List String)) : Halting H (getNextCredentials config) := by
  rw [getNextCredentials]
  infer_instance

instance (t : Int) : Halting H (activate t) := by
  rw [activate]
  infer_instance

instance (t : Int) (activated : Bool) (protocol : Int) :
    Halting H (tryProtocol t activated protocol) := by
  rw [tryProtocol]
  infer_instance

instance (apn username password : String) (auth : Security) :
    Halting H (activateProfile apn username password auth) := by
  rw [activateProfile]
  infer_instance

instance : Halting H activateProfileReuseExternal := by
  rw [activateProfileReuseExternal]
  infer_instance

instance (cid : Int) (apn username password : String) (auth : Security) :
    Halting H (activateProfileByCid cid apn username password auth) := by
  rw [activateProfileByCid]
  infer_instance

instance (config : Option (List String)) : Halting H (connectOnce config) := by
  rw [connectOnce]
  infer_instance

theorem connectOnce_rest (config : Option (List String)) (w : W) :
    wp H.spec (connectOnce config) (fun r _ => r.2 = restCredentials config) w := by
  simp only [connectOnce,getNextCredentials,wp_bind,wp_pure]
  refine wp_always (fun _ _ => ?_) w
  refine wp_always (fun _ _ => ?_) _
  refine wp_always (fun d _ => ?_) _
  refine wp_always (fun _ _ => ?_) _
  split
  · rw [wp_bind]
    exact wp_always (fun _ _ => rfl) _
  · rw [wp_bind]
    refine wp_always (fun reused _ => ?_) _
    cases reused with
    | true => rfl
    | false =>
      simp only [Bool.false_eq_true,if_false,wp_bind]
      exact wp_always (fun _ _ => rfl) _

-- Every further round has a shorter list of credentials.
instance (config : Option (List String)) : Halting H (connectLoop config) := by
  refine ⟨fun w => ?_⟩
  refine Halts.iterate (InvImage.wf (fun x => triplesLeft x.1) Nat.lt_wfRel.wf) (fun _ _ => True)
    trivial (fun config w _ => Halting.run w) (fun config w _ => ?_)
  refine wp_seq H.spec_mono (connectOnce_rest config w) (fun r v hr next hnext => ⟨trivial,?_⟩)
  change (if (!r.1 && hasMore r.2) = true then Sum.inl r.2 else Sum.inr r.1) = _ at hnext
  split at hnext
  · rename_i hmore
    cases hnext
    have hrest := (Bool.and_eq_true_iff.mp hmore).2
    rw [hr] at hrest
    change triplesLeft r.2 < triplesLeft config
    rw [hr]
    exact rest_shorter hrest
  · cases hnext

instance : Halting H connectModemStack := by
  rw [connectModemStack]
  infer_instance

instance : Halting H checkIpAddress := by
  rw [checkIpAddress]
  infer_instance

instance : Halting H getIpAddress := by
  rw [getIpAddress]
  infer_instance

instance : Halting H disconnectModemStack := by
  rw [disconnectModemStack]
  infer_instance

instance (x : Handle) : Halting H (openReply x) := by
  rw [openReply]
  infer_instance

instance (x : Handle) (proto : Int) : Halting H (openWith x proto) := by
  rw [openWith]
  infer_instance

instance (proto : Protocol) : Halting H (socketOpen proto) := by
  cases proto <;> rw [socketOpen] <;> infer_instance

instance (x : Handle) : Halting H (closeExchange x) := by
  rw [closeExchange]
  infer_instance

instance (x : Handle) : Halting H (socketClose x) := by
  rw [socketClose]
  infer_instance

instance (x : Handle) (saved : SockCtrl) (proto : Int) (port : Nat) :
    Halting H (reopen x saved proto port) := by
  rw [reopen]
  infer_instance

instance (x : Handle) (port : Nat) : Halting H (socketBind x port) := by
  rw [socketBind]
  infer_instance

instance (x : Handle) (ip : String) (port : Nat) : Halting H (socketConnect x ip port) := by
  rw [socketConnect]
  infer_instance

instance (command : Int → Cmd) (x : Handle) (block : List UInt8) :
    Halting H (sendBlock command x block) := by
  rw [sendBlock]
  infer_instance

def SendState.togo (s : SendState) : Nat := if s.success then s.count + 1 else 0

theorem subU_less {a b : Nat} (hb : 0 < b) (hle : b ≤ a) : subU a b < a := by
  rw [subU]
  omega

instance (command : Nat → Int → Cmd) (x : Handle) (data : List UInt8) :
    Halting H (sendLoop command x data) := by
  refine ⟨fun w => ?_⟩
  refine Halts.iterate (InvImage.wf (fun p => SendState.togo p.1) Nat.lt_wfRel.wf)
    (fun s _ => 0 < s.blk) (Nat.succ_pos _) (fun s w _ => Halting.run w) (fun s w hs => ?_)
  rw [wp_ite]
  split
  · rename_i hgo
    obtain ⟨hcount,hsuccess⟩ := hgo
    rw [wp_bind]
    refine wp_always (fun ok v next hnext => ?_) w
    cases hnext
    have hblk : 0 < (if s.count < s.blk then s.count else s.blk) := by
      split <;> assumption
    have hle : (if s.count < s.blk then s.count else s.blk) ≤ s.count := by
      split <;> omega
    refine ⟨hblk,?_⟩
    have hless := subU_less hblk hle
    change SendState.togo _ < s.togo
    rw [SendState.togo,SendState.togo,if_pos hsuccess]
    cases ok with
    | true => exact Nat.succ_lt_succ hless
    | false => exact Nat.succ_pos _
  · intro next hnext
    cases hnext

instance (x : Handle) (data : List UInt8) : Halting H (socketSend x data) := by
  rw [socketSend]
  infer_instance

instance (x : Handle) (ip : String) (port : Nat) (data : List UInt8) :
    Halting H (socketSendto x ip port data) := by
  rw [socketSendto]
  infer_instance

instance (x : Handle) (callback data : Option Nat) : Halting H (socketAttach x callback data) := by
  rw [socketAttach]
  infer_instance

instance : Halting H unsupported := by
  rw [unsupported]
  infer_instance

instance (auth : Security) : Halting H (setAuthentication auth) := by
  rw [setAuthentication]
  infer_instance

instance (apn uname pwd : Option String) : Halting H (setCredentials apn uname pwd) := by
  rw [setCredentials]
  infer_instance

instance (host : String) : Halting H (gethostbyname host) := by
  rw [gethostbyname]
  infer_instance

instance : Halting H pendingSimActions := by
  rw [pendingSimActions]
  infer_instance

instance : Halting H connect := by
  rw [connect]
  infer_instance

instance (pin : Option String) : Halting H (givePin pin) := by
  rw [givePin]
  infer_instance

instance (simPin apn uname pwd : Option String) : Halting H (connectWith simPin apn uname pwd) := by
  rw [connectWith]
  infer_instance

instance : Halting H disconnect := by
  rw [disconnect]
  infer_instance

instance (action : AtCode Bool) [Halting H action] : Halting H (immediately action) := by
  rw [immediately]
  infer_instance

instance (set immediate : Bool) (simPin : Option String) :
    Halting H (setSimPinCheck set immediate simPin) := by
  rw [setSimPinCheck]
  infer_instance

instance (newPin : Option String) (immediate : Bool) (oldPin : Option String) :
    Halting H (setNewSimPin newPin immediate oldPin) := by
  rw [setNewSimPin]
  infer_instance

instance : Halting H isConnected := by
  rw [isConnected]
  infer_instance

instance : Halting H getGateway := by
  rw [getGateway]
  infer_instance

instance (pin : Option String) : Halting H (setPin pin : AtCode Unit) := by
  rw [setPin]
  infer_instance

instance (p : AtCode α) [Halting H p] : Halting H (void p) := by
  rw [void]
  infer_instance

end Interface

-- The event thread runs for ever, and a receive waits for the clock.
def Operation.bounded : Operation → Bool
  | .handleEvent => false
  | .socketRecv _ _ => false
  | .socketRecvfrom _ _ => false
  | _ => true

theorem operation_ends {W : Type} (H : Handler (Locked (Eff (sig AtInterface))) W) (o : Operation)
    (ho : o.bounded = true) (w : W) : Halts H o.code w := by
  cases o with
  | handleEvent => cases ho
  | socketRecv => cases ho
  | socketRecvfrom => cases ho
  | _ =>
    simp only [Operation.code]
    exact Halting.run w

theorem operation_ends_connect :
    Halts (W := Unit) (fun _ _ _ _ _ => True) Operation.connect.code () :=
  operation_ends _ .connect rfl ()

end UbloxCellular.Gsm
