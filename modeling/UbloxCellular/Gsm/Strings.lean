import UbloxCellular.Gsm.Discipline
import UbloxCellular.Gsm.Frames
import UbloxCellular.Gsm.Wire

set_option synthInstance.maxSize 8192

namespace UbloxCellular.Gsm
open Interaction Code

-- Given is what the caller and the APN database supply; the driver adds "" for a string that
-- is missing, and printf prints a NULL pointer.
def Text (Given : String → Prop) (s : String) : Prop := Given s ∨ s = "" ∨ s = "(null)"

def GivenAll (Given : String → Prop) (config : Option (List String)) : Prop :=
  ∀ l ∈ config, ∀ s ∈ l, Given s

structure Known (Given : String → Prop) (d : Driver AtInterface) : Prop where
  pin : ∀ s ∈ d.base.pin, Given s
  newPin : ∀ s ∈ d.iface.simPinChangePendingNewPinValue, Given s
  apn : ∀ s ∈ d.iface.cred.apn, Text Given s
  uname : ∀ s ∈ d.iface.cred.uname, Text Given s
  pwd : ∀ s ∈ d.iface.cred.pwd, Text Given s

def stringModem (Given : String → Prop) : Modem (sig AtInterface) (List Cmd) where
  event x d x' d' := x' = x ∧ ∃ u : Urc, d' = u.handle d
  allow
    | _, .apnconfig _, _, _, b => GivenAll Given b
    | _, _, _, _, _ => True
  next
    | _, .send c, x, _, _ => x ++ [c]
    | _, _, x, _, _ => x

abbrev StringStation := Station (sig AtInterface) (List Cmd)

namespace StringStation

variable {Given : String → Prop}

structure Sound (Given : String → Prop) (w : StringStation) : Prop where
  known : Known Given w.driver
  sent : ∀ c ∈ w.modem, ∀ s ∈ c.strings, Text Given s

theorem handle_known (u : Urc) {d : Driver AtInterface} (h : Known Given d) :
    Known Given (u.handle d) := by
  cases u <;> exact ⟨h.pin,h.newPin,h.apn,h.uname,h.pwd⟩

theorem event_sound {u v : StringStation}
    (h : (stringModem Given).event u.modem u.driver v.modem v.driver) (hu : Sound Given u) :
    Sound Given v := by
  obtain ⟨hx,r,hd⟩ := h
  refine ⟨?_,?_⟩
  · rw [hd]
    exact handle_known r hu.known
  · rw [hx]
    exact hu.sent

def sound (Given : String → Prop) : (stringModem Given).Kept where
  pre := Sound Given
  rel u v := Sound Given u → Sound Given v
  refl _ := id
  trans _ _ _ h k := k ∘ h
  keep _ _ h := h
  event _ _ _ h := event_sound h

theorem keeps_send {c : Cmd} (hc : ∀ s ∈ c.strings, Text Given s) :
    (sound Given).frame.Keeps (send c : AtCode Bool) := by
  refine Modem.Kept.keeps_act rfl (fun w b _ _ hw => ⟨hw.known,?_⟩)
  intro c' hc'
  rcases List.mem_append.mp hc' with h | h
  · exact hw.sent c' h
  · rw [List.mem_singleton.mp h]
    exact hc

theorem keeps_driver {f : Driver AtInterface → Driver AtInterface}
    (hf : ∀ d, Known Given d → Known Given (f d)) : (sound Given).frame.Keeps (modify f) :=
  Modem.Kept.keeps_modify (fun w _ hw => ⟨hf w.driver hw.known,hw.sent⟩)

theorem plain_strings {c : Cmd} (h : c.plain = true) : c.strings = [] := by
  cases c <;> first | rfl | cases h

instance : Ordinary (sound Given).frame := by
  apply ordinary_kept
  · intro β e w b he _ _
    cases e with
    | send c => cases he
    | _ => exact id
  · intro c w b hc _ _ hw
    refine ⟨hw.known,fun c' hc' => ?_⟩
    rcases List.mem_append.mp hc' with h | h
    · exact hw.sent c' h
    · rw [List.mem_singleton.mp h,plain_strings hc]
      intro s hs
      cases hs
  · intro h w b _ _ _
    exact id
  · intro f w _ hw
    exact ⟨⟨hw.known.pin,hw.known.newPin,hw.known.apn,hw.known.uname,hw.known.pwd⟩,hw.sent⟩

instance keeps_get_bind {α : Type} {f : Driver AtInterface → AtCode α}
    [hf : ∀ d : { d // Known Given d }, (sound Given).frame.Keeps (f d.1)] :
    (sound Given).frame.Keeps ((get : AtCode (Driver AtInterface)) >>= f) := by
  constructor
  intro w hw
  rw [wp_bind]
  refine (Modem.wp_get _).mpr ?_
  exact (hf ⟨w.driver,hw.known⟩).run w hw

instance keeps_pure_bind {α β : Type} {a : α} {f : α → AtCode β}
    [hf : (sound Given).frame.Keeps (f a)] :
    (sound Given).frame.Keeps ((pure a : AtCode α) >>= f) := hf

theorem printed_text {pin : Option String} (h : ∀ s ∈ pin, Given s) :
    Text Given (printed pin) := by
  cases pin with
  | none => exact .inr (.inr rfl)
  | some s => exact .inl (h s rfl)

section Base

instance keeps_pin (d : { d // Known Given d }) :
    (sound Given).frame.Keeps (send (.cpin d.1.base.pin) : AtCode Bool) :=
  keeps_send (by simpa [Cmd.strings] using printed_text d.2.pin)

instance keeps_clck (mode : Nat) (d : { d // Known Given d }) :
    (sound Given).frame.Keeps (send (.clck mode d.1.base.pin) : AtCode Bool) :=
  keeps_send (by simpa [Cmd.strings] using printed_text d.2.pin)

instance keeps_cpwd (d : { d // Known Given d }) (pin : Option String)
    [hp : Fact (∀ s ∈ pin, Given s)] :
    (sound Given).frame.Keeps (send (.cpwd d.1.base.pin pin) : AtCode Bool) :=
  keeps_send (by simpa [Cmd.strings] using ⟨printed_text d.2.pin,printed_text hp.out⟩)

instance keeps_setPin (pin : Option String) [hp : Fact (∀ s ∈ pin, Given s)] :
    (sound Given).frame.Keeps (modify (Driver.onBase (fun b => { b with pin := pin }))) :=
  keeps_driver (fun _ h => ⟨hp.out,h.newPin,h.apn,h.uname,h.pwd⟩)

instance keeps_simPinCheckEnabled (b : Bool) :
    (sound Given).frame.Keeps (modify (Driver.onBase
      (fun base => { base with simPinCheckEnabled := b }))) :=
  keeps_driver (fun _ h => ⟨h.pin,h.newPin,h.apn,h.uname,h.pwd⟩)

instance keeps_modemInitialised (b : Bool) :
    (sound Given).frame.Keeps (modify (Driver.onBase
      (fun base => { base with modemInitialised := b }))) :=
  keeps_driver (fun _ h => ⟨h.pin,h.newPin,h.apn,h.uname,h.pwd⟩)

instance keeps_enter (c : Call) : (sound Given).frame.Keeps (enter c : AtCode Unit) :=
  Modem.Kept.keeps_act rfl (fun _ _ _ _ => id)

instance keeps_recvAny {β : Type} (p : Pat β) :
    (sound Given).frame.Keeps (recv p : AtCode (Option β)) :=
  Modem.Kept.keeps_act rfl (fun _ _ _ _ => id)

instance keeps_hw (h : Hw) : (sound Given).frame.Keeps (hw h : AtCode Unit) :=
  Modem.Kept.keeps_act rfl (fun _ _ _ _ => id)

instance (s : String) : (sound Given).frame.Keeps (cpinAnswer s) := by
  rw [cpinAnswer]
  infer_instance

instance (s : Bool × Bool) : (sound Given).frame.Keeps (simTry s) := by
  rw [simTry]
  infer_instance

instance : (sound Given).frame.Keeps initialiseSimCard := by
  rw [initialiseSimCard]
  infer_instance

instance (pin : Option String) [Fact (∀ s ∈ pin, Given s)] : (sound Given).frame.Keeps (init pin) := by
  rw [Gsm.init]
  infer_instance

instance : (sound Given).frame.Keeps nwkRegistration := by
  rw [nwkRegistration]
  infer_instance

instance : (sound Given).frame.Keeps nwkDeregistration := by
  rw [nwkDeregistration]
  infer_instance

instance : (sound Given).frame.Keeps deinit := by
  rw [deinit]
  infer_instance

instance (pin : Option String) [Fact (∀ s ∈ pin, Given s)] : (sound Given).frame.Keeps (setPin pin) := by
  rw [setPin]
  infer_instance

instance (b : Bool) (n : Nat) : (sound Given).frame.Keeps (simLock b n) := by
  rw [simLock]
  infer_instance

instance (b : Bool) : (sound Given).frame.Keeps (simPinCheckEnable b) := by
  rw [simPinCheckEnable]
  infer_instance

instance (pin : Option String) [Fact (∀ s ∈ pin, Given s)] : (sound Given).frame.Keeps (changeSimPin pin) := by
  rw [changeSimPin]
  infer_instance

end Base

@[reducible] def Cmd.stringless : Cmd → Bool
  | .cpin _ => false
  | .clck _ _ => false
  | .cpwd _ _ => false
  | .upsdApn _ => false
  | .upsdUsername _ => false
  | .upsdPassword _ => false
  | .cgdcont _ _ => false
  | .uauthreq _ _ _ _ => false
  | .usoco _ _ _ => false
  | .usost _ _ _ _ => false
  | .udnsrn _ => false
  | _ => true

theorem stringless_strings {c : Cmd} (h : Cmd.stringless c = true) : c.strings = [] := by
  cases c <;> first | rfl | cases h

@[reducible] def asks : Eff (sig AtInterface) β → Bool
  | .read _ _ => true
  | .write _ => true
  | .timerStart => true
  | .timerReadMs => true
  | .malloc _ _ => true
  | .setIpAddress _ => true
  | .addressNonzero _ => true
  | .connectionStatusCb => true
  | .poll => true
  | _ => false

section Interface

instance keeps_stringless (c : Cmd) [h : Fact (Cmd.stringless c = true)] :
    (sound Given).frame.Keeps (send c : AtCode Bool) := by
  apply keeps_send
  rw [stringless_strings h.out]
  intro s hs
  cases hs

instance keeps_asks {β : Type} (e : Eff (sig AtInterface) β) [h : Fact (asks e = true)] :
    (sound Given).frame.Keeps (act e : AtCode β) :=
  Modem.Kept.keeps_act (by cases e <;> first | rfl | cases h.out) (fun w b _ _ => by
    cases e <;> first | exact id | cases h.out)

instance keeps_upsdApn (s : String) [h : Fact (Text Given s)] :
    (sound Given).frame.Keeps (send (.upsdApn s) : AtCode Bool) :=
  keeps_send (by simpa [Cmd.strings] using h.out)

instance keeps_upsdUsername (s : String) [h : Fact (Text Given s)] :
    (sound Given).frame.Keeps (send (.upsdUsername s) : AtCode Bool) :=
  keeps_send (by simpa [Cmd.strings] using h.out)

instance keeps_upsdPassword (s : String) [h : Fact (Text Given s)] :
    (sound Given).frame.Keeps (send (.upsdPassword s) : AtCode Bool) :=
  keeps_send (by simpa [Cmd.strings] using h.out)

instance keeps_cgdcont (cid : Int) (s : String) [h : Fact (Text Given s)] :
    (sound Given).frame.Keeps (send (.cgdcont cid s) : AtCode Bool) :=
  keeps_send (by simpa [Cmd.strings] using h.out)

instance keeps_uauthreq (cid auth : Int) (u p : String) [hu : Fact (Text Given u)]
    [hp : Fact (Text Given p)] :
    (sound Given).frame.Keeps (send (.uauthreq cid auth u p) : AtCode Bool) :=
  keeps_send (by simpa [Cmd.strings] using ⟨hu.out,hp.out⟩)

instance keeps_usoco (id : Int) (ip : String) (port : Nat) [h : Fact (Text Given ip)] :
    (sound Given).frame.Keeps (send (.usoco id ip port) : AtCode Bool) :=
  keeps_send (by simpa [Cmd.strings] using h.out)

instance keeps_usost (id : Int) (ip : String) (port len : Nat) [h : Fact (Text Given ip)] :
    (sound Given).frame.Keeps (send (.usost id ip port len) : AtCode Bool) :=
  keeps_send (by simpa [Cmd.strings] using h.out)

instance keeps_udnsrn (host : String) [h : Fact (Text Given host)] :
    (sound Given).frame.Keeps (send (.udnsrn host) : AtCode Bool) :=
  keeps_send (by simpa [Cmd.strings] using h.out)

theorem text_getD {o : Option String} (h : ∀ s ∈ o, Text Given s) : Text Given (o.getD "") := by
  cases o with
  | none => exact .inr (.inl rfl)
  | some s => exact h s rfl

instance text_apn (d : { d // Known Given d }) : Fact (Text Given (d.1.iface.cred.apn.getD "")) :=
  ⟨text_getD d.2.apn⟩

instance text_uname (d : { d // Known Given d }) :
    Fact (Text Given (d.1.iface.cred.uname.getD "")) := ⟨text_getD d.2.uname⟩

instance text_pwd (d : { d // Known Given d }) :
    Fact (Text Given (d.1.iface.cred.pwd.getD "")) := ⟨text_getD d.2.pwd⟩

instance given_newPin (d : { d // Known Given d }) :
    Fact (∀ s ∈ d.1.iface.simPinChangePendingNewPinValue, Given s) := ⟨d.2.newPin⟩

instance keeps_sockets (f : Sockets → Sockets) :
    (sound Given).frame.Keeps (modify (Driver.onSockets f)) :=
  keeps_driver (fun _ h => ⟨h.pin,h.newPin,h.apn,h.uname,h.pwd⟩)

instance keeps_ip (ip : Option String) :
    (sound Given).frame.Keeps (modify (Driver.onIface (fun i : AtInterface => { i with ip := ip }))) :=
  keeps_driver (fun _ h => ⟨h.pin,h.newPin,h.apn,h.uname,h.pwd⟩)

instance keeps_auth (f : AtInterface → Security) :
    (sound Given).frame.Keeps (modify (Driver.onIface (fun i => { i with auth := f i }))) :=
  keeps_driver (fun _ h => ⟨h.pin,h.newPin,h.apn,h.uname,h.pwd⟩)

instance (t : Int) : (sound Given).frame.Keeps (activate t) := by
  rw [activate]
  infer_instance

instance (t : Int) (b : Bool) (n : Int) : (sound Given).frame.Keeps (tryProtocol t b n) := by
  rw [tryProtocol]
  infer_instance

instance (a u p : String) (s : Security) [Fact (Text Given a)] [Fact (Text Given u)]
    [Fact (Text Given p)] : (sound Given).frame.Keeps (activateProfile a u p s) := by
  rw [activateProfile]
  infer_instance

instance : (sound Given).frame.Keeps activateProfileReuseExternal := by
  rw [activateProfileReuseExternal]
  infer_instance

instance (n : Int) (a u p : String) (s : Security) [Fact (Text Given a)] [Fact (Text Given u)]
    [Fact (Text Given p)] : (sound Given).frame.Keeps (activateProfileByCid n a u p s) := by
  rw [activateProfileByCid]
  infer_instance

instance : (sound Given).frame.Keeps checkIpAddress := by
  rw [checkIpAddress]
  infer_instance

instance : (sound Given).frame.Keeps getIpAddress := by
  rw [getIpAddress]
  infer_instance

instance : (sound Given).frame.Keeps disconnectModemStack := by
  rw [disconnectModemStack]
  infer_instance

instance (x : Handle) : (sound Given).frame.Keeps (openReply x) := by
  rw [openReply]
  infer_instance

instance (x : Handle) (n : Int) : (sound Given).frame.Keeps (openWith x n) := by
  rw [openWith]
  infer_instance

instance (x : Handle) : (sound Given).frame.Keeps (closeExchange x) := by
  rw [closeExchange]
  infer_instance

instance (x : Handle) : (sound Given).frame.Keeps (socketClose x) := by
  rw [socketClose]
  infer_instance

instance (x : Handle) (s : SockCtrl) (n : Int) (k : Nat) : (sound Given).frame.Keeps (reopen x s n k) := by
  rw [reopen]
  infer_instance

instance (x : Handle) (k : Nat) : (sound Given).frame.Keeps (socketBind x k) := by
  rw [socketBind]
  infer_instance

instance (x : Handle) (ip : String) (k : Nat) [Fact (Text Given ip)] : (sound Given).frame.Keeps (socketConnect x ip k) := by
  rw [socketConnect]
  infer_instance

instance (c : Int → Cmd) (x : Handle) (l : List UInt8)
    [∀ n, (sound Given).frame.Keeps (send (c n) : AtCode Bool)] : (sound Given).frame.Keeps (sendBlock c x l) := by
  rw [sendBlock]
  infer_instance

instance (c : Nat → Int → Cmd) (x : Handle) (l : List UInt8)
    [∀ k n, (sound Given).frame.Keeps (send (c k n) : AtCode Bool)] : (sound Given).frame.Keeps (sendLoop c x l) := by
  rw [sendLoop]
  infer_instance

instance (x : Handle) (l : List UInt8) : (sound Given).frame.Keeps (socketSend x l) := by
  rw [socketSend]
  infer_instance

instance (x : Handle) (ip : String) (k : Nat) (l : List UInt8) [Fact (Text Given ip)] : (sound Given).frame.Keeps (socketSendto x ip k l) := by
  rw [socketSendto]
  infer_instance

instance (x : Handle) (n : Nat) : (sound Given).frame.Keeps (subPending x n) := by
  rw [subPending]
  infer_instance

instance (s : RecvState) : (sound Given).frame.Keeps (recvWait s) := by
  rw [recvWait]
  infer_instance

instance (x : Handle) (s : RecvState) : (sound Given).frame.Keeps (recvBlock x s) := by
  rw [recvBlock]
  infer_instance

instance (x : Handle) (s : RecvState) : (sound Given).frame.Keeps (recvfromBlock x s) := by
  rw [recvfromBlock]
  infer_instance

end Interface

section Credentials

theorem apnGet_given {l : List String} (h : ∀ s ∈ l, Given s) :
    Text Given (apnGet l).1 ∧ ∀ s ∈ (apnGet l).2, Given s := by
  cases l with
  | nil => exact ⟨.inr (.inl rfl),fun s hs => by cases hs⟩
  | cons s l => exact ⟨.inl (h s List.mem_cons_self),fun t ht => h t (List.mem_cons_of_mem s ht)⟩

theorem restCredentials_given {config : Option (List String)} (h : GivenAll Given config) :
    GivenAll Given (restCredentials config) := by
  cases config with
  | none => rintro _ ⟨⟩
  | some l =>
    rintro _ ⟨rfl⟩
    exact (apnGet_given (apnGet_given (apnGet_given (h l rfl)).2).2).2

theorem read_known {config : Option (List String)} (h : GivenAll Given config)
    {d : Driver AtInterface} (hd : Known Given d) :
    Known Given (d.onCred (Credentials.next config)) := by
  have hblank {o : Option String} (ho : ∀ s ∈ o, Text Given s) :
      ∀ s ∈ some (o.getD ""), Text Given s := by
    rintro _ ⟨rfl⟩
    exact text_getD ho
  have hsome {t : String} (ht : Text Given t) : ∀ s ∈ some t, Text Given s := by
    rintro _ ⟨rfl⟩
    exact ht
  cases config with
  | none => exact ⟨hd.pin,hd.newPin,hblank hd.apn,hblank hd.uname,hblank hd.pwd⟩
  | some l =>
    have ha := apnGet_given (h l rfl)
    have hu := apnGet_given ha.2
    have hp := apnGet_given hu.2
    exact ⟨hd.pin,hd.newPin,hsome ha.1,hsome hu.1,hsome hp.1⟩

instance (config : { c // GivenAll Given c }) :
    (sound Given).frame.Keeps (getNextCredentials config.1) := by
  have hm : (sound Given).frame.Keeps (modify (Driver.onCred (.next config.1))) :=
    keeps_driver (fun _ h => read_known config.2 h)
  rw [getNextCredentials]
  infer_instance

instance keeps_connectOnce (config : { c // GivenAll Given c }) :
    (sound Given).frame.Keeps (connectOnce config.1) := by
  rw [connectOnce]
  infer_instance

theorem connectOnce_rest (config : Option (List String)) (w : StringStation) :
    wp (stringModem Given).spec (connectOnce config) (fun r _ => r.2 = restCredentials config) w := by
  rw [connectOnce,getNextCredentials,wp_bind,wp_bind,Modem.wp_modify,wp_pure,wp_bind]
  refine wp_always (fun _ u => ?_) _
  rw [wp_bind]
  refine wp_always (fun d v => ?_) u
  simp only [wp_bind,wp_ite,wp_pure]
  refine wp_always (fun _ v' => ?_) v
  split
  · exact wp_always (fun _ _ => trivial) _
  · refine wp_always (fun reused x => ?_) _
    split
    · trivial
    · exact wp_always (fun _ _ => trivial) _

instance keeps_connectLoop (config : { c // GivenAll Given c }) :
    (sound Given).frame.Keeps (connectLoop config.1) := by
  constructor
  intro w hw
  have hloop : wp (stringModem Given).spec (connectLoop config.1) (fun _ => Sound Given) w := by
    refine wp_iterate (fun config u => GivenAll Given config ∧ Sound Given u) ⟨config.2,hw⟩
      (fun config u hu => ?_)
    obtain ⟨hc,hu⟩ := hu
    have hkeep : (sound Given).frame.Keeps (connectOnce config) := keeps_connectOnce ⟨config,hc⟩
    refine wp_seq (stringModem Given).mono (Handler.wp_and (hkeep.run u hu)
      (connectOnce_rest config u)) (fun r v hv => ?_)
    obtain ⟨hv,hr⟩ := hv
    rw [wp_pure]
    split
    · refine ⟨?_,hv hu⟩
      rw [hr]
      exact restCredentials_given hc
    · exact hv hu
  exact wp_mono (stringModem Given).mono (fun _ v hv _ => hv) hloop

instance keeps_apnconfig {α : Type} (imsi : String) {f : Option (List String) → AtCode α}
    [hf : ∀ c : { c // GivenAll Given c }, (sound Given).frame.Keeps (f c.1)] :
    (sound Given).frame.Keeps ((act (.apnconfig imsi) : AtCode (Option (List String))) >>= f) := by
  constructor
  intro w hw
  rw [wp_bind]
  exact (Modem.wp_asks rfl _).mpr (fun config hc => (hf ⟨config,hc⟩).run w hw)

instance : (sound Given).frame.Keeps connectModemStack := by
  have hnone : (sound Given).frame.Keeps (connectLoop none) :=
    keeps_connectLoop ⟨none,by rintro _ ⟨⟩⟩
  simp only [connectModemStack]
  infer_instance

end Credentials

section Calls

instance (p : Protocol) : (sound Given).frame.Keeps (socketOpen p) := by
  cases p <;> unfold socketOpen <;> infer_instance

section Receive
variable {block : Handle → RecvState → AtCode RecvState}
  [hb : ∀ x s, (sound Given).frame.Keeps (block x s)]

instance (x : Handle) (s : RecvState) : (sound Given).frame.Keeps (recvIteration block x s) := by
  rw [recvIteration]
  infer_instance

instance (x : Handle) (n : UInt32) : (sound Given).frame.Keeps (recvLoop block x n) := by
  rw [recvLoop]
  infer_instance

end Receive

instance (x : Handle) (n : UInt32) : (sound Given).frame.Keeps (socketRecv x n) := by
  rw [socketRecv]
  infer_instance

instance (x : Handle) (n : UInt32) : (sound Given).frame.Keeps (socketRecvfrom x n) := by
  rw [socketRecvfrom]
  infer_instance

instance (x : Handle) (c d : Option Nat) : (sound Given).frame.Keeps (socketAttach x c d) := by
  rw [socketAttach]
  infer_instance

instance : (sound Given).frame.Keeps unsupported := by
  rw [unsupported]
  infer_instance

instance (s : Security) : (sound Given).frame.Keeps (setAuthentication s) := by
  rw [setAuthentication]
  infer_instance

instance (h : String) [Fact (Text Given h)] : (sound Given).frame.Keeps (gethostbyname h) := by
  rw [gethostbyname]
  infer_instance

instance : (sound Given).frame.Keeps pendingSimActions := by
  have hcheck : (sound Given).frame.Keeps (modify (Driver.onIface (fun i : AtInterface =>
      { i with simPinCheckChangePending := false }))) :=
    keeps_driver (fun _ h => ⟨h.pin,h.newPin,h.apn,h.uname,h.pwd⟩)
  have hpin : (sound Given).frame.Keeps (modify (Driver.onIface (fun i : AtInterface =>
      { i with simPinChangePending := false }))) :=
    keeps_driver (fun _ h => ⟨h.pin,h.newPin,h.apn,h.uname,h.pwd⟩)
  rw [pendingSimActions]
  infer_instance

instance given_none : Fact (∀ s ∈ (none : Option String), Given s) := ⟨by rintro _ ⟨⟩⟩

instance : (sound Given).frame.Keeps connect := by
  rw [connect]
  infer_instance

instance (pin : Option String) [Fact (∀ s ∈ pin, Given s)] : (sound Given).frame.Keeps (givePin pin) := by
  rw [givePin]
  infer_instance

instance (pin a u p : Option String) [Fact (∀ s ∈ pin, Given s)] [ha : Fact (∀ s ∈ a, Given s)]
    [hu : Fact (∀ s ∈ u, Given s)] [hp : Fact (∀ s ∈ p, Given s)] :
    (sound Given).frame.Keeps (connectWith pin a u p) := by
  have hgiven : (sound Given).frame.Keeps (modify (Driver.onCred (.given a u p))) := by
    refine keeps_driver (fun d h => ⟨h.pin,h.newPin,fun s hs => ?_,fun s hs => ?_,fun s hs => ?_⟩)
    · cases a with
      | none => exact h.apn s hs
      | some t =>
        cases hs
        exact .inl (ha.out s rfl)
    · change s ∈ (if u.isSome ∧ p.isSome then u else none) at hs
      split at hs
      · exact .inl (hu.out s hs)
      · cases hs
    · change s ∈ (if u.isSome ∧ p.isSome then p else none) at hs
      split at hs
      · exact .inl (hp.out s hs)
      · cases hs
  rw [connectWith]
  infer_instance

instance (a u p : Option String) [ha : Fact (∀ s ∈ a, Given s)] [hu : Fact (∀ s ∈ u, Given s)]
    [hp : Fact (∀ s ∈ p, Given s)] : (sound Given).frame.Keeps (setCredentials a u p) :=
  keeps_driver (fun _ h => ⟨h.pin,h.newPin,fun s hs => .inl (ha.out s hs),
    fun s hs => .inl (hu.out s hs),fun s hs => .inl (hp.out s hs)⟩)

instance : (sound Given).frame.Keeps disconnect := by
  rw [disconnect]
  infer_instance

instance {p : AtCode Bool} [(sound Given).frame.Keeps p] : (sound Given).frame.Keeps (immediately p) := by
  rw [immediately]
  infer_instance

instance (set immediate : Bool) (pin : Option String) [Fact (∀ s ∈ pin, Given s)] :
    (sound Given).frame.Keeps (setSimPinCheck set immediate pin) := by
  have hset : (sound Given).frame.Keeps (modify (Driver.onIface (fun i : AtInterface => { i with
      simPinCheckChangePending := true, simPinCheckChangePendingEnabledValue := set }))) :=
    keeps_driver (fun _ h => ⟨h.pin,h.newPin,h.apn,h.uname,h.pwd⟩)
  rw [setSimPinCheck]
  infer_instance

instance (newPin : Option String) (immediate : Bool) (oldPin : Option String)
    [hnew : Fact (∀ s ∈ newPin, Given s)] [Fact (∀ s ∈ oldPin, Given s)] :
    (sound Given).frame.Keeps (setNewSimPin newPin immediate oldPin) := by
  have hset : (sound Given).frame.Keeps (modify (Driver.onIface (fun i : AtInterface => { i with
      simPinChangePending := true, simPinChangePendingNewPinValue := newPin }))) :=
    keeps_driver (fun _ h => ⟨h.pin,hnew.out,h.apn,h.uname,h.pwd⟩)
  rw [setNewSimPin]
  infer_instance

instance : (sound Given).frame.Keeps isConnected := by
  rw [isConnected]
  infer_instance

instance : (sound Given).frame.Keeps getGateway := by
  rw [getGateway]
  infer_instance

instance : (sound Given).frame.Keeps (handleEvent : AtCode Unit) := by
  rw [handleEvent]
  infer_instance

end Calls

def texts : Operation → List String
  | .init pin => pin.toList
  | .setPin pin => pin.toList
  | .changeSimPin pin => pin.toList
  | .socketConnect _ ip _ => [ip]
  | .socketSendto _ ip _ _ => [ip]
  | .setCredentials apn uname pwd => apn.toList ++ uname.toList ++ pwd.toList
  | .gethostbyname host => [host]
  | .connectWith simPin apn uname pwd =>
      simPin.toList ++ (apn.toList ++ uname.toList ++ pwd.toList)
  | .setSimPinCheck _ _ simPin => simPin.toList
  | .setNewSimPin newPin _ oldPin => newPin.toList ++ oldPin.toList
  | _ => []

theorem given_option {o : Option String} (h : ∀ s ∈ o.toList, Given s) :
    Fact (∀ s ∈ o, Given s) := ⟨fun s hs => h s (Option.mem_toList.mpr hs)⟩

theorem given_text {s : String} (h : ∀ t ∈ [s], Given t) : Fact (Text Given s) :=
  ⟨.inl (h s List.mem_cons_self)⟩

theorem operation_keeps (o : Operation) (h : ∀ s ∈ texts o, Given s) :
    (sound Given).frame.Keeps o.code := by
  have hleft {l k : List String} (hl : ∀ s ∈ l ++ k, Given s) : ∀ s ∈ l, Given s :=
    fun s hs => hl s (List.mem_append_left k hs)
  have hright {l k : List String} (hl : ∀ s ∈ l ++ k, Given s) : ∀ s ∈ k, Given s :=
    fun s hs => hl s (List.mem_append_right l hs)
  cases o
  case init pin =>
    have hp := given_option h
    exact inferInstanceAs ((sound Given).frame.Keeps (void (Gsm.init pin)))
  case setPin pin =>
    have hp := given_option h
    exact inferInstanceAs ((sound Given).frame.Keeps (Gsm.setPin pin))
  case changeSimPin pin =>
    have hp := given_option h
    exact inferInstanceAs ((sound Given).frame.Keeps (void (Gsm.changeSimPin pin)))
  case socketConnect x ip port =>
    have hip := given_text h
    exact inferInstanceAs ((sound Given).frame.Keeps (void (Gsm.socketConnect x ip port)))
  case socketSendto x ip port data =>
    have hip := given_text h
    exact inferInstanceAs ((sound Given).frame.Keeps (void (Gsm.socketSendto x ip port data)))
  case setCredentials apn uname pwd =>
    have ha := given_option (hleft (hleft h))
    have hu := given_option (hright (hleft h))
    have hp := given_option (hright h)
    exact inferInstanceAs ((sound Given).frame.Keeps (Gsm.setCredentials apn uname pwd))
  case gethostbyname host =>
    have hh := given_text h
    exact inferInstanceAs ((sound Given).frame.Keeps (void (Gsm.gethostbyname host)))
  case connectWith pin apn uname pwd =>
    have hpin := given_option (hleft h)
    have ha := given_option (hleft (hleft (hright h)))
    have hu := given_option (hright (hleft (hright h)))
    have hp := given_option (hright (hright h))
    exact inferInstanceAs ((sound Given).frame.Keeps (void (Gsm.connectWith pin apn uname pwd)))
  case setSimPinCheck set immediate pin =>
    have hp := given_option h
    exact inferInstanceAs ((sound Given).frame.Keeps (void (Gsm.setSimPinCheck set immediate pin)))
  case setNewSimPin newPin immediate oldPin =>
    have hn := given_option (hleft h)
    have ho := given_option (hright h)
    exact inferInstanceAs ((sound Given).frame.Keeps
      (void (Gsm.setNewSimPin newPin immediate oldPin)))
  all_goals
    clear h
    simp only [Operation.code]
    infer_instance

abbrev Runs (Given : String → Prop) (start w : StringStation) : Prop :=
  (stringModem Given).Reached Operation.code (fun _ o => ∀ s ∈ texts o, Given s) start w

def start (baud : Int) : StringStation := ⟨⟨.initial baud,.initial⟩,[]⟩

theorem start_sound (baud : Int) : Sound Given (start baud) := by
  refine ⟨⟨?_,?_,?_,?_,?_⟩,?_⟩
  all_goals
    intro s hs
    cases hs

theorem runs_sound {baud : Int} {w : StringStation} (h : Runs Given (start baud) w) :
    Sound Given w :=
  h.keeps (start_sound baud)
    (fun u o hu ho => wp_mono (stringModem Given).mono (fun _ _ hv => hv hu)
      ((operation_keeps o ho).run u hu))
    (fun _ _ hu huv => event_sound huv hu)

theorem text_plain (hg : ∀ s, Given s → Plain s) {s : String} (h : Text Given s) : Plain s := by
  rcases h with h | rfl | rfl
  · exact hg s h
  · decide
  · decide

theorem strings_intact {baud : Int} {w : StringStation} (h : Runs Given (start baud) w) :
    (∀ c ∈ w.modem, (∀ s ∈ c.strings, Text Given s) ∧
      (CommandLine.read atMarks c.wire = [some c.command] ↔ ∀ s ∈ c.strings, Plain s)) ∧
    ((∀ s, Given s → Plain s) → CommandLine.read atMarks (w.modem.flatMap Cmd.wire) =
      w.modem.map (fun c => some c.command)) := by
  have hs := runs_sound h
  refine ⟨fun c hc => ⟨hs.sent c hc,read_wire c⟩,fun hg => ?_⟩
  exact read_wires (fun c hc s hcs => text_plain hg (hs.sent c hc s hcs))

def unanswering : Modem.Peer (sig AtInterface) (List Cmd) where
  send _ _ := true
  recv _ _ w := some (none, w)
  ask
    | _, .setIpAddress _, _ => some false
    | _, _, _ => none

theorem unanswering_fair : unanswering.Fair (stringModem Given) where
  send _ _ := trivial
  recv := by
    intro β p w b v h
    cases h
    exact ⟨.refl,trivial⟩
  ask := by
    intro β e w b h
    cases e
    case apnconfig => cases h
    all_goals trivial

abbrev lookup (Given : String → Prop) (host : String) : Option (Unit × StringStation) :=
  (Operation.gethostbyname host).code.run
    ((stringModem Given).machine.play unanswering.script) 0 (start 115200)

theorem lookup_runs {host : String} {r : Unit × StringStation} (hg : Given host)
    (hr : lookup Given host = some r) : Runs Given (start 115200) r.2 := by
  refine .call (Operation.gethostbyname host) .start ?_ (unanswering_fair.runs hr)
  intro s hs
  rw [List.mem_singleton.mp hs]
  exact hg

theorem strings_intact_host : ∃ w : StringStation, w.modem = [.udnsrn "u-blox.com"] ∧
    CommandLine.read atMarks (w.modem.flatMap Cmd.wire) = w.modem.map (fun c => some c.command) := by
  have hrun : (lookup (· = "u-blox.com") "u-blox.com").map (fun r => r.2.modem) =
      some [.udnsrn "u-blox.com"] := by decide
  obtain ⟨r,hr,hw⟩ := Option.map_eq_some_iff.mp hrun
  refine ⟨r.2,hw,(strings_intact (lookup_runs rfl hr)).2 ?_⟩
  rintro s rfl
  decide

def smuggled : String := "a\"\rAT+CPWROFF\r"

theorem second_command : ¬ ∀ w : StringStation, Runs (fun _ => True) (start 115200) w →
    ∀ c ∈ w.modem, CommandLine.read atMarks c.wire = [some c.command] := by
  intro hall
  have hrun : (lookup (fun _ => True) smuggled).map (fun r => r.2.modem) =
      some [.udnsrn smuggled] := by decide
  obtain ⟨r,hr,hw⟩ := Option.map_eq_some_iff.mp hrun
  have hone := hall r.2 (lookup_runs trivial hr) (.udnsrn smuggled) (by rw [hw]; exact List.mem_cons_self)
  have hseen : some Cmd.cpwroff.command ∈ CommandLine.read atMarks (Cmd.udnsrn smuggled).wire := by decide
  rw [hone] at hseen
  exact absurd hseen (by decide)

end StringStation

end UbloxCellular.Gsm
