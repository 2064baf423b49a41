import UbloxCellular.Gsm.Retry

namespace UbloxCellular.Gsm
open Interaction Code

def Attempt.Credited (a : Attempt) : Prop := a.username ≠ "" ∧ a.password ≠ ""

instance (a : Attempt) : Decidable a.Credited := inferInstanceAs (Decidable (_ ∧ _))

structure Trial where
  attempt : Attempt
  chosen : Security
  blank : Bool
  deriving DecidableEq, Repr

structure Choices where
  chosen : Security
  blank : Bool
  trials : List Trial
  deriving DecidableEq, Repr

namespace Choices

def empty : Choices := ⟨.unknown,false,[]⟩

def choosing (x : Choices) (auth : Security) : Choices := { x with chosen := auth, blank := false }

def trying (x : Choices) (a : Attempt) : Choices where
  chosen := x.chosen
  blank := x.blank || !decide a.Credited
  trials := ⟨a,x.chosen,x.blank⟩ :: x.trials

def due (chosen : Security) (blank : Bool) : Security := if blank then .none else chosen

theorem due_iff (chosen : Security) (blank : Bool) :
    due chosen blank = chosen ↔ blank = false ∨ chosen = .none := by
  cases blank with
  | false => exact iff_of_true rfl (.inl rfl)
  | true =>
    refine ⟨fun h => .inr h.symm,fun h => ?_⟩
    rcases h with h | h
    · cases h
    · exact h.symm

end Choices

def choiceModem : Modem (sig AtInterface) Choices where
  event x d y e := y = x ∧ ∃ u : Urc, e = u.handle d
  allow _ _ _ _ _ := True
  next
    | _, .enter (.attempt apn username password auth), x, _, _ =>
        x.trying ⟨apn,username,password,auth⟩
    | _, _, x, _, _ => x

inductive ChoiceOp where
  | setAuthentication (auth : Security)
  | setCredentials (apn uname pwd : Option String)
  | connect
  | connectWith (simPin apn uname pwd : Option String)
  deriving DecidableEq, Repr

def ChoiceOp.code : ChoiceOp → AtCode Unit
  | .setAuthentication auth => Gsm.setAuthentication auth
  | .setCredentials apn uname pwd => Gsm.setCredentials apn uname pwd
  | .connect => void Gsm.connect
  | .connectWith simPin apn uname pwd => void (Gsm.connectWith simPin apn uname pwd)

def ChoiceOp.tell : ChoiceOp → Choices → Choices
  | .setAuthentication auth, x => x.choosing auth
  | _, x => x

abbrev ChoiceStation := Station (sig AtInterface) Choices

namespace ChoiceStation

structure Same (w w' : ChoiceStation) : Prop where
  auth : w'.driver.iface.auth = w.driver.iface.auth
  modem : w'.modem = w.modem

theorem Same.refl (w : ChoiceStation) : Same w w := ⟨rfl,rfl⟩

def same : choiceModem.Kept where
  pre _ := True
  rel := Same
  refl := Same.refl
  trans _ _ _ h k := ⟨k.auth.trans h.auth,k.modem.trans h.modem⟩
  keep _ _ _ _ := trivial
  event u v _ h := by
    obtain ⟨hm,urc,hd⟩ := h
    exact ⟨hd ▸ (RetryStation.handle_cred urc u.driver).2,hm⟩

theorem unaware : Unaware choiceModem where
  act e x d b he := by
    cases e with
    | enter c => cases he
    | _ => rfl
  send _ _ _ _ _ := rfl
  cpin _ _ _ := rfl
  hw _ _ _ _ := rfl
  enter c x d b hc := by
    cases c with
    | attempt => cases hc
    | _ => rfl

instance : Basal same.frame := unaware.basal (fun _ _ _ => ⟨rfl,rfl⟩)

instance : Dialling same.frame where
  sends _ := Modem.Kept.keeps_still rfl (fun _ _ _ => rfl)
  context := Modem.Kept.keeps_still rfl (fun _ _ _ => rfl)
  address _ := Modem.Kept.keeps_still rfl (fun _ _ _ => rfl)

instance : same.frame.Keeps (recv .upsndStatus) :=
  Modem.Kept.keeps_still rfl (fun _ _ _ => rfl)

instance (imsi : String) : same.frame.Keeps (act (.apnconfig imsi)) :=
  Modem.Kept.keeps_still rfl (fun _ _ _ => rfl)

instance (f : Credentials → Credentials) : same.frame.Keeps (modify (Driver.onCred f)) :=
  Modem.Kept.keeps_modify (fun _ _ => ⟨rfl,rfl⟩)

instance : same.frame.Keeps (modify (Driver.onIface (fun i : AtInterface =>
    { i with simPinCheckChangePending := false }))) :=
  Modem.Kept.keeps_modify (fun _ _ => ⟨rfl,rfl⟩)

instance : same.frame.Keeps (modify (Driver.onIface (fun i : AtInterface =>
    { i with simPinChangePending := false }))) :=
  Modem.Kept.keeps_modify (fun _ _ => ⟨rfl,rfl⟩)

def Due (t : Trial) : Prop :=
  t.attempt.Credited → t.attempt.auth = Choices.due t.chosen t.blank

structure Honoured (w : ChoiceStation) : Prop where
  auth : w.driver.iface.auth = Choices.due w.modem.chosen w.modem.blank
  trials : ∀ t ∈ w.modem.trials, Due t

theorem honoured : same.Stable Honoured where
  pre _ _ := trivial
  rel u v hu h := by
    refine ⟨?_,?_⟩
    · rw [h.auth,h.modem]
      exact hu.auth
    · rw [h.modem]
      exact hu.trials

theorem settle_due (cred : Credentials) {x : Choices} {auth : Security}
    (h : auth = Choices.due x.chosen x.blank) {a : Attempt}
    (ha : a = RetryStation.held cred (RetryStation.settle cred auth)) :
    a.auth = Choices.due (x.trying a).chosen (x.trying a).blank ∧ Due ⟨a,x.chosen,x.blank⟩ := by
  have hcred : a.Credited ↔ cred.uname.getD "" ≠ "" ∧ cred.pwd.getD "" ≠ "" := by
    rw [ha]
    exact Iff.rfl
  have hauth : a.auth = if a.Credited then auth else .none :=
    (congrArg Attempt.auth ha).trans (if_congr hcred.symm rfl rfl)
  rw [hauth]
  by_cases hc : a.Credited
  · have hblank : (x.trying a).blank = x.blank := by simp [Choices.trying,hc]
    rw [if_pos hc,hblank]
    exact ⟨h,fun _ => hauth.trans ((if_pos hc).trans h)⟩
  · have hblank : (x.trying a).blank = true := by simp [Choices.trying,hc]
    rw [if_neg hc,hblank]
    exact ⟨rfl,fun hc' => absurd hc' hc⟩

theorem connectOnce_honoured {w : ChoiceStation} (config : Option (List String))
    (hw : Honoured w) : wp choiceModem.spec (connectOnce config) (fun _ => Honoured) w := by
  simp only [connectOnce,getNextCredentials,wp_bind,Modem.wp_modify,wp_get,wp_pure,
    Modem.wp_enter,wp_ite]
  intro _
  have hdue := settle_due (w.driver.iface.cred.next config) hw.auth rfl
  have htrial : Honoured { w with
      driver := { w.driver with iface := { w.driver.iface with
        cred := w.driver.iface.cred.next config
        auth := RetryStation.settle (w.driver.iface.cred.next config) w.driver.iface.auth } }
      modem := w.modem.trying (RetryStation.held (w.driver.iface.cred.next config)
        (RetryStation.settle (w.driver.iface.cred.next config) w.driver.iface.auth)) } :=
    ⟨hdue.1,List.forall_mem_cons.mpr ⟨hdue.2,hw.trials⟩⟩
  split
  · exact honoured.run htrial
  · refine wp_mono choiceModem.mono (fun reused v hv => ?_) (honoured.run htrial)
    split
    · exact hv
    · exact honoured.run hv

instance (config : Option (List String)) : honoured.kept.frame.Keeps (connectOnce config) :=
  honoured.keeps (fun _ => connectOnce_honoured config)

instance (config : Option (List String)) : honoured.kept.frame.Keeps (connectLoop config) := by
  simp only [connectLoop]
  infer_instance

set_option synthInstance.maxSize 8192 in
instance : honoured.kept.frame.Keeps connectModemStack := by
  simp only [connectModemStack]
  infer_instance

instance (simPin apn uname pwd : Option String) :
    honoured.kept.frame.Keeps (connectWith simPin apn uname pwd) := by
  simp only [connectWith,givePin]
  infer_instance

theorem code_honoured {w : ChoiceStation} (o : ChoiceOp) (hw : Honoured w) :
    wp choiceModem.spec o.code (fun _ => Honoured) { w with modem := o.tell w.modem } := by
  cases o with
  | setAuthentication auth =>
    rw [ChoiceOp.code,setAuthentication,Modem.wp_modify]
    exact ⟨rfl,hw.trials⟩
  | setCredentials apn uname pwd =>
    rw [ChoiceOp.code,setCredentials]
    exact honoured.run hw
  | connect =>
    rw [ChoiceOp.code]
    exact honoured.holds hw
  | connectWith simPin apn uname pwd =>
    rw [ChoiceOp.code]
    exact honoured.holds hw

def start (baud : Int) : ChoiceStation := ⟨⟨.initial baud,.initial⟩,.empty⟩

abbrev Reached (baud : Int) : ChoiceStation → Prop :=
  choiceModem.Told ChoiceOp.code ChoiceOp.tell (start baud)

theorem reached_honoured {baud : Int} {w : ChoiceStation} (h : Reached baud w) : Honoured w := by
  refine h.keeps ⟨rfl,?_⟩ (fun u o hu => code_honoured o hu) (fun u v hu huv => ?_)
  · rintro t ⟨⟩
  · exact honoured.event hu huv

theorem chosen_auth_iff {baud : Int} {w : ChoiceStation} {t : Trial} (h : Reached baud w)
    (ht : t ∈ w.modem.trials) (hc : t.attempt.Credited) :
    t.attempt.auth = t.chosen ↔ t.blank = false ∨ t.chosen = .none := by
  rw [(reached_honoured h).trials t ht hc]
  exact Choices.due_iff t.chosen t.blank

abbrev calls (config : Option (List String)) (os : List ChoiceOp) : Option ChoiceStation :=
  (refusing AtInterface Choices config).replay choiceModem ChoiceOp.code ChoiceOp.tell 3 os
    (start 115200)

theorem calls_reached {config : Option (List String)} {os : List ChoiceOp} {w : ChoiceStation}
    (h : calls config os = some w) : Reached 115200 w := by
  have hfair : (refusing AtInterface Choices config).Fair choiceModem :=
    refusing_fair (fun _ _ _ _ _ => trivial) (fun _ _ => ⟨rfl,.creg 1,rfl⟩)
  exact hfair.told h .start

theorem chosen_auth_chap : ∃ w t, Reached 115200 w ∧ t ∈ w.modem.trials ∧
    t.attempt = ⟨"apn","user","secret",.chap⟩ ∧ t.blank = false ∧
    (t.attempt.auth = t.chosen ↔ t.blank = false ∨ t.chosen = .none) := by
  have hrun : (calls none [.setAuthentication .chap,
      .connectWith none (some "apn") (some "user") (some "secret")]).map (fun w => w.modem.trials) =
      some [⟨⟨"apn","user","secret",.chap⟩,.chap,false⟩] := by decide
  obtain ⟨w,hw,ht⟩ := Option.map_eq_some_iff.mp hrun
  have hmem : ⟨⟨"apn","user","secret",.chap⟩,.chap,false⟩ ∈ w.modem.trials := by
    rw [ht]
    exact List.mem_singleton_self _
  exact ⟨w,_,calls_reached hw,hmem,rfl,rfl,chosen_auth_iff (calls_reached hw) hmem (by decide)⟩

theorem chosen_auth_lost : ¬ ∀ (baud : Int) (w : ChoiceStation) (t : Trial), Reached baud w →
    t ∈ w.modem.trials → t.attempt.Credited → t.attempt.auth = t.chosen := by
  intro hall
  have hrun : (calls (some ["one","","","two","user","secret",""])
      [.setAuthentication .chap,.connect]).map (fun w => w.modem.trials) =
      some [⟨⟨"two","user","secret",.none⟩,.chap,true⟩,⟨⟨"one","","",.none⟩,.chap,false⟩] := by
    decide
  obtain ⟨w,hw,ht⟩ := Option.map_eq_some_iff.mp hrun
  have hauth := hall 115200 w ⟨⟨"two","user","secret",.none⟩,.chap,true⟩ (calls_reached hw)
    (by rw [ht]; exact List.mem_cons_self) (by decide)
  cases hauth

end ChoiceStation

end UbloxCellular.Gsm
