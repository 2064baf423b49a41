import UbloxCellular.Gsm.Dialling
import UbloxCellular.Gsm.Twins
import UbloxCellular.Ppp.Interface

namespace UbloxCellular
open Interaction Code
open Gsm (sig AtInterface Call SimView Alike Twins recording)

namespace Gsm

def simView : SimView AtInterface where
  actions i := ⟨i.simPinCheckChangePending,i.simPinCheckChangePendingEnabledValue,
    i.simPinChangePending,i.simPinChangePendingNewPinValue⟩
  checked i := { i with simPinCheckChangePending := false }
  changed i := { i with simPinChangePending := false }
  actions_checked _ := rfl
  actions_changed _ := rfl

def proceed : Except Int Unit → AtCode Int
  | .error e => return e
  | .ok () => do
    if ← connectModemStack then return NsapiError.ok else return NsapiError.noConnection

theorem pendingSimActions_look : pendingSimActions = simView.pendingSimActions >>= fun ok =>
    return if ok then NsapiError.noConnection else NsapiError.authFailure := by
  simp only [pendingSimActions,SimView.pendingSimActions,SimView.look,bind_assoc,
    pure_bind,Prog.ite_then,simView]
  refine Prog.bind_same _ (fun d => ?_)
  split
  · refine Prog.bind_same _ (fun done => ?_)
    cases done <;> simp
  · simp

theorem connect_registers : Gsm.connect = simView.registration >>= proceed := by
  simp only [connect,SimView.registration,pendingSimActions_look,bind_assoc,pure_bind,
    Prog.ite_then,Prog.both]
  refine Prog.bind_same _ (fun ready => ?_)
  cases ready with
  | false => rfl
  | true =>
    refine Prog.bind_same _ (fun ok => ?_)
    cases ok with
    | false => rfl
    | true =>
      refine Prog.bind_same _ (fun registered => ?_)
      cases registered <;> rfl

end Gsm

namespace Ppp

def simView : SimView PppInterface where
  actions i := ⟨i.simPinCheckChangePending,i.simPinCheckChangePendingEnabledValue,
    i.simPinChangePending,i.simPinChangePendingNewPinValue⟩
  checked i := { i with simPinCheckChangePending := false }
  changed i := { i with simPinChangePending := false }
  actions_checked _ := rfl
  actions_changed _ := rfl

def proceed : Except Int Unit → PppCode Int
  | .error e => return e
  | .ok () => dial

theorem pendingSimActions_look : pendingSimActions NsapiError.isConnected =
    simView.pendingSimActions >>= fun ok =>
      return if ok then NsapiError.isConnected else NsapiError.authFailure := by
  simp only [pendingSimActions,SimView.pendingSimActions,SimView.look,bind_assoc,
    pure_bind,Prog.ite_then,simView]
  refine Prog.bind_same _ (fun d => ?_)
  split
  · refine Prog.bind_same _ (fun done => ?_)
    cases done <;> simp
  · simp

theorem register_registers : (do
    let error ← register
    if error = NsapiError.ok then dial else return error) =
      simView.registration >>= proceed := by
  simp only [register,SimView.registration,pendingSimActions_look,bind_assoc,pure_bind,
    Prog.ite_then]
  refine Prog.bind_same _ (fun ready => ?_)
  cases ready with
  | false => rfl
  | true =>
    refine Prog.bind_same _ (fun ok => ?_)
    cases ok with
    | false => rfl
    | true =>
      refine Prog.bind_same _ (fun registered => ?_)
      cases registered <;> rfl

variable {X : Type}

abbrev AtSide (X : Type) := Station (sig AtInterface) (X × List Call)

abbrev PppSide (X : Type) := Station (sig PppInterface) (X × List Call)

theorem ppp_connect_runs {N : Modem (sig PppInterface) X} {v v' : Station (sig PppInterface) X}
    {a : Int} (hup : v.driver.iface.pppConnectionUp = false) :
    N.Runs connect v a v' ↔ N.Runs (simView.registration >>= proceed) v a v' := by
  rw [connect,← register_registers]
  refine exec_bind.trans ⟨?_,fun hrun => ⟨v.driver,v,Gsm.runs_get.mpr ⟨rfl,rfl⟩,?_⟩⟩
  · rintro ⟨d,u,hget,hrun⟩
    obtain ⟨rfl,rfl⟩ := Gsm.runs_get.mp hget
    rwa [hup] at hrun
  · rwa [hup]

theorem connect_agrees {M : Modem (sig AtInterface) X} {N : Modem (sig PppInterface) X}
    (hMN : Twins Gsm.simView.actions simView.actions M N)
    (hNM : Twins simView.actions Gsm.simView.actions N M) {w : AtSide X} {v : PppSide X}
    (hr : Alike Gsm.simView.actions simView.actions w v)
    (hup : v.driver.iface.pppConnectionUp = false) :
    (∀ a w', (recording M).Runs Gsm.connect w a w' ↔ ∃ r u,
      (recording M).Runs Gsm.simView.registration w r u ∧
      (recording M).Runs (Gsm.proceed r) u a w') ∧
    (∀ a v', (recording N).Runs Ppp.connect v a v' ↔ ∃ r u,
      (recording N).Runs simView.registration v r u ∧
      (recording N).Runs (Ppp.proceed r) u a v') ∧
    (∀ r w', (recording M).Runs Gsm.simView.registration w r w' → ∃ v',
      (recording N).Runs simView.registration v r v' ∧
      Alike Gsm.simView.actions simView.actions w' v') ∧
    ∀ r v', (recording N).Runs simView.registration v r v' → ∃ w',
      (recording M).Runs Gsm.simView.registration w r w' ∧
      Alike Gsm.simView.actions simView.actions w' v' := by
  have hforth := Fact.mk hMN.recording
  have hback := Fact.mk hNM.recording
  refine ⟨fun a w' => ?_,fun a v' => ?_,fun r w' hx => ?_,fun r v' hx => ?_⟩
  · rw [Gsm.connect_registers]
    exact exec_bind
  · rw [ppp_connect_runs hup]
    exact exec_bind
  · exact SimView.mirror_registration.run w v hr r w' hx
  · have hmirror : Gsm.Mirror simView.actions Gsm.simView.actions (recording N) (recording M)
        simView.registration Gsm.simView.registration := inferInstance
    obtain ⟨w',hw,hend⟩ := hmirror.run v w hr.symm r v' hx
    exact ⟨w',hw,hend.symm⟩

def cellModem (I : Type) : Modem (sig I) Unit where
  event _ d _ d' := d' = d.onInfo (fun i => { i with regStatusCsd := 1 })
  allow _ _ _ _ _ := True
  next _ _ _ _ _ := ()

theorem cellModem_twins {I J P : Type} (f : I → P) (g : J → P) :
    Twins f g (cellModem I) (cellModem J) where
  event u v u' hr he := by
    refine ⟨⟨v.driver.onInfo (fun i => { i with regStatusCsd := 1 }),()⟩,.single rfl,rfl,?_,?_⟩
    · rw [he]
      exact congrArg (fun b : Gsm.Base => { b with devInfo := { b.devInfo with regStatusCsd := 1 } })
        hr.base
    · rw [he]
      exact hr.view
  act _ _ _ _ _ _ _ _ _ := ⟨trivial,rfl⟩

def askedOnAt : AtSide Unit := ⟨⟨.initial 115200,{ AtInterface.initial with
  simPinCheckChangePending := true
  simPinCheckChangePendingEnabledValue := true
  simPinChangePending := true
  simPinChangePendingNewPinValue := some "1234" }⟩,((),[])⟩

def askedOnPpp : PppSide Unit := ⟨⟨.initial 115200,{ PppInterface.initial with
  simPinCheckChangePending := true
  simPinCheckChangePendingEnabledValue := true
  simPinChangePending := true
  simPinChangePendingNewPinValue := some "1234" }⟩,((),[])⟩

def errorCode : Except Int Unit → Int
  | .error e => e
  | .ok () => NsapiError.ok

theorem asked_at_run : ∃ w',
    (recording (cellModem AtInterface)).Runs Gsm.simView.registration askedOnAt
      (.error NsapiError.authFailure) w' ∧
    w'.modem.2 = [.changeSimPin (some "1234"),.simPinCheckEnable true,.init] := by
  have hfair : (Gsm.refusing AtInterface (Unit × List Call) none).Fair
      (recording (cellModem AtInterface)) :=
    Gsm.refusing_fair (fun _ _ _ _ _ => trivial) (fun _ _ => ⟨rfl,rfl⟩)
  have hrun : (Gsm.simView.registration.run ((recording (cellModem AtInterface)).machine.play
      (Gsm.refusing AtInterface (Unit × List Call) none).script) 0 askedOnAt).map
      (fun r => (errorCode r.1, r.2.modem.2)) = some (NsapiError.authFailure,
        [.changeSimPin (some "1234"),.simPinCheckEnable true,.init]) := by
    decide +kernel
  obtain ⟨⟨r,w'⟩,hr,heq⟩ := Option.map_eq_some_iff.mp hrun
  obtain ⟨herror,hcalls⟩ := Prod.mk.inj heq
  cases r with
  | error e =>
    obtain rfl : e = NsapiError.authFailure := herror
    exact ⟨w',hfair.runs hr,hcalls⟩
  | ok u =>
    have hne : NsapiError.ok ≠ NsapiError.authFailure := by decide
    exact absurd herror hne

theorem connect_agrees_pending : ∃ v',
    (recording (cellModem PppInterface)).Runs simView.registration askedOnPpp
      (.error NsapiError.authFailure) v' ∧
    v'.modem.2 = [.changeSimPin (some "1234"),.simPinCheckEnable true,.init] := by
  obtain ⟨w',hx,hcalls⟩ := asked_at_run
  obtain ⟨-,-,hforth,-⟩ := connect_agrees (w := askedOnAt) (v := askedOnPpp)
    (cellModem_twins _ _) (cellModem_twins _ _) ⟨rfl,rfl,rfl⟩ rfl
  obtain ⟨v',hv,hend⟩ := hforth _ w' hx
  exact ⟨v',hv,(congrArg Prod.snd hend.modem).trans hcalls⟩

end Ppp

end UbloxCellular
