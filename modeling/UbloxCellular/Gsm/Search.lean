import UbloxCellular.Gsm.Retry
import UbloxCellular.Gsm.Endings

namespace UbloxCellular.Gsm
open Interaction Code

namespace RetryStation

-- The attempts that a list of candidates asks for, in its order: the authentication set by the user
-- is given up at the first of them that has no user name or no password.
def candidates : Security → List String → List Attempt
  | auth, apn :: uname :: pwd :: rest =>
    let auth := settle ⟨some apn,some uname,some pwd⟩ auth
    ⟨apn,uname,pwd,auth⟩ :: if hasMore (some rest) then candidates auth rest else []
  | _, [apn,uname] => [⟨apn,uname,"",.none⟩]
  | _, [apn] => [⟨apn,"","",.none⟩]
  | _, [] => [⟨"","","",.none⟩]

def plan (config : Option (List String)) (d : Driver AtInterface) : List Attempt :=
  config.elim [first none d] (candidates d.iface.auth)

theorem plan_step {config : Option (List String)} {d d' : Driver AtInterface}
    (h : Left d' (first config d)) : plan config d = first config d ::
      if hasMore (restCredentials config) then plan (restCredentials config) d' else [] := by
  have hauth : d'.iface.auth = (first config d).auth := congrArg Attempt.auth h.held
  rcases config with _ | l
  · rfl
  rcases l with _ | ⟨apn,_ | ⟨uname,_ | ⟨pwd,rest⟩⟩⟩
  · rfl
  · rfl
  · have hblank : settle (d.iface.cred.next (some [apn,uname])) d.iface.auth = .none :=
      if_neg (fun h => h.2 rfl)
    change [Attempt.mk apn uname "" .none] = [⟨apn,uname,"",settle _ d.iface.auth⟩]
    rw [hblank]
  · change _ = _ :: if _ then candidates d'.iface.auth rest else []
    rw [hauth]
    rfl

structure Tried (all : List Attempt) (success : Bool) (w : RetryStation) : Prop where
  order : w.modem.attempts <+: all
  last : ∃ earlier a, w.modem.attempts = earlier ++ [a] ∧ Left w.driver a
  all : success = false → w.modem.attempts = all

theorem connectLoop_tried {w : RetryStation} (config : Option (List String))
    (hw : w.modem.status = none) (ha : w.modem.attempts = []) :
    wp retryModem.spec (connectLoop config) (fun success v =>
      Tried (plan config w.driver) success v ∧
      v.modem = { w.modem with attempts := v.modem.attempts }) w := by
  rw [connectLoop]
  refine wp_iterate (fun config' (u : RetryStation) =>
    u.modem.attempts ++ plan config' u.driver = plan config w.driver ∧
    u.modem = { w.modem with attempts := u.modem.attempts })
    ⟨by rw [ha]; rfl,rfl⟩ (fun config' u hu => ?_)
  obtain ⟨hplan,hmodem⟩ := hu
  have hstatus : u.modem.status = none := by
    rw [hmodem]
    exact hw
  refine wp_seq retryModem.mono (connectOnce_left config' hstatus) (fun r v hr => ?_)
  obtain ⟨hrest,hleft,hm⟩ := hr
  have hattempts : v.modem.attempts = u.modem.attempts ++ [first config' u.driver] := by rw [hm]
  have hsame : v.modem = { w.modem with attempts := v.modem.attempts } := by
    rw [hattempts]
    exact hm.trans (congrArg (fun x : History =>
      { x with attempts := u.modem.attempts ++ [first config' u.driver] }) hmodem)
  rw [plan_step hleft] at hplan
  rw [wp_pure]
  split
  · rename_i hgo
    obtain ⟨hfail,hmore⟩ := Bool.and_eq_true_iff.mp hgo
    rw [hrest] at hmore
    rw [hrest]
    refine ⟨?_,hsame⟩
    rw [if_pos hmore] at hplan
    rw [hattempts,List.append_assoc]
    exact hplan
  · rename_i hstop
    refine ⟨⟨⟨_,by rw [hattempts,List.append_assoc]; exact hplan⟩,⟨_,_,hattempts,hleft⟩,
      fun hfail => ?_⟩,hsame⟩
    have hmore : ¬hasMore (restCredentials config') = true := by
      rw [← hrest]
      exact fun hmore => hstop (Bool.and_eq_true_iff.mpr ⟨by rw [hfail]; rfl,hmore⟩)
    rw [if_neg hmore] at hplan
    exact hattempts.trans hplan

theorem plan_same {config : Option (List String)} {d d' : Driver AtInterface}
    (hc : d'.iface.cred = d.iface.cred) (ha : d'.iface.auth = d.iface.auth) :
    plan config d' = plan config d := by
  rw [plan,plan,first,first,hc,ha]

def Searched (d : Driver AtInterface) (success : Bool) (w : RetryStation) : Prop :=
  w.modem.attempts = [] ∨ Tried (plan (searched d w.modem) d) success w

theorem Searched.same {d d' : Driver AtInterface} {w : RetryStation} {success : Bool}
    (h : Searched d success w) (hc : d'.iface.cred = d.iface.cred)
    (ha : d'.iface.auth = d.iface.auth) : Searched d' success w := by
  rw [Searched,searched,hc,plan_same hc ha]
  exact h

theorem loop_searched {w : RetryStation} {offered : Option (List String)}
    (hw : w.modem = { History.empty with inactive := true, offered := offered }) :
    wp retryModem.spec (connectLoop (searched w.driver w.modem)) (Searched w.driver) w := by
  have hstatus : w.modem.status = none := by rw [hw]; rfl
  have hnone : w.modem.attempts = [] := by rw [hw]; rfl
  refine wp_mono retryModem.mono (fun success v h => .inr ?_)
    (connectLoop_tried (searched w.driver w.modem) hstatus hnone)
  have hs : searched w.driver v.modem = searched w.driver w.modem := by rw [h.2]; rfl
  rw [hs]
  exact h.1

theorem activeLoop_searched {w : RetryStation}
    (hw : w.modem = { History.empty with inactive := true }) :
    wp retryModem.spec (do
      let d ← get
      let config ← if d.iface.cred.apn = none then act (.apnconfig d.base.devInfo.imsi)
        else pure none
      connectLoop config) (Searched w.driver) w := by
  simp only [wp_bind,wp_get,wp_ite,wp_pure]
  split
  · rename_i hapn
    rw [Modem.wp_asks rfl]
    intro b _
    have hx : ({ w.modem with offered := b } : History) =
        { History.empty with inactive := true, offered := b } := by rw [hw]
    have hs : searched w.driver { w.modem with offered := b } = b := if_pos hapn
    have hl := @loop_searched { w with modem := { w.modem with offered := b } } b hx
    rw [hs] at hl
    exact hl
  · rename_i hapn
    have hs : searched w.driver w.modem = none := if_neg hapn
    have hl := @loop_searched w none (by rw [hw]; rfl)
    rw [hs] at hl
    exact hl

theorem connectModemStack_searched {w : RetryStation} (hw : w.modem = .empty) :
    wp retryModem.spec connectModemStack (Searched w.driver) w := by
  simp only [connectModemStack,Modem.wp_locked,wp_bind,Modem.wp_ask]
  intro o ho b _
  have hso := events_steady ho
  cases b with
  | false => exact .inl (congrArg History.attempts (hso.modem.trans hw))
  | true =>
    rw [if_pos rfl,Modem.wp_recv]
    intro v r hv _
    have hsv : Steady w v := hso.trans (events_steady hv)
    have hmv : v.modem = .empty := hsv.modem.trans hw
    cases r with
    | none => exact .inl (congrArg History.attempts hmv)
    | some active =>
      rw [Option.elim_some,wp_bind,Modem.wp_recvOk]
      intro u r hu _
      have hsu := events_steady hu
      have hmu : u.modem = { History.empty with status := some active } := by
        refine hsu.modem.trans ?_
        change ({ v.modem with status := some active } : History) = _
        rw [hmv]
      have hheard : u.modem.heardOk r.isSome =
          { History.empty with inactive := r.isSome && decide (active = 0) } := by
        rw [hmu]
        simp [History.heardOk,History.empty]
      cases r with
      | none => exact .inl (congrArg History.attempts hheard)
      | some ok =>
        simp only [Option.isSome_some,if_true,wp_ite,wp_pure]
        split
        · rename_i hactive
          have hinactive : u.modem.heardOk true = { History.empty with inactive := true } := by
            refine hheard.trans ?_
            rw [hactive]
            rfl
          exact wp_mono retryModem.mono (fun success x h =>
            h.same (hsu.cred.trans hsv.cred).symm (hsu.auth.trans hsv.auth).symm)
            (activeLoop_searched (w := ⟨u.driver,u.modem.heardOk true⟩) hinactive)
        · exact .inl (congrArg History.attempts hheard)

theorem stack_searched {w v : RetryStation} (registered : Bool) (hw : w.modem = .empty)
    (hv : Steady w v) :
    wp retryModem.spec ((pure registered : AtCode Bool).both connectModemStack)
      (Searched w.driver) v := by
  have hm : v.modem = .empty := hv.modem.trans hw
  rw [wp_both,wp_pure]
  split
  · exact wp_mono retryModem.mono (fun success x h => h.same hv.cred.symm hv.auth.symm)
      (connectModemStack_searched hm)
  · exact .inl (congrArg History.attempts hm)

theorem connect_searched {w : RetryStation} (hw : w.modem = .empty) :
    wp retryModem.spec connect
      (fun error v => Searched w.driver (decide (error = NsapiError.ok)) v) w := by
  have hstatus : ∀ {v}, Steady w v → v.modem.status = none := by
    intro v hv
    rw [hv.modem,hw]
    rfl
  have hstack : ∀ (r : Int × Bool) {v : RetryStation}, Steady w v →
      wp retryModem.spec ((pure r.2 : AtCode Bool).both connectModemStack)
        (fun b x => if b = true then Searched w.driver (decide (NsapiError.ok = NsapiError.ok)) x
          else Searched w.driver (decide (r.1 = NsapiError.ok)) x) v := by
    intro r v hv
    refine wp_mono retryModem.mono (fun b x h => ?_) (stack_searched r.2 hw hv)
    cases b with
    | true => exact h.imp id (fun h => ⟨h.order,h.last,nofun⟩)
    | false => exact h.imp id (fun h => ⟨h.order,h.last,fun _ => h.all rfl⟩)
  simp only [connect,wp_bind,wp_ite,wp_pure]
  refine steady_run (by rw [hw]; rfl) (fun started u hu => ?_)
  split
  · refine steady_run (hstatus hu) (fun error v hv => ?_)
    split
    · refine steady_run (hstatus (hu.trans hv)) (fun registered v' hv' => ?_)
      exact hstack (error, registered) ((hu.trans hv).trans hv')
    · exact hstack (error, false) (hu.trans hv)
  · exact hstack (NsapiError.deviceError, false) hu

theorem connect_searches {w : RetryStation} (hw : w.modem = .empty) :
    Halts retryModem.machine.handler connect w ∧
    ∀ error v, retryModem.Runs connect w error v → v.modem.attempts = [] ∨
      (v.modem.attempts <+: plan (searched w.driver v.modem) w.driver ∧
      (∃ earlier a, v.modem.attempts = earlier ++ [a] ∧
        held v.driver.iface.cred v.driver.iface.auth = a) ∧
      (error ≠ NsapiError.ok →
        v.modem.attempts = plan (searched w.driver v.modem) w.driver)) := by
  refine ⟨Halting.run w,fun error v hx => ?_⟩
  refine (Modem.sound (connect_searched hw) hx).imp id (fun h => ⟨h.order,?_,fun he => ?_⟩)
  · obtain ⟨earlier,a,ha,hleft⟩ := h.last
    exact ⟨earlier,a,ha,hleft.held⟩
  · exact h.all (decide_eq_false he)

theorem connect_searches_refused : ∃ error v,
    retryModem.Runs connect (begin fresh) error v ∧ v.modem.attempts.length = 2 ∧
    (v.modem.attempts = [] ∨ (v.modem.attempts <+: plan (searched fresh v.modem) fresh ∧
      (∃ earlier a, v.modem.attempts = earlier ++ [a] ∧
        held v.driver.iface.cred v.driver.iface.auth = a) ∧
      (error ≠ NsapiError.ok → v.modem.attempts = plan (searched fresh v.modem) fresh))) := by
  have hrun : (played fresh).map (fun r => r.2.modem.attempts.length) = some 2 := by decide
  obtain ⟨⟨error,v⟩,hr,hlength⟩ := Option.map_eq_some_iff.mp hrun
  have hruns := operator_fair.runs hr
  exact ⟨error,v,hruns,hlength,(connect_searches rfl).2 error v hruns⟩

end RetryStation

end UbloxCellular.Gsm
