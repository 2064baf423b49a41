import UbloxCellular.Gsm.Dialling

namespace UbloxCellular.Gsm
open Interaction Code

structure Attempt where
  apn : String
  username : String
  password : String
  auth : Security
  deriving DecidableEq, Repr

structure History where
  attempts : List Attempt
  status : Option Int
  inactive : Bool
  offered : Option (List String)
  deriving DecidableEq, Repr

def History.empty : History := ⟨[],none,false,none⟩

def History.heardOk (x : History) (ok : Bool) : History :=
  { x with status := none, inactive := x.inactive || (ok && x.status = some 0) }

theorem History.heardOk_idle {x : History} (h : x.status = none) (ok : Bool) :
    x.heardOk ok = x := by
  cases x
  cases h
  simp [History.heardOk]

def retryModem : Modem (sig AtInterface) History where
  event x d x' d' := x' = x ∧ ∃ u : Urc, d' = u.handle d
  allow _ _ _ _ _ := True
  next
    | _, .enter (.attempt apn username password auth), x, _, _ =>
        { x with attempts := x.attempts ++ [⟨apn,username,password,auth⟩] }
    | _, .recv .upsndStatus, x, _, b => { x with status := b }
    | _, .recv .ok, x, _, b => x.heardOk b.isSome
    | _, .apnconfig _, x, _, b => { x with offered := b }
    | _, _, x, _, _ => x

abbrev RetryStation := Station (sig AtInterface) History

namespace RetryStation

structure Steady (w w' : RetryStation) : Prop where
  cred : w'.driver.iface.cred = w.driver.iface.cred
  auth : w'.driver.iface.auth = w.driver.iface.auth
  modem : w'.modem = w.modem

theorem Steady.refl (w : RetryStation) : Steady w w := ⟨rfl,rfl,rfl⟩

theorem Steady.trans {u v w : RetryStation} (h : Steady u v) (k : Steady v w) : Steady u w :=
  ⟨k.cred.trans h.cred,k.auth.trans h.auth,k.modem.trans h.modem⟩

theorem handle_cred (u : Urc) (d : Driver AtInterface) :
    (u.handle d).iface.cred = d.iface.cred ∧ (u.handle d).iface.auth = d.iface.auth := by
  cases u <;> exact ⟨rfl,rfl⟩

def steady : retryModem.Kept where
  pre w := w.modem.status = none
  rel := Steady
  refl := Steady.refl
  trans _ _ _ := Steady.trans
  keep u v h hu := by
    rw [h.modem]
    exact hu
  event u v _ h := by
    obtain ⟨hm,urc,hd⟩ := h
    obtain ⟨hc,ha⟩ := handle_cred urc u.driver
    exact ⟨hd ▸ hc,hd ▸ ha,hm⟩

theorem steady_modem {w : RetryStation} {x : History} (h : x = w.modem) :
    Steady w { w with modem := x } := ⟨rfl,rfl,h⟩

instance (c : Cmd) : steady.frame.Keeps (send c) :=
  Modem.Kept.keeps_act rfl (fun w _ _ _ => Steady.refl w)

instance : Ordinary steady.frame := by
  apply ordinary_kept
  · intro β e w b he hw _
    cases e with
    | recv p =>
      cases p with
      | ok => exact steady_modem (History.heardOk_idle hw _)
      | upsndStatus => cases he
      | _ => exact Steady.refl w
    | enter c => cases he
    | apnconfig s => cases he
    | _ => exact Steady.refl w
  · intro c w b _ _ _
    exact Steady.refl w
  · intro h w b _ _ _
    exact Steady.refl w
  · intro f w _
    exact ⟨rfl,rfl,rfl⟩

instance : Basal steady.frame where
  sim _ _ := inferInstance
  cpin := Modem.Kept.keeps_act rfl (fun w _ _ _ => Steady.refl w)
  power := Modem.Kept.keeps_act rfl (fun w _ _ _ => Steady.refl w)
  base _ := Modem.Kept.keeps_modify (fun _ _ => ⟨rfl,rfl,rfl⟩)
  enter c hc := Modem.Kept.keeps_act rfl (fun w _ _ _ => by
    cases c with
    | attempt => cases hc
    | _ => exact Steady.refl w)

instance : Dialling steady.frame where
  sends _ := inferInstance
  context := Modem.Kept.keeps_act rfl (fun w _ _ _ => Steady.refl w)
  address _ := Modem.Kept.keeps_act rfl (fun w _ _ _ => Steady.refl w)

instance : steady.frame.Keeps (modify (Driver.onIface (fun i : AtInterface =>
    { i with simPinCheckChangePending := false }))) :=
  Modem.Kept.keeps_modify (fun _ _ => ⟨rfl,rfl,rfl⟩)

instance : steady.frame.Keeps (modify (Driver.onIface (fun i : AtInterface =>
    { i with simPinChangePending := false }))) :=
  Modem.Kept.keeps_modify (fun _ _ => ⟨rfl,rfl,rfl⟩)

theorem steady_run {α : Type} {p : AtCode α} [hp : steady.frame.Keeps p]
    {Q : α → RetryStation → Prop} {w : RetryStation} (hw : w.modem.status = none)
    (hq : ∀ a w', Steady w w' → Q a w') : wp retryModem.spec p Q w :=
  wp_mono retryModem.mono hq (hp.run w hw)

def settle (cred : Credentials) (auth : Security) : Security :=
  if cred.uname.getD "" ≠ "" ∧ cred.pwd.getD "" ≠ "" then auth else .none

def held (cred : Credentials) (auth : Security) : Attempt :=
  ⟨cred.apn.getD "",cred.uname.getD "",cred.pwd.getD "",auth⟩

theorem settle_idem (cred : Credentials) (auth : Security) :
    settle cred (settle cred auth) = settle cred auth := by
  unfold settle
  split <;> rfl

def first (config : Option (List String)) (d : Driver AtInterface) : Attempt :=
  held (d.iface.cred.next config) (settle (d.iface.cred.next config) d.iface.auth)

structure Left (d : Driver AtInterface) (a : Attempt) : Prop where
  held : held d.iface.cred d.iface.auth = a
  filled : d.iface.cred.fillBlank = d.iface.cred
  settled : settle d.iface.cred d.iface.auth = d.iface.auth

theorem Left.again {d : Driver AtInterface} {a : Attempt} (h : Left d a) : first none d = a := by
  have hn : d.iface.cred.next none = d.iface.cred := h.filled
  rw [first,hn,h.settled,h.held]

theorem Left.apn {d : Driver AtInterface} {a : Attempt} (h : Left d a) :
    d.iface.cred.apn ≠ none := by
  rw [← h.filled]
  rintro ⟨⟩

theorem Left.steady {w w' : RetryStation} {a : Attempt} (h : Left w.driver a)
    (hw : Steady w w') : Left w'.driver a := by
  constructor
  · rw [hw.cred,hw.auth,h.held]
  · rw [hw.cred,h.filled]
  · rw [hw.cred,hw.auth,h.settled]

theorem connectOnce_left {w : RetryStation} (config : Option (List String))
    (hw : w.modem.status = none) :
    wp retryModem.spec (connectOnce config) (fun r w' => r.2 = restCredentials config ∧
      Left w'.driver (first config w.driver) ∧
      w'.modem = { w.modem with
        attempts := w.modem.attempts ++ [first config w.driver] }) w := by
  simp only [connectOnce,getNextCredentials,wp_bind,Modem.wp_modify,wp_get,wp_pure,
    Modem.wp_enter,wp_ite]
  intro _
  have hleft : ∀ u, Steady { w with
      driver := { w.driver with iface := { w.driver.iface with
        cred := w.driver.iface.cred.next config
        auth := settle (w.driver.iface.cred.next config) w.driver.iface.auth } }
      modem := { w.modem with attempts := w.modem.attempts ++ [first config w.driver] } } u →
      Left u.driver (first config w.driver) ∧
        u.modem = { w.modem with
          attempts := w.modem.attempts ++ [first config w.driver] } := by
    intro u hu
    refine ⟨?_,hu.modem⟩
    refine Left.steady ⟨rfl,?_,?_⟩ hu
    · rfl
    · exact settle_idem _ _
  split
  · exact steady_run hw (fun _ u hu => ⟨trivial,hleft u hu⟩)
  · refine steady_run hw (fun b u hu => ?_)
    split
    · exact ⟨trivial,hleft u hu⟩
    · exact steady_run (by rw [hu.modem]; exact hw) (fun _ v hv =>
        ⟨trivial,hleft v (hu.trans hv)⟩)

theorem connectLoop_left {w : RetryStation} (config : Option (List String))
    (hw : w.modem.status = none) (ha : w.modem.attempts = []) :
    wp retryModem.spec (connectLoop config) (fun success w' => success = false →
      ∃ (earlier later : List Attempt) (a : Attempt),
        w'.modem = { w.modem with attempts := first config w.driver :: later } ∧
        Left w'.driver a ∧ first config w.driver :: later = earlier ++ [a] ∧
        (later = [] ↔ hasMore (restCredentials config) = false)) w := by
  rw [connectLoop]
  refine wp_iterate (fun config' u => (config' = config ∧ u = w) ∨
    (hasMore (restCredentials config) = true ∧ ∃ later, u.modem = { w.modem with
      attempts := first config w.driver :: later })) (.inl ⟨rfl,rfl⟩) ?_
  intro config' u hu
  have hstatus : u.modem.status = none := by
    rcases hu with ⟨-,rfl⟩ | ⟨-,later,hm⟩
    · exact hw
    · rw [hm]
      exact hw
  refine wp_seq retryModem.mono (connectOnce_left config' hstatus) (fun r v hr => ?_)
  obtain ⟨hrest,hleft,hm⟩ := hr
  rw [wp_pure]
  rcases hu with ⟨rfl,rfl⟩ | ⟨hmore,later,hu⟩
  · have hv : v.modem = { u.modem with attempts := [first config' u.driver] } := by
      rw [hm,ha]
      rfl
    split
    · rename_i hgo
      refine .inr ⟨?_,[],hv⟩
      rw [← hrest]
      exact (Bool.and_eq_true_iff.mp hgo).2
    · rename_i hstop
      intro hfail
      refine ⟨[],[],_,hv,hleft,rfl,fun _ => ?_,fun _ => rfl⟩
      rw [← hrest]
      cases hmore : hasMore r.2 with
      | false => rfl
      | true =>
        have hfail' : r.1 = false := hfail
        exact absurd (by rw [hfail',hmore]; rfl) hstop
  · have hv : v.modem = { w.modem with
        attempts := first config w.driver :: (later ++ [first config' u.driver]) } := by
      rw [hm,hu]
      rfl
    split
    · exact .inr ⟨hmore,_,hv⟩
    · intro _
      refine ⟨first config w.driver :: later,_,_,hv,hleft,rfl,fun h => ?_,fun h => ?_⟩
      · exact absurd h (by simp)
      · rw [hmore] at h
        cases h

theorem events_steady {w v : RetryStation} (h : retryModem.Events w v) : Steady w v := by
  induction h with
  | refl => exact Steady.refl w
  | tail _ huv ih =>
    obtain ⟨hm,urc,hd⟩ := huv
    obtain ⟨hc,ha⟩ := handle_cred urc _
    exact ih.trans ⟨hd ▸ hc,hd ▸ ha,hm⟩

def searched (d : Driver AtInterface) (x : History) : Option (List String) :=
  if d.iface.cred.apn = none then x.offered else none

inductive Failed (d : Driver AtInterface) (w : RetryStation) : Prop
  | untried : w.modem.inactive = false → w.modem.attempts = [] → Failed d w
  | tried {earlier later : List Attempt} {a : Attempt} : w.modem.inactive = true →
      w.modem.attempts = first (searched d w.modem) d :: later →
      w.modem.attempts = earlier ++ [a] → Left w.driver a →
      (later = [] ↔ hasMore (restCredentials (searched d w.modem)) = false) → Failed d w

theorem Failed.empty {d : Driver AtInterface} {w : RetryStation} (hw : w.modem = .empty) :
    Failed d w := by
  refine .untried ?_ ?_
  · rw [hw]
    rfl
  · rw [hw]
    rfl

theorem Failed.same {d d' : Driver AtInterface} {w : RetryStation} (h : Failed d w)
    (hc : d'.iface.cred = d.iface.cred) (ha : d'.iface.auth = d.iface.auth) : Failed d' w := by
  have hs : searched d' w.modem = searched d w.modem := by rw [searched,searched,hc]
  have hf : ∀ config, first config d' = first config d := by
    intro config
    rw [first,first,hc,ha]
  cases h with
  | untried hi hn => exact .untried hi hn
  | tried hi hn he hl hm => exact .tried hi (by rw [hs,hf]; exact hn) he hl (by rw [hs]; exact hm)

theorem loop_failed {w : RetryStation} {offered : Option (List String)}
    (hw : w.modem = { History.empty with inactive := true, offered := offered }) :
    wp retryModem.spec (connectLoop (searched w.driver w.modem))
      (fun success w' => success = false → Failed w.driver w') w := by
  have hstatus : w.modem.status = none := by rw [hw]; rfl
  have hnone : w.modem.attempts = [] := by rw [hw]; rfl
  refine wp_mono retryModem.mono (fun success w' h hfail => ?_)
    (connectLoop_left (searched w.driver w.modem) hstatus hnone)
  obtain ⟨earlier,later,a,hm,hleft,he,hmore⟩ := h hfail
  have hs : searched w.driver w'.modem = searched w.driver w.modem := by rw [hm]; rfl
  have ha : w'.modem.attempts = first (searched w.driver w.modem) w.driver :: later := by
    rw [hm]
  refine .tried ?_ (by rw [hs]; exact ha) (ha.trans he) hleft (by rw [hs]; exact hmore)
  rw [hm,hw]

theorem activeLoop_failed {w : RetryStation}
    (hw : w.modem = { History.empty with inactive := true }) :
    wp retryModem.spec (do
      let d ← get
      let config ← if d.iface.cred.apn = none then act (.apnconfig d.base.devInfo.imsi)
        else pure none
      connectLoop config) (fun success w' => success = false → Failed w.driver w') w := by
  simp only [wp_bind,wp_get,wp_ite,wp_pure]
  split
  · rename_i hapn
    rw [Modem.wp_asks rfl]
    intro b _
    have hx : ({ w.modem with offered := b } : History) =
        { History.empty with inactive := true, offered := b } := by rw [hw]
    have hs : searched w.driver { w.modem with offered := b } = b := if_pos hapn
    have hl := @loop_failed { w with modem := { w.modem with offered := b } } b hx
    rw [hs] at hl
    exact hl
  · rename_i hapn
    have hs : searched w.driver w.modem = none := if_neg hapn
    have hl := @loop_failed w none (by rw [hw]; rfl)
    rw [hs] at hl
    exact hl

theorem connectModemStack_failed {w : RetryStation} (hw : w.modem = .empty) :
    wp retryModem.spec connectModemStack
      (fun success w' => success = false → Failed w.driver w') w := by
  simp only [connectModemStack,Modem.wp_locked,wp_bind,Modem.wp_ask]
  intro o ho b _
  have hso := events_steady ho
  cases b with
  | false => exact fun _ => .empty (hso.modem.trans hw)
  | true =>
    rw [if_pos rfl,Modem.wp_recv]
    intro v r hv _
    have hsv : Steady w v := hso.trans (events_steady hv)
    have hmv : v.modem = .empty := hsv.modem.trans hw
    cases r with
    | none =>
      intro _
      apply Failed.empty
      change ({ v.modem with status := none } : History) = .empty
      rw [hmv]
      rfl
    | some active =>
      rw [Option.elim_some,wp_bind,Modem.wp_recvOk]
      intro u r hu _
      have hsu := events_steady hu
      have hmu : u.modem = { History.empty with status := some active } := by
        refine hsu.modem.trans ?_
        change ({ v.modem with status := some active } : History) = _
        rw [hmv]
      have hheard : u.modem.heardOk r.isSome =
          { History.empty with inactive := r.isSome && decide (active = 0) } := by
        rw [hmu]
        simp [History.heardOk,History.empty]
      cases r with
      | none =>
        intro _
        apply Failed.empty
        change u.modem.heardOk false = .empty
        exact hheard
      | some ok =>
        simp only [Option.isSome_some,if_true,wp_ite,wp_pure]
        split
        · rename_i hactive
          refine wp_mono retryModem.mono (fun success w' h hfail => ?_)
            (@activeLoop_failed { u with modem := u.modem.heardOk true } ?_)
          · refine (h hfail).same ?_ ?_
            · exact (hsu.cred.trans hsv.cred).symm
            · exact (hsu.auth.trans hsv.auth).symm
          · refine hheard.trans ?_
            rw [hactive]
            rfl
        · intro h
          cases h

theorem stack_failed {w v : RetryStation} (registered : Bool) (hw : w.modem = .empty)
    (hv : Steady w v) :
    wp retryModem.spec ((pure registered : AtCode Bool).both connectModemStack)
      (fun success w' => success = false → Failed w.driver w') v := by
  have hm : v.modem = .empty := hv.modem.trans hw
  rw [wp_both,wp_pure]
  split
  · refine wp_mono retryModem.mono (fun success w' h hfail => ?_) (connectModemStack_failed hm)
    exact (h hfail).same hv.cred.symm hv.auth.symm
  · exact fun _ => .empty hm

theorem connect_failed {w : RetryStation} (hw : w.modem = .empty) :
    wp retryModem.spec connect (fun r w' => r ≠ NsapiError.ok → Failed w.driver w') w := by
  have hstatus : ∀ {v}, Steady w v → v.modem.status = none := by
    intro v hv
    rw [hv.modem,hw]
    rfl
  have hstack : ∀ (r : Int × Bool) {v : RetryStation}, Steady w v →
      wp retryModem.spec ((pure r.2 : AtCode Bool).both connectModemStack)
        (fun b w' => if b = true then NsapiError.ok ≠ NsapiError.ok → Failed w.driver w'
          else r.1 ≠ NsapiError.ok → Failed w.driver w') v := by
    intro r v hv
    refine wp_mono retryModem.mono (fun b w' h => ?_) (stack_failed r.2 hw hv)
    cases b with
    | true => exact fun hne => absurd rfl hne
    | false => exact fun _ => h rfl
  simp only [connect,wp_bind,wp_ite,wp_pure]
  refine steady_run (by rw [hw]; rfl) (fun started u hu => ?_)
  split
  · refine steady_run (hstatus hu) (fun error v hv => ?_)
    split
    · refine steady_run (hstatus (hu.trans hv)) (fun registered v' hv' => ?_)
      exact hstack (error, registered) ((hu.trans hv).trans hv')
    · exact hstack (error, false) (hu.trans hv)
  · exact hstack (NsapiError.deviceError, false) hu

theorem Failed.again {d : Driver AtInterface} {w₁ w₂ v : RetryStation} (h₁ : Failed d w₁)
    (hv : Steady w₁ v) (h₂ : Failed v.driver w₂) :
    w₂.modem.attempts = w₁.modem.attempts ↔ w₁.modem.inactive = w₂.modem.inactive ∧
      (w₁.modem.inactive = true →
        hasMore (restCredentials (searched d w₁.modem)) = false) := by
  cases h₁ with
  | untried hi₁ hn₁ =>
    cases h₂ with
    | untried hi₂ hn₂ => simp [hi₁,hn₁,hi₂,hn₂]
    | tried hi₂ hn₂ _ _ _ => simp [hi₁,hn₁,hi₂,hn₂]
  | @tried earlier later a hi₁ hn₁ he hleft hmore =>
    cases h₂ with
    | untried hi₂ hn₂ => simp [hi₁,hn₁,hi₂,hn₂]
    | @tried _ later₂ _ hi₂ hn₂ _ _ hmore₂ =>
      have hlv := hleft.steady hv
      have hnone : searched v.driver w₂.modem = none := if_neg hlv.apn
      have hlater : later₂ = [] := hmore₂.mpr (by rw [hnone]; rfl)
      have hagain : w₂.modem.attempts = [a] := by
        rw [hn₂,hlater,hnone,hlv.again]
      rw [hagain,hi₁,hi₂,← hmore]
      constructor
      · intro hsame
        refine ⟨rfl,fun _ => ?_⟩
        rw [hn₁] at hsame
        exact (List.cons.inj hsame).2.symm
      · rintro ⟨-,hnil⟩
        rw [hnil rfl] at hn₁
        rw [hn₁] at he ⊢
        have hlast := congrArg List.getLast? he
        rw [List.getLast?_singleton,List.getLast?_concat] at hlast
        rw [Option.some.inj hlast]

def begin (d : Driver AtInterface) : RetryStation := ⟨d,.empty⟩

theorem retry_same {d : Driver AtInterface} {r₁ r₂ : Int} {w₁ v w₂ : RetryStation}
    (h₁ : retryModem.Runs connect (begin d) r₁ w₁) (hr₁ : r₁ ≠ NsapiError.ok)
    (hv : retryModem.Events w₁ v)
    (h₂ : retryModem.Runs connect (begin v.driver) r₂ w₂) (hr₂ : r₂ ≠ NsapiError.ok) :
    w₂.modem.attempts = w₁.modem.attempts ↔ w₁.modem.inactive = w₂.modem.inactive ∧
      (w₁.modem.inactive = true → d.iface.cred.apn = none →
        hasMore (restCredentials w₁.modem.offered) = false) := by
  have hf₁ : Failed d w₁ := Modem.sound (connect_failed rfl) h₁ hr₁
  have hf₂ : Failed (begin v.driver).driver w₂ := Modem.sound (connect_failed rfl) h₂ hr₂
  rw [hf₁.again (events_steady hv) hf₂]
  rw [searched]
  by_cases hapn : d.iface.cred.apn = none
  · rw [if_pos hapn]
    simp [hapn]
  · rw [if_neg hapn]
    simp [hapn,restCredentials,hasMore]

def operator : Modem.Peer (sig AtInterface) History where
  send c _ := c ≠ .upsda 3
  recv
    | _, .ok, w => some (some (), w)
    | _, .unnatural, w => some (none, { w with driver := (Urc.creg 1).handle w.driver })
    | _, .ati, w => some (some "", w)
    | _, .cpin, w => some (some "READY", w)
    | _, .ccid, w => some (some "", w)
    | _, .cimi, w => some (some "", w)
    | _, .cgsn, w => some (some "", w)
    | _, .gsn, w => some (some "", w)
    | _, .upsndStatus, w => some (some 0, w)
    | _, _, w => some (none, w)
  ask
    | _, .apnconfig _, _ => some (some ["one","","","two","","",""])
    | _, .hw _, _ => some ()
    | _, .enter _, _ => some ()
    | _, _, _ => none

theorem operator_fair : operator.Fair retryModem where
  send _ _ := trivial
  recv := by
    intro β p w b v h
    cases p <;> cases h
    case unnatural => exact ⟨.single ⟨rfl,.creg 1,rfl⟩,trivial⟩
    all_goals exact ⟨.refl,trivial⟩
  ask _ _ _ _ _ := trivial

abbrev played (d : Driver AtInterface) : Option (Int × RetryStation) :=
  connect.run (retryModem.machine.play operator.script) 3 (begin d)

def fresh : Driver AtInterface := ⟨.initial 115200,.initial⟩

def given : Driver AtInterface :=
  ⟨.initial 115200,{ AtInterface.initial with
    cred := ⟨some "apn",some "user",some "secret"⟩, auth := .chap }⟩

theorem retry_same_given : ∃ (r₁ r₂ : Int) (w₁ w₂ : RetryStation),
    w₁.modem.attempts = [⟨"apn","user","secret",.chap⟩] ∧
    retryModem.Runs connect (begin given) r₁ w₁ ∧ retryModem.Runs connect (begin w₁.driver) r₂ w₂ ∧
    (w₂.modem.attempts = w₁.modem.attempts ↔ w₁.modem.inactive = w₂.modem.inactive ∧
      (w₁.modem.inactive = true → given.iface.cred.apn = none →
        hasMore (restCredentials w₁.modem.offered) = false)) := by
  have hrun : (played given).bind (fun a => (played a.2.driver).map (fun b =>
      (a.1, b.1, a.2.modem.attempts))) =
      some (NsapiError.noConnection, NsapiError.noConnection,
        [⟨"apn","user","secret",.chap⟩]) := by decide
  obtain ⟨a,ha,hrun⟩ := Option.bind_eq_some_iff.mp hrun
  obtain ⟨b,hb,he⟩ := Option.map_eq_some_iff.mp hrun
  simp only [Prod.mk.injEq] at he
  obtain ⟨ha₁,hb₁,hl⟩ := he
  exact ⟨a.1,b.1,a.2,b.2,hl,operator_fair.runs ha,operator_fair.runs hb,
    retry_same (operator_fair.runs ha) (by rw [ha₁]; decide) .refl
      (operator_fair.runs hb) (by rw [hb₁]; decide)⟩

theorem retry_differs : ¬ ∀ (r₁ r₂ : Int) (w₁ w₂ : RetryStation),
    retryModem.Runs connect (begin fresh) r₁ w₁ → r₁ ≠ NsapiError.ok →
    w₁.modem.inactive = true → retryModem.Runs connect (begin w₁.driver) r₂ w₂ →
    r₂ ≠ NsapiError.ok → w₂.modem.inactive = true →
    w₂.modem.attempts = w₁.modem.attempts := by
  intro hall
  have hrun : (played fresh).bind (fun a => (played a.2.driver).map (fun b =>
      ((a.1, a.2.modem.inactive, a.2.modem.attempts.length),
        (b.1, b.2.modem.inactive, b.2.modem.attempts.length)))) =
      some ((NsapiError.noConnection, true, 2), (NsapiError.noConnection, true, 1)) := by decide
  obtain ⟨a,ha,hrun⟩ := Option.bind_eq_some_iff.mp hrun
  obtain ⟨b,hb,he⟩ := Option.map_eq_some_iff.mp hrun
  simp only [Prod.mk.injEq] at he
  obtain ⟨⟨ha₁,hi₁,hl₁⟩,hb₁,hi₂,hl₂⟩ := he
  have hsame := hall a.1 b.1 a.2 b.2 (operator_fair.runs ha) (by rw [ha₁]; decide) hi₁
    (operator_fair.runs hb) (by rw [hb₁]; decide) hi₂
  rw [hsame,hl₁] at hl₂
  cases hl₂

end RetryStation

end UbloxCellular.Gsm
