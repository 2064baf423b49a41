import UbloxCellular.Gsm.Frames
import UbloxCellular.Gsm.Halting
import UbloxCellular.Ppp.Interface

namespace UbloxCellular.Ppp
open Interaction Code
open Gsm

inductive Reply where
  | context (ok : Bool)
  | dialled (ok : Bool)
  | linked (error : Int)
  deriving DecidableEq, Repr

-- What connect() was told, newest first; asked while AT+CGDCONT waits for its OK.
structure Line where
  asked : Bool
  log : List Reply
  deriving DecidableEq, Repr

namespace Line

def empty : Line := ⟨false,[]⟩

def heard (x : Line) (r : Reply) : Line := ⟨false,r :: x.log⟩

def sent (x : Line) (c : Cmd) (ok : Bool) : Line :=
  match c with
  | .cgdcont _ _ => if ok then { x with asked := true } else x.heard (.context false)
  | .atd => if ok then { x with asked := false } else x.heard (.dialled false)
  | _ => { x with asked := false }

def heardOk (x : Line) (ok : Bool) : Line := if x.asked then x.heard (.context ok) else x

def lastLink (x : Line) : Option Int :=
  (x.log.filterMap (fun r => match r with | .linked error => some error | _ => none)).head?

end Line

def dialModem : Modem (sig PppInterface) Line where
  event x d x' d' := x' = x ∧ ∃ u : Urc, d' = u.handle d
  allow _ _ _ _ _ := True
  next
    | _, .send c, x, _, b => x.sent c b
    | _, .recv .ok, x, _, b => x.heardOk b.isSome
    | _, .recv .connect, x, _, b => x.heard (.dialled b.isSome)
    | _, .pppConnect _ _ _, x, _, b => x.heard (.linked b)
    | _, _, x, _, _ => x

abbrev PppStation := Station (sig PppInterface) Line

namespace PppStation

def up (w : PppStation) : Bool := w.driver.iface.pppConnectionUp

structure Steady (w w' : PppStation) : Prop where
  up : w'.up = w.up
  modem : w'.modem = w.modem

theorem Steady.refl (w : PppStation) : Steady w w := ⟨rfl,rfl⟩

theorem Steady.trans {u v w : PppStation} (h : Steady u v) (k : Steady v w) : Steady u w :=
  ⟨k.up.trans h.up,k.modem.trans h.modem⟩

theorem heardOk_idle {x : Line} (h : x.asked = false) (ok : Bool) : x.heardOk ok = x := by
  rw [Line.heardOk,h]
  rfl

theorem sent_idle {x : Line} (h : x.asked = false) : ({ x with asked := false } : Line) = x := by
  cases x
  cases h
  rfl

theorem event_steady {u v : PppStation}
    (h : dialModem.event u.modem u.driver v.modem v.driver) : Steady u v := by
  obtain ⟨hx,r,hd⟩ := h
  refine ⟨?_,hx⟩
  rw [up,up,hd,Urc.handle_iface]

def steady : dialModem.Kept where
  pre w := w.modem.asked = false
  rel := Steady
  refl := Steady.refl
  trans _ _ _ := Steady.trans
  keep _ _ h hw := by
    rw [h.modem]
    exact hw
  event _ _ _ := event_steady

theorem sent_steady {c : Cmd} {w : PppStation} {b : Bool} (hw : w.modem.asked = false)
    (hc : ∀ cid apn, c ≠ .cgdcont cid apn) (hd : c ≠ .atd) :
    Steady w { w with modem := w.modem.sent c b } := by
  refine ⟨rfl,?_⟩
  change w.modem.sent c b = w.modem
  unfold Line.sent
  split
  · exact absurd rfl (hc _ _)
  · exact absurd rfl hd
  · exact sent_idle hw

instance : Ordinary steady.frame := by
  apply ordinary_kept
  · intro β e w b he hw _
    cases e with
    | recv p =>
      cases p with
      | ok => exact ⟨rfl,heardOk_idle hw _⟩
      | connect => cases he
      | _ => exact Steady.refl w
    | send c => cases he
    | pppConnect => cases he
    | _ => exact Steady.refl w
  · intro c w b hc hw _
    exact sent_steady hw (by rintro _ _ rfl; cases hc) (by rintro rfl; cases hc)
  · intro h w b _ _ _
    exact Steady.refl w
  · intro f w _
    exact ⟨rfl,rfl⟩

instance : Basal steady.frame where
  sim c hc := Modem.Kept.keeps_act rfl
    (fun _ _ hw _ => sent_steady hw (by rintro _ _ rfl; cases hc) (by rintro rfl; cases hc))
  cpin := Modem.Kept.keeps_act rfl (fun w _ _ _ => Steady.refl w)
  power := Modem.Kept.keeps_act rfl (fun w _ _ _ => Steady.refl w)
  base _ := Modem.Kept.keeps_modify (fun _ _ => ⟨rfl,rfl⟩)
  enter _ _ := Modem.Kept.keeps_act rfl (fun w _ _ _ => Steady.refl w)

set_option synthInstance.maxSize 8192 in
instance (error : Int) : steady.frame.Keeps (pendingSimActions error) := by
  have hm (f : PppInterface → PppInterface) (hf : ∀ i, (f i).pppConnectionUp = i.pppConnectionUp) :
      steady.frame.Keeps (modify (Driver.onIface f)) :=
    Modem.Kept.keeps_modify (fun w _ => ⟨hf w.driver.iface,rfl⟩)
  have hcheck := hm (fun i => { i with simPinCheckChangePending := false }) (fun _ => rfl)
  have hpin := hm (fun i => { i with simPinChangePending := false }) (fun _ => rfl)
  rw [pendingSimActions]
  infer_instance

instance : steady.frame.Keeps register := by
  rw [register]
  infer_instance

instance : steady.frame.Keeps commandMode := by
  have hs : steady.frame.Keeps (send .escape) := Modem.Kept.keeps_act rfl
    (fun _ b hw _ => sent_steady (c := .escape) (b := b) hw (by rintro _ _ ⟨⟩) (by rintro ⟨⟩))
  have hr : steady.frame.Keeps (recv .noCarrier : PppCode (Option Unit)) :=
    Modem.Kept.keeps_act rfl (fun w _ _ _ => Steady.refl w)
  rw [commandMode]
  infer_instance

theorem steady_run {α : Type} {p : PppCode α} [hp : steady.frame.Keeps p]
    {Q : α → PppStation → Prop} {w : PppStation} (hw : w.modem.asked = false)
    (hq : ∀ a w', Steady w w' → Q a w') : wp dialModem.spec p Q w :=
  wp_mono dialModem.mono hq (hp.run w hw)

structure Hears (r : Reply) (w w' : PppStation) : Prop where
  up : w'.up = w.up
  modem : w'.modem = w.modem.heard r

theorem events_steady {w v : PppStation} (h : dialModem.Events w v) : Steady w v :=
  Modem.events_keep h (Steady.refl w) (fun _ _ hu huv => hu.trans (event_steady huv))

theorem Steady.hears {u v w : PppStation} {r : Reply} (h : Steady u v) (k : Hears r v w) :
    Hears r u w := ⟨k.up.trans h.up,k.modem.trans (congrArg (Line.heard · r) h.modem)⟩

theorem setup_hears {w : PppStation} (hapn : w.driver.iface.cred.apn ≠ none)
    {Q : Int → PppStation → Prop} (h : ∀ ok w', Hears (.context ok) w w' →
      Q (if ok then NsapiError.ok else NsapiError.parameter) w') :
    wp dialModem.spec setupContextAndCredentials Q w := by
  obtain ⟨apn,ha⟩ := Option.ne_none_iff_exists'.mp hapn
  rw [setupContextAndCredentials,wp_bind,wp_get,Modem.wp_locked]
  intro v hv
  have hwv := events_steady hv
  rw [ha,Option.elim_some,wp_bind,Modem.wp_exchange]
  intro b _
  cases b with
  | false => exact h false _ (hwv.hears ⟨rfl,rfl⟩)
  | true =>
    rw [if_pos rfl,Modem.wp_recvOk]
    intro u r hu _
    have hvu := events_steady hu
    have hheard : Hears (.context r.isSome) v
        { u with modem := u.modem.heardOk r.isSome } := by
      refine ⟨hvu.up,?_⟩
      change u.modem.heardOk r.isSome = _
      rw [hvu.modem]
      rfl
    have hq := h r.isSome _ (hwv.hears hheard)
    cases r with
    | none => exact hq
    | some _ =>
      simp only [Option.isSome_some,if_true,wp_bind,Modem.wp_wait,wp_pure]
      exact hq

theorem setAtd_hears {w : PppStation} {Q : Bool → PppStation → Prop}
    (h : ∀ ok w', Hears (.dialled ok) w w' → Q ok w') : wp dialModem.spec setAtd Q w := by
  simp only [setAtd,Modem.wp_locked,wp_bind,wp_pure,Modem.wp_ask]
  intro v hv b _
  have hwv := events_steady hv
  cases b with
  | false => exact h false _ (hwv.hears ⟨rfl,rfl⟩)
  | true =>
    rw [if_pos rfl,Modem.wp_recv]
    intro u r hu _
    have hvu := events_steady hu
    refine h r.isSome _ (hwv.hears ⟨hvu.up,?_⟩)
    change u.modem.heard (.dialled r.isSome) = _
    rw [hvu.modem]
    rfl

structure Linked (error : Int) (w w' : PppStation) : Prop where
  up : w'.up = decide (error = NsapiError.ok)
  modem : w'.modem = w.modem.heard (.linked error)

theorem pppConnect_linked {w : PppStation} {Q : Int → PppStation → Prop}
    (h : ∀ error w', Linked error w w' → Q error w') : wp dialModem.spec pppConnect Q w := by
  rw [pppConnect,wp_bind,Modem.wp_wait,wp_bind,wp_get,wp_bind,Modem.wp_asks rfl]
  intro error _
  rw [wp_bind,Modem.wp_modify]
  by_cases he : error = NsapiError.ok
  · simp only [he,ne_eq,not_true,if_false,wp_pure]
    exact h _ _ ⟨rfl,rfl⟩
  · simp only [he,ne_eq,not_false_eq_true,if_true,wp_bind,wp_pure]
    refine steady_run rfl (fun _ w' hw' => h error w' ⟨?_,hw'.modem⟩)
    rw [hw'.up,decide_eq_false he]
    rfl

def Unlinked (log : List Reply) : Prop := ∀ error, .linked error ∈ log → error ≠ NsapiError.ok

inductive Round : Int → Bool → Line → Prop
  | refused {log : List Reply} : Unlinked log →
      Round NsapiError.parameter false ⟨false,.context false :: log⟩
  | undialled {log : List Reply} : Unlinked log →
      Round NsapiError.ok false ⟨false,.dialled false :: log⟩
  | linked {log : List Reply} (error : Int) : Unlinked log →
      Round error (decide (error = NsapiError.ok)) ⟨false,.linked error :: log⟩

structure Ready (w : PppStation) : Prop where
  up : w.up = false
  asked : w.modem.asked = false
  unlinked : Unlinked w.modem.log

theorem Unlinked.cons {log : List Reply} {r : Reply} (h : Unlinked log)
    (hr : ∀ error, r = .linked error → error ≠ NsapiError.ok) : Unlinked (r :: log) := by
  intro error he
  rcases List.mem_cons.mp he with hs | hs
  · exact hr error hs.symm
  · exact h error hs

theorem Round.ready {error : Int} {w : PppStation} (h : Round error w.up w.modem)
    (hup : w.up = false) : Ready w := by
  rw [hup] at h
  generalize hx : w.modem = x at h
  generalize hf : false = up at h
  have hlog : x.asked = false ∧ Unlinked x.log := by
    cases h with
    | refused hl => exact ⟨rfl,hl.cons (by rintro _ ⟨⟩)⟩
    | undialled hl => exact ⟨rfl,hl.cons (by rintro _ ⟨⟩)⟩
    | linked error hl =>
      refine ⟨rfl,hl.cons ?_⟩
      rintro _ ⟨rfl⟩
      exact of_decide_eq_false hf.symm
  exact ⟨hup,by rw [hx]; exact hlog.1,by rw [hx]; exact hlog.2⟩

theorem connectOnce_round {w : PppStation} (hw : Ready w) (config : Option (List String)) :
    wp dialModem.spec (connectOnce config) (fun r (w' : PppStation) => Round r.1 w'.up w'.modem) w := by
  rw [connectOnce,getNextCredentials,wp_bind,wp_bind,Modem.wp_modify,wp_pure,wp_bind]
  refine setup_hears (by rintro ⟨⟩) (fun ok u hu => ?_)
  have hup : u.up = false := hu.up.trans hw.up
  have hmu : u.modem = w.modem.heard (.context ok) := hu.modem
  have hlog : Unlinked (w.modem.heard (.context ok)).log := hw.unlinked.cons (by rintro _ ⟨⟩)
  cases ok with
  | false =>
    rw [if_neg (by decide),if_neg (by decide),wp_pure,hup,hmu]
    exact .refused hw.unlinked
  | true =>
    rw [if_pos rfl,if_pos rfl,wp_bind]
    refine setAtd_hears (fun ok v hv => ?_)
    have hmv : v.modem = (w.modem.heard (.context true)).heard (.dialled ok) := by
      rw [hv.modem,hmu]
    cases ok with
    | false =>
      rw [if_neg (by decide),wp_pure,hv.up.trans hup,hmv]
      exact .undialled hlog
    | true =>
      rw [if_pos rfl,wp_bind]
      refine pppConnect_linked (fun error w' hw' => ?_)
      rw [wp_pure,hw'.up,hw'.modem,hmv]
      exact .linked error (hlog.cons (by rintro _ ⟨⟩))

theorem connectLoop_round {w : PppStation} (hw : Ready w) (config : Option (List String)) :
    wp dialModem.spec (connectLoop config) (fun r (w' : PppStation) => Round r w'.up w'.modem) w := by
  refine wp_iterate (fun _ => Ready) hw (fun config u hu => ?_)
  refine wp_seq dialModem.mono (connectOnce_round hu config) (fun r v hv => ?_)
  rw [wp_bind,wp_get,wp_pure]
  split
  · rename_i hmore
    refine hv.ready ?_
    exact (Bool.not_eq_true' _).mp (Bool.and_eq_true_iff.mp hmore).1
  · exact hv

inductive Reported (r : Int) (w : PppStation) : Prop
  | undialled : r ≠ NsapiError.ok → w.up = false → w.modem = .empty → Reported r w
  | dialled : Round r w.up w.modem → Reported r w

def begin (d : PppDriver) : PppStation := ⟨d,.empty⟩

theorem connect_reported {d : PppDriver} (hd : d.iface.pppConnectionUp = false) :
    wp dialModem.spec connect Reported (begin d) := by
  have hdown : (begin d).driver.iface.pppConnectionUp = false := hd
  rw [connect,wp_bind,wp_get,hdown,if_neg Bool.false_ne_true,wp_bind]
  refine steady_run rfl (fun error u hu => ?_)
  have hup : u.up = false := hu.up.trans hd
  rw [wp_ite]
  split
  · simp only [dial,wp_bind,wp_get,wp_ite,wp_pure]
    have hround (w : PppStation) (hw : Steady u w) (config : Option (List String)) :
        wp dialModem.spec (connectLoop config) Reported w := by
      refine wp_mono dialModem.mono (fun r v hv => .dialled hv) (connectLoop_round ?_ config)
      refine ⟨hw.up.trans hup,?_,?_⟩
      · rw [hw.modem,hu.modem]
        rfl
      · rw [hw.modem,hu.modem]
        intro error he
        cases he
    split
    · rw [Modem.wp_asks rfl]
      exact fun config _ => hround _ ⟨rfl,rfl⟩ config
    · exact hround _ (Steady.refl u) none
  · exact .undialled ‹_› hup hu.modem

structure Truthful (r : Int) (w : PppStation) : Prop where
  linked : r = NsapiError.ok ↔ w.modem.lastLink = some NsapiError.ok
  connected : ∀ b v, dialModem.Runs isConnected w b v → (b = true ↔ r = NsapiError.ok)

theorem Unlinked.lastLink {log : List Reply} (h : Unlinked log) (asked : Bool) :
    Line.lastLink ⟨asked,log⟩ ≠ some NsapiError.ok := by
  intro hl
  have hm := List.mem_of_mem_head? hl
  obtain ⟨r,hr,he⟩ := List.mem_filterMap.mp hm
  cases r with
  | linked error =>
    cases he
    exact h _ hr rfl
  | context ok => cases he
  | dialled ok => cases he

theorem truthful_iff {r : Int} {w : PppStation} : Truthful r w ↔
    (r = NsapiError.ok ↔ w.modem.lastLink = some NsapiError.ok) ∧
      (w.up = true ↔ r = NsapiError.ok) := by
  have hc := isConnected_iff (M := dialModem) (w := w) (P := fun b => b = true ↔ r = NsapiError.ok)
  exact ⟨fun h => ⟨h.linked,hc.mp h.connected⟩,fun h => ⟨h.1,hc.mpr h.2⟩⟩

theorem Reported.truthful {r : Int} {w : PppStation} (h : Reported r w) :
    Truthful r w ↔ w.modem.log.head? ≠ some (.dialled false) := by
  rw [truthful_iff]
  cases h with
  | undialled hr hup hx =>
    rw [hup,hx]
    simp [Line.lastLink,Line.empty,hr]
  | dialled h =>
    generalize w.modem = x at h ⊢
    generalize w.up = up at h ⊢
    cases h with
    | @refused log hl =>
      have hn := hl.lastLink false
      have hnext : Line.lastLink ⟨false,.context false :: log⟩ = Line.lastLink ⟨false,log⟩ := rfl
      have hr : NsapiError.parameter ≠ NsapiError.ok := by decide
      rw [hnext]
      simp [hn,hr]
    | @undialled log hl =>
      have hnext : Line.lastLink ⟨false,.dialled false :: log⟩ = Line.lastLink ⟨false,log⟩ := rfl
      have hn := hl.lastLink false
      rw [hnext]
      simp [hn]
    | @linked log _ hl =>
      have hnext : Line.lastLink ⟨false,.linked r :: log⟩ = some r := rfl
      rw [hnext]
      simp

section Halts
variable {X : Type} {M : Modem (sig PppInterface) X}

instance : Halting M.machine.handler setupContextAndCredentials := by
  rw [setupContextAndCredentials]
  infer_instance

instance : Halting M.machine.handler setAtd := by
  rw [setAtd]
  infer_instance

instance : Halting M.machine.handler commandMode := by
  rw [commandMode]
  infer_instance

instance : Halting M.machine.handler pppConnect := by
  rw [pppConnect]
  infer_instance

instance (config : Option (List String)) : Halting M.machine.handler (getNextCredentials config) := by
  rw [getNextCredentials]
  infer_instance

instance (config : Option (List String)) : Halting M.machine.handler (connectOnce config) := by
  rw [connectOnce]
  infer_instance

set_option synthInstance.maxSize 8192 in
instance (error : Int) : Halting M.machine.handler (pendingSimActions error) := by
  rw [pendingSimActions]
  infer_instance

instance : Halting M.machine.handler register := by
  rw [register]
  infer_instance

theorem connectOnce_rest (config : Option (List String)) (w : Station (sig PppInterface) X) :
    wp M.spec (connectOnce config) (fun r _ => r.2 = restCredentials config) w := by
  rw [connectOnce,getNextCredentials,wp_bind,wp_bind,Modem.wp_modify,wp_pure,wp_bind]
  refine wp_always (fun error u => ?_) _
  rw [wp_ite,wp_bind]
  split
  · refine wp_always (fun ok v => ?_) _
    rw [wp_ite,wp_bind]
    split
    · exact wp_always (fun _ _ => rfl) _
    · rfl
  · rfl

-- Every further round has a shorter list of credentials.
theorem connectLoop_halts (config : Option (List String)) (w : Station (sig PppInterface) X) :
    Halts M.machine.handler (connectLoop config) w := by
  refine Halts.iterate (InvImage.wf (fun x => triplesLeft x.1) Nat.lt_wfRel.wf) (fun _ _ => True)
    trivial (fun config w _ => Halting.run w) (fun config w _ => ?_)
  refine wp_seq M.mono (connectOnce_rest config w) (fun r v hr => ?_)
  rw [wp_bind,wp_get,wp_pure]
  intro next hnext
  split at hnext
  · rename_i hmore
    cases hnext
    refine ⟨trivial,?_⟩
    have hrest := (Bool.and_eq_true_iff.mp hmore).2
    rw [hr] at hrest
    change triplesLeft r.2 < triplesLeft config
    rw [hr]
    exact rest_shorter hrest
  · cases hnext

instance (config : Option (List String)) : Halting M.machine.handler (connectLoop config) :=
  ⟨connectLoop_halts config⟩

instance : Halting M.machine.handler dial := by
  rw [dial]
  infer_instance

instance : Halting M.machine.handler connect := by
  rw [connect]
  infer_instance

end Halts

theorem connect_truthful {d : PppDriver} (hd : d.iface.pppConnectionUp = false) :
    Halts dialModem.machine.handler connect (begin d) ∧
    ∀ (r : Int) (w : PppStation), dialModem.Runs connect (begin d) r w →
      (Truthful r w ↔ w.modem.log.head? ≠ some (.dialled false)) :=
  ⟨Halting.run _,fun _ _ hx => (Modem.sound (connect_reported hd) hx).truthful⟩

def answering (connect : Option Unit) : Modem.Peer (sig PppInterface) Line where
  send _ _ := true
  recv
    | _, .ok, w => some (some (), w)
    | _, .connect, w => some (connect, w)
    | _, _, w => some (none, w)
  ask
    | _, .pppConnect _ _ _, _ => some NsapiError.ok
    | _, .hw _, _ => some ()
    | _, .enter _, _ => some ()
    | _, _, _ => none

theorem answering_fair (connect : Option Unit) : (answering connect).Fair dialModem where
  send _ _ := trivial
  recv := by
    intro β p w b v h
    cases p <;> cases h <;> exact ⟨.refl,trivial⟩
  ask _ _ _ _ _ := trivial

def registered : PppDriver where
  base := { Base.initial 115200 with
    modemInitialised := true, devInfo := ⟨.none,"","","","",0,1,0,0⟩ }
  iface := { PppInterface.initial with cred := ⟨some "apn",some "user",some "secret"⟩ }

abbrev played (connected : Option Unit) : Option (Int × PppStation) :=
  connect.run (dialModem.machine.play (answering connected).script) 1 (begin registered)

theorem connect_truthful_linked : ∃ (r : Int) (w : PppStation),
    w.modem.log = [.linked NsapiError.ok,.dialled true,.context true] ∧
    dialModem.Runs connect (begin registered) r w ∧
    (Truthful r w ↔ w.modem.log.head? ≠ some (.dialled false)) := by
  have hrun : (played (some ())).map (fun x => x.2.modem.log) =
      some [.linked NsapiError.ok,.dialled true,.context true] := by decide
  obtain ⟨x,hx,hl⟩ := Option.map_eq_some_iff.mp hrun
  exact ⟨x.1,x.2,hl,(answering_fair _).runs hx,
    (connect_truthful rfl).2 x.1 x.2 ((answering_fair _).runs hx)⟩

theorem connect_untruthful : ¬ ∀ (d : PppDriver) (r : Int) (w : PppStation),
    d.iface.pppConnectionUp = false → dialModem.Runs connect (begin d) r w → Truthful r w := by
  intro hall
  have hrun : (played none).map (fun x => (x.1, x.2.modem.lastLink)) =
      some (NsapiError.ok, none) := by decide
  obtain ⟨x,hx,hl⟩ := Option.map_eq_some_iff.mp hrun
  obtain ⟨hr,hn⟩ := Prod.mk.inj hl
  have ht := hall registered x.1 x.2 rfl ((answering_fair _).runs hx)
  have hlinked := ht.linked.mp hr
  rw [hn] at hlinked
  cases hlinked

end PppStation

end UbloxCellular.Ppp
