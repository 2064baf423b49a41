import UbloxCellular.Gsm.Frames

namespace UbloxCellular.Gsm
open Interaction Code

inductive Network where
  | csd
  | psd
  | eps
  deriving DecidableEq, Repr

def Network.registers : Network → UInt8 → Bool
  | .csd, status => status = 1 || status = 5 || status = 9
  | _, status => status = 1 || status = 5

def DeviceInfo.status (i : DeviceInfo) : Network → UInt8
  | .csd => i.regStatusCsd
  | .psd => i.regStatusPsd
  | .eps => i.regStatusEps

-- A +CREG, +CGREG or +CEREG line as its handler leaves it.
structure RegResult where
  network : Network
  status : UInt8
  deriving DecidableEq, Repr

def RegResult.store (r : RegResult) (i : DeviceInfo) : DeviceInfo :=
  match r.network with
  | .csd => { i with regStatusCsd := r.status }
  | .psd => { i with regStatusPsd := r.status }
  | .eps => { i with regStatusEps := r.status }

def RegResult.of : Urc → Option RegResult
  | .creg status => some ⟨.csd,UInt8.ofInt status⟩
  | .cgreg status => some ⟨.psd,UInt8.ofInt status⟩
  | .cereg status => some ⟨.eps,UInt8.ofInt status⟩
  | _ => none

theorem handle_result {u : Urc} {r : RegResult} (h : RegResult.of u = some r) :
    u.handle = Driver.onInfo r.store := by
  cases u <;> cases h <;> rfl

def newest (k : Network) : List RegResult → Option UInt8
  | [] => none
  | r :: rs => if r.network = k then some r.status else newest k rs

theorem store_status (r : RegResult) (i : DeviceInfo) (k : Network) :
    (r.store i).status k = if r.network = k then r.status else i.status k := by
  obtain ⟨network,status⟩ := r
  cases network <;> cases k <;> rfl

theorem stored_status (rs : List RegResult) (i : DeviceInfo) (k : Network) :
    (rs.foldr RegResult.store i).status k = (newest k rs).getD (i.status k) := by
  induction rs with
  | nil => rfl
  | cons r rs ih =>
    rw [List.foldr_cons,store_status,newest,ih]
    split <;> rfl

theorem isRegistered_iff (b : Base) :
    b.isRegistered = false ↔ ∀ k : Network, k.registers (b.devInfo.status k) = false := by
  simp only [Base.isRegistered,Bool.or_eq_false_iff]
  constructor
  · rintro ⟨⟨hpsd,hcsd⟩,heps⟩ k
    cases k
    · exact hcsd
    · exact hpsd
    · exact heps
  · exact fun h => ⟨⟨h .psd,h .csd⟩,h .eps⟩

-- The waits that have ended, what has arrived since the last recv() ended, and what arrived
-- while it lasted, the newest first.
structure Arrivals where
  waits : Nat
  results : List RegResult
  last : List RegResult

variable {I : Type}

def resultModem (I : Type) : Modem (sig I) Arrivals where
  event x d x' d' := (∃ r : RegResult, x' = { x with results := r :: x.results } ∧
    d' = d.onInfo r.store) ∨ x' = x ∧ d'.base = d.base
  allow _ _ _ _ _ := True
  next
    | _, .recv .unnatural, x, _, _ => ⟨x.waits + 1,[],x.results⟩
    | _, .recv _, x, _, _ => ⟨x.waits,[],x.results⟩
    | _, _, x, _, _ => x

-- Whatever the URC handlers do is one of these events.
theorem handle_event (u : Urc) (x : Arrivals) (d : Driver AtInterface) :
    (resultModem AtInterface).event x d
      ((RegResult.of u).elim x (fun r => { x with results := r :: x.results })) (u.handle d) := by
  cases hr : RegResult.of u with
  | some r => exact .inl ⟨r,rfl,congrFun (handle_result hr) d⟩
  | none =>
    refine .inr ⟨rfl,?_⟩
    cases u with
    | creg _ | cgreg _ | cereg _ => cases hr
    | _ => rfl

abbrev ResultStation (I : Type) := Station (sig I) Arrivals

namespace ResultStation

variable {w v : ResultStation I}

theorem events_stored (h : (resultModem I).Events w v) (hw : w.modem.results = []) :
    v.driver.base.devInfo = v.modem.results.foldr RegResult.store w.driver.base.devInfo := by
  refine Modem.events_keep (P := fun u : ResultStation I => u.driver.base.devInfo =
    u.modem.results.foldr RegResult.store w.driver.base.devInfo) h ?_ (fun u v hu huv => ?_)
  · rw [hw]
    rfl
  · rcases huv with ⟨r,hx,hd⟩ | ⟨hx,hd⟩
    · rw [hx,hd,List.foldr_cons,← hu]
      rfl
    · rw [hx,hd,hu]

def Since (w : ResultStation I) : Prop := ∃ i : DeviceInfo,
  (∀ k : Network, k.registers (i.status k) = false) ∧
    w.driver.base.devInfo = w.modem.last.foldr RegResult.store i

theorem wait_since (w : ResultStation I) : wp (resultModem I).spec (do
      let d ← get
      recvUnnatural
      return d.base.isRegistered) (fun registered v => registered = false →
        v.modem.results = [] ∧ (w.modem.results = [] → Since v)) w := by
  simp only [recvUnnatural,wp_bind,wp_get,Modem.wp_recv,wp_pure]
  intro v _ hv _ hnone
  refine ⟨rfl,fun hw => ⟨w.driver.base.devInfo,(isRegistered_iff _).mp hnone,?_⟩⟩
  exact events_stored hv hw

-- What came before the first wait is counted with it, so it takes a second one.
theorem waits_since (w : ResultStation I) : wp (resultModem I).spec (Prog.upTo id (fun _ => do
      let d ← get
      recvUnnatural
      return d.base.isRegistered) 180 false)
        (fun registered v => registered = false → Since v) w := by
  refine wp_upTo (Modem.mono _) (fun n registered v => registered = false →
    (n < 180 → v.modem.results = []) ∧ (n < 179 → Since v)) ?_ ?_ ?_ ?_
  · rintro n registered v - rfl ⟨⟩
  · exact fun registered v h hnone => (h hnone).2 (by decide)
  · intro n registered v h hnone
    refine wp_mono (Modem.mono _) (fun s u hu hs => ?_) (wait_since v)
    obtain ⟨hempty,hsince⟩ := hu hs
    exact ⟨fun _ => hempty,fun hn => hsince ((h hnone).1 (by omega))⟩
  · exact fun _ => ⟨fun h => absurd h (by decide),fun h => absurd h (by decide)⟩

theorem nwkRegistration_since (w : ResultStation I) : wp (resultModem I).spec nwkRegistration
    (fun registered v => registered = false → Since v) w := by
  simp only [nwkRegistration,wp_bind,Modem.wp_enter,Modem.wp_locked,Modem.wp_atTimeout]
  intro _ u _ timeout
  rw [wp_get,wp_ite]
  split
  · simp
  · refine wp_seq (Modem.mono _) (wp_always (Q := fun _ _ => True) (by simp) u) (fun _ v _ => ?_)
    rw [wp_bind,Modem.wp_timed]
    refine wp_mono (Modem.mono _) (fun registered u hu => ?_) (waits_since v)
    cases registered with
    | false => exact hu
    | true =>
      rw [if_pos rfl,wp_bind]
      exact wp_mono (Modem.mono _) (fun _ _ _ => by simp)
        (wp_always (Q := fun _ _ => True) (by simp) u)

def Silent (rs : List RegResult) : Prop :=
  ∀ (k : Network) (status : UInt8), newest k rs = some status → k.registers status = false

theorem Since.registered_iff (h : Since w) :
    w.driver.base.isRegistered = false ↔ Silent w.modem.last := by
  obtain ⟨i,hi,hw⟩ := h
  rw [isRegistered_iff,hw]
  constructor
  · intro hnone k status hk
    have hstatus := hnone k
    rwa [stored_status,hk,Option.getD_some] at hstatus
  · intro hsilent k
    rw [stored_status]
    cases hk : newest k w.modem.last with
    | none => exact hi k
    | some status => exact hsilent k status hk

theorem registration_missed_iff (h : (resultModem I).Runs nwkRegistration w false v) :
    (v.driver.base.isRegisteredPsd = false ∧ v.driver.base.isRegisteredCsd = false ∧
      v.driver.base.isRegisteredEps = false) ↔ Silent v.modem.last := by
  have hsince : Since v := Modem.sound (nwkRegistration_since w) h rfl
  rw [← hsince.registered_iff,Base.isRegistered,Bool.or_eq_false_iff,Bool.or_eq_false_iff,
    and_assoc]

def late (result : RegResult) : Modem.Peer (sig Unit) Arrivals where
  send _ _ := false
  recv
    | _, .unnatural, w => some (none, if w.modem.waits = 179 then
        ⟨w.driver.onInfo result.store,{ w.modem with results := result :: w.modem.results }⟩
      else w)
    | _, _, w => some (none, w)
  ask
    | _, .enter _, _ => some ()
    | _, _, _ => none

theorem late_fair (result : RegResult) : (late result).Fair (resultModem Unit) where
  send _ _ := trivial
  recv := by
    intro β p w b v h
    refine ⟨?_,trivial⟩
    cases p
    case unnatural =>
      simp only [late,Option.some.injEq,Prod.mk.injEq] at h
      obtain ⟨-,rfl⟩ := h
      split
      · exact .single (.inl ⟨result,rfl,rfl⟩)
      · exact .refl
    all_goals
      cases h
      exact .refl
  ask _ _ _ _ _ := trivial

def searching : ResultStation Unit := ⟨⟨.initial 115200,()⟩,⟨0,[],[]⟩⟩

theorem late_run (result : RegResult) {p : ResultStation Unit → Bool}
    (hrun : ((nwkRegistration.run ((resultModem Unit).machine.play (late result).script) 0
      searching).map fun r => (r.1, p r.2)) = some (false, true)) :
    ∃ v, (resultModem Unit).Runs nwkRegistration searching false v ∧ p v = true := by
  obtain ⟨⟨b,v⟩,hr,heq⟩ := Option.map_eq_some_iff.mp hrun
  simp only [Prod.mk.injEq] at heq
  obtain ⟨rfl,hp⟩ := heq
  exact ⟨v,(late_fair result).runs hr,hp⟩

theorem registration_missed_searching : ∃ v : ResultStation Unit,
    (resultModem Unit).Runs nwkRegistration searching false v ∧ v.modem.last = [⟨.psd,2⟩] ∧
    ((v.driver.base.isRegisteredPsd = false ∧ v.driver.base.isRegisteredCsd = false ∧
      v.driver.base.isRegisteredEps = false) ↔ Silent v.modem.last) := by
  obtain ⟨v,hx,hlast⟩ := late_run ⟨.psd,2⟩
    (p := fun v => decide (v.modem.last = [⟨.psd,2⟩])) (by decide +kernel)
  exact ⟨v,hx,of_decide_eq_true hlast,registration_missed_iff hx⟩

theorem registration_missed : ∃ v : ResultStation Unit,
    (resultModem Unit).Runs nwkRegistration searching false v ∧
    v.driver.base.isRegisteredCsd = true :=
  late_run ⟨.csd,1⟩ (p := fun v => v.driver.base.isRegisteredCsd) (by decide +kernel)

end ResultStation

end UbloxCellular.Gsm
