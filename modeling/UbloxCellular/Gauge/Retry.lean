import UbloxCellular.Gauge.OpConfig
import UbloxCellular.I2c.Record

namespace UbloxCellular.Gauge
open Interaction I2c Device

-- BIE, in the high byte of OpConfig.
def Chip.detects (c : Chip) : Bool := (c.byte 64 0).getLsbD 5

abbrev watched (address : Byte) : Handler Bus (Recorded Chip Bool) :=
  (unreliable address).recorded Chip.detects

abbrev Filmed := Call Op BatteryGaugeBq27441 Bool (Recorded Chip Bool)

def clears (m : Moment Bool) : Bool := m.before && !m.after

def inserted (address : Byte) : List (Moment Bool) → Bool
  | [] => false
  | m :: ms =>
    if clears m then false
    else if m.transfer = .write address [0x00,0x0c,0x00] true then true
    else inserted address ms

section Moments
variable {address : Byte} {own ms : List (Moment Bool)}

theorem inserted_cleared (h : own.any clears = true) :
    inserted address (own ++ ms) = inserted address own := by
  induction own with
  | nil => cases h
  | cons m own ih =>
    rw [List.cons_append,inserted,inserted]
    split
    · rfl
    · rename_i hm
      rw [List.any_cons,Bool.eq_false_iff.mpr hm,Bool.false_or] at h
      rw [ih h]

theorem inserted_kept (h : own.any clears = false) (hms : inserted address ms = true) :
    inserted address (own ++ ms) = true := by
  induction own with
  | nil => exact hms
  | cons m own ih =>
    rw [List.any_cons,Bool.or_eq_false_iff] at h
    rw [List.cons_append,inserted,if_neg (by simp [h.1]),ih h.2]
    exact ite_self true

theorem unmoved_clears (h : ∀ m ∈ own, m.before = m.after) : own.any clears = false := by
  rw [List.any_eq_false]
  intro m hm
  rw [clears,h m hm]
  simp

theorem inserted_sent (b : Bool) (ms : List (Moment Bool)) :
    inserted address (⟨.write address [0x00,0x0c,0x00] true,b,b⟩ :: ms) = true := by
  have hstill : clears ⟨.write address [0x00,0x0c,0x00] true,b,b⟩ = false := Bool.and_not_self b
  rw [inserted,if_neg (Bool.eq_false_iff.mp hstill),if_pos rfl]

theorem inserted_older {m : Moment Bool} (hm : m.transfer ≠ .write address [0x00,0x0c,0x00] true)
    (h : inserted address (m :: ms) = true) : inserted address ms = true := by
  rw [inserted,if_neg hm] at h
  split at h
  · cases h
  · exact h

end Moments

namespace BatteryGaugeBq27441
variable {address : Byte} {g : BatteryGaugeBq27441} {w w' u : Recorded Chip Bool}

theorem detects_mem {c c' : Chip} (h : c'.mem = c.mem) : c'.detects = c.detects := by
  rw [Chip.detects,Chip.detects,byte_mem h]

instance unmoved_quiet : Quiet (unmoved (unreliable address) Chip.detects) where
  lock := unmoved_perform (fun _ _ => detects_mem) memory_quiet.lock
  unlock := unmoved_perform (fun _ _ => detects_mem) memory_quiet.unlock
  wait ms := unmoved_perform (fun _ _ => detects_mem) (memory_quiet.wait ms)
  read g k := unmoved_perform (fun _ _ => detects_mem) (memory_quiet.read g k)
  select g r := unmoved_perform (fun _ _ => detects_mem) (memory_quiet.select g r)
  selectRepeated g r := unmoved_perform (fun _ _ => detects_mem) (memory_quiet.selectRepeated g r)
  data g r d h h' := unmoved_perform (fun _ _ => detects_mem) (memory_quiet.data g r d h h')
  dataRepeated g r d h h' :=
    unmoved_perform (fun _ _ => detects_mem) (memory_quiet.dataRepeated g r d h h')

instance unmoved_control (c : Word) :
    (unmoved (unreliable address) Chip.detects).Keeps (g.control c) :=
  unmoved_perform (fun _ _ => detects_mem) (memory_control c)

theorem inserted_unmoved (h : (unmoved (unreliable address) Chip.detects).rel w w')
    (hw : inserted address w.moments = true) : inserted address w'.moments = true := by
  obtain ⟨-,own,hown,hm⟩ := h
  rw [hown]
  exact inserted_kept (unmoved_clears hm) hw

def opConfigRead (g : BatteryGaugeBq27441) : BusCode (Option (List Byte)) := do
  lock
  g.readExtendedData 64 0 2 true

def detectEnd (g : BatteryGaugeBq27441) : BusCode Unit := do
  g.hibernate
  unlock

def clearInsert (g : BatteryGaugeBq27441) (data : List Byte) : BusCode Bool :=
  if (data.getD 0 0).getLsbD 5 then
    (g.writeExtendedData 64 0 2 (some [data.getD 0 0 &&& ~~~insertBit,data.getD 1 0])).both
      (g.control 0x000c)
  else pure true

theorem read_unmoved {r : Option (List Byte)}
    (h : Exec (watched address) g.opConfigRead w r u) :
    (unmoved (unreliable address) Chip.detects).rel w u := by
  have hkeeps : (unmoved (unreliable address) Chip.detects).Keeps g.opConfigRead := by
    rw [opConfigRead]
    infer_instance
  exact run_unmoved h

theorem end_unmoved (h : Exec (watched address) g.detectEnd u () w') :
    (unmoved (unreliable address) Chip.detects).rel u w' := by
  have hkeeps : (unmoved (unreliable address) Chip.detects).Keeps g.detectEnd := by
    rw [detectEnd]
    infer_instance
  exact run_unmoved h

theorem read_data {data : List Byte} (h : Exec (watched address) g.opConfigRead w (some data) u) :
    (data.getD 0 0).getLsbD 5 = w.node.core.detects := by
  obtain ⟨_,v,hlock,hread⟩ := exec_bind.mp h
  have hmem := wp_sound (kept_memory lock) (recorded_node hlock)
  have hdata := wp_sound (opConfig_shown hmem) (recorded_node hread) data rfl
  rw [hdata.1]
  rfl

theorem disable_parts {ok : Bool} (hg : g.guarded = true) :
    Exec (watched address) g.disableBatteryDetect w ok w' ↔ ∃ r u v,
      Exec (watched address) g.opConfigRead w r u ∧
      Exec (watched address) (r.elim (pure false) g.clearInsert) u ok v ∧
      Exec (watched address) g.detectEnd v () w' := by
  rw [disableBatteryDetect,if_pos hg,opConfigRead,detectEnd]
  simp only [exec_bind,exec_pure]
  constructor
  · rintro ⟨_,x,hlock,r,u,hread,b,v,hclear,_,y,hsleep,_,z,hunlock,rfl,rfl⟩
    exact ⟨r,u,v,⟨_,x,hlock,hread⟩,hclear,_,y,hsleep,hunlock⟩
  · rintro ⟨r,u,v,⟨_,x,hlock,hread⟩,hclear,_,y,hsleep,hunlock⟩
    exact ⟨_,x,hlock,r,u,hread,ok,v,hclear,_,y,hsleep,_,w',hunlock,rfl,rfl⟩

theorem control_inserted (h : Exec (watched address) (g.control 0x000c) u true w') :
    inserted address w'.moments = true := by
  obtain ⟨hsame,-⟩ := run_unmoved h
  obtain ⟨⟨x,-,ha,-⟩,hw⟩ := exec_perform.mp h
  have hsent : w'.moments = ⟨.write g.gAddress [0x00,0x0c,0x00] true,u.node.core.detects,
      w'.node.core.detects⟩ :: u.moments := congrArg Recorded.moments hw
  have haddress : g.gAddress = address := ha
  rw [hsent,hsame,haddress]
  exact inserted_sent _ _

theorem disable_set (h : Exec (watched address) g.disableBatteryDetect w true w')
    (hset : w.node.core.detects = true) : inserted address w'.moments = true := by
  cases hg : g.guarded with
  | false =>
    rw [disableBatteryDetect,if_neg (by simp [hg])] at h
    cases (exec_pure.mp h).1
  | true =>
    obtain ⟨r,u,v,hread,hclear,hend⟩ := (disable_parts hg).mp h
    cases r with
    | none => cases (exec_pure.mp hclear).1
    | some data =>
      rw [Option.elim_some,clearInsert,if_pos ((read_data hread).trans hset)] at hclear
      obtain ⟨x,-,hinsert⟩ := exec_both.mp hclear
      exact inserted_unmoved (end_unmoved hend) (control_inserted hinsert)

theorem end_inserted (h : Exec (watched address) g.detectEnd u () w')
    (hw : inserted address w'.moments = true) : inserted address u.moments = true := by
  rw [detectEnd,exec_bind] at h
  obtain ⟨_,x,hsleep,hunlock⟩ := h
  have hsame : w'.moments = x.moments :=
    (congrArg Recorded.moments (exec_perform.mp hunlock).2).trans rfl
  rw [hsame] at hw
  rw [hibernate] at hsleep
  split at hsleep
  · obtain ⟨-,rfl⟩ := exec_pure.mp hsleep
    exact hw
  · obtain ⟨b,y,hsent,hret⟩ := exec_bind.mp hsleep
    obtain ⟨-,rfl⟩ := exec_pure.mp hret
    have hmoments : x.moments = ⟨.write g.gAddress [0x00,0x11,0x00] b,u.node.core.detects,
        x.node.core.detects⟩ :: u.moments := congrArg Recorded.moments (exec_perform.mp hsent).2
    rw [hmoments] at hw
    exact inserted_older (by simp) hw

theorem disable_clear {ok : Bool} {data : List Byte} {v : Recorded Chip Bool}
    (hclear : w.node.core.detects = false) (hread : Exec (watched address) g.opConfigRead w (some data) u)
    (h : Exec (watched address) ((some data).elim (pure false) g.clearInsert) u ok v) :
    ok = true ∧ v = u := by
  rw [Option.elim_some,clearInsert,if_neg (by rw [read_data hread,hclear]; decide)] at h
  exact exec_pure.mp h

end BatteryGaugeBq27441

section Runs
open BatteryGaugeBq27441
variable {address : Byte} {c d : Filmed} {log : List Filmed} {s t : BatteryGaugeBq27441}
  {w v : Recorded Chip Bool}

def RetrySafe (address : Byte) (log : List Filmed) : Prop :=
  ∀ c ∈ log, c.op = .disableBatteryDetect → c.result = true →
    inserted address c.world'.moments = true

def Interrupted (address : Byte) (c : Filmed) : Prop :=
  ∃ own, c.world'.moments = own ++ c.world.moments ∧ own.any clears = true ∧
    inserted address own = false

def Reads (address : Byte) (c : Filmed) (u : Recorded Chip Bool) : Prop :=
  c.self.guarded = true ∧ u.moments <:+ c.world'.moments ∧
    ∃ data, Exec (watched address) c.self.opConfigRead c.world (some data) u

def Unretried (address : Byte) (log : List Filmed) : Prop :=
  ∀ c mid d, c :: mid ++ [d] <:+: log → Interrupted address c →
    (∀ e ∈ c :: mid, e.world'.node.core.detects = false) → d.op = .disableBatteryDetect →
    ∀ u, Reads address d u → inserted address u.moments = true

theorem made_disable {r : Bool} (hc : object.Made (watched address) c)
    (hop : c.op = .disableBatteryDetect) (hr : c.result = r) :
    Exec (watched address) c.self.disableBatteryDetect c.world r c.world' := by
  rw [Object.Made,hop] at hc
  obtain ⟨ok,x,hx,hret⟩ := exec_bind.mp hc
  obtain ⟨heq,rfl⟩ := exec_pure.mp hret
  rwa [← (Prod.mk.inj heq).1,hr] at hx

theorem guarded_disable (hc : object.Made (watched address) c)
    (hop : c.op = .disableBatteryDetect) (hr : c.result = true) : c.self.guarded = true := by
  have hx := made_disable hc hop hr
  cases hg : c.self.guarded with
  | false =>
    rw [disableBatteryDetect,if_neg (by simp [hg])] at hx
    cases (exec_pure.mp hx).1
  | true => rfl

theorem skipped_true (hc : object.Made (watched address) c) (hop : c.op = .disableBatteryDetect)
    (hclear : c.world.node.core.detects = false) (hr : c.result = true) :
    ∃ u, Reads address c u ∧ (unmoved (unreliable address) Chip.detects).rel c.world u ∧
      (inserted address u.moments = true → inserted address c.world'.moments = true) := by
  have hg := guarded_disable hc hop hr
  obtain ⟨r,u,x,hread,hskip,hend⟩ := (disable_parts hg).mp (made_disable hc hop hr)
  cases r with
  | none => cases (exec_pure.mp hskip).1
  | some data =>
    obtain ⟨-,rfl⟩ := disable_clear hclear hread hskip
    exact ⟨x,⟨hg,recorded_suffix hend,data,hread⟩,read_unmoved hread,
      inserted_unmoved (end_unmoved hend)⟩

theorem skipped_returns (hc : object.Made (watched address) c)
    (hop : c.op = .disableBatteryDetect) (hclear : c.world.node.core.detects = false)
    {u : Recorded Chip Bool} (hu : Reads address c u) : c.result = true ∧
      (inserted address c.world'.moments = true → inserted address u.moments = true) := by
  obtain ⟨hg,hsuffix,data,hread⟩ := hu
  obtain ⟨r,u',x,hread',hskip,hend⟩ := (disable_parts hg).mp (made_disable hc hop rfl)
  have hmore : u'.moments <:+ c.world'.moments :=
    (recorded_suffix hskip).trans (recorded_suffix hend)
  obtain ⟨rfl,hsame⟩ := recorded_determined hread hread' hsuffix hmore
  obtain ⟨hr,rfl⟩ := disable_clear hclear hread' hskip
  rw [hsame]
  exact ⟨hr,end_inserted hend⟩

theorem recorded_detects {α : Type} {p : BusCode α} {a : α} {w w' : Recorded Chip Bool}
    (h : Exec (watched address) p w a w') : ∃ own, Covered Chip.detects w w' own :=
  recorded_covered (drift_keep (fun _ _ => rfl)) h

theorem call_outstanding (hc : object.Made (watched address) c)
    (hclear : c.world'.node.core.detects = false)
    (hnot : inserted address c.world'.moments = false) : Interrupted address c ∨
      c.world.node.core.detects = false ∧ inserted address c.world.moments = false := by
  obtain ⟨own,hadded,hlinked⟩ := recorded_detects hc
  cases hown : own.any clears with
  | true =>
    rw [hadded,inserted_cleared hown] at hnot
    exact .inl ⟨own,hadded,hown,hnot⟩
  | false =>
    have hstays : c.world.node.core.detects = true → c.world'.node.core.detects = true := by
      refine hlinked (fun b b' => b = true → b' = true) (fun _ => id)
        (fun _ _ _ h h' hb => h' (h hb)) (fun m hm hb => ?_)
      have hm' : clears m = false := Bool.eq_false_iff.mpr (List.any_eq_false.mp hown m hm)
      simpa only [clears,hb,Bool.true_and,Bool.not_eq_false'] using hm'
    refine .inr ⟨?_,?_⟩
    · exact Bool.eq_false_iff.mpr (fun hset => by rw [hstays hset] at hclear; cases hclear)
    · refine Bool.eq_false_iff.mpr (fun hsent => ?_)
      rw [hadded,inserted_kept hown hsent] at hnot
      cases hnot

def Outstanding (address : Byte) (log : List Filmed) : Prop :=
  ∃ c mid, c :: mid <:+ log ∧ Interrupted address c ∧
    ∀ e ∈ c :: mid, e.world'.node.core.detects = false

theorem Outstanding.snoc (h : Outstanding address log)
    (hclear : c.world'.node.core.detects = false) : Outstanding address (log ++ [c]) := by
  obtain ⟨d,mid,⟨pre,rfl⟩,hd,hmid⟩ := h
  refine ⟨d,mid ++ [c],⟨pre,by simp⟩,hd,fun e he => ?_⟩
  rw [← List.cons_append,List.mem_append,List.mem_singleton] at he
  rcases he with he | rfl
  · exact hmid e he
  · exact hclear

theorem outstanding_run (h : object.Session (watched address) s w log t v)
    (hset : w.node.core.detects = true) : v.node.core.detects = true ∨
      inserted address v.moments = true ∨ Outstanding address log := by
  induction log using List.reverseRecOn generalizing t v with
  | nil =>
    cases h
    exact .inl hset
  | append_singleton log c ih =>
    obtain ⟨u,x,hlog,hlast⟩ := h.split
    cases hlast with
    | cons hc hend =>
      obtain rfl : v = c.world' := hend.lastWorld
      cases hclear : c.world'.node.core.detects with
      | true => exact .inl rfl
      | false =>
        cases hsent : inserted address c.world'.moments with
        | true => exact .inr (.inl rfl)
        | false =>
          refine .inr (.inr ?_)
          rcases call_outstanding hc hclear hsent with hint | ⟨hbefore,hunsent⟩
          · exact ⟨c,[],List.suffix_append _ _,hint,by simpa using hclear⟩
          · rcases ih hlog with h | h | h
            · rw [hbefore] at h
              cases h
            · rw [hunsent] at h
              cases h
            · exact h.snoc hclear

theorem follows {mid post : List Filmed}
    (h : object.Session (watched address) s w (c :: mid ++ d :: post) t v) :
    d.world = (mid.getLastD c).world' := by
  obtain ⟨u,x,hmid,hrest⟩ := h.split
  cases hmid with
  | cons _ hmid =>
    cases hrest with
    | cons _ _ => exact hmid.lastWorld

theorem retry_safe_iff (h : object.Session (watched address) s w log t v)
    (hset : w.node.core.detects = true) : RetrySafe address log ↔ Unretried address log := by
  constructor
  · rintro hsafe c mid d ⟨pre,post,rfl⟩ - hmid hop u hu
    have hd : d ∈ pre ++ (c :: mid ++ [d]) ++ post := by simp
    have hsplit : pre ++ (c :: mid ++ [d]) ++ post = pre ++ (c :: mid ++ d :: post) := by simp
    have hworld : d.world.node.core.detects = false := by
      rw [hsplit] at h
      obtain ⟨_,_,-,hrest⟩ := h.split
      rw [follows hrest]
      exact hmid _ List.getLastD_mem_cons
    obtain ⟨hr,hback⟩ := skipped_returns (h.made d hd) hop hworld hu
    exact hback (hsafe d hd hop hr)
  · intro hun d hd hop hr
    have hmade := h.made d hd
    obtain ⟨pre,post,rfl⟩ := List.append_of_mem hd
    obtain ⟨_,_,hpre,hrest⟩ := h.split
    cases hrest with
    | cons _ _ =>
      cases hclear : d.world.node.core.detects with
      | true => exact disable_set (made_disable hmade hop hr) hclear
      | false =>
        obtain ⟨u,hu,hmove,hkeep⟩ := skipped_true hmade hop hclear hr
        refine hkeep ?_
        rcases outstanding_run hpre hset with hs | hi | ⟨c,mid,⟨before,rfl⟩,hint,hmid⟩
        · rw [hclear] at hs
          cases hs
        · exact inserted_unmoved hmove hi
        · exact hun c mid d ⟨before,post,by simp⟩ hint hmid hop u hu

def detecting : Chip where
  mem s b := if s = 64 ∧ b = 0 then (Vector.replicate 32 0x00).setIfInBounds 0 0x20
    else (factory true 0x80).mem s b
  subClass := 0x00
  blockNo := 0x00
  buffer := .replicate 32 0x00
  mode := .normal
  low := 0x00
  word := 0x0000
  sealed := true
  sealCode := 0x8000
  hibernating := false

def losing (D : Device Chip) (lost : List Byte) : Prog.Oracle Bus (Node Chip)
  | _, .write a data r, n => if data = lost then some (false, n) else obliging D (.write a data r) n
  | _, e, n => obliging D e n

theorem losing_step {lost : List Byte} {γ : Type} (e : Bus γ) (n : Node Chip) (b : γ)
    (n' : Node Chip) (h : losing (unreliable address) lost e n = some (b, n')) :
    (unreliable address).handler e n b n' := by
  have hstep {e : Bus γ} (h : obliging (unreliable address) e n = some (b, n')) :
      (unreliable address).handler e n b n' :=
    play_step (fun c a => (c.answer_shows a).1) Chip.settle_drifts h
  cases e with
  | write a data r =>
    rw [losing] at h
    split at h
    · cases h
      exact ⟨n.core,.refl,rfl,.inr rfl⟩
    · exact hstep h
  | read a k => exact hstep h
  | lock => exact hstep h
  | unlock => exact hstep h
  | wait ms => exact hstep h

def gaugeReady : BatteryGaugeBq27441 := ⟨true,0xaa,0x8000,true,false⟩

def outcome (c : Filmed) : Op × Bool × Bool :=
  (c.op, c.result, inserted 0xaa c.world'.moments)

theorem losing_session (lost : List Byte) (ops : List Op) (l : List (Op × Bool × Bool))
    (h : (object.replay (film Chip.detects (losing (unreliable 0xaa) lost)) 0 ops gaugeReady
      ⟨⟨0x00,detecting⟩,[]⟩).map (fun r => r.1.map outcome) = some l) :
    ∃ log t v, object.Session (watched 0xaa) gaugeReady ⟨⟨0x00,detecting⟩,[]⟩ log t v ∧
      log.map outcome = l := by
  obtain ⟨⟨log,t,v⟩,hr,hlog⟩ := Option.map_eq_some_iff.mp h
  exact ⟨log,t,v,Object.replay_session (fun _ _ _ _ hp => film_exec (fun _ => losing_step) hp) hr,hlog⟩

theorem retry_unsafe : ∃ log t v,
    object.Session (watched 0xaa) gaugeReady ⟨⟨0x00,detecting⟩,[]⟩ log t v ∧
    detecting.detects = true ∧
    log.map outcome = [(.disableBatteryDetect, false, false),
      (.disableBatteryDetect, true, false)] ∧ ¬ RetrySafe 0xaa log := by
  obtain ⟨log,t,v,hsession,hlog⟩ := losing_session [0x00,0x0c,0x00]
    [.disableBatteryDetect,.disableBatteryDetect]
    [(.disableBatteryDetect, false, false),(.disableBatteryDetect, true, false)] (by decide +kernel)
  refine ⟨log,t,v,hsession,by decide,hlog,fun hsafe => ?_⟩
  have hmem : (.disableBatteryDetect, true, false) ∈ log.map outcome := by
    rw [hlog]
    simp
  obtain ⟨c,hc,heq⟩ := List.mem_map.mp hmem
  simp only [outcome,Prod.mk.injEq] at heq
  have hsent := hsafe c hc heq.1 heq.2.1
  rw [heq.2.2] at hsent
  cases hsent

theorem retry_safe_iff_set : ∃ log t v,
    object.Session (watched 0xaa) gaugeReady ⟨⟨0x00,detecting⟩,[]⟩ log t v ∧
    log.map outcome = [(.disableBatteryDetect, true, true),(.enableBatteryDetect, true, true),
      (.disableBatteryDetect, true, true)] ∧ (RetrySafe 0xaa log ↔ Unretried 0xaa log) := by
  obtain ⟨log,t,v,hsession,hlog⟩ := losing_session []
    [.disableBatteryDetect,.enableBatteryDetect,.disableBatteryDetect]
    [(.disableBatteryDetect, true, true),(.enableBatteryDetect, true, true),
      (.disableBatteryDetect, true, true)] (by decide +kernel)
  exact ⟨log,t,v,hsession,hlog,retry_safe_iff hsession (by decide)⟩

end Runs

end UbloxCellular.Gauge
