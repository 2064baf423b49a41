import UbloxCellular.Gauge.ConfigMode

namespace UbloxCellular.Gauge
open Interaction I2c

abbrev Taped := Call Op BatteryGaugeBq27441 Bool Tape

namespace BatteryGaugeBq27441
variable {g : BatteryGaugeBq27441} {t t' : Tape} {b : Bool}

def given (g : BatteryGaugeBq27441) (address : Byte) (sealCode : Word) : BatteryGaugeBq27441 :=
  { g with gpI2c := true, gAddress := address <<< 1, gSealCode := sealCode }

def Configured (g : BatteryGaugeBq27441) (b : Bool) (t t' : Tape) : Prop :=
  ∃ t₁ t₂ t₃ t₄ t₅, Exec Tape.handler (g.control 0x0002) t true t₁ ∧
    Exec Tape.handler (g.getTwoBytes 0x00) t₁ (some 0x0109) t₂ ∧
    Exec Tape.handler (g.writeExtendedData 82 31 1 (some [highByte 1000])) t₂ true t₃ ∧
    Exec Tape.handler (g.writeExtendedData 82 32 1 (some [lowByte 1000])) t₃ true t₄ ∧
    Exec Tape.handler (g.writeExtendedData 68 9 2 (some [highByte 5000,lowByte 5000])) t₄ true t₅ ∧
    Exec Tape.handler g.setHibernate t₅ b t'

theorem configure_iff : Exec Tape.handler g.configure t (some b) t' ↔ Configured g b t t' := by
  rw [configure,exec_bind]
  constructor
  · rintro ⟨sent,t₁,hsent,h⟩
    cases sent with
    | false => cases (exec_pure.mp h).1
    | true =>
      obtain ⟨answer,t₂,hanswer,h⟩ := exec_bind.mp h
      split at h
      · rename_i heq
        obtain ⟨written,t₅,hwritten,h⟩ := exec_bind.mp h
        cases written with
        | false => cases (exec_pure.mp h).1
        | true =>
          obtain ⟨slept,t₆,hslept,h⟩ := exec_bind.mp h
          obtain ⟨heq',rfl⟩ := exec_pure.mp h
          cases heq'
          obtain ⟨t₃,hfirst,hrest⟩ := exec_both.mp hwritten
          obtain ⟨t₄,hsecond,hthird⟩ := exec_both.mp hrest
          rw [heq] at hanswer
          exact ⟨t₁,t₂,t₃,t₄,t₅,hsent,hanswer,hfirst,hsecond,hthird,hslept⟩
      · cases (exec_pure.mp h).1
  · rintro ⟨t₁,t₂,t₃,t₄,t₅,hsent,hanswer,hfirst,hsecond,hthird,hslept⟩
    refine ⟨true,t₁,hsent,exec_bind.mpr ⟨_,t₂,hanswer,?_⟩⟩
    rw [if_pos rfl]
    have hwritten := exec_both.mpr ⟨t₃,hfirst,exec_both.mpr ⟨t₄,hsecond,hthird⟩⟩
    exact exec_bind.mpr ⟨true,t₅,hwritten,exec_bind.mpr ⟨b,t',hslept,exec_pure.mpr ⟨rfl,rfl⟩⟩⟩

theorem init_taped {address : Byte} {sealCode : Word} {r : Bool × BatteryGaugeBq27441}
    (h : Exec Tape.handler (g.init true address sealCode) t r t') :
    ∃ x, Exec Tape.handler (g.given address sealCode).configure t x t' ∧
      r = (x.getD g.gReady, { g.given address sealCode with gReady := x.getD g.gReady }) := by
  rw [init,if_pos rfl] at h
  obtain ⟨_,u,hlock,hrest⟩ := exec_bind.mp h
  obtain rfl : u = t := exec_perform.mp hlock
  obtain ⟨x,u',hx,hend⟩ := exec_bind.mp hrest
  obtain ⟨_,v,hunlock,hret⟩ := exec_bind.mp hend
  obtain rfl : v = u' := exec_perform.mp hunlock
  obtain ⟨rfl,rfl⟩ := exec_pure.mp hret
  exact ⟨x,hx,rfl⟩

def Refuses (g : BatteryGaugeBq27441) : Prop := g.isGaugeEnabled = false ∧
  ∀ o : Op, ¬ o.Initialises → ∀ t r t', Exec Tape.handler (o.code g) t r t' →
    r.1 = false ∧ t' = t

theorem unguarded_code {o : Op} (hg : g.guarded = false) (ho : ¬ o.Initialises) :
    o.code g = pure (false, g) := by
  cases o with
  | init p a w => exact absurd ⟨p,a,w,rfl⟩ ho
  | _ => simp [Op.code,plain,valued,enableGauge,disableGauge,disableBatteryDetect,
      enableBatteryDetect,isBatteryDetected,getTemperature,getVoltage,getCurrent,
      getRemainingCapacity,reading,getRemainingPercentage,advancedGetConfig,advancedSetConfig,
      advancedSendControlWord,advancedGet,advancedIsSealed,advancedSeal,advancedUnseal,
      advancedReset,hg]

theorem enableGauge_fails (hg : g.guarded = true) (isSlow : Bool) (t : Tape) :
    Exec Tape.handler (g.enableGauge isSlow) t (false, g)
      (.write g.gAddress [0x00,0x12,0x00] false :: t) := by
  rw [enableGauge,if_pos hg]
  refine Exec.bind (a := ()) (exec_perform.mpr rfl) ?_
  refine Exec.bind (a := false) (exec_perform.mpr rfl) ?_
  exact Exec.bind (a := ()) (exec_perform.mpr rfl) (exec_pure.mpr ⟨rfl,rfl⟩)

theorem enableGauge_wakes {isSlow : Bool} {r : Bool × BatteryGaugeBq27441}
    (h : Exec Tape.handler (g.enableGauge isSlow) t r t') (hg : g.guarded = true) :
    (.write g.gAddress [0x00,0x12,0x00] false :: t <:+ t' ∧ r = (false, g)) ∨
      (.write g.gAddress [0x00,0x12,0x00] true :: t <:+ t' ∧ r.2 = { g with gGaugeOn := true }) := by
  rw [enableGauge,if_pos hg] at h
  obtain ⟨_,u,hlock,hrest⟩ := exec_bind.mp h
  obtain rfl : u = t := exec_perform.mp hlock
  obtain ⟨b,v,hwoken,hend⟩ := exec_bind.mp hrest
  obtain rfl : v = .write g.gAddress [0x00,0x12,0x00] b :: u := exec_perform.mp hwoken
  cases b with
  | false =>
    obtain ⟨_,x,hunlock,hret⟩ := exec_bind.mp hend
    obtain ⟨rfl,rfl⟩ := exec_pure.mp hret
    exact .inl ⟨Tape.exec_suffix hunlock,rfl⟩
  | true =>
    obtain ⟨success,x,hsleep,hunlocked⟩ := exec_bind.mp hend
    obtain ⟨_,y,hunlock,hret⟩ := exec_bind.mp hunlocked
    obtain ⟨rfl,rfl⟩ := exec_pure.mp hret
    exact .inr ⟨(Tape.exec_suffix hsleep).trans (Tape.exec_suffix hunlock),rfl⟩

theorem enable_failed_iff {isSlow : Bool} {g' : BatteryGaugeBq27441}
    (h : Exec Tape.handler (g.enableGauge isSlow) t (false, g') t') :
    g'.isGaugeEnabled = g.isGaugeEnabled ↔ g.isGaugeEnabled = true ∨ g.guarded = false ∨
      .write g.gAddress [0x00,0x12,0x00] false :: t <:+ t' := by
  cases hg : g.guarded with
  | false =>
    rw [enableGauge,if_neg (by simp [hg])] at h
    obtain ⟨heq,-⟩ := exec_pure.mp h
    rw [(Prod.mk.inj heq).2]
    exact iff_of_true rfl (.inr (.inl rfl))
  | true =>
    rcases enableGauge_wakes h hg with ⟨hfailed,heq⟩ | ⟨hwoken,hself⟩
    · rw [(Prod.mk.inj heq).2]
      exact iff_of_true rfl (.inr (.inr hfailed))
    · have hno : ¬ .write g.gAddress [0x00,0x12,0x00] false :: t <:+ t' := fun hfailed => by
        cases Tape.suffix_cons_inj hwoken hfailed
      change g' = _ at hself
      have hon : g'.isGaugeEnabled = true := congrArg gGaugeOn hself
      rw [hon]
      constructor
      · exact fun heq => .inl heq.symm
      · rintro (heq | hoff | hfailed)
        · exact heq.symm
        · cases hoff
        · exact absurd hfailed hno

theorem enable_failed_on : ∃ t',
    Exec Tape.handler (enableGauge ⟨true,0xaa,0x8000,true,false⟩ false) []
      (false, ⟨true,0xaa,0x8000,true,true⟩) t' ∧
    isGaugeEnabled ⟨true,0xaa,0x8000,true,false⟩ = false ∧
    isGaugeEnabled ⟨true,0xaa,0x8000,true,true⟩ = true := by
  have hrun : ((enableGauge ⟨true,0xaa,0x8000,true,false⟩ false).run
      (Tape.play (fun t _ => t.isEmpty) (fun _ _ => none)) 0 []).map Prod.fst =
      some (false, ⟨true,0xaa,0x8000,true,true⟩) := by decide +kernel
  obtain ⟨⟨_,t'⟩,hr,rfl⟩ := Option.map_eq_some_iff.mp hrun
  exact ⟨t',Tape.play_exec hr,rfl,rfl⟩

theorem enable_failed_iff_asleep :
    Exec Tape.handler (enableGauge ⟨true,0xaa,0x8000,true,false⟩ true) []
      (false, ⟨true,0xaa,0x8000,true,false⟩) [.write 0xaa [0x00,0x12,0x00] false] ∧
    (isGaugeEnabled ⟨true,0xaa,0x8000,true,false⟩ = isGaugeEnabled ⟨true,0xaa,0x8000,true,false⟩ ↔
      isGaugeEnabled ⟨true,0xaa,0x8000,true,false⟩ = true ∨
      guarded ⟨true,0xaa,0x8000,true,false⟩ = false ∨
      ([.write 0xaa [0x00,0x12,0x00] false] : Tape) <:+
        [.write 0xaa [0x00,0x12,0x00] false]) := by
  have hexec := @enableGauge_fails ⟨true,0xaa,0x8000,true,false⟩ rfl true []
  exact ⟨hexec,enable_failed_iff hexec⟩

theorem refuses_iff : g.Refuses ↔ g.isGaugeEnabled = false ∧ g.guarded = false := by
  refine and_congr_right (fun _ => ⟨fun h => ?_,fun hg o ho t r t' hr => ?_⟩)
  · by_contra hg
    have hwritten := h (.enableGauge false) (by simp [Op.Initialises]) [] _ _
      (enableGauge_fails (by simpa using hg) false [])
    cases hwritten.2
  · rw [unguarded_code hg ho] at hr
    obtain ⟨rfl,rfl⟩ := exec_pure.mp hr
    exact ⟨rfl,rfl⟩

end BatteryGaugeBq27441

section Calls
open BatteryGaugeBq27441
variable {c : Taped} {log : List Taped} {s u : BatteryGaugeBq27441} {t v : Tape}

def Reached (c : Taped) (b : Bool) : Prop := ∃ address sealCode,
  c.op = .init true address sealCode ∧
    Configured (c.self.given address sealCode) b c.world c.world'

def Failed (c : Taped) : Prop := c.op.Initialises ∧ ¬ Reached c true

structure Reports (log : List Taped) : Prop where
  result : ∀ c ∈ log, c.op.Initialises → c.result = true → Reached c true
  refuses : ∀ c mid, c :: mid <:+: log → Failed c → (∀ d ∈ mid, ¬ Reached d true) →
    (mid.getLastD c).self'.Refuses

theorem reached_iff {address : Byte} {sealCode : Word} {x : Option Bool}
    (hop : c.op = .init true address sealCode)
    (hx : Exec Tape.handler (c.self.given address sealCode).configure c.world x c.world')
    (b : Bool) : Reached c b ↔ x = some b := by
  constructor
  · rintro ⟨address',sealCode',hop',hb⟩
    rw [hop] at hop'
    cases hop'
    exact (Tape.determined hx (configure_iff.mpr hb) List.suffix_rfl List.suffix_rfl).1
  · rintro rfl
    exact ⟨address,sealCode,hop,configure_iff.mp hx⟩

theorem not_reached {address : Byte} {sealCode : Word} (hop : c.op = .init false address sealCode)
    (b : Bool) : ¬ Reached c b := by
  rintro ⟨address',sealCode',hop',-⟩
  rw [hop] at hop'
  cases hop'

theorem failed_spec (hc : object.Made Tape.handler c) (hf : Failed c) :
    c.self'.gGaugeOn = c.self.gGaugeOn ∧
    (c.result = true ↔ c.self.gReady = true ∧ ¬ Reached c false) ∧
    (c.result = false → c.self'.guarded = false) := by
  obtain ⟨⟨p,a,w,hop⟩,hno⟩ := hf
  rw [Object.Made,hop] at hc
  cases p with
  | false =>
    obtain ⟨heq,-⟩ := exec_pure.mp hc
    obtain ⟨hresult,hself⟩ := Prod.mk.inj heq
    rw [hself,hresult]
    exact ⟨rfl,by simp [not_reached hop],fun _ => Bool.and_false _⟩
  | true =>
    obtain ⟨x,hx,heq⟩ := init_taped hc
    obtain ⟨hresult,hself⟩ := Prod.mk.inj heq
    rw [reached_iff hop hx] at hno
    rw [hself,reached_iff hop hx]
    refine ⟨rfl,?_,fun h => ?_⟩
    · rw [hresult]
      cases x with
      | none => simp
      | some b =>
        obtain rfl : b = false := by simpa using hno
        simp
    · rw [guarded,← hresult,h]
      rfl

def Harmless (c : Taped) : Prop :=
  c.self.isGaugeEnabled = false ∧ (c.self.gReady = false ∨ Reached c false)

theorem harmless_iff (hc : object.Made Tape.handler c) (hf : Failed c) :
    Harmless c ↔ c.result = false ∧ c.self'.Refuses := by
  obtain ⟨hgauge,hresult,hguarded⟩ := failed_spec hc hf
  have hrejected : c.result = false ↔ c.self.gReady = false ∨ Reached c false := by
    rw [← Bool.not_eq_true,hresult,not_and_or,Bool.not_eq_true,not_not]
  rw [Harmless,refuses_iff,isGaugeEnabled,isGaugeEnabled,hgauge,← hrejected]
  constructor
  · rintro ⟨hoff,hr⟩
    exact ⟨hr,hoff,hguarded hr⟩
  · rintro ⟨hr,hoff,-⟩
    exact ⟨hoff,hr⟩

theorem refuses_step (hc : object.Made Tape.handler c) (hs : c.self.Refuses)
    (hno : ¬ Reached c true) (hfail : Failed c → Harmless c) : c.self'.Refuses := by
  by_cases hinit : c.op.Initialises
  · exact ((harmless_iff hc ⟨hinit,hno⟩).mp (hfail ⟨hinit,hno⟩)).2
  · rw [Object.Made] at hc
    change Exec Tape.handler (c.op.code c.self) _ _ _ at hc
    rw [unguarded_code (refuses_iff.mp hs).2 hinit] at hc
    obtain ⟨heq,-⟩ := exec_pure.mp hc
    rwa [(Prod.mk.inj heq).2]

theorem refuses_run (h : object.Session Tape.handler s t log u v) (hs : s.Refuses)
    (hno : ∀ c ∈ log, ¬ Reached c true) (hlog : ∀ c ∈ log, Failed c → Harmless c) :
    u.Refuses := by
  induction h with
  | nil => exact hs
  | cons hc _ ih =>
    have hstep := refuses_step hc hs (hno _ List.mem_cons_self) (hlog _ List.mem_cons_self)
    exact ih hstep (fun d hd => hno d (List.mem_cons_of_mem _ hd))
      (fun d hd => hlog d (List.mem_cons_of_mem _ hd))

theorem init_reports_iff (h : object.Session Tape.handler s t log u v) :
    Reports log ↔ ∀ c ∈ log, Failed c → Harmless c := by
  constructor
  · intro hr c hc hf
    refine (harmless_iff (h.made c hc) hf).mpr ⟨?_,?_⟩
    · exact Bool.eq_false_iff.mpr (fun hok => hf.2 (hr.result c hc hf.1 hok))
    · obtain ⟨pre,post,rfl⟩ := List.append_of_mem hc
      exact hr.refuses c [] ⟨pre,post,by simp⟩ hf (by simp)
  · intro hlog
    refine ⟨fun c hc hinit hok => ?_,fun c mid hin hf hno => ?_⟩
    · by_contra hno
      have hfalse := ((harmless_iff (h.made c hc) ⟨hinit,hno⟩).mp (hlog c hc ⟨hinit,hno⟩)).1
      rw [hok] at hfalse
      cases hfalse
    · obtain ⟨pre,post,rfl⟩ := hin
      obtain ⟨_,_,hrun,-⟩ := h.split
      obtain ⟨_,_,-,hsegment⟩ := hrun.split
      cases hsegment with
      | cons hc hmid =>
        have hstart := (harmless_iff hc hf).mp (hlog c (by simp) hf)
        rw [← hmid.last]
        exact refuses_run hmid hstart.2 hno (fun d hd => hlog d (by simp [hd]))

def answered (address : Byte) : Prog.Oracle Bus Tape :=
  Tape.play (fun _ _ => true) (fun t _ => some (.ofFn (fun i =>
    if t.take 2 = [.write address [0x00] true,.write address [0x00,0x02,0x00] true] then
      if i.val = 0 then 0x09 else 0x01
    else if t.head? = some (.write address [0x06] true) then
      if i.val = 0 ∧ configUpdate address t then 0x10 else 0x00
    else if t.head? = some (.write address [0x60] true) then 0xff
    else 0x00)))

def entered (c : Taped) : Op × Bool := (c.op, c.result)

theorem answered_session (ops : List Op) (l : List (Op × Bool))
    (h : (object.replay (answered 0xaa) 0 ops (.new 0x00) []).map (fun r => r.1.map entered) =
      some l) : ∃ log u v, object.Session Tape.handler (.new 0x00) [] log u v ∧
    log.map entered = l := by
  obtain ⟨⟨log,u,v⟩,hr,hlog⟩ := Option.map_eq_some_iff.mp h
  exact ⟨log,u,v,Object.replay_session (fun _ _ _ _ hp => Tape.play_exec hp) hr,hlog⟩

theorem init_reports_iff_ready : ∃ log u v,
    object.Session Tape.handler (.new 0x00) [] log u v ∧
    log.map entered = [(.init false 0x55 0x8000, false),(.getVoltage, false),
      (.init true 0x55 0x8000, true),(.getVoltage, true)] ∧
    (Reports log ↔ ∀ c ∈ log, Failed c → Harmless c) := by
  obtain ⟨log,u,v,hsession,hlog⟩ := answered_session
    [.init false 0x55 0x8000,.getVoltage,.init true 0x55 0x8000,.getVoltage]
    [(.init false 0x55 0x8000, false),(.getVoltage, false),(.init true 0x55 0x8000, true),
      (.getVoltage, true)] (by decide +kernel)
  exact ⟨log,u,v,hsession,hlog,init_reports_iff hsession⟩

theorem init_misreports : ∃ log u v,
    object.Session Tape.handler (.new 0x00) [] log u v ∧
    log.map entered = [(.init true 0x55 0x8000, true),(.init false 0x55 0x8000, true)] ∧
    ¬ Reports log := by
  obtain ⟨log,u,v,hsession,hlog⟩ := answered_session
    [.init true 0x55 0x8000,.init false 0x55 0x8000]
    [(.init true 0x55 0x8000, true),(.init false 0x55 0x8000, true)] (by decide +kernel)
  refine ⟨log,u,v,hsession,hlog,fun hr => ?_⟩
  have hmem : (.init false 0x55 0x8000, true) ∈ log.map entered := by
    rw [hlog]
    simp
  obtain ⟨c,hc,heq⟩ := List.mem_map.mp hmem
  simp only [entered,Prod.mk.injEq] at heq
  obtain ⟨_,_,hop,-⟩ := hr.result c hc ⟨_,_,_,heq.1⟩ heq.2
  rw [heq.1] at hop
  cases hop

end Calls

end UbloxCellular.Gauge
