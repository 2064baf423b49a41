import UbloxCellular.Gauge.Power
import UbloxCellular.I2c.Tape

namespace UbloxCellular.Gauge
open Interaction I2c

variable {α β : Type}

inductive Stage where
  | range
  | unseal
  | enter
  | flag
  | dataControl
  | dataClass
  | block
  | checksum
  | mismatch
  | store
  | newChecksum
  | leave
  | settle
  deriving DecidableEq, Repr

def Stage.entered : Stage → Bool
  | .range => false
  | .unseal => false
  | .enter => false
  | _ => true

-- The flag that sub-command 0x0013 sets and SOFT_RESET 0x0042 clears.
def configUpdate (address : Byte) : Tape → Bool
  | .write a data true :: t =>
    if a = address ∧ data = [0x00,0x13,0x00] then true
    else if a = address ∧ data = [0x00,0x42,0x00] then false
    else configUpdate address t
  | _ :: t => configUpdate address t
  | [] => false

namespace BatteryGaugeBq27441

variable (g : BatteryGaugeBq27441)

def loadBlockStages (subClassId : Byte) (offset : Int) :
    BusCode (Except Stage (Vector Byte 32)) := do
  if ← g.write [0x61,0x00] then
    if ← g.write [0x3e,subClassId] then
      if ← g.writeRepeated [0x3f,BitVec.ofInt 8 (offset.tdiv 32)] then
        (← g.read 32).elim (pure (.error .block)) (fun block => do
          if ← g.writeRepeated [0x60] then
            return (← g.read 1).elim (.error .checksum) (fun sum =>
              if sum.head = computeChecksum block then .ok block else .error .mismatch)
          else return .error .checksum)
      else return .error .block
    else return .error .dataClass
  else return .error .dataControl

def storeBlockStages (offset : Int) (data : List Byte) (block : Vector Byte 32) :
    BusCode (Except Stage Unit) := do
  if ← g.write (windowAddress offset :: data) then
    if ← g.write [0x60,computeChecksum (memcpy block (offset.tmod 32).toNat data)] then
      return .ok ()
    else return .error .newChecksum
  else return .error .store

def leaveConfigStages (wasSealed : Bool) : BusCode (Except Stage Unit) := do
  if ← g.control 0x0042 then
    let answer ← g.pollFlags 0xffff (fun answer => !answer.getLsbD 4)
    if answer.getLsbD 4 then return .error .settle
    else if wasSealed then do
      wait 4000
      return .ok ()
    else return .ok ()
  else return .error .leave

def andThen (p : BusCode (Except Stage α)) (f : α → BusCode (Except Stage β)) :
    BusCode (Except Stage β) := do
  match ← p with
  | .ok a => f a
  | .error e => return .error e

def writeBlockStages (wasSealed : Bool) (subClassId : Byte) (offset : Int) (data : List Byte) :
    BusCode (Except Stage Unit) := do
  if ← g.control 0x0013 then
    let answer ← g.pollFlags 0x0000 (fun answer => answer.getLsbD 4)
    if answer.getLsbD 4 then
      andThen (g.loadBlockStages subClassId offset) (fun block =>
        andThen (g.storeBlockStages offset data block) (fun _ => g.leaveConfigStages wasSealed))
    else return .error .flag
  else return .error .enter

def writeExtendedDataStages (subClassId : Byte) (offset length : Int)
    (pData : Option (List Byte)) : BusCode (Except Stage Unit) :=
  if g.gpI2c && pData.isSome && withinBlock offset length then do
    let wasSealed ← g.isSealed
    let opened ← g.accessible wasSealed
    let result ← (if opened then
      g.writeBlockStages wasSealed subClassId offset ((pData.getD []).take length.toNat)
      else pure (.error .unseal))
    if !result.isOk && wasSealed then do
      let _ ← g.seal'
      return result
    else return result
  else return .error .range

variable {g}

theorem andThen_then (p : BusCode (Except Stage α)) (f : α → BusCode (Except Stage β)) :
    (andThen p f >>= fun r => return r.isOk) = (p >>= fun r => return r.toOption) >>= fun a =>
      a.elim (return false) (fun a => f a >>= fun r => return r.isOk) := by
  rw [andThen,bind_assoc,bind_assoc]
  refine Prog.bind_same _ (fun r => ?_)
  cases r <;> rfl

theorem loadBlock_stages (subClassId : Byte) (offset : Int) : g.loadBlock subClassId offset =
    g.loadBlockStages subClassId offset >>= fun r => return r.toOption := by
  simp only [loadBlock,loadBlockStages,bind_assoc,Prog.ite_then,Prog.elim_then,pure_bind]
  refine Prog.bind_same _ (fun control => ?_)
  split
  · refine Prog.bind_same _ (fun subClass => ?_)
    split
    · refine Prog.bind_same _ (fun block => ?_)
      split
      · refine Prog.bind_same _ (fun bytes => ?_)
        cases bytes with
        | none => rfl
        | some bytes =>
          refine Prog.bind_same _ (fun selected => ?_)
          split
          · refine Prog.bind_same _ (fun sum => ?_)
            cases sum with
            | none => rfl
            | some sum =>
              change pure (if sum.head = computeChecksum bytes then some bytes else none) = _
              rw [Option.elim_some]
              split <;> rfl
          · rfl
      · rfl
    · rfl
  · rfl

theorem storeBlock_stages (offset : Int) (data : List Byte) (block : Vector Byte 32) :
    g.storeBlock offset data block =
      g.storeBlockStages offset data block >>= fun r => return r.isOk := by
  simp only [storeBlock,storeBlockStages,Prog.both,bind_assoc,Prog.ite_then,pure_bind]
  refine Prog.bind_same _ (fun stored => ?_)
  split
  · refine (bind_pure _).symm.trans (Prog.bind_same _ (fun sum => ?_))
    cases sum <;> rfl
  · rfl

theorem leaveConfig_stages (wasSealed : Bool) : g.leaveConfig wasSealed =
    g.leaveConfigStages wasSealed >>= fun r => return r.isOk := by
  simp only [leaveConfig,leaveConfigStages,Prog.both,bind_assoc,Prog.ite_then,pure_bind]
  refine Prog.bind_same _ (fun left => ?_)
  split
  · refine Prog.bind_same _ (fun answer => ?_)
    split
    · rfl
    · rfl
  · rfl

theorem writeBlock_stages (wasSealed : Bool) (subClassId : Byte) (offset : Int)
    (data : List Byte) : g.writeBlock wasSealed subClassId offset data =
      g.writeBlockStages wasSealed subClassId offset data >>= fun r => return r.isOk := by
  simp only [writeBlock,writeBlockStages,enterConfig,Prog.both,bind_assoc,Prog.ite_then,pure_bind]
  refine Prog.bind_same _ (fun entered => ?_)
  split
  · refine Prog.bind_same _ (fun answer => ?_)
    split
    · rw [andThen_then,← loadBlock_stages]
      refine Prog.bind_same _ (fun block => ?_)
      cases block with
      | none => rfl
      | some block =>
        simp only [Option.elim_some]
        rw [andThen_then,storeBlock_stages,leaveConfig_stages,bind_assoc,bind_assoc]
        refine Prog.bind_same _ (fun stored => ?_)
        cases stored <;> rfl
    · rfl
  · rfl

theorem writeExtendedData_stages (subClassId : Byte) (offset length : Int)
    (pData : Option (List Byte)) : g.writeExtendedData subClassId offset length pData =
      g.writeExtendedDataStages subClassId offset length pData >>= fun r => return r.isOk := by
  rw [writeExtendedData,writeExtendedDataStages,Prog.ite_then]
  split
  · simp only [writeBlock_stages,bind_assoc,Prog.ite_then,pure_bind]
    refine Prog.bind_same _ (fun wasSealed => ?_)
    refine Prog.bind_same _ (fun opened => ?_)
    split
    · refine Prog.bind_same _ (fun result => ?_)
      cases result <;> rfl
    · rfl
  · rfl

section Flag
variable {address : Byte}

theorem configUpdate_other {a : Byte} {data : List Byte} (h13 : data ≠ [0x00,0x13,0x00])
    (h42 : data ≠ [0x00,0x42,0x00]) (b : Bool) (t : Tape) :
    configUpdate address (.write a data b :: t) = configUpdate address t := by
  cases b with
  | false => rfl
  | true => rw [configUpdate,if_neg (fun h => h13 h.2),if_neg (fun h => h42 h.2)]

instance flag_quiet : Quiet (Tape.kept (configUpdate address)) where
  lock := Tape.keeps_lock
  unlock := Tape.keeps_unlock
  wait := Tape.keeps_wait
  read _ _ := Tape.keeps_read (fun _ _ => rfl)
  select _ _ := Tape.keeps_write (configUpdate_other (by simp) (by simp))
  selectRepeated _ _ := Tape.keeps_writeRepeated (configUpdate_other (by simp) (by simp))
  data _ _ _ _ _ := Tape.keeps_write (configUpdate_other (by simp) (by simp))
  dataRepeated _ _ _ _ _ := Tape.keeps_writeRepeated (configUpdate_other (by simp) (by simp))

theorem flag_control {w : Word} (h13 : w ≠ 0x0013) (h42 : w ≠ 0x0042) :
    (Tape.kept (configUpdate address)).Keeps (g.control w) := by
  have hbytes (v : Word) (hv : w ≠ v) : [0x00,lowByte w,highByte w] ≠ [0x00,lowByte v,highByte v] := by
    intro h
    simp only [List.cons.injEq,and_true,true_and] at h
    exact hv (by rw [← word_bytes w,h.1,h.2,word_bytes])
  exact Tape.keeps_write (configUpdate_other (hbytes 0x0013 h13) (hbytes 0x0042 h42))

instance flag_status : (Tape.kept (configUpdate address)).Keeps (g.control 0x0000) :=
  flag_control (by decide) (by decide)

instance flag_seal : (Tape.kept (configUpdate address)).Keeps (g.control 0x0020) :=
  flag_control (by decide) (by decide)

theorem windowAddress_ne (offset : Int) : windowAddress offset ≠ 0x00 := fun h =>
  windowAddress_clear offset (i := 1) (by decide) (by rw [h]; rfl)

set_option synthInstance.maxSize 8192 in
instance flag_load (subClassId : Byte) (offset : Int) :
    (Tape.kept (configUpdate address)).Keeps (g.loadBlockStages subClassId offset) := by
  have hread := (@flag_quiet address).read g
  have hsum := (@flag_quiet address).selectRepeated g
  have hcontrol := (@flag_quiet address).data g 0x61 0x00 (by decide) (by decide)
  have hclass := (@flag_quiet address).data g 0x3e subClassId (by decide) (by decide)
  have hblock := fun d => (@flag_quiet address).dataRepeated g 0x3f d
    (by decide) (by decide)
  rw [loadBlockStages]
  infer_instance

instance flag_store (offset : Int) (data : List Byte) (block : Vector Byte 32) :
    (Tape.kept (configUpdate address)).Keeps (g.storeBlockStages offset data block) := by
  have hwindow : (Tape.kept (configUpdate address)).Keeps
      (g.write (windowAddress offset :: data)) :=
    Tape.keeps_write (configUpdate_other (fun h => windowAddress_ne offset (List.cons.inj h).1)
      (fun h => windowAddress_ne offset (List.cons.inj h).1))
  have hsum (c : Byte) : (Tape.kept (configUpdate address)).Keeps (g.write [0x60,c]) :=
    Tape.keeps_write (configUpdate_other (by simp) (by simp))
  rw [storeBlockStages]
  infer_instance

def Told (address : Byte) (r : Except Stage α) (t : Tape) : Prop :=
  ∀ e, r = .error e → e.entered = true → (configUpdate address t = false ↔ e = .settle)

theorem told_set {t : Tape} {e : Stage} (h : configUpdate address t = true) (he : e ≠ .settle) :
    Told address (.error e : Except Stage α) t := by
  rintro _ ⟨⟩ -
  rw [h]
  exact iff_of_false (by decide) he

theorem wp_loaded {subClassId : Byte} {offset : Int} {t : Tape}
    (ht : configUpdate address t = true) :
    wp Tape.spec (g.loadBlockStages subClassId offset)
      (fun r t' => configUpdate address t' = true ∧ r ≠ .error .settle) t := by
  refine Handler.wp_and (wp_mono Tape.mono (fun _ _ h => h.trans ht) (Tape.run_kept t)) ?_
  simp only [loadBlockStages,write,writeRepeated,read,wp_bind,Tape.wp_write,Tape.wp_writeRepeated,
    Tape.wp_read,wp_ite,wp_elim,wp_pure]
  intro control
  split
  · intro subClass
    split
    · intro block
      split
      · intro bytes
        cases bytes with
        | none => simp
        | some bytes =>
          intro selected
          split
          · intro sum
            cases sum with
            | none => simp
            | some sum =>
              rw [Option.elim_some]
              split <;> simp
          · simp
      · simp
    · simp
  · simp

theorem wp_stored {offset : Int} {data : List Byte} {block : Vector Byte 32} {t : Tape}
    (ht : configUpdate address t = true) :
    wp Tape.spec (g.storeBlockStages offset data block)
      (fun r t' => configUpdate address t' = true ∧ r ≠ .error .settle) t := by
  refine Handler.wp_and (wp_mono Tape.mono (fun _ _ h => h.trans ht) (Tape.run_kept t)) ?_
  simp only [storeBlockStages,write,wp_bind,Tape.wp_write,wp_ite,wp_pure]
  intro stored
  split
  · intro sum
    split <;> simp
  · simp

theorem wp_andThen {p : BusCode (Except Stage α)} {f : α → BusCode (Except Stage β)} {t : Tape}
    (hp : wp Tape.spec p (fun r t' => configUpdate address t' = true ∧ r ≠ .error .settle) t)
    (hf : ∀ a t', configUpdate address t' = true → wp Tape.spec (f a) (Told address) t') :
    wp Tape.spec (andThen p f) (Told address) t := by
  rw [andThen]
  refine wp_seq Tape.mono hp (fun r t' h => ?_)
  cases r with
  | ok a => exact hf a t' h.1
  | error e => exact told_set h.1 (fun he => h.2 (congrArg Except.error he))

theorem flag_set (t : Tape) :
    configUpdate address (.write address [0x00,0x13,0x00] true :: t) = true := by
  rw [configUpdate,if_pos ⟨rfl,rfl⟩]

theorem flag_cleared (t : Tape) :
    configUpdate address (.write address [0x00,0x42,0x00] true :: t) = false := by
  rw [configUpdate,if_neg (by simp),if_pos ⟨rfl,rfl⟩]

theorem wp_left (wasSealed : Bool) {t : Tape} (ht : configUpdate g.gAddress t = true) :
    wp Tape.spec (g.leaveConfigStages wasSealed) (Told g.gAddress) t := by
  rw [leaveConfigStages,wp_bind,control,write,Tape.wp_write]
  intro left
  cases left with
  | false => exact told_set ht (by decide)
  | true =>
    rw [if_pos rfl]
    refine wp_seq Tape.mono (@Tape.run_kept _ _ (configUpdate g.gAddress) _ _ _)
      (fun answer t' h => ?_)
    split
    · rintro _ ⟨⟩ -
      exact iff_of_true (h.trans (flag_cleared t)) rfl
    · split
      · rw [wp_bind,Tape.wp_wait]
        rintro _ ⟨⟩
      · rintro _ ⟨⟩

theorem wp_written (wasSealed : Bool) (subClassId : Byte) (offset : Int) (data : List Byte)
    (t : Tape) : wp Tape.spec (g.writeBlockStages wasSealed subClassId offset data)
      (Told g.gAddress) t := by
  rw [writeBlockStages,wp_bind,control,write,Tape.wp_write]
  intro entered
  cases entered with
  | false =>
    rintro _ ⟨⟩ hentered
    cases hentered
  | true =>
    rw [if_pos rfl]
    refine wp_seq Tape.mono (@Tape.run_kept _ _ (configUpdate g.gAddress) _ _ _)
      (fun answer t' h => ?_)
    have hset := h.trans (flag_set t)
    split
    · exact wp_andThen (wp_loaded hset) (fun block u hu =>
        wp_andThen (wp_stored hu) (fun _ _ hv => wp_left wasSealed hv))
    · exact told_set hset (by decide)

theorem wp_given_up (subClassId : Byte) (offset length : Int) (pData : Option (List Byte))
    (t : Tape) : wp Tape.spec (g.writeExtendedDataStages subClassId offset length pData)
      (Told g.gAddress) t := by
  have hearly (e : Stage) (he : e.entered = false) (u : Tape) :
      Told g.gAddress (.error e : Except Stage Unit) u := by
    rintro _ ⟨⟩ h
    rw [he] at h
    cases h
  rw [writeExtendedDataStages,wp_ite]
  split
  · refine wp_seq Tape.mono (wp_always (Q := fun _ _ => True) (by simp) t) (fun wasSealed u _ => ?_)
    refine wp_seq Tape.mono (wp_always (Q := fun _ _ => True) (by simp) u) (fun opened u _ => ?_)
    rw [wp_bind]
    refine wp_mono Tape.mono (fun r v (hr : Told g.gAddress r v) => ?_) ?_
    · split
      · refine wp_seq Tape.mono (@Tape.run_kept _ _ (configUpdate g.gAddress) _ _ v)
          (fun _ v' hv => ?_)
        intro e he hentered
        rw [hv]
        exact hr e he hentered
      · exact hr
    · split
      · exact wp_written wasSealed subClassId offset _ u
      · exact hearly .unseal rfl u
  · exact hearly .range rfl t

theorem config_mode_left_iff (g : BatteryGaugeBq27441) (subClassId : Byte) (offset length : Int)
    (pData : Option (List Byte)) :
    (g.writeExtendedData subClassId offset length pData =
      g.writeExtendedDataStages subClassId offset length pData >>= fun r => return r.isOk) ∧
    ∀ t e t', Exec Tape.handler (g.writeExtendedDataStages subClassId offset length pData) t
      (.error e) t' → e.entered = true → (configUpdate g.gAddress t' = false ↔ e = .settle) :=
  ⟨writeExtendedData_stages subClassId offset length pData,fun t _ _ hrun =>
    wp_sound (wp_given_up subClassId offset length pData t) hrun _ rfl⟩

def idle (sum : Byte) : Prog.Oracle Bus Tape :=
  Tape.play (fun _ _ => true) (fun _ k =>
    some (.ofFn (fun i => if k = 1 then sum else if k = 2 ∧ i.val = 0 then 0x10 else 0x00)))

theorem config_mode_left_settle : ∃ t',
    Exec Tape.handler (writeExtendedDataStages ⟨true,0xaa,0x8000,true,false⟩ 64 0 2
      (some [0x00,0x00])) [] (.error .settle) t' ∧
    (configUpdate 0xaa t' = false ↔ Stage.settle = .settle) := by
  have hrun : ((writeExtendedDataStages ⟨true,0xaa,0x8000,true,false⟩ 64 0 2
      (some [0x00,0x00])).run (idle 0xff) 0 []).map (fun r => decide (r.1 = .error .settle)) =
      some true := by
    decide +kernel
  obtain ⟨⟨r,t'⟩,hr,hr'⟩ := Option.map_eq_some_iff.mp hrun
  obtain rfl := of_decide_eq_true hr'
  have hexec := Tape.play_exec hr
  exact ⟨t',hexec,(config_mode_left_iff ⟨true,0xaa,0x8000,true,false⟩ 64 0 2
    (some [0x00,0x00])).2 [] .settle t' hexec rfl⟩

theorem config_mode_kept : ∃ t',
    Exec Tape.handler (writeExtendedData ⟨true,0xaa,0x8000,true,false⟩ 64 0 2
      (some [0x00,0x00])) [] false t' ∧
    t'.all Transfer.ok = true ∧ configUpdate 0xaa t' = true := by
  have hrun : ((writeExtendedData ⟨true,0xaa,0x8000,true,false⟩ 64 0 2
      (some [0x00,0x00])).run (idle 0x00) 0 []).map (fun r =>
        (r.1, r.2.all Transfer.ok, configUpdate 0xaa r.2)) = some (false, true, true) := by
    decide +kernel
  obtain ⟨⟨ok,t'⟩,hr,hr'⟩ := Option.map_eq_some_iff.mp hrun
  simp only [Prod.mk.injEq] at hr'
  obtain ⟨rfl,hall,hflag⟩ := hr'
  exact ⟨t',Tape.play_exec hr,hall,hflag⟩

end Flag

end BatteryGaugeBq27441

end UbloxCellular.Gauge
