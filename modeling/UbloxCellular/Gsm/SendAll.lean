import UbloxCellular.Gsm.SendBlocks

namespace UbloxCellular.Gsm
open Interaction Code

-- The loop of the tests that sends until all is sent or ten seconds are over.
def sendAll (x : Handle) (data : List UInt8) : AtCode Nat := do
  act .timerStart
  Prog.iterate (fun count => do
    if count < data.length then
      let ms ← act .timerReadMs
      if ms < 10000 then
        let r ← socketSend x (data.drop count)
        wait 10
        return .inl (if 0 < r then count + r.toNat else count)
      else return .inr count
    else return .inr count) 0

def Transfer.accepted (t : Transfer) : List UInt8 := if t.ok then t.bytes else []

def accepted (ts : List Transfer) : List UInt8 := ts.reverse.flatMap Transfer.accepted

def Torn (ts : List Transfer) (call : Nat) : Prop :=
  (∃ t ∈ ts, t.call = call ∧ t.ok = true) ∧ ∃ t ∈ ts, t.call = call ∧ t.ok = false

def Unretried (ts : List Transfer) : Prop :=
  ∀ call, Torn ts call → ∀ t ∈ ts, call < t.call → t.ok = false

variable {ts old : List Transfer}

theorem accepted_append (ts old : List Transfer) :
    accepted (ts.reverse ++ old) = accepted old ++ ts.flatMap Transfer.accepted := by
  rw [accepted,accepted,List.reverse_append,List.reverse_reverse,List.flatMap_append]

theorem accepted_suffix (h : old <:+ ts) : accepted old <+: accepted ts := by
  obtain ⟨new,rfl⟩ := h
  rw [← List.reverse_reverse new,accepted_append]
  exact List.prefix_append _ _

theorem accepted_refused (h : ∀ t ∈ ts, t.ok = false) : ts.flatMap Transfer.accepted = [] := by
  rw [List.flatMap_eq_nil_iff]
  intro t ht
  rw [Transfer.accepted,h t ht]
  rfl

theorem Torn.mono {call : Nat} (h : Torn old call) (hsub : old ⊆ ts) : Torn ts call := by
  obtain ⟨⟨t,ht,hok⟩,⟨u,hu,hfail⟩⟩ := h
  exact ⟨⟨t,hsub ht,hok⟩,⟨u,hsub hu,hfail⟩⟩

theorem Unretried.mono (h : Unretried ts) (hsub : old ⊆ ts) : Unretried old :=
  fun call hc t ht => h call (hc.mono hsub) t (hsub ht)

namespace Cut

variable {call : Nat} {command : Nat → Cmd → Prop} {data : List UInt8} {success : Bool}

theorem called (h : Cut call command data ts success) : ∀ t ∈ ts, t.call = call := by
  induction h with
  | done => rintro t ⟨⟩
  | failed _ hcall => exact List.forall_mem_singleton.mpr hcall
  | next _ hcall _ _ _ _ ih => exact List.forall_mem_cons.mpr ⟨hcall,ih⟩

theorem accepted_prefix (h : Cut call command data ts success) :
    ts.flatMap Transfer.accepted <+: data := by
  induction h with
  | done => exact List.prefix_refl _
  | @failed data t _ _ _ _ hok =>
    rw [accepted_refused (List.forall_mem_singleton.mpr hok)]
    exact List.nil_prefix
  | @next data t ts _ _ _ _ hcarries hok _ ih =>
    have hblock : t.accepted = data.take maxWriteSize := by
      rcases hcarries with hb | ⟨-,hf⟩
      · rw [Transfer.accepted,if_pos hok,Transfer.bytes,hb]
        rfl
      · rw [hok] at hf
        cases hf
    have hprefix := (List.prefix_append_right_inj (data.take maxWriteSize)).mpr ih
    rw [List.take_append_drop] at hprefix
    rw [List.flatMap_cons,hblock]
    exact hprefix

theorem accepted_all (h : Cut call command data ts true) :
    ts.flatMap Transfer.accepted = data := by
  obtain ⟨hall,hbytes⟩ := h.whole rfl
  rw [← hbytes]
  refine List.flatMap_congr (fun t ht => ?_)
  rw [Transfer.accepted,if_pos (hall t ht)]

end Cut

namespace SendStation

variable {calm : Driver AtInterface → Prop} {x : Handle} {data : List UInt8} {count : Nat}
variable {w : SendStation} {o : Outbox}

structure Resuming (data : List UInt8) (count : Nat) (o : Outbox) : Prop where
  calls : ∀ t ∈ o.transfers, t.call ≤ o.calls
  safe : Unretried o.transfers → accepted o.transfers <+: data
  whole : (∀ call, ¬ Torn o.transfers call) → accepted o.transfers = data.take count

theorem Resuming.start : Resuming data 0 .empty where
  calls := by rintro t ⟨⟩
  safe _ := List.nil_prefix
  whole _ := rfl

theorem Resuming.later (h : Resuming data count o) :
    Resuming data count { o with calls := o.calls + 1 } :=
  ⟨fun t ht => Nat.le_succ_of_le (h.calls t ht),h.safe,h.whole⟩

theorem Resuming.call {command : Nat → Cmd → Prop} {success : Bool}
    (h : Resuming data count o) (hcut : Cut (o.calls + 1) command (data.drop count) ts success) :
    Resuming data (if success then data.length else count)
      ⟨o.calls + 1,ts.reverse ++ o.transfers⟩ := by
  have hold : o.transfers ⊆ ts.reverse ++ o.transfers := List.subset_append_right _ _
  have hnew : ∀ t ∈ ts, t ∈ ts.reverse ++ o.transfers := fun t ht =>
    List.mem_append_left _ (List.mem_reverse.mpr ht)
  refine ⟨fun t ht => ?_,fun hsafe => ?_,fun hwhole => ?_⟩
  · rcases List.mem_append.mp ht with ht | ht
    · rw [hcut.called t (List.mem_reverse.mp ht)]
    · exact Nat.le_succ_of_le (h.calls t ht)
  · rw [accepted_append]
    by_cases htorn : ∃ call, Torn o.transfers call
    · obtain ⟨call,hcall⟩ := htorn
      have hlate : call < o.calls + 1 := by
        obtain ⟨t,ht,rfl,-⟩ := hcall.1
        exact Nat.lt_succ_of_le (h.calls t ht)
      have hrefused : ∀ t ∈ ts, t.ok = false := fun t ht =>
        hsafe call (hcall.mono hold) t (hnew t ht) (by rw [hcut.called t ht]; exact hlate)
      rw [accepted_refused hrefused,List.append_nil]
      exact h.safe (hsafe.mono hold)
    · rw [h.whole (fun call hcall => htorn ⟨call,hcall⟩)]
      have hprefix := (List.prefix_append_right_inj (data.take count)).mpr hcut.accepted_prefix
      rw [List.take_append_drop] at hprefix
      exact hprefix
  · rw [accepted_append,h.whole (fun call hcall => hwhole call (hcall.mono hold))]
    cases success with
    | true => rw [hcut.accepted_all,List.take_append_drop,if_pos rfl,List.take_length]
    | false =>
      have hrefused : ∀ t ∈ ts, t.ok = false := by
        obtain ⟨u,hu,hfail⟩ := hcut.failing rfl
        intro t ht
        by_contra hok
        have hok : t.ok = true := Bool.not_eq_false _ ▸ hok
        exact hwhole (o.calls + 1) ⟨⟨t,hnew t ht,hcut.called t ht,hok⟩,
          ⟨u,hnew u hu,hcut.called u hu,hfail⟩⟩
      rw [accepted_refused hrefused,List.append_nil,if_neg Bool.false_ne_true]

theorem socketSend_resuming (hd : data.length < 2 ^ 31) (hc : count < data.length)
    (h : Resuming data count w.modem) (hw : calm w.driver) :
    wp (sendModem calm).spec (socketSend x (data.drop count)) (fun r v => calm v.driver ∧
      Resuming data (if 0 < r then count + r.toNat else count) v.modem)
      { w with modem := { w.modem with calls := w.modem.calls + 1 } } := by
  have hlength : (data.drop count).length = data.length - count := List.length_drop
  simp only [socketSend,wp_bind,wp_pure]
  refine wp_mono (Modem.mono _) (fun s v hv => ?_) (sendLoop_cut (by omega) hw)
  obtain ⟨hvd,hcount,ts,hm,hcut⟩ := hv
  rw [sendResult_cut (by omega) hcount,hm]
  refine ⟨hvd,?_⟩
  have hcall := h.call hcut
  cases hs : s.success with
  | true =>
    rw [hs] at hcall
    have hsum : count + ((data.drop count).length : Int).toNat = data.length := by omega
    rw [if_pos rfl,if_pos (by omega),hsum]
    exact hcall
  | false =>
    rw [hs] at hcall
    exact hcall

theorem sendAll_resuming (hd : data.length < 2 ^ 31) (hw : calm w.driver)
    (hm : w.modem = .empty) : wp (sendModem calm).spec (sendAll x data)
      (fun count v => Resuming data count v.modem) w := by
  simp only [sendAll,wp_bind]
  rw [Modem.wp_inside rfl]
  intro _
  refine wp_iterate (fun count v => calm v.driver ∧ Resuming data count v.modem)
    ⟨hw,by rw [hm]; exact .start⟩ ?_
  rintro count v ⟨hv,h⟩
  rw [wp_ite]
  split
  · rename_i hc
    rw [wp_bind,Modem.wp_asks rfl]
    intro ms _
    rw [wp_ite]
    split
    · refine wp_seq (Modem.mono _) (socketSend_resuming hd hc h hv) (fun r u hu => ?_)
      rw [wp_bind,Modem.wp_wait]
      exact hu
    · exact h.later
  · exact h

theorem sendAll_prefix {d : Driver AtInterface} (hd : data.length < 2 ^ 31) {sent : Nat}
    (hx : (sendModem (fun _ => True)).Runs (sendAll x data) ⟨d,.empty⟩ sent w)
    (h : Unretried w.modem.transfers) :
    ∀ past, past <:+ w.modem.transfers → accepted past <+: data := by
  intro past hpast
  have hresuming := Modem.sound (sendAll_resuming hd trivial rfl) hx
  exact (accepted_suffix hpast).trans (hresuming.safe h)

theorem sendAll_prefix_retried : ∃ (sent : Nat) (w : SendStation),
    (sendModem (fun _ => True)).Runs (sendAll 0 [1,2,3]) ⟨connected,.empty⟩ sent w ∧ sent = 3 ∧
    ∀ past, past <:+ w.modem.transfers → accepted past <+: [1,2,3] := by
  have hrun : ((sendAll 0 [1,2,3]).run ((sendModem (fun _ => True)).machine.play
      (choosing (fun o => o.transfers.length ≠ 1)).script) 5 ⟨connected,.empty⟩).map
      (fun r => (r.1, r.2.modem.transfers)) = some (3, [⟨2,.usowr 0 3,some [1,2,3],true⟩,
        ⟨1,.usowr 0 3,some [1,2,3],false⟩]) := by decide
  obtain ⟨r,hr,hresult⟩ := Option.map_eq_some_iff.mp hrun
  obtain ⟨hsent,htransfers⟩ := Prod.mk.inj hresult
  have hx := (choosing_fair _).runs hr
  have hshort : [(1 : UInt8),2,3].length < 2 ^ 31 := by decide
  refine ⟨r.1,r.2,hx,hsent, sendAll_prefix hshort hx ?_⟩
  rw [htransfers]
  rintro call ⟨⟨t,ht,rfl,hok⟩,u,hu,hcall,hfail⟩
  simp only [List.mem_cons,List.not_mem_nil,or_false] at ht hu
  rcases ht with rfl | rfl
  · rcases hu with rfl | rfl
    · cases hfail
    · cases hcall
  · cases hok

theorem sendAll_doubles : ¬ ∀ (x : Handle) (data : List UInt8) (d : Driver AtInterface)
    (sent : Nat) (w : SendStation), data.length < 2 ^ 31 →
    (sendModem (fun _ => True)).Runs (sendAll x data) ⟨d,.empty⟩ sent w →
    ∀ past, past <:+ w.modem.transfers → accepted past <+: data := by
  intro hall
  have hrun : ((sendAll 0 (List.replicate 1025 7)).run ((sendModem (fun _ => True)).machine.play
      (choosing (fun o => o.transfers.length % 2 = 1)).script) 5 ⟨connected,.empty⟩).map
      (fun r => (accepted r.2.modem.transfers).length) = some 2048 := by decide +kernel
  obtain ⟨r,hr,hlength⟩ := Option.map_eq_some_iff.mp hrun
  have hx := (choosing_fair _).runs hr
  have hshort : (List.replicate 1025 (7 : UInt8)).length < 2 ^ 31 := by
    rw [List.length_replicate]
    decide
  have hprefix := hall 0 _ connected _ _ hshort hx _ (List.suffix_refl _)
  have hle := hprefix.length_le
  rw [hlength,List.length_replicate] at hle
  omega

end SendStation

end UbloxCellular.Gsm
