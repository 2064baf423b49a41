import UbloxCellular.N2xx.Received

namespace UbloxCellular.N2xx
open Interaction Code

namespace Transcript

variable {t : Transcript} {w : Station sig Bool} {size : UInt32} {tail : List UInt8}

variable (t) in
def Fits (size : UInt32) : Prop := t.failed = true ∨ t.reported ≤ size.toNat

def Within (size : UInt32) (s : RecvState) : Prop :=
  s.data.length ≤ size.toNat ∧ s.result ≤ size.toNat

inductive Progress (t : Transcript) (size : UInt32) (s : RecvState) (w : Station sig Bool) : Prop
  | waiting : s = .start size → w.modem = false → Progress t size s w
  | settled : (s.success = true → s.size = 0) →
      (Within size s ↔ (w.modem = true → t.Fits size)) → Progress t size s w

theorem failed_within {s : RecvState} (hs : s.success = false) (hd : s.data = [])
    (he : s.error < 0) : Within size s := by
  refine ⟨?_,?_⟩
  · rw [hd]
    exact Nat.zero_le _
  · rw [RecvState.result,hs,if_neg Bool.false_ne_true]
    exact Int.le_trans (Int.le_of_lt he) (Int.natCast_nonneg _)

theorem stored_within {got : Received} (hpos : 0 ≤ got.size) (hlt : got.size < 2 ^ 31)
    (rest : List UInt8) : Within size ((RecvState.start size).store got rest) ↔
      got.size ≤ size.toNat := by
  have hresult : ((RecvState.start size).store got rest).result = got.size := by
    simp only [RecvState.result,RecvState.store,RecvState.start,if_true,addU,toUnsigned]
    rw [toSigned_of_lt (by omega)]
    omega
  have hdata : ((RecvState.start size).store got rest).data.length ≤ got.size.toNat := by
    simp only [RecvState.store,RecvState.start,List.nil_append,List.length_take]
    exact Nat.min_le_left _ _
  rw [Within,hresult]
  omega

theorem received_fits (h : t.enough = true) (hsize : (t.received tail).size < 0) :
    t.Fits size := by
  rw [received_size tail h] at hsize
  rcases Bool.eq_false_or_eq_true t.failed with hf | hf
  · exact .inl hf
  · rw [hf,if_neg Bool.false_ne_true] at hsize
    exact .inr (Int.le_trans (Int.le_of_lt hsize) (Int.natCast_nonneg _))

theorem received_reported (h : 0 ≤ (t.received tail).size) :
    t.enough = true ∧ t.failed = false ∧ (t.received tail).size = t.reported := by
  cases he : t.enough with
  | false =>
    rw [received_poor he] at h
    exact absurd h (by decide)
  | true =>
    have hsize := received_size tail he
    cases hf : t.failed with
    | true =>
      rw [hf,if_pos rfl] at hsize
      rw [hsize] at h
      exact absurd h (by decide)
    | false => exact ⟨rfl,rfl,by rw [hsize,hf,if_neg Bool.false_ne_true]⟩

theorem recvBlock_progress {x : Handle} {id : Int} {k : Nat} (hk : k ≤ maxReadSize)
    (hw : w.modem = false) : wp t.handler.spec (recvBlock x id k (.start size))
      (fun r v => r.elim (v.modem = false) (fun s => Progress t size s v)) w := by
  simp only [recvBlock,wp_bind,wp_ite,wp_pure]
  apply wp_modem
  rw [Modem.wp_asks rfl]
  intro enough _
  split
  · refine wp_mono t.handler.spec_mono (fun got v hgot => ?_) (receivefrom_spec id hk)
    obtain ⟨⟨tail,rfl⟩,hasked⟩ := hgot
    change v.modem = (t.enough || w.modem) at hasked
    rw [hw,Bool.or_false] at hasked
    split
    · rename_i hpos
      obtain ⟨henough,hfailed,hreported⟩ := received_reported hpos
      apply wp_modem
      rw [Modem.wp_inside rfl]
      intro rest
      apply wp_modem
      rw [Modem.wp_modify]
      refine .settled (fun _ => rfl) ?_
      rw [stored_within hpos (hreported ▸ Int32.toInt_lt _),hreported,Fits,hfailed]
      change _ ↔ (v.modem = true → _)
      rw [hasked,henough]
      simp
    · rename_i hneg
      have hneg : (t.received tail).size < 0 := Int.not_le.mp hneg
      refine .settled (by rintro ⟨⟩) (iff_of_true (failed_within rfl rfl hneg) (fun hv => ?_))
      exact received_fits (hasked ▸ hv) hneg
  · exact hw

theorem recvWait_progress (hw : w.modem = false) :
    wp t.handler.spec (recvWait (.start size)) (fun s v => Progress t size s v) w := by
  simp only [recvWait,recvUnnatural,wp_bind,wp_ite,wp_pure]
  apply wp_modem
  rw [Modem.wp_asks rfl]
  intro ms _
  split
  · apply wp_modem
    rw [Modem.wp_recv]
    intro v b hv _
    exact .waiting rfl ((events_asked hv).trans hw)
  · refine .settled (by rintro ⟨⟩) (iff_of_true (failed_within rfl rfl ?_) (fun hv => ?_))
    · exact (by decide : NsapiError.wouldBlock < 0)
    exact absurd (hw.symm.trans hv) Bool.false_ne_true

theorem recvIteration_progress (timeout : Int) (x : Handle) (hw : w.modem = false) :
    wp t.handler.spec (recvIteration timeout x (.start size)) (fun r v =>
      r.elim (fun s => Progress t size s v)
        (fun s => Within size s ↔ (v.modem = true → t.Fits size))) w := by
  simp only [recvIteration,wp_bind,wp_ite,wp_elim,wp_pure]
  apply wp_modem
  rw [Modem.wp_lock]
  intro v hv
  apply wp_modem
  rw [Modem.wp_atSetTimeout]
  apply wp_modem
  refine (Modem.wp_get (M := t.modem) _).mpr ?_
  have hv' : v.modem = false := (events_asked hv).trans hw
  have hback : ∀ s u, Progress t size s u → wp t.handler.spec (atSetTimeout timeout) (fun _ u =>
      wp t.handler.spec unlock (fun _ u => Progress t size s u) u) u := by
    intro s u hs
    apply wp_modem
    rw [Modem.wp_atSetTimeout]
    apply wp_modem
    rw [Modem.wp_unlock]
    exact hs
  split
  · refine wp_mono t.handler.spec_mono (fun r u hr => ?_)
      (recvBlock_progress (Nat.min_le_right _ _) hv')
    cases r with
    | none =>
      refine iff_of_true (failed_within rfl rfl ?_) (fun hu => ?_)
      · exact (by decide : NsapiError.noMemory < 0)
      · exact absurd (hr.symm.trans hu) Bool.false_ne_true
    | some s => exact hback s u hr
  · exact wp_mono t.handler.spec_mono hback (recvWait_progress hv')

theorem socketRecvfrom_within (hs : 0 < size) (x : Handle) (hw : w.modem = false) :
    wp t.handler.spec (socketRecvfrom x size) (fun r v =>
      r.2.1.length ≤ size.toNat ∧ r.1 ≤ size.toNat ↔ (v.modem = true → t.Fits size)) w := by
  simp only [socketRecvfrom,recvLoop,wp_bind,wp_pure]
  apply wp_modem
  rw [Modem.wp_atTimeout]
  intro timeout
  apply wp_modem
  rw [Modem.wp_inside rfl]
  intro _
  refine wp_iterate (Progress t size) (.waiting rfl hw) (fun s v hv => ?_)
  rw [wp_ite]
  cases hv with
  | waiting hstart hasked =>
    subst hstart
    rw [if_pos ⟨rfl,hs⟩]
    refine wp_mono t.handler.spec_mono (fun r u hr => ?_) (recvIteration_progress timeout x hasked)
    cases r with
    | inl s => exact hr
    | inr s => exact hr
  | settled hdone hwithin =>
    rw [if_neg (fun h => absurd h.2 (by rw [hdone h.1]; decide))]
    exact hwithin

abbrev Outcome := Int × List UInt8 × Option (String × Int)

theorem datagram_fits_iff {x : Handle} {d : Driver} {r : Outcome} {w' : Station sig Bool} (hs : 0 < size)
    (h : Exec t.handler (socketRecvfrom x size) ⟨d,false⟩ r w') :
    r.2.1.length ≤ size.toNat ∧ r.1 ≤ size.toNat ↔ (w'.modem = true → t.Fits size) := by
  have hwithin := wp_sound (socketRecvfrom_within hs x rfl) h
  exact hwithin

def pending (n : Nat) : Driver := Driver.initial.onSockets (fun s => s.setPending 0 n)

def abc : Transcript := spoken 3 [0x34,0x31,0x34,0x32,0x34,0x33]

theorem fetched (size : UInt32) (h : ((socketRecvfrom 0 size).run
      (abc.modem.machine.play abc.peer.script) 4 ⟨pending 3,false⟩).map
        (fun r => (r.1, r.2.modem)) = some ((3, [0x41,0x42,0x43], some ("10.0.0.2", 7)), true)) :
    ∃ w', Exec abc.handler (socketRecvfrom 0 size) ⟨pending 3,false⟩
      (3, [0x41,0x42,0x43], some ("10.0.0.2", 7)) w' ∧ w'.modem = true := runs_result rfl h

theorem datagram_fits_three : ∃ (r : Outcome) (w' : Station sig Bool), w'.modem = true ∧
    (r.2.1.length ≤ (3 : UInt32).toNat ∧ r.1 ≤ (3 : UInt32).toNat ↔
      (w'.modem = true → abc.Fits 3)) ∧
    Exec abc.handler (socketRecvfrom 0 3) ⟨pending 3,false⟩ r w' := by
  obtain ⟨w',hx,hasked⟩ := fetched 3 (by decide +kernel)
  exact ⟨_,w',hasked,datagram_fits_iff (by decide) hx,hx⟩

theorem datagram_overruns : ¬ ∀ (t : Transcript) (x : Handle) (size : UInt32) (d : Driver)
    (r : Outcome) (w' : Station sig Bool), 0 < size →
    Exec t.handler (socketRecvfrom x size) ⟨d,false⟩ r w' →
    r.2.1.length ≤ size.toNat ∧ r.1 ≤ size.toNat := by
  intro hall
  obtain ⟨w',hx,-⟩ := fetched 2 (by decide +kernel)
  have hwithin := hall abc 0 2 (pending 3) _ w' (by decide) hx
  exact absurd hwithin.2 (by decide)

end Transcript

end UbloxCellular.N2xx
