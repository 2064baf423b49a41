import UbloxCellular.Driver.Modem
import UbloxCellular.Gsm.Frames

namespace UbloxCellular.Gsm
open Interaction Code

variable {X : Type} {M : Modem (sig AtInterface) X} {w : Station (sig AtInterface) X}
variable {x : Handle} {block : Handle → RecvState → AtCode RecvState}

def RecvState.going (s : RecvState) : Prop := s.success = true ∧ 0 < s.size

instance (s : RecvState) : Decidable s.going := inferInstanceAs (Decidable (_ ∧ _))

theorem wp_recvIteration (s : RecvState)
    (Q : RecvState → Station (sig AtInterface) X → Prop) :
    wp M.spec (recvIteration block x s) Q w ↔ ∀ v, M.Events w v →
      if 0 < (v.driver.iface.sockets x).pending then wp M.spec (block x s) Q v
      else wp M.spec (recvWait s) Q v := by
  simp only [recvIteration,Modem.wp_locked,wp_bind,Modem.wp_atTimeout,Modem.wp_timed,wp_get,
    wp_ite,forall_const]

theorem wp_recvWait (s : RecvState) (Q : RecvState → Station (sig AtInterface) X → Prop) :
    wp M.spec (recvWait s) Q w ↔ ∀ ms, M.allow .timerReadMs w.modem w.driver ms →
      if ms < socketTimeout then
        wp M.spec (recv .unnatural) (fun _ => Q s)
          { w with modem := M.next .timerReadMs w.modem w.driver ms }
      else Q s.timedOut { w with modem := M.next .timerReadMs w.modem w.driver ms } := by
  simp only [recvWait,recvUnnatural,wp_bind,wp_ite,wp_pure]
  rw [Modem.wp_asks rfl]

theorem wp_recvLoop {size : UInt32} (I : RecvState → Station (sig AtInterface) X → Prop)
    (hstart : I (.start size) w) (hevents : ∀ s u v, I s u → M.Events u v → I s v)
    (hblock : ∀ s u, I s u → s.going → wp M.spec (block x s) I u)
    (hwait : ∀ s u, I s u → s.going → wp M.spec (recvWait s) I u) :
    wp M.spec (recvLoop block x size) (fun s v => I s v ∧ ¬ s.going) w := by
  simp only [recvLoop,wp_bind]
  rw [Modem.wp_inside rfl]
  intro _
  refine wp_iterate I hstart (fun s u hs => ?_)
  rw [wp_ite]
  split
  · rename_i hgo
    rw [wp_bind]
    refine (wp_recvIteration s _).mpr (fun v hv => ?_)
    have hsv : I s v := hevents s u v hs hv
    split
    · exact hblock s v hsv hgo
    · exact hwait s v hsv hgo
  · rename_i hstop
    exact ⟨hs,hstop⟩

def announced : Driver AtInterface := ⟨.initial 115200,{ AtInterface.initial with
  sockets := Function.update Sockets.initial 0 ⟨0,3,none,none⟩ }⟩

end UbloxCellular.Gsm
