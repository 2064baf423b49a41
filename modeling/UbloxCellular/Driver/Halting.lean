import UbloxCellular.Driver.Effects
import UbloxCellular.Interaction.Halts

namespace UbloxCellular.Code
open Interaction

variable {S : Sig} {W α β : Type} {H : Handler (Locked (Eff S)) W}

instance halting_act (e : Eff S β) : Halting H (act e) := Halting.halting_perform _
instance halting_lock : Halting H (lock : Code S Unit) := Halting.halting_perform _
instance halting_unlock : Halting H (unlock : Code S Unit) := Halting.halting_perform _
instance halting_atTimeout : Halting H (atTimeout : Code S Int) := Halting.halting_perform _
instance halting_modify (f : S.State → S.State) : Halting H (modify f : Code S Unit) :=
  Halting.halting_perform _
instance halting_send (c : S.Cmd) : Halting H (send c : Code S Bool) := Halting.halting_perform _
instance halting_recv (p : S.Pat β) : Halting H (recv p : Code S (Option β)) :=
  Halting.halting_perform _
instance halting_wait (ms : Nat) : Halting H (wait ms : Code S Unit) := Halting.halting_perform _
instance halting_hw (h : Hw) : Halting H (hw h : Code S Unit) := Halting.halting_perform _
instance halting_enter (c : S.Call) : Halting H (enter c : Code S Unit) :=
  Halting.halting_perform _

instance halting_atSetTimeout (t : Int) : Halting H (atSetTimeout t : Code S Unit) := by
  rw [atSetTimeout]
  infer_instance

instance halting_timed (t back : Int) {p : Code S α} [Halting H p] :
    Halting H (timed t back p) := by
  rw [timed]
  infer_instance

instance halting_locked {p : Code S α} [Halting H p] : Halting H (locked p) := by
  rw [locked]
  infer_instance

instance halting_recvOk : Halting H (recvOk : Code S Bool) := by
  rw [recvOk]
  infer_instance

instance halting_recvUnnatural : Halting H (recvUnnatural : Code S Unit) := by
  rw [recvUnnatural]
  infer_instance

instance halting_exchange (c : S.Cmd) : Halting H (exchange c : Code S Bool) := by
  rw [exchange]
  infer_instance

instance halting_exchanges (cs : List S.Cmd) : Halting H (exchanges cs : Code S Bool) := by
  induction cs with
  | nil =>
    rw [exchanges]
    infer_instance
  | cons c cs ih =>
    rw [exchanges]
    infer_instance

instance halting_ask (c : S.Cmd) (p : S.Pat β) : Halting H (ask c p : Code S (Option β)) := by
  rw [ask]
  infer_instance

end UbloxCellular.Code
