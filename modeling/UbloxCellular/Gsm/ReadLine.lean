import UbloxCellular.Memory.Cells
import Mathlib.Data.List.Induction
import Mathlib.Data.List.TakeWhile
import Mathlib.Tactic.SplitIfs

namespace UbloxCellular.Gsm
open Memory

structure Reading where
  count : Int
  x : Int
  buf : Cells UInt8
  taken : Nat

def Reading.next (getc : Nat → Int) (s : Reading) : Reading where
  count := s.count + 1
  x := getc s.taken
  buf := s.buf.store s.count (UInt8.ofInt (getc s.taken))
  taken := s.taken + 1

def readLoop (getc : Nat → Int) (size : Int) (stop : UInt8) (s : Reading) : Reading :=
  if s.count < size ∧ 0 ≤ s.x ∧ s.x ≠ stop.toNat then readLoop getc size stop (s.next getc) else s
termination_by (size - s.count).toNat
decreasing_by
  change (size - (s.count + 1)).toNat < _
  omega

structure ReadLine where
  count : Int
  buf : Cells UInt8
  taken : Nat

def readAtToChar (getc : Nat → Int) (buf : Cells UInt8) (size : Int) (stop : UInt8) : ReadLine :=
  if 0 < size then
    let s := readLoop getc size stop ⟨0,0,buf,0⟩
    let count := s.count - 1
    let buf := s.buf.store count 0
    if 0 < count ∧ stop = 0x0a ∧ buf (count - 1) = 0x0d then
      ⟨count - 1,buf.store (count - 1) 0,s.taken⟩
    else ⟨count,buf,s.taken⟩
  else ⟨0,buf,0⟩

section Line
variable (getc : Nat → Int) (stop : UInt8)

def Goes (x : Int) : Prop := 0 ≤ x ∧ x ≠ stop.toNat

instance (x : Int) : Decidable (Goes stop x) := inferInstanceAs (Decidable (_ ∧ _))

def bytesRead (n : Nat) : List UInt8 := (List.range n).map (fun i => UInt8.ofInt (getc i))

def lineBefore (most : Nat) : List UInt8 :=
  (((List.range most).map getc).takeWhile (fun x => Goes stop x)).map UInt8.ofInt

def chomp (l : List UInt8) : List UInt8 :=
  if stop = 0x0a ∧ l.getLast? = some 0x0d then l.dropLast else l

structure Consumed (size : Int) (n : Nat) : Prop where
  some : 1 ≤ n
  room : (n : Int) ≤ size
  before : ∀ i < n - 1, Goes stop (getc i)
  last : n = size ∨ ¬ Goes stop (getc (n - 1))

structure LineRead (buf : Cells UInt8) (size : Int) (r : ReadLine) : Prop where
  count : 0 ≤ r.count ∧ r.count ≤ size - 1
  ended : r.buf r.count = 0
  length : r.count = (chomp stop (lineBefore getc stop (size.toNat - 1))).length
  line : ∀ i (h : i < (chomp stop (lineBefore getc stop (size.toNat - 1))).length),
    r.buf i = (chomp stop (lineBefore getc stop (size.toNat - 1)))[i]
  kept : ∀ j, j < 0 ∨ size ≤ j → r.buf j = buf j
  taken : Consumed getc stop size r.taken

variable {getc stop}

theorem bytesRead_succ (n : Nat) :
    bytesRead getc (n + 1) = bytesRead getc n ++ [UInt8.ofInt (getc n)] := by
  rw [bytesRead,List.range_succ,List.map_append]
  rfl

variable (getc) in
@[simp] theorem bytesRead_length (n : Nat) : (bytesRead getc n).length = n := by
  simp [bytesRead]

theorem lineBefore_consumed {size : Int} {n : Nat} (h : Consumed getc stop size n) :
    lineBefore getc stop (size.toNat - 1) = bytesRead getc (n - 1) := by
  have hsplit : size.toNat - 1 = (n - 1) + (size.toNat - n) := by
    have := h.some
    have := h.room
    omega
  have hgoes : ∀ x ∈ (List.range (n - 1)).map getc, decide (Goes stop x) = true := by
    intro x hx
    obtain ⟨i,hi,rfl⟩ := List.mem_map.mp hx
    exact decide_eq_true (h.before i (List.mem_range.mp hi))
  have hstop : (((List.range (size.toNat - n)).map (fun i => getc (n - 1 + i))).takeWhile
      (fun x => Goes stop x)) = [] := by
    rcases h.last with hlast | hlast
    · rw [← hlast]
      simp
    · cases hk : size.toNat - n with
      | zero => rfl
      | succ k => simp [List.range_succ_eq_map,hlast]
  rw [lineBefore,hsplit,List.range_add,List.map_append,List.takeWhile_append_of_pos hgoes,
    List.map_map]
  simp only [Function.comp_def,hstop,List.append_nil]
  rw [List.map_map]
  rfl

end Line

structure Stored (getc : Nat → Int) (buf : Cells UInt8) (size : Int) (stop : UInt8) (s : Reading)
    (k : Nat) : Prop where
  count : s.count = k
  taken : s.taken = k
  room : (k : Int) ≤ size
  x : s.x = if k = 0 then 0 else getc (k - 1)
  before : ∀ i < k - 1, Goes stop (getc i)
  written : Cells.Written buf 0 (bytesRead getc k) s.buf

section Loop
variable {getc : Nat → Int} {buf : Cells UInt8} {size : Int} {stop : UInt8} {s : Reading} {k : Nat}

theorem Stored.next (h : Stored getc buf size stop s k)
    (hgo : s.count < size ∧ 0 ≤ s.x ∧ s.x ≠ stop.toNat) :
    Stored getc buf size stop (s.next getc) (k + 1) where
  count := by
    rw [Reading.next,h.count]
    rfl
  taken := congrArg Nat.succ h.taken
  room := by
    have hcount := h.count
    omega
  x := by
    rw [if_neg (Nat.succ_ne_zero k),Nat.add_sub_cancel,← h.taken]
    rfl
  before i hi := by
    rcases Nat.lt_or_ge i (k - 1) with hlt | hge
    · exact h.before i hlt
    · have hx := h.x
      rw [if_neg (by omega)] at hx
      obtain rfl : i = k - 1 := by omega
      rw [← hx]
      exact hgo.2
  written := by
    have hw := h.written.snoc (UInt8.ofInt (getc k))
    rw [bytesRead_length,Int.zero_add,← bytesRead_succ] at hw
    rw [Reading.next,h.count,h.taken]
    exact hw

theorem readLoop_stored (h : Stored getc buf size stop s k) :
    ∃ m, Stored getc buf size stop (readLoop getc size stop s) m ∧
      ¬ ((m : Int) < size ∧ Goes stop (readLoop getc size stop s).x) := by
  fun_induction readLoop getc size stop s generalizing k with
  | case1 s hgo ih => exact ih (h.next hgo)
  | case2 s hgo =>
    refine ⟨k,h,?_⟩
    rw [← h.count]
    exact hgo

theorem stored_start (hsize : 1 ≤ size) : Stored getc buf size stop ⟨0,0,buf,0⟩ 0 where
  count := rfl
  taken := rfl
  room := by omega
  x := rfl
  before i hi := absurd hi (Nat.not_lt_zero i)
  written := Cells.Written.nil buf 0

theorem readLoop_consumed (getc : Nat → Int) (buf : Cells UInt8) (hsize : 1 ≤ size)
    (hstop : stop ≠ 0) :
    ∃ n, Stored getc buf size stop (readLoop getc size stop ⟨0,0,buf,0⟩) (n + 1) ∧
      Consumed getc stop size (n + 1) := by
  have hstart : Stored getc buf size stop ⟨0,0,buf,0⟩ 0 := stored_start hsize
  obtain ⟨m,hm,hend⟩ := readLoop_stored hstart
  have hx := hm.x
  cases m with
  | zero =>
    rw [hx,if_pos rfl] at hend
    refine absurd ⟨by omega,Int.le_refl 0,fun h => hstop ?_⟩ hend
    exact UInt8.toNat_inj.mp (Int.natCast_inj.mp h.symm)
  | succ n =>
    rw [if_neg (Nat.succ_ne_zero n)] at hx
    have hroom := hm.room
    refine ⟨n,hm,Nat.succ_pos n,hroom,hm.before,?_⟩
    rw [← hx,or_iff_not_imp_left]
    exact fun hne hgo => hend ⟨by omega,hgo⟩

end Loop

section Stripped
variable {getc : Nat → Int} {buf : Cells UInt8} {size : Int} {stop : UInt8} {r : ReadLine}

theorem lineRead_written {l rest : List UInt8}
    (hl : l = chomp stop (lineBefore getc stop (size.toNat - 1)))
    (hw : Cells.Written buf 0 (l ++ 0 :: rest) r.buf) (hroom : ((l ++ 0 :: rest).length : Int) ≤ size)
    (hcount : r.count = l.length) (htaken : Consumed getc stop size r.taken) :
    LineRead getc stop buf size r := by
  subst hl
  rw [List.length_append,List.length_cons] at hroom
  refine ⟨⟨by omega,by omega⟩,?_,hcount,fun i hi => ?_,fun j hj => hw.kept j ?_,htaken⟩
  · have hend := hw.stored (chomp stop (lineBefore getc stop (size.toNat - 1))).length (by simp)
    rwa [Int.zero_add,← hcount,List.getElem_append_right (Nat.le_refl _),List.getElem_cons (by simp),
      dif_pos (Nat.sub_self _)] at hend
  · have hi' := hw.stored i (by rw [List.length_append]; omega)
    rwa [Int.zero_add,List.getElem_append_left hi] at hi'
  · rw [List.length_append,List.length_cons]
    omega

theorem last_cell {l : List UInt8} {b : Cells UInt8} (hw : Cells.Written buf 0 (l ++ [0]) b)
    (c : UInt8) : 0 < (l.length : Int) ∧ b (l.length - 1) = c ↔ l.getLast? = some c := by
  induction l using List.reverseRecOn with
  | nil => simp
  | append_singleton l a _ =>
    have hcell := hw.stored l.length (by simp)
    have hindex : ((l ++ [a]).length : Int) - 1 = l.length := by
      rw [List.length_append,List.length_singleton]
      omega
    rw [Int.zero_add,List.getElem_append_left (by simp),List.getElem_concat_length rfl] at hcell
    rw [hindex,hcell,List.getLast?_concat,Option.some.injEq,and_iff_right]
    rw [List.length_append,List.length_singleton]
    omega

-- The last character that was read is overwritten, whatever it is.
theorem readLoop_ended (getc : Nat → Int) (buf : Cells UInt8) (hsize : 1 ≤ size)
    (hstop : stop ≠ 0) : ∃ n : Nat, (readLoop getc size stop ⟨0,0,buf,0⟩).count - 1 = n ∧
      Consumed getc stop size (readLoop getc size stop ⟨0,0,buf,0⟩).taken ∧
      lineBefore getc stop (size.toNat - 1) = bytesRead getc n ∧ (n : Int) + 1 ≤ size ∧
      Cells.Written buf 0 (bytesRead getc n ++ [0])
        ((readLoop getc size stop ⟨0,0,buf,0⟩).buf.store n 0) := by
  obtain ⟨n,hs,hn⟩ := readLoop_consumed getc buf hsize hstop
  have hcount : (readLoop getc size stop ⟨0,0,buf,0⟩).count - 1 = n := by
    rw [hs.count]
    omega
  have hended := hs.written.set (k := n) (by simp) 0
  have hset : (bytesRead getc (n + 1)).set n 0 = bytesRead getc n ++ [0] := by
    rw [bytesRead_succ,List.set_append_right _ _ (by simp)]
    simp
  rw [hset,Int.zero_add] at hended
  exact ⟨n,hcount,hs.taken ▸ hn,lineBefore_consumed hn,hs.room,hended⟩

theorem written_chopped {l : List UInt8} {c : UInt8} {b : Cells UInt8}
    (hw : Cells.Written buf 0 (l ++ [c] ++ [0]) b) :
    Cells.Written buf 0 (l ++ 0 :: [0]) (b.store l.length 0) := by
  have hstored := hw.set (k := l.length) (by simp) 0
  have htwice : (l ++ [c] ++ [0]).set l.length 0 = l ++ 0 :: [0] := by
    rw [List.append_assoc,List.set_append_right _ _ (Nat.le_refl _),Nat.sub_self]
    rfl
  rwa [htwice,Int.zero_add] at hstored

theorem read_at_to_char_line (getc : Nat → Int) (buf : Cells UInt8) (hsize : 1 ≤ size)
    (hstop : stop ≠ 0) : LineRead getc stop buf size (readAtToChar getc buf size stop) := by
  obtain ⟨n,hcount,htaken,hline,hroom,hended⟩ := readLoop_ended getc buf hsize hstop
  rw [readAtToChar,if_pos (by omega)]
  simp only [hcount]
  have hcell := last_cell hended 0x0d
  rw [bytesRead_length] at hcell
  split
  · rename_i hcr
    have hlast := hcell.mp ⟨hcr.1,hcr.2.2⟩
    obtain ⟨l,hl⟩ := List.getLast?_eq_some_iff.mp hlast
    have hback : (n : Int) - 1 = l.length := by
      have hlength := congrArg List.length hl
      rw [bytesRead_length,List.length_append,List.length_singleton] at hlength
      omega
    rw [hl] at hended
    rw [hback]
    refine lineRead_written ?_ (written_chopped hended) ?_ rfl htaken
    · rw [hline,chomp,if_pos ⟨hcr.2.1,hlast⟩,hl,List.dropLast_concat]
    · rw [List.length_append,List.length_cons,List.length_singleton]
      omega
  · rename_i hcr
    refine lineRead_written ?_ hended ?_ ?_ htaken
    · rw [hline,chomp,if_neg]
      exact fun h => hcr ⟨(hcell.mpr h.2).1,h.1,(hcell.mpr h.2).2⟩
    · rw [List.length_append,List.length_singleton,bytesRead_length]
      exact hroom
    · rw [bytesRead_length]

def spelled (n : Nat) : Int := [0x41,0x42,0x0d,0x0a].getD n (-1)

theorem read_at_to_char_line_spelled : chomp 0x0a (lineBefore spelled 0x0a 31) = [0x41,0x42] ∧
    LineRead spelled 0x0a (fun _ => 0xff) 32 (readAtToChar spelled (fun _ => 0xff) 32 0x0a) :=
  ⟨by decide,read_at_to_char_line spelled (fun _ => 0xff) (by decide) (by decide)⟩

end Stripped

end UbloxCellular.Gsm
