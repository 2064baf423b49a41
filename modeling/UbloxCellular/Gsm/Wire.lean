import UbloxCellular.Gsm.State
import UbloxCellular.Wire.Grammar

namespace UbloxCellular.Gsm
open CommandLine

def atMarks : Marks Char := ⟨'"',',','=','\r',by decide⟩

def Cmd.wire (c : Cmd) : List Char := c.text.toList ++ [atMarks.stop]

def number {α : Type} [ToString α] (n : α) : Arg Char := .word (toString n).toList

def string (s : String) : Arg Char := .quoted s.toList

def Cmd.command : Cmd → Command Char
  | .ipr baud => ⟨"AT+IPR".toList,[number baud]⟩
  | .ate0Cmee => ⟨"ATE0;+CMEE".toList,[number 2]⟩
  | .ugpioc gpio => ⟨"AT+UGPIOC".toList,[number gpio,number 2]⟩
  | .cpin pin => ⟨"AT+CPIN".toList,[string (printed pin)]⟩
  | .cmgf => ⟨"AT+CMGF".toList,[number 1]⟩
  | .cnmi => ⟨"AT+CNMI".toList,[number 2,number 1]⟩
  | .cgsms => ⟨"AT+CGSMS".toList,[number 1]⟩
  | .creg => ⟨"AT+CREG".toList,[number 1]⟩
  | .cgreg => ⟨"AT+CGREG".toList,[number 1]⟩
  | .cereg => ⟨"AT+CEREG".toList,[number 1]⟩
  | .cops mode => ⟨"AT+COPS".toList,[number mode]⟩
  | .clck mode pin => ⟨"AT+CLCK".toList,[string "SC",number mode,string (printed pin)]⟩
  | .cpwd oldPin newPin =>
      ⟨"AT+CPWD".toList,[string "SC",string (printed oldPin),string (printed newPin)]⟩
  | .upsdApn apn => ⟨"AT+UPSD".toList,[number 0,number 1,string apn]⟩
  | .upsdUsername username => ⟨"AT+UPSD".toList,[number 0,number 2,string username]⟩
  | .upsdPassword password => ⟨"AT+UPSD".toList,[number 0,number 3,string password]⟩
  | .upsdDynamicIp => ⟨"AT+UPSD".toList,[number 0,number 7,string "0.0.0.0"]⟩
  | .upsdAuth protocol => ⟨"AT+UPSD".toList,[number 0,number 6,number protocol]⟩
  | .upsdCid cid => ⟨"AT+UPSD".toList,[number 0,number 100,number cid]⟩
  | .upsda action => ⟨"AT+UPSDA".toList,[number 0,number action]⟩
  | .cgdcont cid apn => ⟨"AT+CGDCONT".toList,[number cid,string "IP",string apn]⟩
  | .uauthreq cid auth username password =>
      ⟨"AT+UAUTHREQ".toList,[number cid,number auth,string username,string password]⟩
  | .upsnd tag => ⟨"AT+UPSND".toList,[number 0,number tag]⟩
  | .usocr proto none => ⟨"AT+USOCR".toList,[number proto]⟩
  | .usocr proto (some port) => ⟨"AT+USOCR".toList,[number proto,number port]⟩
  | .usocl id => ⟨"AT+USOCL".toList,[number id]⟩
  | .usoctl id => ⟨"AT+USOCTL".toList,[number id,number 0]⟩
  | .usoco id ip port => ⟨"AT+USOCO".toList,[number id,string ip,number port]⟩
  | .usowr id len => ⟨"AT+USOWR".toList,[number id,number len]⟩
  | .usost id ip port len => ⟨"AT+USOST".toList,[number id,string ip,number port,number len]⟩
  | .usord id len => ⟨"AT+USORD".toList,[number id,number len]⟩
  | .usorf id len => ⟨"AT+USORF".toList,[number id,number len]⟩
  | .udnsrn host => ⟨"AT+UDNSRN".toList,[number 0,string host]⟩
  | c => ⟨c.text.toList,[]⟩

def Cmd.strings : Cmd → List String
  | .cpin pin => [printed pin]
  | .clck _ pin => [printed pin]
  | .cpwd oldPin newPin => [printed oldPin,printed newPin]
  | .upsdApn apn => [apn]
  | .upsdUsername username => [username]
  | .upsdPassword password => [password]
  | .cgdcont _ apn => [apn]
  | .uauthreq _ _ username password => [username,password]
  | .usoco _ ip _ => [ip]
  | .usost _ ip _ _ => [ip]
  | .udnsrn host => [host]
  | _ => []

def Plain (s : String) : Prop := '"' ∉ s.toList ∧ '\r' ∉ s.toList

instance (s : String) : Decidable (Plain s) := inferInstanceAs (Decidable (_ ∧ _))

theorem command_print (c : Cmd) : c.command.print atMarks = c.text.toList := by
  delta Cmd.command Cmd.text
  cases c
  case usocr proto port =>
    cases port <;>
      simp only [print_args,printArgs_one,printArgs_more,number,Arg.print,String.toList_append,
        List.append_assoc] <;> rfl
  all_goals
    simp only [print_args,printArgs_one,printArgs_more,number,string,Arg.print,quoted,
      List.cons_append,String.toList_append,List.append_assoc] <;> rfl

theorem digit_mark {x : Char} (h : x.isDigit = true) : x ≠ '"' ∧ x ≠ ',' ∧ x ≠ '\r' := by
  refine ⟨?_,?_,?_⟩
  all_goals
    rintro rfl
    revert h
    decide

theorem nat_wordy (n : Nat) : (number n).Wordy atMarks := by
  have hd : ∀ x ∈ (toString n).toList, x.isDigit = true := by
    intro x hx
    rw [Nat.toString_eq_repr,Nat.toList_repr] at hx
    exact Nat.isDigit_of_mem_toDigits (by decide) (by decide) hx
  exact ⟨fun h => (digit_mark (hd _ h)).1 rfl,fun h => (digit_mark (hd _ h)).2.1 rfl,
    fun h => (digit_mark (hd _ h)).2.2 rfl⟩

theorem int_wordy (n : Int) : (number n).Wordy atMarks := by
  cases n with
  | ofNat n => exact nat_wordy n
  | negSucc n =>
    obtain ⟨hq,hc,hs⟩ := nat_wordy (n + 1)
    have hn : (toString (Int.negSucc n)).toList = '-' :: (toString (n + 1)).toList := by
      rw [Int.toString_eq_repr]
      simp [Int.repr]
    change _ ∉ (toString (Int.negSucc n)).toList ∧ _ ∉ (toString (Int.negSucc n)).toList ∧
      _ ∉ (toString (Int.negSucc n)).toList
    rw [hn]
    simp only [List.mem_cons,not_or]
    exact ⟨⟨by decide,hq⟩,⟨by decide,hc⟩,⟨by decide,hs⟩⟩

theorem command_name (c : Cmd) :
    atMarks.assign ∉ c.command.name ∧ atMarks.stop ∉ c.command.name := by
  cases c
  case usocr proto port => cases port <;> exact of_decide_eq_true rfl
  all_goals exact of_decide_eq_true rfl

theorem string_clean (s : String) : (string s).Clean atMarks ↔ Plain s := Iff.rfl

theorem args_clean (c : Cmd) :
    (∀ a ∈ c.command.args, a.Clean atMarks) ↔ ∀ s ∈ c.strings, Plain s := by
  have hnat (n : Nat) : (number n).Clean atMarks ↔ True := iff_true_intro (nat_wordy n)
  have hint (n : Int) : (number n).Clean atMarks ↔ True := iff_true_intro (int_wordy n)
  have hsc : Plain "SC" ↔ True := iff_true_intro (by decide)
  have hip : Plain "IP" ↔ True := iff_true_intro (by decide)
  have hzero : Plain "0.0.0.0" ↔ True := iff_true_intro (by decide)
  delta Cmd.command Cmd.strings
  cases c
  case usocr proto port => cases port <;> simp only [List.forall_mem_cons,List.not_mem_nil,
    false_imp_iff,implies_true,hnat,hint,and_true]
  all_goals simp only [List.forall_mem_cons,List.not_mem_nil,false_imp_iff,implies_true,hnat,hint,
    string_clean,hsc,hip,hzero,and_true,true_and]

theorem args_wordy (c : Cmd) : ∀ a ∈ c.command.args, a.Wordy atMarks := by
  have hstring (s : String) : (string s).Wordy atMarks := trivial
  delta Cmd.command
  cases c
  case usocr proto port => cases port <;> simp only [List.forall_mem_cons,List.not_mem_nil,
    false_imp_iff,implies_true,nat_wordy,int_wordy,and_true]
  all_goals simp only [List.forall_mem_cons,List.not_mem_nil,false_imp_iff,implies_true,
    nat_wordy,int_wordy,hstring,and_true]

theorem wire_line (c : Cmd) : c.wire = c.command.line atMarks := by
  rw [Cmd.wire,Command.line,command_print]

theorem command_clean (c : Cmd) : c.command.Clean atMarks ↔ ∀ s ∈ c.strings, Plain s :=
  ⟨fun h => (args_clean c).mp h.args,fun h => ⟨command_name c,(args_clean c).mpr h⟩⟩

theorem read_wire (c : Cmd) :
    read atMarks c.wire = [some c.command] ↔ ∀ s ∈ c.strings, Plain s := by
  rw [wire_line,read_line_iff (command_name c) (args_wordy c),command_clean]

theorem read_wires {cs : List Cmd} (h : ∀ c ∈ cs, ∀ s ∈ c.strings, Plain s) :
    read atMarks (cs.flatMap Cmd.wire) = cs.map (fun c => some c.command) := by
  have hlines : cs.flatMap Cmd.wire = (cs.map Cmd.command).flatMap (Command.line atMarks) := by
    rw [List.flatMap_map]
    exact List.flatMap_congr (fun c _ => wire_line c)
  rw [hlines,read_lines,List.map_map]
  · rfl
  · intro d hd
    obtain ⟨c,hc,rfl⟩ := List.mem_map.mp hd
    exact (command_clean c).mpr (h c hc)

end UbloxCellular.Gsm
