import Mathlib.Data.List.TakeWhile

namespace CommandLine

structure Marks (α : Type) where
  quote : α
  comma : α
  assign : α
  stop : α
  distinct : [quote,comma,assign,stop].Nodup

inductive Arg (α : Type) where
  | word (s : List α)
  | quoted (s : List α)
  deriving DecidableEq, Repr

structure Command (α : Type) where
  name : List α
  args : List (Arg α)
  deriving DecidableEq, Repr

variable {α : Type}

namespace Marks

theorem quote_comma (m : Marks α) : m.quote ≠ m.comma := by
  have h := m.distinct
  simp only [List.nodup_cons,List.mem_cons,not_or] at h
  exact h.1.1

theorem stop_quote (m : Marks α) : m.stop ≠ m.quote := by
  have h := m.distinct
  simp only [List.nodup_cons,List.mem_cons,not_or] at h
  exact Ne.symm h.1.2.2.1

theorem stop_comma (m : Marks α) : m.stop ≠ m.comma := by
  have h := m.distinct
  simp only [List.nodup_cons,List.mem_cons,not_or] at h
  exact Ne.symm h.2.1.2.1

theorem stop_assign (m : Marks α) : m.stop ≠ m.assign := by
  have h := m.distinct
  simp only [List.nodup_cons,List.mem_cons,not_or] at h
  exact Ne.symm h.2.2.1.1

end Marks

def Arg.print (m : Marks α) : Arg α → List α
  | .word s => s
  | .quoted s => m.quote :: (s ++ [m.quote])

def printArgs (m : Marks α) (args : List (Arg α)) : List α :=
  [m.comma].intercalate (args.map (Arg.print m))

def Command.print (m : Marks α) (c : Command α) : List α :=
  if c.args = [] then c.name else c.name ++ m.assign :: printArgs m c.args

def Command.line (m : Marks α) (c : Command α) : List α := c.print m ++ [m.stop]

section Shape
variable {m : Marks α}

@[simp] theorem printArgs_one (a : Arg α) : printArgs m [a] = a.print m := by
  simp [printArgs]

@[simp] theorem printArgs_more (a b : Arg α) (args : List (Arg α)) :
    printArgs m (a :: b :: args) = a.print m ++ [m.comma] ++ printArgs m (b :: args) := by
  simp [printArgs,List.intercalate_cons_cons]

@[simp] theorem print_args (name : List α) (a : Arg α) (args : List (Arg α)) :
    Command.print m ⟨name,a :: args⟩ = name ++ [m.assign] ++ printArgs m (a :: args) := by
  simp [Command.print]

end Shape

def Arg.Clean (m : Marks α) : Arg α → Prop
  | .word s => m.quote ∉ s ∧ m.comma ∉ s ∧ m.stop ∉ s
  | .quoted s => m.quote ∉ s ∧ m.stop ∉ s

structure Command.Clean (m : Marks α) (c : Command α) : Prop where
  name : m.assign ∉ c.name ∧ m.stop ∉ c.name
  args : ∀ a ∈ c.args, a.Clean m

def Arg.Unquoted (m : Marks α) : Arg α → Prop
  | .word _ => True
  | .quoted s => m.quote ∉ s

def Arg.Wordy (m : Marks α) : Arg α → Prop
  | .word s => m.quote ∉ s ∧ m.comma ∉ s ∧ m.stop ∉ s
  | .quoted _ => True

section Printed
variable {m : Marks α}

theorem stop_printArg {a : Arg α} (ha : a.Clean m) : m.stop ∉ a.print m := by
  cases a with
  | word s => exact ha.2.2
  | quoted s =>
    have hq := m.stop_quote
    simp only [Arg.print,List.mem_cons,List.mem_append,List.mem_nil_iff,not_or]
    exact ⟨hq,ha.2,hq,id⟩

theorem stop_printArgs {args : List (Arg α)} (h : ∀ a ∈ args, a.Clean m) :
    m.stop ∉ printArgs m args := by
  induction args with
  | nil => simp [printArgs]
  | cons a args ih =>
    have ha := stop_printArg (h a List.mem_cons_self)
    have hrest := ih (fun b hb => h b (List.mem_cons_of_mem _ hb))
    cases args with
    | nil => simpa using ha
    | cons b args =>
      simp only [printArgs_more,List.mem_append,List.mem_singleton,not_or]
      exact ⟨⟨ha,m.stop_comma⟩,hrest⟩

theorem stop_print {c : Command α} (hc : c.Clean m) : m.stop ∉ c.print m := by
  rw [Command.print]
  split
  · exact hc.name.2
  · simp only [List.mem_append,List.mem_cons,not_or]
    exact ⟨hc.name.2,m.stop_assign,stop_printArgs hc.args⟩

theorem mem_printArgs {args : List (Arg α)} {a : Arg α} (ha : a ∈ args) {x : α}
    (hx : x ∈ a.print m) : x ∈ printArgs m args := by
  induction args with
  | nil => cases ha
  | cons b args ih =>
    have hhead : x ∈ b.print m → x ∈ printArgs m (b :: args) := by
      intro hb
      cases args with
      | nil => simpa using hb
      | cons c args => simp [hb]
    rcases List.mem_cons.mp ha with rfl | ha
    · exact hhead hx
    · have hrest := ih ha
      cases args with
      | nil => cases ha
      | cons c args =>
        rw [printArgs_more]
        exact List.mem_append_right _ hrest

theorem more_unquoted {o : Option (List (Arg α))} {a : Arg α} {args : List (Arg α)}
    (h : o.map (a :: ·) = some args) (ha : a.Unquoted m)
    (ho : ∀ rest, o = some rest → ∀ b ∈ rest, b.Unquoted m) : ∀ b ∈ args, b.Unquoted m := by
  obtain ⟨rest,hr,rfl⟩ := Option.map_eq_some_iff.mp h
  intro b hb
  rcases List.mem_cons.mp hb with rfl | hb
  · exact ha
  · exact ho rest hr b hb

end Printed

variable [DecidableEq α]

inductive State (α : Type) where
  | start
  | word (read : List α)
  | quoted (read : List α)
  | closed (read : List α)

def readArgs (m : Marks α) : State α → List α → Option (List (Arg α))
  | .start, [] => some [.word []]
  | .start, x :: xs =>
    if x = m.quote then readArgs m (.quoted []) xs
    else if x = m.comma then (readArgs m .start xs).map (.word [] :: ·)
    else readArgs m (.word [x]) xs
  | .word s, [] => some [.word s]
  | .word s, x :: xs =>
    if x = m.quote then none
    else if x = m.comma then (readArgs m .start xs).map (.word s :: ·)
    else readArgs m (.word (s ++ [x])) xs
  | .quoted _, [] => none
  | .quoted s, x :: xs =>
    if x = m.quote then readArgs m (.closed s) xs else readArgs m (.quoted (s ++ [x])) xs
  | .closed s, [] => some [.quoted s]
  | .closed s, x :: xs =>
    if x = m.comma then (readArgs m .start xs).map (.quoted s :: ·) else none

def readCommand (m : Marks α) (xs : List α) : Option (Command α) :=
  match xs.dropWhile (· ≠ m.assign) with
  | [] => some ⟨xs,[]⟩
  | _ :: rest => (readArgs m .start rest).map (⟨xs.takeWhile (· ≠ m.assign),·⟩)

-- What follows the last stop is a line that has not ended.
def lines (m : Marks α) (xs : List α) : List (List α) := (xs.splitOn m.stop).dropLast

def read (m : Marks α) (xs : List α) : List (Option (Command α)) := (lines m xs).map (readCommand m)

section Print
variable {m : Marks α}

theorem readArgs_word {s t rest : List α} (ht : m.quote ∉ t ∧ m.comma ∉ t) :
    readArgs m (.word s) (t ++ rest) = readArgs m (.word (s ++ t)) rest := by
  induction t generalizing s with
  | nil => simp
  | cons x t ih =>
    have hx : x ≠ m.quote ∧ x ≠ m.comma :=
      ⟨fun h => ht.1 (h ▸ List.mem_cons_self),fun h => ht.2 (h ▸ List.mem_cons_self)⟩
    have ht' : m.quote ∉ t ∧ m.comma ∉ t :=
      ⟨fun h => ht.1 (List.mem_cons_of_mem _ h),fun h => ht.2 (List.mem_cons_of_mem _ h)⟩
    rw [List.cons_append,readArgs,if_neg hx.1,if_neg hx.2,ih ht',List.append_assoc]
    rfl

theorem readArgs_quoted {s t rest : List α} (ht : m.quote ∉ t) :
    readArgs m (.quoted s) (t ++ rest) = readArgs m (.quoted (s ++ t)) rest := by
  induction t generalizing s with
  | nil => simp
  | cons x t ih =>
    have hx : x ≠ m.quote := fun h => ht (h ▸ List.mem_cons_self)
    rw [List.cons_append,readArgs,if_neg hx,ih (fun h => ht (List.mem_cons_of_mem _ h)),
      List.append_assoc]
    rfl

def Arg.reader : Arg α → State α
  | .word [] => .start
  | .word s => .word s
  | .quoted s => .closed s

theorem readArgs_print {a : Arg α} (ha : a.Clean m) (rest : List α) :
    readArgs m .start (a.print m ++ rest) = readArgs m a.reader rest := by
  cases a with
  | word s =>
    cases s with
    | nil => rfl
    | cons x s =>
      obtain ⟨hq,hc,-⟩ := ha
      simp only [List.mem_cons,not_or] at hq hc
      rw [Arg.print,List.cons_append,readArgs,if_neg (Ne.symm hq.1),if_neg (Ne.symm hc.1),
        readArgs_word ⟨hq.2,hc.2⟩]
      rfl
  | quoted s =>
    rw [Arg.print,List.cons_append,readArgs,if_pos rfl,List.append_assoc,readArgs_quoted ha.1,
      List.nil_append,List.singleton_append,readArgs,if_pos rfl]
    rfl

theorem reader_end (a : Arg α) : readArgs m a.reader [] = some [a] := by
  rcases a with (_ | _) | _ <;> rfl

theorem reader_comma (a : Arg α) (rest : List α) :
    readArgs m a.reader (m.comma :: rest) = (readArgs m .start rest).map (a :: ·) := by
  have hq : m.comma ≠ m.quote := Ne.symm m.quote_comma
  rcases a with (_ | ⟨x,s⟩) | s
  · rw [Arg.reader,readArgs,if_neg hq,if_pos rfl]
  · rw [Arg.reader,readArgs,if_neg hq,if_pos rfl]
    rintro ⟨⟩
  · rw [Arg.reader,readArgs,if_pos rfl]

theorem readArgs_printArgs {args : List (Arg α)} (hargs : args ≠ [])
    (h : ∀ a ∈ args, a.Clean m) : readArgs m .start (printArgs m args) = some args := by
  induction args with
  | nil => exact absurd rfl hargs
  | cons a args ih =>
    have ha := h a List.mem_cons_self
    cases args with
    | nil =>
      have hp := readArgs_print ha []
      rw [List.append_nil,reader_end] at hp
      simpa using hp
    | cons b args =>
      have hrest := ih (by rintro ⟨⟩) (fun c hc => h c (List.mem_cons_of_mem _ hc))
      rw [printArgs_more,List.append_assoc,readArgs_print ha,List.singleton_append,reader_comma,
        hrest]
      rfl

theorem readCommand_print {c : Command α} (hc : c.Clean m) :
    readCommand m (c.print m) = some c := by
  have hname : ∀ x ∈ c.name, decide (x ≠ m.assign) = true := by
    intro x hx
    exact decide_eq_true (fun h => hc.name.1 (h ▸ hx))
  have hstop (rest : List α) : (m.assign :: rest).dropWhile (· ≠ m.assign) = m.assign :: rest :=
    List.dropWhile_cons_of_neg (by simp)
  have hhead (rest : List α) : (m.assign :: rest).takeWhile (· ≠ m.assign) = [] :=
    List.takeWhile_cons_of_neg (by simp)
  rw [Command.print,readCommand]
  by_cases ha : c.args = []
  · have hall : c.name.dropWhile (· ≠ m.assign) = [] := List.dropWhile_eq_nil_iff.mpr hname
    rw [if_pos ha,hall,← ha]
  · rw [if_neg ha,List.dropWhile_append_of_pos hname,hstop,List.takeWhile_append_of_pos hname,
      hhead,List.append_nil]
    change (readArgs m .start (printArgs m c.args)).map _ = some c
    rw [readArgs_printArgs ha hc.args]
    rfl

theorem read_line_append {c : Command α} (hc : c.Clean m) (xs : List α) :
    read m (c.line m ++ xs) = some c :: read m xs := by
  have hne : xs.splitOn m.stop ≠ [] := List.splitOn_ne_nil m.stop xs
  rw [read,lines,Command.line,List.append_assoc,List.singleton_append,
    List.splitOn_append_cons_self_of_not_mem (stop_print hc),List.dropLast_cons_of_ne_nil hne,
    List.map_cons,readCommand_print hc]
  rfl

theorem read_lines {cs : List (Command α)} (h : ∀ c ∈ cs, c.Clean m) :
    read m (cs.flatMap (Command.line m)) = cs.map some := by
  induction cs with
  | nil => simp [read,lines]
  | cons c cs ih =>
    rw [List.flatMap_cons,read_line_append (h c List.mem_cons_self),
      ih (fun d hd => h d (List.mem_cons_of_mem _ hd))]
    rfl

end Print

section Accept
variable {m : Marks α}

def State.Unquoted (m : Marks α) : State α → Prop
  | .start => True
  | .word _ => True
  | .quoted s => m.quote ∉ s
  | .closed s => m.quote ∉ s

theorem readArgs_unquoted {s : State α} {xs : List α} {args : List (Arg α)}
    (hs : s.Unquoted m) (h : readArgs m s xs = some args) : ∀ a ∈ args, a.Unquoted m := by
  induction xs generalizing s args with
  | nil =>
    cases s with
    | quoted s => cases h
    | _ =>
      cases h
      intro a ha
      rw [List.mem_singleton.mp ha]
      exact hs
  | cons x xs ih =>
    have hstart (rest : List (Arg α)) (hr : readArgs m .start xs = some rest) :
        ∀ b ∈ rest, b.Unquoted m := ih (s := .start) trivial hr
    cases s with
    | start =>
      rw [readArgs] at h
      split at h
      · exact ih (s := .quoted []) (List.not_mem_nil) h
      · split at h
        · exact more_unquoted h trivial hstart
        · exact ih (s := .word [x]) trivial h
    | word s =>
      rw [readArgs] at h
      split at h
      · cases h
      · split at h
        · exact more_unquoted h trivial hstart
        · exact ih (s := .word (s ++ [x])) trivial h
    | quoted s =>
      rw [readArgs] at h
      split at h
      · exact ih (s := .closed s) hs h
      · rename_i hx
        have hgrow : m.quote ∉ s ++ [x] := by
          simp only [List.mem_append,List.mem_singleton,not_or]
          exact ⟨hs,Ne.symm hx⟩
        exact ih (s := .quoted (s ++ [x])) hgrow h
    | closed s =>
      rw [readArgs] at h
      split at h
      · exact more_unquoted h hs hstart
      · cases h

theorem readCommand_unquoted {xs : List α} {c : Command α} (h : readCommand m xs = some c) :
    ∀ a ∈ c.args, a.Unquoted m := by
  rw [readCommand] at h
  split at h
  · cases h
    intro a ha
    cases ha
  · obtain ⟨args,hr,rfl⟩ := Option.map_eq_some_iff.mp h
    exact readArgs_unquoted (s := .start) trivial hr

theorem lines_line (c : Command α) : lines m (c.line m) = (c.print m).splitOn m.stop := by
  rw [lines,Command.line,List.splitOn_append_cons_self,List.splitOn_nil]
  exact List.dropLast_concat

theorem stop_of_splitOn {xs l : List α} (h : xs.splitOn m.stop = [l]) : l = xs ∧ m.stop ∉ xs := by
  have hl : [m.stop].intercalate (xs.splitOn m.stop) = xs := List.intercalate_splitOn m.stop
  rw [h] at hl
  refine ⟨by simpa using hl,fun hs => ?_⟩
  obtain ⟨a,b,rfl⟩ := List.append_of_mem hs
  rw [List.splitOn_append_cons_self] at h
  have hlen := congrArg List.length h
  have ha := List.length_pos_iff.mpr (List.splitOn_ne_nil m.stop a)
  have hb := List.length_pos_iff.mpr (List.splitOn_ne_nil m.stop b)
  rw [List.length_append,List.length_singleton] at hlen
  omega

theorem read_line_iff {c : Command α} (hname : m.assign ∉ c.name ∧ m.stop ∉ c.name)
    (hwords : ∀ a ∈ c.args, a.Wordy m) : read m (c.line m) = [some c] ↔ c.Clean m := by
  constructor
  · intro h
    rw [read,lines_line,List.map_eq_singleton_iff] at h
    obtain ⟨l,hl,hread⟩ := h
    obtain ⟨rfl,hstop⟩ := stop_of_splitOn hl
    have hquotes := readCommand_unquoted hread
    refine ⟨hname,fun a ha => ?_⟩
    have hargs : c.args ≠ [] := List.ne_nil_of_mem ha
    have hin : ∀ x ∈ a.print m, x ∈ c.print m := by
      intro x hx
      rw [Command.print,if_neg hargs]
      exact List.mem_append_right _ (List.mem_cons_of_mem _ (mem_printArgs ha hx))
    cases a with
    | word s => exact hwords _ ha
    | quoted s =>
      refine ⟨hquotes _ ha,fun hs => hstop (hin _ ?_)⟩
      exact List.mem_cons_of_mem _ (List.mem_append_left _ hs)
  · intro hc
    have h := read_line_append hc []
    rw [List.append_nil] at h
    rw [h]
    rfl

end Accept

end CommandLine
