import UbloxCellular.N2xx.Interface
import Mathlib.Data.List.TakeWhile
import Mathlib.Tactic.IntervalCases

namespace UbloxCellular.N2xx

-- What read_at_to_newline stores before it ends the string over the last character: the getc()
-- that finds the stream empty returns -1.
def readToNewline : Nat → List Char → List Char
  | 0, _ => []
  | _ + 1, [] => ['\xff']
  | n + 1, c :: s => c :: if c = '\n' then [] else readToNewline n s

def readAtToNewline (size : Nat) (s : List Char) : List Char := (readToNewline size s).dropLast

inductive Directive where
  | lit (c : Char)
  | space
  | int
  | set (chars : List Char)
  deriving DecidableEq, Repr

inductive Field where
  | int (n : Int)
  | text (s : List Char)
  deriving DecidableEq, Repr

def sscanf : List Directive → List Char → List Field
  | [], _ => []
  | .lit c :: ds, s =>
    match s with
    | [] => []
    | c' :: rest => if c' = c then sscanf ds rest else []
  | .space :: ds, s => sscanf ds (s.dropWhile isSpace)
  | .int :: ds, s =>
    match scanInt s with
    | .value n rest => .int n :: sscanf ds rest
    | _ => []
  | .set chars :: ds, s =>
    if s.takeWhile chars.contains = [] then []
    else .text (s.takeWhile chars.contains) :: sscanf ds (s.dropWhile chars.contains)

def hexSet : List Char := "0123456789abcdef".toList

def intAt (fields : List Field) (i : Nat) : Option Int :=
  match fields[i]? with
  | some (.int n) => some n
  | _ => none

-- tac[4] and ci[4] hold three characters and the terminator.
def Field.fits : Field → Bool
  | .int _ => true
  | .text s => decide (s.length < 4)

-- One sscanf of the chain: none where a field is stored past the end of its array, from where on
-- the behaviour is undefined.
def attempt (fields : List Field) (count i : Nat) (otherwise : Option (Option Int)) :
    Option (Option Int) :=
  if fields.all Field.fits then
    if fields.length = count then some (intAt fields i) else otherwise
  else none

def ceregStatus (buf : List Char) : Option (Option Int) :=
  attempt (sscanf [.lit ':',.int,.lit ',',.int,.lit ',',.set hexSet,.lit ',',.set hexSet,
    .lit ',',.int,.space] buf) 5 1 <|
  attempt (sscanf [.lit ':',.int,.lit ',',.set hexSet,.lit ',',.set hexSet,.lit ',',.int,
    .space,.lit (Char.ofNat 96)] buf) 4 0 <|
  attempt (sscanf [.lit ':',.int,.lit ',',.int,.space] buf) 2 1 <|
  attempt (sscanf [.lit ':',.int,.space] buf) 1 0 (some none)

def ceregUrc (s : List Char) (d : Driver) : Option Driver :=
  let buf := readAtToNewline 20 s
  if 0 < buf.length then
    (ceregStatus buf).map (fun status => status.elim d (fun n => (Urc.cereg n).handle d))
  else some d

section Scan

def commas (s : List Char) : Nat := s.count ','

-- Conversions with a comma between them, as all four formats have them after the colon.
def separated : List Directive → List Directive
  | [] => []
  | [d] => [d]
  | d :: d' :: ds => d :: .lit ',' :: separated (d' :: ds)

theorem sscanf_idle {ds es : List Directive} (hes : ∀ s, sscanf es s = []) (s : List Char) :
    sscanf (ds ++ es) s = sscanf ds s := by
  fun_induction sscanf ds s with
  | case1 s => exact hes s
  | _ => simp_all [sscanf]

def Directive.converts : Directive → Bool
  | .int => true
  | .set chars => !chars.contains ','
  | _ => false

theorem commas_dropWhile (p : Char → Bool) (s : List Char) : commas (s.dropWhile p) ≤ commas s :=
  (List.dropWhile_suffix p).sublist.count_le ','

theorem scanDigits_commas {sign n : Int} {s rest : List Char}
    (h : scanDigits sign s = .value n rest) : commas rest ≤ commas s := by
  rw [scanDigits] at h
  split at h
  · cases h
  · cases h
    exact commas_dropWhile _ s

theorem scanInt_commas {n : Int} {s rest : List Char} (h : scanInt s = .value n rest) :
    commas rest ≤ commas s := by
  have hs := commas_dropWhile isSpace s
  rw [scanInt] at h
  split at h
  · cases h
  · rename_i tail heq
    rw [heq,commas,List.count_cons] at hs
    exact (scanDigits_commas h).trans (by rw [commas]; omega)
  · rename_i tail heq
    rw [heq,commas,List.count_cons] at hs
    exact (scanDigits_commas h).trans (by rw [commas]; omega)
  · exact (scanDigits_commas h).trans hs

theorem sscanf_converts {d : Directive} (hd : d.converts = true) (ds : List Directive)
    (s : List Char) : sscanf (d :: ds) s = [] ∨ ∃ f rest, commas rest ≤ commas s ∧
      sscanf (d :: ds) s = f :: sscanf ds rest := by
  cases d with
  | lit c => cases hd
  | space => cases hd
  | int =>
    rw [sscanf]
    split
    · exact .inr ⟨_,_,scanInt_commas ‹_›,rfl⟩
    · exact .inl rfl
  | set chars =>
    rw [sscanf]
    split
    · exact .inl rfl
    · exact .inr ⟨_,_,commas_dropWhile _ s,rfl⟩

theorem sscanf_commas (ds : List Directive) (hds : ∀ d ∈ ds, d.converts = true) (s : List Char) :
    (sscanf (separated ds) s).length ≤ commas s + 1 := by
  fun_induction separated ds generalizing s with
  | case1 => simp [sscanf]
  | case2 d =>
    obtain h | ⟨f,rest,-,h⟩ := sscanf_converts (hds d (by simp)) [] s
    · simp [h]
    · simp [h,sscanf]
  | case3 d d' ds ih =>
    obtain h | ⟨f,rest,hrest,h⟩ := sscanf_converts (hds d (by simp))
      (.lit ',' :: separated (d' :: ds)) s
    · simp [h]
    · rw [h]
      cases rest with
      | nil => simp [sscanf]
      | cons c tail =>
        rw [sscanf]
        split
        · subst_vars
          have hih := ih (fun d hd => hds d (by simp [hd])) tail
          have hc : commas (',' :: tail) = commas tail + 1 := List.count_cons_self
          rw [List.length_cons]
          omega
        · simp

theorem run_append {p : Char → Bool} {tok rest : List Char} (htok : ∀ c ∈ tok, p c = true)
    (hrest : ∀ c ∈ rest.head?, p c = false) :
    (tok ++ rest).takeWhile p = tok ∧ (tok ++ rest).dropWhile p = rest := by
  rw [List.takeWhile_append_of_pos htok,List.dropWhile_append_of_pos htok]
  cases rest with
  | nil => simp
  | cons c rest =>
    have hc := hrest c rfl
    simp [hc]

theorem scanDigits_run (sign : Int) {ds rest : List Char} (hne : ds ≠ [])
    (hds : ∀ c ∈ ds, c.isDigit = true) (hrest : ∀ c ∈ rest.head?, c.isDigit = false) :
    scanDigits sign (ds ++ rest) = .value (sign * Nat.ofDigitChars 10 ds 0) rest := by
  obtain ⟨htake,hdrop⟩ := run_append hds hrest
  rw [scanDigits,htake,hdrop,if_neg hne,← Nat.ofDigitChars_eq_foldl]

theorem digit_bounds {c : Char} (h : c.isDigit = true) : 48 ≤ c.toNat ∧ c.toNat ≤ 57 := by
  simp only [Char.isDigit,Bool.and_eq_true,decide_eq_true_eq] at h
  exact h

theorem digit_ne {c d : Char} (h : c.isDigit = true) (hd : d.isDigit = false) : c ≠ d := by
  rintro rfl
  rw [h] at hd
  cases hd

theorem digit_not_space {c : Char} (h : c.isDigit = true) : isSpace c = false := by
  have hc := digit_bounds h
  have hr : ¬ c ≤ '\r' := by
    intro hle
    have hn : c.toNat ≤ '\r'.toNat := hle
    have h13 : '\r'.toNat = 13 := rfl
    omega
  have hs : c ≠ ' ' := digit_ne h (by decide)
  simp [isSpace,hs,hr]

theorem scanInt_run {ds rest : List Char} (hne : ds ≠ []) (hds : ∀ c ∈ ds, c.isDigit = true)
    (hrest : ∀ c ∈ rest.head?, c.isDigit = false) :
    scanInt (ds ++ rest) = .value (Nat.ofDigitChars 10 ds 0) rest := by
  have hscan := scanDigits_run 1 hne hds hrest
  rw [one_mul] at hscan
  cases ds with
  | nil => exact absurd rfl hne
  | cons c ds =>
    have hc := hds c (by simp)
    have hdrop : (c :: ds ++ rest).dropWhile isSpace = c :: ds ++ rest := by
      simp [digit_not_space hc]
    rw [scanInt,hdrop]
    split
    · contradiction
    · rename_i heq
      exact absurd (List.cons.inj heq).1 (digit_ne hc (by decide))
    · rename_i heq
      exact absurd (List.cons.inj heq).1 (digit_ne hc (by decide))
    · exact hscan

theorem scanInt_minus {ds rest : List Char} (hne : ds ≠ []) (hds : ∀ c ∈ ds, c.isDigit = true)
    (hrest : ∀ c ∈ rest.head?, c.isDigit = false) :
    scanInt ('-' :: (ds ++ rest)) = .value (-(Nat.ofDigitChars 10 ds 0)) rest := by
  have hscan := scanDigits_run (-1) hne hds hrest
  rw [neg_one_mul] at hscan
  exact hscan

def printed (n : Int) : List Char := (toString n).toList

theorem printed_nat (m : Nat) : printed m = Nat.toDigits 10 m := by
  change (toString m).toList = _
  simp

theorem printed_negSucc (m : Nat) : printed (Int.negSucc m) = '-' :: Nat.toDigits 10 (m + 1) := by
  change ("-" ++ Nat.repr (m + 1)).toList = _
  simp

theorem digits_isDigit {v : Nat} : ∀ c ∈ Nat.toDigits 10 v, c.isDigit = true :=
  fun _ => Nat.isDigit_of_mem_toDigits (by decide) (by decide)

theorem scanInt_printed (n : Int) {rest : List Char}
    (hrest : ∀ c ∈ rest.head?, c.isDigit = false) :
    scanInt (printed n ++ rest) = .value n rest := by
  cases n with
  | ofNat m =>
    rw [Int.ofNat_eq_natCast,printed_nat,scanInt_run Nat.toDigits_ne_nil digits_isDigit hrest,
      Nat.ofDigitChars_ten_toDigits]
  | negSucc m =>
    rw [printed_negSucc,List.cons_append,
      scanInt_minus Nat.toDigits_ne_nil digits_isDigit hrest,Nat.ofDigitChars_ten_toDigits]
    rfl

theorem cut_digits {v k : Nat} (hpos : 0 < k) (hk : k < (Nat.toDigits 10 v).length) :
    Nat.ofDigitChars 10 ((Nat.toDigits 10 v).take k) 0 ≠ v := by
  intro h
  have hv : Nat.ofDigitChars 10 (Nat.toDigits 10 v) 0 = v := Nat.ofDigitChars_ten_toDigits
  rw [← List.take_append_drop k (Nat.toDigits 10 v),Nat.ofDigitChars_append,h,
    Nat.ofDigitChars_eq_ofDigitChars_zero] at hv
  obtain ⟨m,hm⟩ : ∃ m, ((Nat.toDigits 10 v).drop k).length = m + 1 :=
    ⟨(Nat.toDigits 10 v).length - k - 1,by rw [List.length_drop]; omega⟩
  have hpow : 10 ≤ 10 ^ (m + 1) := Nat.le_self_pow (by omega) 10
  have hmul := Nat.mul_le_mul_right v hpow
  rw [hm] at hv
  have hzero : v = 0 := by omega
  subst hzero
  simp at hk
  omega

def lead (n : Int) : Nat := if n < 0 then 2 else 1

theorem lead_bounds (n : Int) : 1 ≤ lead n ∧ lead n ≤ 2 := by
  rw [lead]
  split <;> omega

theorem lead_natCast (m : Nat) : lead m = 1 := if_neg (by omega)

theorem lead_negSucc (m : Nat) : lead (Int.negSucc m) = 2 := if_pos (Int.negSucc_lt_zero m)

theorem scanInt_cut {n : Int} {k : Nat} (hk : k < (printed n).length) (hlead : lead n ≤ k) :
    ∃ v, scanInt ((printed n).take k) = .value v [] ∧ v ≠ n := by
  cases n with
  | ofNat m =>
    rw [Int.ofNat_eq_natCast,lead_natCast] at hlead
    rw [Int.ofNat_eq_natCast,printed_nat] at hk ⊢
    have hscan := @scanInt_run ((Nat.toDigits 10 m).take k) []
      (by simp; omega) (fun c hc => digits_isDigit c (List.mem_of_mem_take hc)) (by simp)
    rw [List.append_nil] at hscan
    refine ⟨_,hscan,?_⟩
    have hcut := cut_digits (by omega) hk
    exact_mod_cast hcut
  | negSucc m =>
    rw [lead_negSucc] at hlead
    rw [printed_negSucc] at hk ⊢
    obtain ⟨k,rfl⟩ : ∃ j, k = j + 1 := ⟨k - 1,by omega⟩
    rw [List.length_cons] at hk
    have hscan := @scanInt_minus ((Nat.toDigits 10 (m + 1)).take k) []
      (by simp; omega) (fun c hc => digits_isDigit c (List.mem_of_mem_take hc)) (by simp)
    rw [List.append_nil] at hscan
    refine ⟨_,hscan,?_⟩
    have hcut := cut_digits (v := m + 1) (k := k) (by omega) (by omega)
    omega

theorem ceregStatus_colon (s : List Char) : ceregStatus (':' :: s) =
    attempt (sscanf (separated [.int,.int,.set hexSet,.set hexSet,.int]) s) 5 1
      (attempt (sscanf (separated [.int,.set hexSet,.set hexSet,.int]) s) 4 0
        (attempt (sscanf (separated [.int,.int]) s) 2 1
          (attempt (sscanf (separated [.int]) s) 1 0 (some none)))) := by
  have hspace : ∀ s, sscanf [.space] s = [] := fun _ => rfl
  have hstray : ∀ s, sscanf [.space,.lit (Char.ofNat 96)] s = [] := by
    intro s
    rw [sscanf]
    cases s.dropWhile isSpace with
    | nil => rfl
    | cons c s =>
      rw [sscanf]
      split <;> rfl
  rw [ceregStatus]
  rw [← @sscanf_idle (separated [.int,.int,.set hexSet,.set hexSet,.int]) _ hspace,
    ← @sscanf_idle (separated [.int,.set hexSet,.set hexSet,.int]) _ hstray,
    ← @sscanf_idle (separated [.int,.int]) _ hspace,
    ← @sscanf_idle (separated [.int]) _ hspace]
  rfl

theorem take_whole {tok rest : List Char} {c : Char} {k : Nat} (h : tok.length < k) :
    (tok ++ c :: rest).take k = tok ++ c :: rest.take (k - tok.length - 1) := by
  obtain ⟨j,hj⟩ : ∃ j, k - tok.length = j + 1 := ⟨k - tok.length - 1,by omega⟩
  rw [List.take_append,List.take_of_length_le (by omega),hj,List.take_succ_cons]
  rfl

theorem take_cut {tok rest : List Char} {k : Nat} (h : k ≤ tok.length) :
    (tok ++ rest).take k = tok.take k := by
  rw [List.take_append,Nat.sub_eq_zero_of_le h,List.take_zero,List.append_nil]

theorem sscanf_comma (ds : List Directive) (rest : List Char) :
    sscanf (.lit ',' :: ds) (',' :: rest) = sscanf ds rest := by
  rw [sscanf,if_pos rfl]

theorem commas_cut {tok rest : List Char} {k : Nat} (htok : ',' ∉ tok) (h : k ≤ tok.length) :
    commas ((tok ++ rest).take k) = 0 := by
  rw [take_cut h]
  exact List.count_eq_zero.mpr (fun hc => htok (List.mem_of_mem_take hc))

theorem sscanf_cut {ds : List Directive} (hds : ∀ d ∈ ds, d.converts = true)
    {tok rest : List Char} {k : Nat} (htok : ',' ∉ tok) (h : k ≤ tok.length) :
    (sscanf (separated ds) ((tok ++ rest).take k)).length ≤ 1 := by
  have hcommas := sscanf_commas ds hds ((tok ++ rest).take k)
  rwa [commas_cut htok h] at hcommas

theorem mem_printed {n : Int} {c : Char} (h : c ∈ printed n) :
    c.isDigit = true ∨ n < 0 ∧ c = '-' := by
  cases n with
  | ofNat m =>
    rw [Int.ofNat_eq_natCast,printed_nat] at h
    exact .inl (digits_isDigit c h)
  | negSucc m =>
    rw [printed_negSucc,List.mem_cons] at h
    exact h.symm.imp (digits_isDigit c) (⟨Int.negSucc_lt_zero m,·⟩)

theorem notMem_printed {c : Char} (hc : c.isDigit = false) (hminus : c ≠ '-') (n : Int) :
    c ∉ printed n := by
  intro h
  obtain hd | ⟨-,rfl⟩ := mem_printed h
  · exact digit_ne hd hc rfl
  · exact hminus rfl

theorem comma_printed (n : Int) : ',' ∉ printed n := notMem_printed (by decide) (by decide) n

theorem sscanf_printed (n : Int) (d : Directive) (ds : List Directive) (rest : List Char) {k : Nat}
    (h : (printed n).length < k) :
    sscanf (separated (.int :: d :: ds)) ((printed n ++ ',' :: rest).take k) =
      .int n :: sscanf (separated (d :: ds)) (rest.take (k - (printed n).length - 1)) := by
  have hscan := @scanInt_printed n (',' :: rest.take (k - (printed n).length - 1))
    (by rintro c ⟨⟩; rfl)
  rw [take_whole h,separated,sscanf,hscan]
  exact congrArg (List.cons (.int n)) (sscanf_comma _ _)

theorem sscanf_set {tok : List Char} (hne : tok ≠ []) (htok : ∀ c ∈ tok, c ∈ hexSet)
    (d : Directive) (ds : List Directive) (rest : List Char) {k : Nat} (h : tok.length < k) :
    sscanf (separated (.set hexSet :: d :: ds)) ((tok ++ ',' :: rest).take k) =
      .text tok :: sscanf (separated (d :: ds)) (rest.take (k - tok.length - 1)) := by
  obtain ⟨htake,hdrop⟩ := @run_append hexSet.contains tok
    (',' :: rest.take (k - tok.length - 1))
    (fun c hc => List.contains_iff_mem.mpr (htok c hc)) (by rintro c ⟨⟩; decide)
  rw [take_whole h,separated,sscanf,htake,hdrop,if_neg hne]
  exact congrArg (List.cons (.text tok)) (sscanf_comma _ _)

theorem sscanf_set_stops {tok : List Char} (hcomma : ',' ∉ tok) (htok : ¬ ∀ c ∈ tok, c ∈ hexSet)
    {d : Directive} {ds : List Directive} (hds : ∀ d' ∈ d :: ds, d'.converts = true)
    (rest : List Char) (k : Nat) :
    (sscanf (separated (.set hexSet :: d :: ds)) ((tok ++ ',' :: rest).take k)).length ≤ 1 := by
  by_cases h : tok.length < k
  · have hrun : ∃ c tail, (tok ++ ',' :: rest.take (k - tok.length - 1)).dropWhile
        hexSet.contains = c :: tail ∧ c ≠ ',' := by
      rw [List.dropWhile_append]
      cases hdrop : tok.dropWhile hexSet.contains with
      | nil => exact absurd (List.dropWhile_eq_nil_iff.mp hdrop) (by simpa using htok)
      | cons c tail =>
        have hc : c ∈ tok := (List.dropWhile_suffix hexSet.contains).mem (by simp [hdrop])
        exact ⟨c,_,rfl,fun heq => hcomma (heq ▸ hc)⟩
    obtain ⟨c,tail,hdrop,hc⟩ := hrun
    rw [take_whole h,separated,sscanf,hdrop]
    split
    · simp
    · rw [sscanf,if_neg hc]
      simp
  · have hset : (Directive.set hexSet).converts = true := by decide
    exact sscanf_cut (List.forall_mem_cons.mpr ⟨hset,hds⟩) hcomma (by omega)

theorem two_sets {a b : List Char} (ha : a ≠ []) (hb : b ≠ []) (hac : ',' ∉ a) (hbc : ',' ∉ b)
    (rest : List Char) (k : Nat) :
    (sscanf (separated [.set hexSet,.set hexSet,.int])
      ((a ++ ',' :: (b ++ ',' :: rest)).take k)).length = 3 ↔
    (∀ c ∈ a, c ∈ hexSet) ∧ (∀ c ∈ b, c ∈ hexSet) ∧ a.length + b.length + 2 ≤ k ∧
      (sscanf (separated [.int]) (rest.take (k - a.length - b.length - 2))).length = 1 := by
  have hset : (Directive.set hexSet).converts = true := by decide
  by_cases hahex : ∀ c ∈ a, c ∈ hexSet
  · by_cases hak : a.length < k
    · rw [sscanf_set ha hahex _ _ _ hak,List.length_cons]
      by_cases hbhex : ∀ c ∈ b, c ∈ hexSet
      · by_cases hbk : b.length < k - a.length - 1
        · have hk : k - a.length - 1 - b.length - 1 = k - a.length - b.length - 2 := by omega
          rw [sscanf_set hb hbhex _ _ _ hbk,List.length_cons,hk]
          constructor
          · intro h
            exact ⟨hahex,hbhex,by omega,by omega⟩
          · rintro ⟨-,-,-,h⟩
            omega
        · have hle := @sscanf_cut [.set hexSet,.int] (by simpa using ⟨hset,rfl⟩) b
            (',' :: rest) _ hbc (not_lt.mp hbk)
          constructor
          · intro h
            omega
          · rintro ⟨-,-,h,-⟩
            omega
      · have hle := @sscanf_set_stops b hbc hbhex .int []
          (List.forall_mem_singleton.mpr rfl) rest (k - a.length - 1)
        constructor
        · intro h
          omega
        · rintro ⟨-,h,-⟩
          exact absurd h hbhex
    · have hle := @sscanf_cut [.set hexSet,.set hexSet,.int] (by simpa using ⟨hset,rfl⟩) a
        (',' :: (b ++ ',' :: rest)) _ hac (not_lt.mp hak)
      constructor
      · intro h
        omega
      · rintro ⟨-,-,h,-⟩
        omega
  · have hle := @sscanf_set_stops a hac hahex (.set hexSet) [.int]
      (by simpa using ⟨hset,rfl⟩) (b ++ ',' :: rest) k
    constructor
    · intro h
      omega
    · rintro ⟨h,-⟩
      exact absurd h hahex

theorem scanInt_take (n : Int) {rest : List Char} (hrest : ∀ c ∈ rest.head?, c.isDigit = false)
    {k : Nat} (h : (printed n).length ≤ k) :
    scanInt ((printed n ++ rest).take k) = .value n (rest.take (k - (printed n).length)) := by
  rw [List.take_append,List.take_of_length_le h]
  refine scanInt_printed n (fun c hc => hrest c ?_)
  rw [List.head?_take] at hc
  split at hc
  · cases hc
  · exact hc

theorem sscanf_one (n : Int) {rest : List Char} (hrest : ∀ c ∈ rest.head?, c.isDigit = false)
    {k : Nat} (h : (printed n).length ≤ k) :
    sscanf (separated [.int]) ((printed n ++ rest).take k) = [.int n] := by
  rw [separated,sscanf,scanInt_take n hrest h]
  rfl

theorem lead_le (n : Int) : lead n ≤ (printed n).length := by
  cases n with
  | ofNat m =>
    rw [Int.ofNat_eq_natCast,lead_natCast,printed_nat]
    exact Nat.length_toDigits_pos
  | negSucc m =>
    rw [lead_negSucc,printed_negSucc,List.length_cons]
    exact Nat.succ_le_succ Nat.length_toDigits_pos

theorem scanInt_unled {n : Int} {k : Nat} (h : k < lead n) :
    sscanf (separated [.int]) ((printed n).take k) = [] := by
  cases k with
  | zero => rfl
  | succ k =>
    cases n with
    | ofNat m =>
      rw [Int.ofNat_eq_natCast,lead_natCast] at h
      omega
    | negSucc m =>
      rw [lead_negSucc] at h
      obtain rfl : k = 0 := by omega
      rw [printed_negSucc]
      rfl

theorem sscanf_lead (n : Int) {rest : List Char} (hrest : ∀ c ∈ rest.head?, c.isDigit = false)
    (k : Nat) : (sscanf (separated [.int]) ((printed n ++ rest).take k)).length = 1 ↔
      lead n ≤ k := by
  by_cases hk : (printed n).length ≤ k
  · rw [sscanf_one n hrest hk]
    exact iff_of_true rfl ((lead_le n).trans hk)
  · rw [take_cut (by omega)]
    by_cases hlead : lead n ≤ k
    · obtain ⟨v,hv,-⟩ := scanInt_cut (by omega) hlead
      rw [separated,sscanf,hv]
      exact iff_of_true rfl hlead
    · rw [scanInt_unled (by omega)]
      exact iff_of_false (by decide) hlead

theorem digit_hex {c : Char} (h : c.isDigit = true) : c ∈ hexSet := by
  obtain ⟨hlo,hhi⟩ := digit_bounds h
  have hc : c = Char.ofNat c.toNat := (Char.ofNat_toNat c).symm
  generalize c.toNat = v at hlo hhi hc
  subst hc
  interval_cases v <;> decide

def Contained (fields : List Field) : Prop := ∀ f ∈ fields, f.fits = true

instance (fields : List Field) : Decidable (Contained fields) := inferInstanceAs (Decidable (∀ _ ∈ _, _))

theorem attempt_stored {fields : List Field} (h : Contained fields) (count i : Nat)
    (otherwise : Option (Option Int)) : attempt fields count i otherwise =
      if fields.length = count then some (intAt fields i) else otherwise := by
  rw [attempt,if_pos (List.all_eq_true.mpr h)]

theorem attempt_overrun {fields : List Field} (h : ¬ Contained fields) (count i : Nat)
    (otherwise : Option (Option Int)) : attempt fields count i otherwise = none := by
  rw [attempt,if_neg (fun hall => h (List.all_eq_true.mp hall))]

theorem attempt_isSome {fields : List Field} {count i : Nat} {otherwise : Option (Option Int)} :
    (attempt fields count i otherwise).isSome = true ↔
      Contained fields ∧ (fields.length ≠ count → otherwise.isSome = true) := by
  by_cases h : Contained fields
  · rw [attempt_stored h,and_iff_right h]
    split
    · rename_i hcount
      exact iff_of_true rfl (fun hne => absurd hcount hne)
    · rename_i hcount
      exact ⟨fun h _ => h,fun h => h hcount⟩
  · rw [attempt_overrun h]
    exact iff_of_false Bool.false_ne_true (fun hand => h hand.1)

theorem contained_int (n : Int) (fields : List Field) :
    Contained (.int n :: fields) ↔ Contained fields := by
  rw [Contained,List.forall_mem_cons]
  exact and_iff_right rfl

theorem contained_text (t : List Char) (fields : List Field) :
    Contained (.text t :: fields) ↔ t.length ≤ 3 ∧ Contained fields := by
  rw [Contained,List.forall_mem_cons,Field.fits,decide_eq_true_iff,Nat.lt_succ_iff]
  rfl

theorem contained_lone {ds : List Directive} {s : List Char}
    (h : (sscanf (.int :: ds) s).length ≤ 1) : Contained (sscanf (.int :: ds) s) := by
  rw [sscanf] at h ⊢
  split
  · rename_i n rest hscan
    rw [hscan] at h
    have hnil : sscanf ds rest = [] := List.eq_nil_of_length_eq_zero (Nat.le_zero.mp
      (Nat.le_of_succ_le_succ h))
    rw [hnil,contained_int]
    rintro f ⟨⟩
  · rintro f ⟨⟩

def hexRun (s : List Char) : Nat := (s.takeWhile hexSet.contains).length

theorem contained_set {ds : List Directive} {s : List Char}
    (h : (sscanf (.set hexSet :: ds) s).length ≤ 1) :
    Contained (sscanf (.set hexSet :: ds) s) ↔ hexRun s ≤ 3 := by
  rw [sscanf] at h ⊢
  rw [hexRun]
  split
  · rename_i hnil
    rw [hnil]
    exact iff_of_true (by rintro f ⟨⟩) (by decide)
  · rename_i hrun
    rw [if_neg hrun,List.length_cons] at h
    have hnil : sscanf ds (s.dropWhile hexSet.contains) = [] :=
      List.eq_nil_of_length_eq_zero (Nat.le_zero.mp (Nat.le_of_succ_le_succ h))
    rw [hnil,contained_text]
    exact and_iff_left (by rintro f ⟨⟩)

theorem hexRun_take {c : Char} (hc : c ∉ hexSet) (tok rest : List Char) (k : Nat) :
    hexRun ((tok ++ c :: rest).take k) = min k (hexRun tok) := by
  have hstop : (tok ++ c :: rest).takeWhile hexSet.contains = tok.takeWhile hexSet.contains := by
    rw [List.takeWhile_append,List.takeWhile_cons_of_neg (by simpa using hc),List.append_nil]
    split
    · rename_i hall
      exact ((List.takeWhile_prefix hexSet.contains).eq_of_length hall).symm
    · rfl
  rw [hexRun,← List.take_takeWhile,hstop,List.length_take,hexRun]

theorem hexRun_all {tok : List Char} (h : ∀ c ∈ tok, c ∈ hexSet) : hexRun tok = tok.length := by
  rw [hexRun,List.takeWhile_eq_self_iff.mpr (fun c hc => List.contains_iff_mem.mpr (h c hc))]

-- A string is cut by its set or by the end of the buffer, and the next one is stored only where
-- the comma behind it is still there.
theorem contained_field {tok : List Char} (hne : tok ≠ []) (hcomma : ',' ∉ tok) {d : Directive}
    {ds : List Directive} (hds : ∀ d' ∈ d :: ds, d'.converts = true) (rest : List Char) (k : Nat) :
    Contained (sscanf (separated (.set hexSet :: d :: ds)) ((tok ++ ',' :: rest).take k)) ↔
      min k (hexRun tok) ≤ 3 ∧ ((∀ c ∈ tok, c ∈ hexSet) → tok.length < k →
        Contained (sscanf (separated (d :: ds)) (rest.take (k - tok.length - 1)))) := by
  have hset : (Directive.set hexSet).converts = true := by decide
  have hrun := @hexRun_take ',' (by decide) tok rest k
  by_cases hhex : ∀ c ∈ tok, c ∈ hexSet
  · by_cases hk : tok.length < k
    · have hmin : min k (hexRun tok) = tok.length := by
        rw [hexRun_all hhex]
        omega
      rw [sscanf_set hne hhex d ds rest hk,contained_text,hmin]
      exact and_congr_right (fun _ => ⟨fun h _ _ => h,fun h => h hhex hk⟩)
    · have hle := @sscanf_cut (.set hexSet :: d :: ds) (List.forall_mem_cons.mpr ⟨hset,hds⟩) tok
        (',' :: rest) k hcomma (not_lt.mp hk)
      rw [separated] at hle ⊢
      rw [contained_set hle,hrun]
      exact (and_iff_left (fun _ hlt => absurd hlt hk)).symm
  · have hle := sscanf_set_stops hcomma hhex hds rest k
    rw [separated] at hle ⊢
    rw [contained_set hle,hrun]
    exact (and_iff_left (fun hall => absurd hall hhex)).symm

theorem contained_numbers {ds : List Directive} (h : ∀ chars, .set chars ∉ ds) (s : List Char) :
    Contained (sscanf ds s) := by
  fun_induction sscanf ds s with
  | case1 s => rintro f ⟨⟩
  | case2 ds c => rintro f ⟨⟩
  | case3 ds c rest ih => exact ih (fun chars hmem => h chars (List.mem_cons_of_mem _ hmem))
  | case4 ds c c' rest hne => rintro f ⟨⟩
  | case5 ds s ih => exact ih (fun chars hmem => h chars (List.mem_cons_of_mem _ hmem))
  | case6 ds s n rest hscan ih =>
    rw [contained_int]
    exact ih (fun chars hmem => h chars (List.mem_cons_of_mem _ hmem))
  | case7 ds s hscan => rintro f ⟨⟩
  | case8 chars ds s hnil => exact absurd List.mem_cons_self (h chars)
  | case9 chars ds s hne ih => exact absurd List.mem_cons_self (h chars)

theorem hexRun_printed (n : Int) : hexRun (printed n) ≤ 3 ↔ n < 1000 := by
  cases n with
  | ofNat m =>
    rw [Int.ofNat_eq_natCast,printed_nat,hexRun_all (fun c hc => digit_hex (digits_isDigit c hc)),
      Nat.length_toDigits_le_iff (by decide) (by decide)]
    omega
  | negSucc m =>
    rw [printed_negSucc,hexRun,List.takeWhile_cons_of_neg (by decide)]
    exact iff_of_true (by decide) (by omega)

theorem sscanf_number {tok : List Char} (hne : tok ≠ []) (htok : ∀ c ∈ tok, c.isDigit = true)
    (d : Directive) (ds : List Directive) (rest : List Char) {k : Nat} (h : tok.length < k) :
    sscanf (separated (.int :: d :: ds)) ((tok ++ ',' :: rest).take k) =
      .int (Nat.ofDigitChars 10 tok 0) ::
        sscanf (separated (d :: ds)) (rest.take (k - tok.length - 1)) := by
  have hscan := @scanInt_run tok (',' :: rest.take (k - tok.length - 1)) hne htok
    (by rintro c ⟨⟩; rfl)
  rw [take_whole h,separated,sscanf,hscan]
  exact congrArg (List.cons _) (sscanf_comma _ _)

end Scan

theorem all_hex {s : List Char}
    (h : s.all (fun c => c.isDigit || "abcdefABCDEF".toList.contains c) = true) :
    ∀ c ∈ s, c.isDigit = true ∨ c ∈ "abcdefABCDEF".toList := by
  intro c hc
  have hor := List.all_eq_true.mp h c hc
  rwa [Bool.or_eq_true,List.contains_iff_mem] at hor

structure HexField (max : Nat) where
  digits : List Char
  hex : ∀ c ∈ digits, c.isDigit = true ∨ c ∈ "abcdefABCDEF".toList
  nonempty : digits ≠ []
  short : digits.length ≤ max

namespace HexField
variable {max : Nat}

def Lower (x : HexField max) : Prop := ∀ c ∈ x.digits, c ∈ hexSet

def Decimal (x : HexField max) : Prop := ∀ c ∈ x.digits.head?, c.isDigit = true

def Number (x : HexField max) : Prop := ∀ c ∈ x.digits, c.isDigit = true

def Short (x : HexField max) : Prop := hexRun x.digits ≤ 3

theorem notMem (x : HexField max) {c : Char} (hd : c.isDigit = false)
    (hc : c ∉ "abcdefABCDEF".toList) : c ∉ x.digits := fun h => by
  obtain h | h := x.hex c h
  · exact digit_ne h hd rfl
  · exact hc h

theorem notMem_comma (x : HexField max) : ',' ∉ x.digits := x.notMem (by decide) (by decide)

end HexField

-- The forms of the line that the handler's comment gives.
inductive CeregLine where
  | status (stat : Int32)
  | query (n stat : Int32)
  | located (stat : Int32) (tac : HexField 4) (ci : HexField 8) (act : Int32)
  | locatedQuery (n stat : Int32) (tac : HexField 4) (ci : HexField 8) (act : Int32)

namespace CeregLine

def stat : CeregLine → Int
  | .status stat => stat.toInt
  | .query _ stat => stat.toInt
  | .located stat _ _ _ => stat.toInt
  | .locatedQuery _ stat _ _ _ => stat.toInt

def fields : CeregLine → List (List Char)
  | .status stat => [printed stat.toInt]
  | .query n stat => [printed n.toInt,printed stat.toInt]
  | .located stat tac ci act => [printed stat.toInt,tac.digits,ci.digits,printed act.toInt]
  | .locatedQuery n stat tac ci act =>
      [printed n.toInt,printed stat.toInt,tac.digits,ci.digits,printed act.toInt]

def text (x : CeregLine) : List Char := ':' :: [','].intercalate x.fields ++ ['\r','\n']

def InByte (n : Int) : Prop := 0 ≤ n ∧ n < 256

-- When the handler gets the status right: it is one that the byte holds; what is stored of tac and
-- ci, in either place that a format gives them, fits; and no other format comes first that takes
-- the digits of one field for another.
def Decodes : CeregLine → Prop
  | .status stat => InByte stat.toInt
  | .query _ stat => InByte stat.toInt
  | .located stat tac ci act => InByte stat.toInt ∧
      (tac.Short ∧ (tac.Lower → ci.Short) ∧ (tac.Number → ci.Lower → act.toInt < 1000)) ∧
      (tac.Lower ∧ ci.Lower ∨
        ∀ v rest, scanInt tac.digits = .value v rest → v % 256 = stat.toInt)
  | .locatedQuery n stat tac ci act => InByte stat.toInt ∧
      ((tac.Short ∨ 13 ≤ (printed n.toInt).length + (printed stat.toInt).length) ∧
        (tac.Lower → ci.Short ∨
          12 ≤ (printed n.toInt).length + (printed stat.toInt).length + tac.digits.length)) ∧
      ((tac.Lower ∧ ci.Lower ∧ 5 + (printed n.toInt).length + (printed stat.toInt).length +
        tac.digits.length + ci.digits.length + lead act.toInt ≤ 19) ∨
      ¬ (tac.Lower ∧ ci.Decimal ∧ 5 + (printed n.toInt).length + (printed stat.toInt).length +
        tac.digits.length ≤ 19) ∨ n.toInt % 256 = stat.toInt)

theorem printed_short (x : Int32) : (printed x.toInt).length ≤ 11 := by
  have hlo := x.le_toInt
  have hhi := x.toInt_lt
  have hdigits {v : Nat} (hv : v < 10 ^ 10) : (Nat.toDigits 10 v).length ≤ 10 :=
    (Nat.length_toDigits_le_iff (by decide) (by decide)).mpr hv
  generalize x.toInt = n at hlo hhi
  cases n with
  | ofNat m =>
    rw [Int.ofNat_eq_natCast] at hhi ⊢
    rw [printed_nat]
    exact (hdigits (by omega)).trans (by decide)
  | negSucc m =>
    rw [printed_negSucc,List.length_cons]
    exact Nat.succ_le_succ (hdigits (by omega))

theorem readAtToNewline_line {s : List Char} (hs : '\n' ∉ s) (rest : List Char) (k : Nat) :
    readAtToNewline (k + 1) (s ++ '\n' :: rest) = s.take k := by
  induction s generalizing k with
  | nil =>
    rw [List.take_nil]
    rfl
  | cons c s ih =>
    have hc : c ≠ '\n' := fun h => hs (by simp [h])
    rw [readAtToNewline,List.cons_append,readToNewline,if_neg hc]
    cases k with
    | zero => rfl
    | succ k =>
      have hne : readToNewline (k + 1) (s ++ '\n' :: rest) ≠ [] := by
        cases s <;> simp [readToNewline]
      rw [List.dropLast_cons_of_ne_nil hne,List.take_succ_cons]
      exact congrArg (List.cons c) (ih (fun h => hs (List.mem_cons_of_mem c h)) k)

def body (x : CeregLine) : List Char := [','].intercalate x.fields ++ ['\r']

theorem notMem_body {x : CeregLine} : '\n' ∉ ':' :: x.body := by
  have hprinted := notMem_printed (c := '\n') (by decide) (by decide)
  have hhex {max : Nat} (f : HexField max) : '\n' ∉ f.digits := f.notMem (by decide) (by decide)
  cases x <;> simp [body,fields,List.intercalate_cons_cons,hprinted,hhex]

theorem buf_text (x : CeregLine) (rest : List Char) :
    readAtToNewline 20 (x.text ++ rest) = ':' :: x.body.take 18 := by
  have htext : x.text ++ rest = (':' :: x.body) ++ '\n' :: rest := by simp [text,body]
  rw [htext,readAtToNewline_line notMem_body,List.take_succ_cons]

theorem body_status (stat : Int32) :
    (status stat).body = printed stat.toInt ++ ['\r'] := by simp [body,fields]

theorem body_query (n stat : Int32) : (query n stat).body =
    printed n.toInt ++ ',' :: (printed stat.toInt ++ ['\r']) := by
  simp [body,fields,List.intercalate_cons_cons]

theorem body_located (stat : Int32) (tac : HexField 4) (ci : HexField 8) (act : Int32) :
    (located stat tac ci act).body = printed stat.toInt ++ ',' :: (tac.digits ++
      ',' :: (ci.digits ++ ',' :: (printed act.toInt ++ ['\r']))) := by
  simp [body,fields,List.intercalate_cons_cons]

theorem body_locatedQuery (n stat : Int32) (tac : HexField 4) (ci : HexField 8) (act : Int32) :
    (locatedQuery n stat tac ci act).body = printed n.toInt ++ ',' :: (printed stat.toInt ++
      ',' :: (tac.digits ++ ',' :: (ci.digits ++ ',' :: (printed act.toInt ++ ['\r'])))) := by
  simp [body,fields,List.intercalate_cons_cons]

theorem commas_take (s : List Char) (k : Nat) : commas (s.take k) ≤ commas s :=
  (List.take_sublist k s).count_le ','

theorem commas_append (s t : List Char) : commas (s ++ t) = commas s + commas t :=
  List.count_append

theorem commas_free {s : List Char} (h : ',' ∉ s) : commas s = 0 := List.count_eq_zero.mpr h

theorem commas_field {tok : List Char} (h : ',' ∉ tok) (rest : List Char) :
    commas (tok ++ ',' :: rest) = commas rest + 1 := by
  rw [commas_append,commas_free h,Nat.zero_add]
  exact List.count_cons_self

theorem commas_end (n : Int) : commas (printed n ++ ['\r']) = 0 := by
  rw [commas_append,commas_free (comma_printed n)]
  rfl

theorem all_convert {ds : List Directive} (h : ds.all Directive.converts = true) :
    ∀ d ∈ ds, d.converts = true := List.all_eq_true.mp h

theorem fields_le {ds : List Directive} (h : ds.all Directive.converts = true) {s : List Char}
    {n : Nat} (hs : commas s ≤ n) (k : Nat) : (sscanf (separated ds) (s.take k)).length ≤ n + 1 :=
  (sscanf_commas ds (all_convert h) _).trans
    (Nat.succ_le_succ ((commas_take s k).trans hs))

theorem return_ahead : ∀ c ∈ ['\r'].head?, c.isDigit = false := by
  rintro c ⟨⟩
  rfl

theorem comma_ahead (s : List Char) : ∀ c ∈ (',' :: s).head?, c.isDigit = false := by
  rintro c ⟨⟩
  rfl

abbrev fiveFields (s : List Char) : List Field :=
  sscanf (separated [.int,.int,.set hexSet,.set hexSet,.int]) s

abbrev fourFields (s : List Char) : List Field :=
  sscanf (separated [.int,.set hexSet,.set hexSet,.int]) s

def Stores (s : List Char) : Prop :=
  Contained (fiveFields s) ∧ ((fiveFields s).length ≠ 5 → Contained (fourFields s))

theorem ceregStatus_overrun {s : List Char} (h : ¬ Stores s) : ceregStatus (':' :: s) = none := by
  rw [ceregStatus_colon]
  by_cases hfive : Contained (fiveFields s)
  · rw [Stores,and_iff_right hfive,Classical.not_imp] at h
    rw [attempt_stored hfive,if_neg h.1,attempt_overrun h.2]
  · rw [attempt_overrun hfive]

theorem ceregStatus_stores {s : List Char} (h : Stores s) : ceregStatus (':' :: s) =
    let two := sscanf (separated [.int,.int]) s
    let one := sscanf (separated [.int]) s
    if (fiveFields s).length = 5 then some (intAt (fiveFields s) 1)
    else if (fourFields s).length = 4 then some (intAt (fourFields s) 0)
    else if two.length = 2 then some (intAt two 1)
    else if one.length = 1 then some (intAt one 0)
    else some none := by
  have htwo : Contained (sscanf (separated [.int,.int]) s) :=
    contained_numbers (by simp [separated]) s
  have hone : Contained (sscanf (separated [.int]) s) := contained_numbers (by simp [separated]) s
  rw [ceregStatus_colon,attempt_stored h.1,attempt_stored htwo,attempt_stored hone]
  by_cases hfive : (fiveFields s).length = 5
  · rw [if_pos hfive]
    simp only [if_pos hfive]
  · rw [attempt_stored (h.2 hfive)]

def Decoded (x : CeregLine) : Prop :=
  ceregStatus (':' :: x.body.take 18) = none ∧ ¬ x.Decodes ∨
    ∃ v, ceregStatus (':' :: x.body.take 18) = some (some v) ∧ (v % 256 = x.stat ↔ x.Decodes)

theorem byte_value (v : Int) : ((UInt8.ofInt v).toNat : Int) = v % 256 := by
  rw [UInt8.ofInt,UInt8.toNat_ofNat']
  omega

theorem inByte_iff {n : Int} : InByte n ↔ n % 256 = n := by
  rw [InByte]
  omega

theorem decoded_of {x : CeregLine} {P Q : Prop}
    (hdecodes : x.Decodes ↔ InByte x.stat ∧ P ∧ Q)
    (hroom : InByte x.stat → (Stores (x.body.take 18) ↔ P))
    (hfound : Stores (x.body.take 18) → ∃ v, ceregStatus (':' :: x.body.take 18) = some (some v) ∧
      (InByte x.stat → (v % 256 = x.stat ↔ Q))) : x.Decoded := by
  by_cases hstores : Stores (x.body.take 18)
  · obtain ⟨v,hv,hiff⟩ := hfound hstores
    refine .inr ⟨v,hv,?_⟩
    rw [hdecodes]
    constructor
    · intro h
      have hin : InByte x.stat := by
        rw [InByte]
        omega
      exact ⟨hin,(hroom hin).mp hstores,(hiff hin).mp h⟩
    · rintro ⟨hin,-,h⟩
      exact (hiff hin).mpr h
  · refine .inl ⟨ceregStatus_overrun hstores,fun h => ?_⟩
    obtain ⟨hin,h,-⟩ := hdecodes.mp h
    exact hstores ((hroom hin).mpr h)

theorem five_le {s : List Char} {n : Nat} (hs : commas s ≤ n) (k : Nat) :
    (fiveFields (s.take k)).length ≤ n + 1 := fields_le (by decide) hs k

theorem four_le {s : List Char} {n : Nat} (hs : commas s ≤ n) (k : Nat) :
    (fourFields (s.take k)).length ≤ n + 1 := fields_le (by decide) hs k

theorem status_decodes (stat : Int32) : (status stat).Decoded := by
  have hshort := printed_short stat
  have hcommas := (commas_end stat.toInt).le
  have hfive := five_le hcommas 18
  have hfour := four_le hcommas 18
  have htwo := @fields_le [.int,.int] (by decide) _ _ hcommas 18
  have hone := sscanf_one stat.toInt return_ahead (k := 18) (by omega)
  refine decoded_of (P := True) (Q := True) ?_ ?_ ?_
  · exact (and_iff_left ⟨trivial,trivial⟩).symm
  · rw [body_status]
    exact fun _ => iff_of_true ⟨contained_lone hfive,fun _ => contained_lone hfour⟩ trivial
  · intro h
    rw [ceregStatus_stores h,body_status]
    dsimp only
    rw [if_neg (by omega),if_neg (by omega),if_neg (by omega),hone]
    exact ⟨stat.toInt,rfl,fun hin => iff_of_true (inByte_iff.mp hin) trivial⟩

theorem scanned_iff (n : Int) {rest : List Char} (hrest : ∀ c ∈ rest.head?, c.isDigit = false)
    {k : Nat} (hk : lead n ≤ k) : ∃ v, sscanf (separated [.int]) ((printed n ++ rest).take k) =
      [.int v] ∧ (v = n ↔ (printed n).length ≤ k) := by
  by_cases h : (printed n).length ≤ k
  · exact ⟨n,sscanf_one n hrest h,iff_of_true rfl h⟩
  · obtain ⟨v,hv,hne⟩ := scanInt_cut (n := n) (by omega) hk
    refine ⟨v,?_,iff_of_false hne h⟩
    rw [take_cut (by omega),separated,sscanf,hv]
    rfl

theorem printed_byte {n : Int} (h : InByte n) :
    (printed n).length ≤ 3 ∧ ∀ c ∈ printed n, c ∈ hexSet := by
  obtain ⟨m,rfl⟩ := Int.eq_ofNat_of_zero_le h.1
  have hm : m < 10 ^ 3 := by
    have hlt := h.2
    omega
  rw [printed_nat]
  exact ⟨(Nat.length_toDigits_le_iff (by decide) (by decide)).mpr hm,
    fun c hc => digit_hex (digits_isDigit c hc)⟩

theorem query_decodes (n stat : Int32) : (query n stat).Decoded := by
  have hn := printed_short n
  have hlead := lead_bounds stat.toInt
  have hcommas : commas (printed n.toInt ++ ',' :: (printed stat.toInt ++ ['\r'])) ≤ 1 := by
    rw [commas_field (comma_printed _),commas_end]
  have hfive := five_le hcommas 18
  have hfour := four_le hcommas 18
  have htwo := sscanf_printed n.toInt .int [] (printed stat.toInt ++ ['\r']) (k := 18) (by omega)
  obtain ⟨v,hv,hiff⟩ := scanned_iff stat.toInt return_ahead
    (k := 18 - (printed n.toInt).length - 1) (by omega)
  refine decoded_of (P := True) (Q := True) ?_ ?_ ?_
  · exact (and_iff_left ⟨trivial,trivial⟩).symm
  · intro hin
    have hend := (commas_end stat.toInt).le
    have hlone := @fields_le [.int,.set hexSet,.set hexSet,.int] (by decide) _ _ hend
      (18 - (printed n.toInt).length - 1)
    have hset := @fields_le [.set hexSet,.set hexSet,.int] (by decide) _ _ hend
      (18 - (printed n.toInt).length - 1)
    have hlt : stat.toInt < 256 := hin.2
    have hrun : hexRun (printed stat.toInt) ≤ 3 := (hexRun_printed _).mpr (by omega)
    rw [body_query,Stores,fiveFields,fourFields,sscanf_printed _ _ _ _ (by omega),
      sscanf_printed _ _ _ _ (by omega),contained_int,contained_int]
    refine iff_of_true ⟨contained_lone hlone,fun _ => (contained_set hset).mpr ?_⟩ trivial
    rw [hexRun_take (by decide)]
    omega
  · intro h
    rw [ceregStatus_stores h,body_query]
    dsimp only
    rw [if_neg (by omega),if_neg (by omega),htwo,hv]
    refine ⟨v,rfl,fun hin => iff_of_true ?_ trivial⟩
    have hlen : (printed stat.toInt).length ≤ 3 := (printed_byte hin).1
    rw [hiff.mpr (by omega)]
    exact inByte_iff.mp hin

theorem letter_not_digit : ∀ c ∈ "abcdefABCDEF".toList, c.isDigit = false := by simp

theorem scanInt_letter {c : Char} {s : List Char} (hc : c ∈ "abcdefABCDEF".toList) :
    scanInt (c :: s) = .mismatch := by
  have hcases : c = 'a' ∨ c = 'b' ∨ c = 'c' ∨ c = 'd' ∨ c = 'e' ∨ c = 'f' ∨ c = 'A' ∨ c = 'B' ∨
      c = 'C' ∨ c = 'D' ∨ c = 'E' ∨ c = 'F' := by simpa using hc
  rcases hcases with rfl | rfl | rfl | rfl | rfl | rfl | rfl | rfl | rfl | rfl | rfl | rfl <;> rfl

theorem scanInt_digit {c : Char} (hc : c.isDigit = true) (s : List Char) :
    scanInt (c :: s) = .value (Nat.ofDigitChars 10 ((c :: s).takeWhile Char.isDigit) 0)
      ((c :: s).dropWhile Char.isDigit) := by
  have hrun := @scanInt_run ((c :: s).takeWhile Char.isDigit)
    ((c :: s).dropWhile Char.isDigit) (by simp [hc])
    (fun d hd => List.mem_takeWhile_imp hd) (fun d hd => by
      have hnot := List.head?_dropWhile_not Char.isDigit (c :: s)
      rw [Option.mem_def.mp hd] at hnot
      simpa using hnot)
  rwa [List.takeWhile_append_dropWhile] at hrun

theorem scanInt_field {max : Nat} (x : HexField max) (rest : List Char) :
    (¬ x.Decimal ∧ scanInt x.digits = .mismatch ∧ scanInt (x.digits ++ ',' :: rest) = .mismatch) ∨
    (x.Decimal ∧ ∃ v tail tail', scanInt x.digits = .value v tail ∧
      scanInt (x.digits ++ ',' :: rest) = .value v tail') := by
  obtain ⟨digits,hex,nonempty,_⟩ := x
  cases digits with
  | nil => exact absurd rfl nonempty
  | cons c s =>
    obtain hc | hc := hex c (by simp)
    · have htake : (c :: s ++ ',' :: rest).takeWhile Char.isDigit =
          (c :: s).takeWhile Char.isDigit := by
        rw [List.takeWhile_append]
        split
        · rename_i hall
          rw [(List.takeWhile_prefix Char.isDigit).eq_of_length hall]
          exact List.append_nil _
        · rfl
      have hscan := scanInt_digit hc (s ++ ',' :: rest)
      rw [← List.cons_append,htake] at hscan
      refine .inr ⟨?_,_,_,_,scanInt_digit hc s,hscan⟩
      rintro d ⟨⟩
      exact hc
    · refine .inl ⟨fun h => ?_,scanInt_letter hc,scanInt_letter hc⟩
      exact digit_ne (h c rfl) (letter_not_digit c hc) rfl

theorem contained_stray {max : Nat} {x : HexField max} (hx : ¬ x.Number) {d : Directive}
    {ds : List Directive} (rest : List Char) {k : Nat} (h : x.digits.length < k) :
    Contained (sscanf (separated (.int :: d :: ds)) ((x.digits ++ ',' :: rest).take k)) := by
  obtain ⟨digits,hex,nonempty,_⟩ := x
  have hx : ¬ ∀ c ∈ digits, c.isDigit = true := hx
  rw [take_whole h,separated]
  cases digits with
  | nil => exact absurd rfl nonempty
  | cons c s =>
    obtain hc | hc := hex c (by simp)
    · rw [List.cons_append,sscanf,scanInt_digit hc,contained_int,← List.cons_append,
        List.dropWhile_append]
      cases hdrop : (c :: s).dropWhile Char.isDigit with
      | nil => exact absurd (List.dropWhile_eq_nil_iff.mp hdrop) hx
      | cons c' tail =>
        have hmem : c' ∈ c :: s := (List.dropWhile_suffix Char.isDigit).mem (by simp [hdrop])
        have hcomma : c' ≠ ',' := by
          rintro rfl
          obtain h | h := hex ',' hmem
          · exact absurd h (by decide)
          · exact absurd h (by decide)
        rw [List.isEmpty_cons,if_neg Bool.false_ne_true,List.cons_append,sscanf,if_neg hcomma]
        rintro f ⟨⟩
    · rw [List.cons_append,sscanf,scanInt_letter hc]
      rintro f ⟨⟩

theorem digits_lower {max : Nat} {x : HexField max} (h : x.Number) : x.Lower :=
  fun c hc => digit_hex (h c hc)

section Located
variable (tac : HexField 4) (ci : HexField 8) (act : Int32)

def place : List Char :=
  tac.digits ++ ',' :: (ci.digits ++ ',' :: (printed act.toInt ++ ['\r']))

theorem contained_place (k : Nat) :
    Contained (sscanf (separated [.set hexSet,.set hexSet,.int]) ((place tac ci act).take k)) ↔
      min k (hexRun tac.digits) ≤ 3 ∧ (tac.Lower → tac.digits.length < k →
        min (k - tac.digits.length - 1) (hexRun ci.digits) ≤ 3) := by
  rw [place,contained_field tac.nonempty tac.notMem_comma (all_convert (by decide)),
    contained_field ci.nonempty ci.notMem_comma (all_convert (by decide))]
  refine and_congr_right (fun _ => forall₂_congr (fun _ _ => and_iff_left ?_))
  exact fun _ _ => contained_numbers (by simp [separated]) _

-- tac taken for a status, ci for tac and the access technology for ci.
theorem contained_shifted {k : Nat} (hk : tac.digits.length < k) :
    Contained (sscanf (separated [.int,.set hexSet,.set hexSet,.int]) ((place tac ci act).take k)) ↔
      (tac.Number → min (k - tac.digits.length - 1) (hexRun ci.digits) ≤ 3 ∧
        (ci.Lower → ci.digits.length < k - tac.digits.length - 1 →
          min (k - tac.digits.length - ci.digits.length - 2) (hexRun (printed act.toInt)) ≤ 3)) := by
  by_cases hnumber : tac.Number
  · have hrest : k - tac.digits.length - 1 - ci.digits.length - 1 =
        k - tac.digits.length - ci.digits.length - 2 := by omega
    have hset := @fields_le [.set hexSet,.int] (by decide) _ _ (commas_end act.toInt).le
      (k - tac.digits.length - ci.digits.length - 2)
    rw [place,sscanf_number tac.nonempty hnumber _ _ _ hk,contained_int,
      contained_field ci.nonempty ci.notMem_comma (all_convert (by decide)),hrest]
    rw [separated] at hset ⊢
    rw [contained_set hset,hexRun_take (by decide)]
    exact ⟨fun h _ => h,fun h => h hnumber⟩
  · exact iff_of_true (contained_stray hnumber _ hk) (fun h => absurd h hnumber)

end Located

theorem located_room (stat : Int32) (tac : HexField 4) (ci : HexField 8) (act : Int32)
    (hin : InByte stat.toInt) : Stores ((printed stat.toInt ++ ',' :: place tac ci act).take 18) ↔
      tac.Short ∧ (tac.Lower → ci.Short) ∧ (tac.Number → ci.Lower → act.toInt < 1000) := by
  have hstat := (printed_byte hin).1
  have htac := tac.short
  have hcommas : commas (printed stat.toInt ++ ',' :: place tac ci act) ≤ 3 := by
    rw [commas_field (comma_printed _),place,commas_field tac.notMem_comma,
      commas_field ci.notMem_comma,commas_end]
  have hfive : (fiveFields ((printed stat.toInt ++ ',' :: place tac ci act).take 18)).length ≠ 5 := by
    have hle := five_le hcommas 18
    omega
  have hci (h : ci.Lower) (hshort : ci.Short) : ci.digits.length ≤ 3 := by
    rwa [← hexRun_all h]
  rw [Stores,forall_prop_of_true hfive,fiveFields,fourFields,sscanf_printed _ _ _ _ (by omega),
    sscanf_printed _ _ _ _ (by omega),contained_int,contained_int,contained_place,
    contained_shifted _ _ _ (by omega),← hexRun_printed]
  constructor
  · rintro ⟨hshifted,hrun,hplace⟩
    refine ⟨?_,fun hlower => ?_,fun hnumber hlower => ?_⟩
    · rw [HexField.Short]
      omega
    · have hmin := hplace hlower (by omega)
      rw [HexField.Short]
      omega
    · obtain ⟨hmin,hact⟩ := hshifted hnumber
      have hlen := hci hlower (by rw [HexField.Short]; omega)
      have hmin := hact hlower (by omega)
      omega
  · rintro ⟨hshort,hplace,hact⟩
    refine ⟨fun hnumber => ⟨?_,fun hlower _ => ?_⟩,?_,fun hlower _ => ?_⟩
    · exact (min_le_right _ _).trans (hplace (digits_lower hnumber))
    · exact (min_le_right _ _).trans (hact hnumber hlower)
    · exact (min_le_right _ _).trans hshort
    · exact (min_le_right _ _).trans (hplace hlower)

theorem located_decodes (stat : Int32) (tac : HexField 4) (ci : HexField 8) (act : Int32) :
    (located stat tac ci act).Decoded := by
  have hstat := printed_short stat
  have htac := tac.short
  have hcommas : commas (printed stat.toInt ++ ',' :: place tac ci act) ≤ 3 := by
    rw [commas_field (comma_printed _),place,commas_field tac.notMem_comma,
      commas_field ci.notMem_comma,commas_end]
  have hfive := five_le hcommas 18
  have hfour := sscanf_printed stat.toInt (.set hexSet) [.set hexSet,.int] (place tac ci act)
    (k := 18) (by omega)
  have hsets := two_sets tac.nonempty ci.nonempty tac.notMem_comma ci.notMem_comma
    (printed act.toInt ++ ['\r']) (18 - (printed stat.toInt).length - 1)
  rw [sscanf_lead act.toInt return_ahead,← place] at hsets
  have htwo := sscanf_printed stat.toInt .int [] (place tac ci act) (k := 18) (by omega)
  have hone := sscanf_one stat.toInt (comma_ahead (place tac ci act)) (k := 18) (by omega)
  refine decoded_of (Q := tac.Lower ∧ ci.Lower ∨
    ∀ v rest, scanInt tac.digits = .value v rest → v % 256 = stat.toInt) Iff.rfl ?_ ?_
  · rw [body_located]
    exact located_room stat tac ci act
  · intro h
    rw [ceregStatus_stores h]
    rw [body_located,← place] at h ⊢
    dsimp only
    rw [if_neg (by omega),fourFields,hfour,List.length_cons]
    by_cases hloc : (sscanf (separated [.set hexSet,.set hexSet,.int])
      ((place tac ci act).take (18 - (printed stat.toInt).length - 1))).length = 3
    · rw [if_pos (by omega)]
      obtain ⟨hl,hl',-⟩ := hsets.mp hloc
      exact ⟨stat.toInt,rfl,fun hin => iff_of_true (inByte_iff.mp hin) (.inl ⟨hl,hl'⟩)⟩
    · rw [if_neg (by omega),htwo,hone,place,take_whole (by omega),separated,sscanf]
      have hlost (hin : InByte stat.toInt) : ¬ (tac.Lower ∧ ci.Lower) := by
        rintro ⟨hl,hl'⟩
        obtain ⟨hshort,hplace,-⟩ := (located_room stat tac ci act hin).mp h
        have hci : ci.digits.length ≤ 3 := by
          rw [← hexRun_all hl']
          exact hplace hl
        have hlen := (printed_byte hin).1
        have hlead := lead_bounds act.toInt
        exact hloc (hsets.mpr ⟨hl,hl',by omega,by omega⟩)
      obtain ⟨-,hnone,hmore⟩ | ⟨-,v,tail,tail',hvalue,hmore⟩ := scanInt_field tac
        ((ci.digits ++ ',' :: (printed act.toInt ++ ['\r'])).take
          (18 - (printed stat.toInt).length - 1 - tac.digits.length - 1))
      · rw [hmore,hnone]
        refine ⟨stat.toInt,rfl,fun hin => iff_of_true (inByte_iff.mp hin) (.inr ?_)⟩
        rintro v rest ⟨⟩
      · rw [hmore,hvalue]
        refine ⟨v,rfl,fun hin => ?_⟩
        rw [or_iff_right (hlost hin)]
        constructor
        · rintro hv v' rest ⟨⟩
          exact hv
        · intro h
          exact h v tail rfl

theorem printed_ne_nil (n : Int) : printed n ≠ [] := fun h => by
  have hlead := lead_le n
  rw [h,lead] at hlead
  split at hlead <;> simp at hlead

theorem sscanf_field {max : Nat} (x : HexField max) (rest : List Char) (k : Nat) :
    (sscanf (separated [.int]) ((x.digits ++ rest).take k)).length = 1 ↔ x.Decimal ∧ 1 ≤ k := by
  obtain ⟨digits,hex,nonempty,_⟩ := x
  cases digits with
  | nil => exact absurd rfl nonempty
  | cons c s =>
    cases k with
    | zero =>
      rw [List.take_zero]
      exact iff_of_false (by decide) (by omega)
    | succ k =>
      rw [List.cons_append,List.take_succ_cons,separated,sscanf]
      obtain hc | hc := hex c (by simp)
      · rw [scanInt_digit hc]
        refine iff_of_true rfl ⟨?_,by omega⟩
        rintro d ⟨⟩
        exact hc
      · rw [scanInt_letter hc]
        exact iff_of_false (by decide) (fun h => digit_ne (h.1 c rfl) (letter_not_digit c hc) rfl)

theorem four_fields (stat act : Int32) (tac : HexField 4) (ci : HexField 8) (k : Nat) :
    let fields := sscanf (separated [.int,.set hexSet,.set hexSet,.int])
      ((printed stat.toInt ++ ',' :: place tac ci act).take k)
    (fields.length = 4 → intAt fields 0 = some stat.toInt) ∧
    (fields.length = 4 ↔ tac.Lower ∧ ci.Lower ∧ (printed stat.toInt).length + tac.digits.length +
      ci.digits.length + lead act.toInt + 3 ≤ k) := by
  have hlead := lead_bounds act.toInt
  dsimp only
  by_cases hk : (printed stat.toInt).length < k
  · have hsets := two_sets tac.nonempty ci.nonempty tac.notMem_comma ci.notMem_comma
      (printed act.toInt ++ ['\r']) (k - (printed stat.toInt).length - 1)
    rw [sscanf_lead act.toInt return_ahead,← place] at hsets
    rw [sscanf_printed _ _ _ _ hk,List.length_cons,Nat.succ_inj,hsets]
    refine ⟨fun _ => rfl,?_⟩
    constructor
    · rintro ⟨hl,hl',hlen,hled⟩
      exact ⟨hl,hl',by omega⟩
    · rintro ⟨hl,hl',hlen⟩
      exact ⟨hl,hl',by omega,by omega⟩
  · have hle := @sscanf_cut [.int,.set hexSet,.set hexSet,.int] (all_convert (by decide))
      (printed stat.toInt) (',' :: place tac ci act) _ (comma_printed stat.toInt) (not_lt.mp hk)
    refine ⟨fun h => by omega,iff_of_false (by omega) ?_⟩
    rintro ⟨-,-,hlen⟩
    omega

theorem locatedQuery_room (n stat : Int32) (tac : HexField 4) (ci : HexField 8) (act : Int32)
    (hin : InByte stat.toInt) :
    Stores ((printed n.toInt ++ ',' :: (printed stat.toInt ++ ',' :: place tac ci act)).take 18) ↔
      (tac.Short ∨ 13 ≤ (printed n.toInt).length + (printed stat.toInt).length) ∧
        (tac.Lower → ci.Short ∨
          12 ≤ (printed n.toInt).length + (printed stat.toInt).length + tac.digits.length) := by
  obtain ⟨hstat,hhex⟩ := printed_byte hin
  have hn := printed_short n
  have hset : Contained (sscanf (separated [.set hexSet,.set hexSet,.int])
      ((printed stat.toInt ++ ',' :: place tac ci act).take (18 - (printed n.toInt).length - 1))) ↔
      min (18 - (printed n.toInt).length - 1 - (printed stat.toInt).length - 1)
        (hexRun tac.digits) ≤ 3 := by
    rw [contained_field (printed_ne_nil _) (comma_printed _) (all_convert (by decide)),
      hexRun_all hhex,and_iff_right ((min_le_right _ _).trans hstat),forall_prop_of_true hhex,
      forall_prop_of_true (by omega),place,
      contained_field tac.nonempty tac.notMem_comma (all_convert (by decide))]
    exact and_iff_left (fun _ _ => contained_numbers (by simp [separated]) _)
  rw [Stores,fiveFields,fourFields,sscanf_printed _ _ _ _ (by omega),
    sscanf_printed _ _ _ _ (by omega),sscanf_printed _ _ _ _ (by omega),contained_int,
    contained_int,contained_int,contained_place,hset,HexField.Short,HexField.Short]
  constructor
  · rintro ⟨⟨hrun,hplace⟩,-⟩
    refine ⟨by omega,fun hlower => ?_⟩
    by_cases hk : tac.digits.length < 18 - (printed n.toInt).length - 1 -
        (printed stat.toInt).length - 1
    · have hmin := hplace hlower hk
      omega
    · omega
  · rintro ⟨hrun,hplace⟩
    refine ⟨⟨by omega,fun hlower _ => ?_⟩,fun _ => by omega⟩
    have hor := hplace hlower
    omega

theorem locatedQuery_decodes (n stat : Int32) (tac : HexField 4) (ci : HexField 8) (act : Int32) :
    (locatedQuery n stat tac ci act).Decoded := by
  have hn := printed_short n
  have hlead := lead_bounds stat.toInt
  have hfive := sscanf_printed n.toInt .int [.set hexSet,.set hexSet,.int]
    (printed stat.toInt ++ ',' :: place tac ci act) (k := 18) (by omega)
  have hfour := sscanf_printed n.toInt (.set hexSet) [.set hexSet,.int]
    (printed stat.toInt ++ ',' :: place tac ci act) (k := 18) (by omega)
  have htwo := sscanf_printed n.toInt .int [] (printed stat.toInt ++ ',' :: place tac ci act)
    (k := 18) (by omega)
  have htaken := two_sets (printed_ne_nil stat.toInt) tac.nonempty (comma_printed _) tac.notMem_comma
    (ci.digits ++ ',' :: (printed act.toInt ++ ['\r'])) (18 - (printed n.toInt).length - 1)
  rw [sscanf_field,← place] at htaken
  obtain ⟨v,hv,hiff⟩ := scanned_iff stat.toInt (comma_ahead (place tac ci act))
    (k := 18 - (printed n.toInt).length - 1) (by omega)
  obtain ⟨hfirst,hall⟩ := four_fields stat act tac ci (18 - (printed n.toInt).length - 1)
  refine decoded_of (Q := (tac.Lower ∧ ci.Lower ∧ 5 + (printed n.toInt).length +
      (printed stat.toInt).length + tac.digits.length + ci.digits.length + lead act.toInt ≤ 19) ∨
    ¬ (tac.Lower ∧ ci.Decimal ∧ 5 + (printed n.toInt).length + (printed stat.toInt).length +
      tac.digits.length ≤ 19) ∨ n.toInt % 256 = stat.toInt) Iff.rfl ?_ ?_
  · rw [body_locatedQuery]
    exact locatedQuery_room n stat tac ci act
  · intro h
    rw [ceregStatus_stores h,body_locatedQuery,← place]
    dsimp only
    rw [fiveFields,fourFields,hfive,hfour,htwo,hv,List.length_cons,List.length_cons]
    generalize sscanf (separated [.int,.set hexSet,.set hexSet,.int]) _ = located at hfirst hall ⊢
    generalize sscanf (separated [.set hexSet,.set hexSet,.int]) _ = taken at htaken ⊢
    by_cases hfull : located.length = 4
    · obtain ⟨hl,hl',hlen⟩ := hall.mp hfull
      rw [if_pos (by omega)]
      refine ⟨stat.toInt,congrArg some (hfirst hfull),fun hin => iff_of_true (inByte_iff.mp hin) ?_⟩
      exact .inl ⟨hl,hl',by omega⟩
    · have hlost : ¬ (tac.Lower ∧ ci.Lower ∧ 5 + (printed n.toInt).length +
          (printed stat.toInt).length + tac.digits.length + ci.digits.length + lead act.toInt ≤
          19) := by
        rintro ⟨hl,hl',hlen⟩
        exact hfull (hall.mpr ⟨hl,hl',by omega⟩)
      rw [if_neg (by omega),or_iff_right hlost]
      by_cases hshift : taken.length = 3
      · obtain ⟨-,hl,hlen,hci,hroom⟩ := htaken.mp hshift
        rw [if_pos (by omega)]
        refine ⟨n.toInt,rfl,fun _ => ?_⟩
        rw [or_iff_right (not_not_intro ⟨hl,hci,by omega⟩)]
        rfl
      · have hkept (hin : InByte stat.toInt) : ¬ (tac.Lower ∧ ci.Decimal ∧
            5 + (printed n.toInt).length + (printed stat.toInt).length + tac.digits.length ≤ 19) := by
          rintro ⟨hl,hci,hlen⟩
          exact hshift (htaken.mpr ⟨(printed_byte hin).2,hl,by omega,hci,by omega⟩)
        rw [if_neg (by omega)]
        refine ⟨v,rfl,fun hin => iff_of_true ?_ (.inl (hkept hin))⟩
        have hlen : (printed stat.toInt).length ≤ 3 := (printed_byte hin).1
        rw [hiff.mpr (by omega)]
        exact inByte_iff.mp hin

theorem decoded (x : CeregLine) : x.Decoded := by
  cases x with
  | status stat => exact status_decodes stat
  | query n stat => exact query_decodes n stat
  | located stat tac ci act => exact located_decodes stat tac ci act
  | locatedQuery n stat tac ci act => exact locatedQuery_decodes n stat tac ci act

theorem cereg_status_iff (x : CeregLine) (rest : List Char) (d : Driver) :
    (∃ d', ceregUrc (x.text ++ rest) d = some d' ∧ d'.base.devInfo.regStatusEps.toNat = x.stat) ↔
      x.Decodes := by
  rw [ceregUrc,buf_text]
  obtain ⟨hnone,hnot⟩ | ⟨v,hv,hiff⟩ := x.decoded
  · rw [hnone]
    exact iff_of_false (by rintro ⟨d',⟨⟩,-⟩) hnot
  · rw [hv,← hiff,← byte_value]
    constructor
    · rintro ⟨d',⟨⟩,h⟩
      exact h
    · exact fun h => ⟨_,rfl,h⟩

example : ceregStatus (readAtToNewline 20 ":1,5,1a2,0c,7\r\n".toList) = some (some 5) := by decide

def registered : CeregLine :=
  .locatedQuery 2 1 ⟨"12".toList,all_hex (by decide),by decide,by decide⟩
    ⟨"0A".toList,all_hex (by decide),by decide,by decide⟩ 7

theorem cereg_status_taken : registered.text = ":2,1,12,0A,7\r\n".toList ∧
    registered.stat = 1 ∧
    ∀ d, (ceregUrc registered.text d).map (fun d' => d'.base.devInfo.regStatusEps) = some 2 := by
  have hstatus : ceregStatus (readAtToNewline 20 registered.text) = some (some 2) := by decide
  refine ⟨by decide,by decide,fun d => ?_⟩
  rw [ceregUrc,hstatus]
  rfl

end CeregLine

end UbloxCellular.N2xx
