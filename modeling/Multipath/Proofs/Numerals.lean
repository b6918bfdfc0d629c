import Multipath.Toml.Scalar

/-! # Numerals read back

The digits of a number are its value again (`valueOf_toDigits`), and a whole number in digits is read as
itself (`scalar?_toDigits`). What else is made of digits and points is no date and no truth value
(`Numeral.scalar?`).
-/

namespace Multipath

namespace Decimal

theorem valueOf_eq {cs : List Char} (digits : ∀ c ∈ cs, c.isDigit = true) (n : Nat) :
    cs.foldl (fun n c => n * 10 + digitValue c) n = Nat.ofDigitChars 10 cs n := by
  induction cs generalizing n with
  | nil => rfl
  | cons c rest ih =>
      have value : digitValue c = c.toNat - '0'.toNat := by
        rw [digitValue, if_pos (digits c List.mem_cons_self)]
      rw [List.foldl_cons, Nat.ofDigitChars_cons, value, Nat.mul_comm n 10]
      exact ih (fun d mem => digits d (List.mem_cons_of_mem c mem)) _

theorem isDigit_of_mem {n : Nat} {c : Char} (mem : c ∈ Nat.toDigits 10 n) : c.isDigit = true :=
  Nat.isDigit_of_mem_toDigits (by decide) (by decide) mem

theorem ne_of_isDigit {c d : Char} (digit : c.isDigit = true) (other : d.isDigit = false) : c ≠ d := by
  rintro rfl
  rw [digit] at other
  cases other

/-- The digits of a number, with more digits behind them. -/
theorem valueOf_toDigits_append (n : Nat) {cs : List Char} (digits : ∀ c ∈ cs, c.isDigit = true) :
    valueOf 10 (Nat.toDigits 10 n ++ cs) = Nat.ofDigitChars 10 cs n := by
  rw [valueOf, List.foldl_append, valueOf_eq fun c mem => isDigit_of_mem mem,
    Nat.ofDigitChars_ten_toDigits]
  exact valueOf_eq digits n

theorem valueOf_toDigits (n : Nat) : valueOf 10 (Nat.toDigits 10 n) = n := by
  have value : valueOf 10 (Nat.toDigits 10 n ++ []) = n :=
    valueOf_toDigits_append n fun c mem => by cases mem
  rwa [List.append_nil] at value

/-- No number but zero begins with a zero. -/
theorem head?_toDigits {n : Nat} (pos : 0 < n) : (Nat.toDigits 10 n).head? ≠ some '0' := by
  induction n using Nat.strongRecOn with
  | ind n ih =>
      by_cases small : n < 10
      · rw [Nat.toDigits_of_lt_base small]
        intro zero
        have zero' : n = 0 := Nat.digitChar_eq_zero.1 (Option.some.inj zero)
        omega
      · have large : 10 ≤ n := Nat.le_of_not_lt small
        have shorter := ih (n / 10) (Nat.div_lt_self pos (by decide)) (Nat.div_pos large (by decide))
        rw [Nat.toDigits_of_base_le (by decide) large]
        cases digits : Nat.toDigits 10 (n / 10) with
        | nil => exact absurd digits Nat.toDigits_ne_nil
        | cons c rest =>
            rw [digits] at shorter
            exact shorter

end Decimal

namespace Toml

open Decimal

theorem ungroup_cons {c : Char} {cs : List Char} (digit : c.isDigit = true) (some_ : cs ≠ [])
    (plain : cs.head? ≠ some '_') :
    ungroup Char.isDigit (c :: cs) = (ungroup Char.isDigit cs).map (c :: ·) := by
  cases cs with
  | nil => exact absurd rfl some_
  | cons d rest =>
      have other : d ≠ '_' := fun same => plain (congrArg some same)
      rw [ungroup.eq_4 _ _ _ (by simp) (by simp [other]), if_pos digit]

theorem ungroup_of_not_digit {c : Char} (other : c.isDigit = false) (cs : List Char) :
    ungroup Char.isDigit (c :: cs) = none := by
  unfold ungroup
  split <;> simp_all

theorem ungroup_digits {cs : List Char} (some_ : cs ≠ []) (digits : ∀ c ∈ cs, c.isDigit = true) :
    ungroup Char.isDigit cs = some cs := by
  induction cs with
  | nil => exact absurd rfl some_
  | cons c rest ih =>
      have first := digits c List.mem_cons_self
      have others := fun d mem => digits d (List.mem_cons_of_mem c mem)
      cases rest with
      | nil => simp [ungroup, first]
      | cons d rest =>
          have plain : (d :: rest).head? ≠ some '_' := by
            rintro ⟨⟩
            cases others '_' List.mem_cons_self
          rw [ungroup_cons first (List.cons_ne_nil d rest) plain, ih (List.cons_ne_nil d rest) others]
          rfl

/-- Only a zero alone begins with one. -/
theorem wholeDigits?_eq {cs : List Char} (some_ : cs ≠ []) (digits : ∀ c ∈ cs, c.isDigit = true)
    (lead : cs.head? = some '0' → cs.length = 1) : wholeDigits? cs = some cs := by
  have grouped := ungroup_digits some_ digits
  have lead' : ¬ (cs.head? = some '0' ∧ cs.length ≠ 1) := fun ⟨zero, long⟩ => long (lead zero)
  simp [wholeDigits?, grouped, lead']

theorem wholeDigits?_toDigits (n : Nat) :
    wholeDigits? (Nat.toDigits 10 n) = some (Nat.toDigits 10 n) := by
  refine wholeDigits?_eq Nat.toDigits_ne_nil (fun c mem => isDigit_of_mem mem) fun zero => ?_
  cases n with
  | zero => rfl
  | succ n => exact absurd zero (head?_toDigits (Nat.succ_pos n))

/-! ## What a run is not -/

theorem dash_of_isDate {cs : List Char} (date : isDate cs = true) : cs[4]? = some '-' := by
  unfold isDate at date
  split at date
  · rfl
  · cases date

theorem colon_of_afterTime? {cs rest : List Char} (time : afterTime? cs = some rest) :
    cs[2]? = some ':' := by
  unfold afterTime? at time
  split at time
  · rfl
  · cases time

/-- A date has a dash in it, a time a colon. -/
theorem marked_of_isMoment {cs : List Char} (moment : isMoment cs = true) :
    cs[4]? = some '-' ∨ cs[2]? = some ':' := by
  unfold isMoment at moment
  rw [Bool.or_eq_true, Bool.or_eq_true, Bool.and_eq_true] at moment
  rcases moment with (date | time) | ⟨date, -⟩
  · exact .inl (dash_of_isDate date)
  · exact .inr (colon_of_afterTime? (of_decide_eq_true time))
  · have dash := dash_of_isDate date
    rw [List.getElem?_take_of_lt (by decide)] at dash
    exact .inl dash

/-- A text of digits and points, behind a sign or not. -/
structure Numeral (cs : List Char) : Prop where
  some_ : cs ≠ []
  head : ∀ c ∈ cs.head?, c.isDigit = true ∨ c = '-'
  tail : ∀ c ∈ cs.tail, c.isDigit = true ∨ c = '.'

namespace Numeral

variable {cs : List Char}

theorem getElem? (numeral : Numeral cs) {i : Nat} {c : Char} (found : cs[i + 1]? = some c) :
    c.isDigit = true ∨ c = '.' := by
  refine numeral.tail c ?_
  rw [← List.getElem?_tail] at found
  exact List.mem_of_getElem? found

theorem isMoment (numeral : Numeral cs) : isMoment cs = false := by
  refine Bool.eq_false_iff.2 fun moment => ?_
  rcases marked_of_isMoment moment with dash | colon
  · exact absurd (numeral.getElem? dash) (by decide)
  · exact absurd (numeral.getElem? colon) (by decide)

theorem scalar? (numeral : Numeral cs) : scalar? cs = (integer? cs).or (real? cs) := by
  have true_ : cs ≠ ['t', 'r', 'u', 'e'] := by
    rintro rfl
    exact absurd (numeral.head 't' rfl) (by decide)
  have false_ : cs ≠ ['f', 'a', 'l', 's', 'e'] := by
    rintro rfl
    exact absurd (numeral.head 'f' rfl) (by decide)
  rw [Toml.scalar?, if_neg true_, if_neg false_, numeral.isMoment]
  rfl

/-- No mark of another base stands in a numeral. -/
theorem integer? (numeral : Numeral cs) :
    integer? cs = match wholeDigits? (splitSign cs).2 with
      | some digits =>
        some (.ofInteger (if (splitSign cs).1 then -(valueOf 10 digits : Int) else valueOf 10 digits))
      | none => if isRagged (splitSign cs).2 then some .beyond else none := by
  unfold Toml.integer?
  split
  · exact absurd (numeral.tail 'x' List.mem_cons_self) (by decide)
  · exact absurd (numeral.tail 'o' List.mem_cons_self) (by decide)
  · exact absurd (numeral.tail 'b' List.mem_cons_self) (by decide)
  · rfl

end Numeral

theorem numeral_toDigits (n : Nat) : Numeral (Nat.toDigits 10 n) where
  some_ := Nat.toDigits_ne_nil
  head _ mem := .inl (isDigit_of_mem (List.mem_of_mem_head? mem))
  tail _ mem := .inl (isDigit_of_mem (List.mem_of_mem_tail mem))

theorem splitSign_digits {cs : List Char} (head : ∀ c ∈ cs.head?, c.isDigit = true) :
    splitSign cs = (false, cs) := by
  unfold splitSign
  split
  · exact absurd (head '+' rfl) (by decide)
  · exact absurd (head '-' rfl) (by decide)
  · rfl

/-- A whole number in digits is read as itself. -/
theorem scalar?_toDigits {n : Nat} (small : n < UInt64.size) :
    scalar? (Nat.toDigits 10 n) = some (.integer n) := by
  have unsigned : splitSign (Nat.toDigits 10 n) = (false, Nat.toDigits 10 n) :=
    splitSign_digits fun c mem => isDigit_of_mem (List.mem_of_mem_head? mem)
  have fits : Node.ofInteger (n : Int) = .integer n := by
    have bottom : (0 : Int) ≤ Int.pow 2 127 := by decide
    have top : (UInt64.size : Int) < Int.pow 2 128 := by decide
    have low : -(Int.pow 2 127) ≤ (n : Int) := by omega
    have high : (n : Int) < Int.pow 2 128 := by omega
    rw [Node.ofInteger, decide_eq_true low, decide_eq_true high]
    rfl
  rw [(numeral_toDigits n).scalar?, (numeral_toDigits n).integer?, unsigned]
  simp [wholeDigits?_toDigits, valueOf_toDigits, fits]

end Toml

end Multipath
