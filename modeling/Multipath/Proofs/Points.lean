import Multipath.Proofs.Documents
import Multipath.Proofs.Fewest
import Multipath.Proofs.Fractions

/-! # Every number reads back

A number is written with digits on both sides of a point (`Pointed`), which is no whole number and no
date, but the fraction that its digits spell (`Pointed.scalar?`). The digits are those that the search
found, with zeros where they do not reach the point (`inPlace_spelled`); so the fraction is one that
rounds to the number, and is read as it (`readsBack_finite`). What has no digits is a word or a zero.
-/

namespace Multipath.Toml

open Decimal

/-! ## Texts with a point -/

/-- Digits on both sides of a point. -/
structure Pointed (whole fraction : List Char) : Prop where
  grouped : wholeDigits? whole = some whole
  digits : ∀ c ∈ whole ++ fraction, c.isDigit = true
  some_ : fraction ≠ []

/-- What stands in front of a number. -/
def signOf (negative : Bool) : List Char := if negative then ['-'] else []

theorem splitSign_signOf (negative : Bool) {cs : List Char} (head : ∀ c ∈ cs.head?, c.isDigit = true) :
    splitSign (signOf negative ++ cs) = (negative, cs) := by
  cases negative with
  | false => exact splitSign_digits head
  | true => rfl

theorem ungroup_point {whole : List Char} (digits : ∀ c ∈ whole, c.isDigit = true)
    (fraction : List Char) : ungroup Char.isDigit (whole ++ '.' :: fraction) = none := by
  induction whole with
  | nil => exact ungroup_of_not_digit (by decide) fraction
  | cons c rest ih =>
      have others := fun d mem => digits d (List.mem_cons_of_mem c mem)
      have plain : (rest ++ '.' :: fraction).head? ≠ some '_' := by
        cases rest with
        | nil => exact fun same => by cases same
        | cons d rest =>
            rintro ⟨⟩
            cases others '_' List.mem_cons_self
      rw [List.cons_append, ungroup_cons (digits c List.mem_cons_self) (by simp) plain, ih others]
      rfl

namespace Pointed

variable {whole fraction : List Char} (pointed : Pointed whole fraction)

include pointed

theorem whole_ne_nil : whole ≠ [] := by
  rintro rfl
  cases pointed.grouped

theorem whole_digits : ∀ c ∈ whole, c.isDigit = true :=
  fun c mem => pointed.digits c (List.mem_append_left _ mem)

theorem head : ∀ c ∈ (whole ++ '.' :: fraction).head?, c.isDigit = true := by
  have some_ := pointed.whole_ne_nil
  have digits := pointed.whole_digits
  cases whole with
  | nil => exact absurd rfl some_
  | cons c rest =>
      rintro d ⟨⟩
      exact digits c List.mem_cons_self

theorem chars : ∀ c ∈ whole ++ '.' :: fraction, c.isDigit = true ∨ c = '.' := by
  intro c mem
  rw [List.mem_append, List.mem_cons] at mem
  rcases mem with mem | rfl | mem
  · exact .inl (pointed.whole_digits c mem)
  · exact .inr rfl
  · exact .inl (pointed.digits c (List.mem_append_right _ mem))

/-- Neither digit nor point. -/
theorem apart {c d : Char} (mem : c ∈ whole ++ '.' :: fraction) (other : d.isDigit = false)
    (other' : d ≠ '.') : c ≠ d := by
  rcases pointed.chars c mem with digit | rfl
  · exact ne_of_isDigit digit other
  · exact other'.symm

theorem numeral (negative : Bool) : Numeral (signOf negative ++ (whole ++ '.' :: fraction)) where
  some_ := by simp
  head := by
    cases negative with
    | false => exact fun c mem => .inl (pointed.head c mem)
    | true => exact fun c mem => .inr (Option.some.inj mem).symm
  tail := by
    cases negative with
    | false => exact fun c mem => pointed.chars c (List.mem_of_mem_tail mem)
    | true => exact pointed.chars

/-- A number with a point is not whole. -/
theorem integer? (negative : Bool) :
    integer? (signOf negative ++ (whole ++ '.' :: fraction)) = none := by
  have signed := splitSign_signOf negative pointed.head
  have whole_ : wholeDigits? (whole ++ '.' :: fraction) = none := by
    rw [wholeDigits?, ungroup_point pointed.whole_digits]
    rfl
  have ragged : isRagged (whole ++ '.' :: fraction) = false := by
    simp [isRagged, List.dropWhile_append_of_pos pointed.whole_digits]
  rw [(pointed.numeral negative).integer?, signed]
  simp [whole_, ragged]

theorem real? (negative : Bool) :
    real? (signOf negative ++ (whole ++ '.' :: fraction)) =
      some (.ofReal (ofParts negative whole fraction 0)) := by
  have signed := splitSign_signOf negative pointed.head
  have power : ∀ c ∈ whole ++ '.' :: fraction, (!(decide (c = 'e') || decide (c = 'E'))) = true := by
    intro c mem
    simp [pointed.apart mem (d := 'e') rfl (by decide), pointed.apart mem (d := 'E') rfl (by decide)]
  have inf : whole ++ '.' :: fraction ≠ ['i', 'n', 'f'] := by
    intro same
    exact absurd (pointed.head 'i' (by rw [same]; rfl)) (by decide)
  have nan : whole ++ '.' :: fraction ≠ ['n', 'a', 'n'] := by
    intro same
    exact absurd (pointed.head 'n' (by rw [same]; rfl)) (by decide)
  have points : ∀ c ∈ whole, decide (c ≠ '.') = true := by
    intro c mem
    rw [decide_eq_true_iff]
    rintro rfl
    cases pointed.whole_digits '.' mem
  have before : (whole ++ '.' :: fraction).takeWhile (fun c => decide (c ≠ '.')) = whole := by
    rw [List.takeWhile_append_of_pos points]
    simp
  have behind : (whole ++ '.' :: fraction).dropWhile (fun c => decide (c ≠ '.')) =
      '.' :: fraction := by
    rw [List.dropWhile_append_of_pos points]
    simp
  have grouped := ungroup_digits pointed.some_ fun c mem =>
    pointed.digits c (List.mem_append_right _ mem)
  simp only [Toml.real?, signed, inf, nan, if_false, List.takeWhile_eq_self_iff.2 power,
    List.dropWhile_eq_nil_iff.2 power, before, behind]
  simp [pointed.grouped, grouped]

theorem scalar? (negative : Bool) :
    scalar? (signOf negative ++ (whole ++ '.' :: fraction)) =
      some (.ofReal (ofParts negative whole fraction 0)) := by
  rw [(pointed.numeral negative).scalar?, pointed.integer?, pointed.real?]
  rfl

theorem run (negative : Bool) : Run (signOf negative ++ (whole ++ '.' :: fraction)) where
  some_ := (pointed.numeral negative).some_
  inside := by
    intro c mem
    rcases List.mem_append.1 mem with mem | mem
    · cases negative with
      | false => cases mem
      | true =>
          obtain rfl := List.mem_singleton.1 mem
          decide
    · rcases pointed.chars c mem with digit | rfl
      · exact inRun_of_isDigit digit
      · decide
  unquoted := by
    intro c mem
    rcases (pointed.numeral negative).head c mem with digit | rfl
    · exact ⟨ne_of_isDigit digit rfl, ne_of_isDigit digit rfl⟩
    · decide

end Pointed

end Multipath.Toml

namespace Multipath.Decimal

open Toml (Pointed wholeDigits?_eq wholeDigits?_toDigits)

/-! ## Digits in place -/

/-- The digits around the point are those of a number. -/
structure Spelled (whole fraction : List Char) (v : ℚ) : Prop extends Pointed whole fraction where
  few : fraction.length ≤ 342
  pos : 0 < valueOf 10 (whole ++ fraction)
  value : (valueOf 10 (whole ++ fraction) : ℚ) / 10 ^ fraction.length = v

section Spelling

variable {n : ℕ}

theorem isDigit_of_mem_zeros {c : Char} {k : ℕ} (mem : c ∈ List.replicate k '0') :
    c.isDigit = true := by
  obtain rfl := List.eq_of_mem_replicate mem
  rfl

/-- A whole number, with a zero behind the point. -/
theorem spelled_whole (some_ : 0 < n) (k : ℕ) :
    Spelled (Nat.toDigits 10 n ++ List.replicate k '0') ['0'] (n * 10 ^ k) := by
  have digits : ∀ c ∈ Nat.toDigits 10 n ++ List.replicate k '0', c.isDigit = true := by
    intro c mem
    rcases List.mem_append.1 mem with mem | mem
    · exact isDigit_of_mem mem
    · exact isDigit_of_mem_zeros mem
  have number : valueOf 10 (Nat.toDigits 10 n ++ List.replicate k '0' ++ ['0']) =
      10 ^ (k + 1) * n := by
    have behind : List.replicate k '0' ++ ['0'] = List.replicate (k + 1) '0' :=
      List.replicate_succ'.symm
    rw [List.append_assoc, behind, valueOf_toDigits_append n fun c mem => isDigit_of_mem_zeros mem,
      Nat.ofDigitChars_replicate_zero]
  refine ⟨⟨wholeDigits?_eq ?_ digits fun zero => ?_, ?_, by simp⟩, by simp, ?_, ?_⟩
  · exact List.append_ne_nil_of_left_ne_nil Nat.toDigits_ne_nil _
  · rw [List.head?_append_of_ne_nil _ Nat.toDigits_ne_nil] at zero
    exact absurd zero (head?_toDigits some_)
  · intro c mem
    rcases List.mem_append.1 mem with mem | mem
    · exact digits c mem
    · obtain rfl := List.mem_singleton.1 mem
      rfl
  · rw [number]
    positivity
  · rw [number, List.length_singleton]
    push_cast
    ring

/-- The point stands among the digits. -/
theorem spelled_among (some_ : 0 < n) {places : ℕ} (fraction : 0 < places) (few : places ≤ 342)
    (long : places < (Nat.toDigits 10 n).length) :
    Spelled ((Nat.toDigits 10 n).take ((Nat.toDigits 10 n).length - places))
      ((Nat.toDigits 10 n).drop ((Nat.toDigits 10 n).length - places)) (n / 10 ^ places) := by
  have number := valueOf_toDigits n
  have digits := fun c => isDigit_of_mem (n := n) (c := c)
  have first := head?_toDigits some_
  generalize Nat.toDigits 10 n = cs at *
  have behind : (cs.drop (cs.length - places)).length = places := by
    rw [List.length_drop]
    omega
  have whole : cs.take (cs.length - places) ≠ [] := by
    refine List.ne_nil_of_length_pos ?_
    rw [List.length_take]
    omega
  refine ⟨⟨wholeDigits?_eq whole ?_ fun zero => ?_, ?_, ?_⟩, ?_, ?_, ?_⟩
  · exact fun c mem => digits c (List.mem_of_mem_take mem)
  · rw [List.head?_take, if_neg (by omega)] at zero
    exact absurd zero first
  · rw [List.take_append_drop]
    exact digits
  · exact List.ne_nil_of_length_pos (by rwa [behind])
  · omega
  · rw [List.take_append_drop, number]
    exact some_
  · rw [List.take_append_drop, number, behind]

/-- All digits are behind the point. -/
theorem spelled_behind (some_ : 0 < n) {places : ℕ} (few : places ≤ 342)
    (short : (Nat.toDigits 10 n).length ≤ places) :
    Spelled ['0'] (List.replicate (places - (Nat.toDigits 10 n).length) '0' ++ Nat.toDigits 10 n)
      (n / 10 ^ places) := by
  have number := valueOf_toDigits n
  have digits := fun c => isDigit_of_mem (n := n) (c := c)
  have some' : Nat.toDigits 10 n ≠ [] := Nat.toDigits_ne_nil
  generalize Nat.toDigits 10 n = cs at *
  have behind : (List.replicate (places - cs.length) '0' ++ cs).length = places := by
    rw [List.length_append, List.length_replicate]
    omega
  have all : ∀ c ∈ ['0'] ++ (List.replicate (places - cs.length) '0' ++ cs), c.isDigit = true := by
    intro c mem
    rcases List.mem_append.1 mem with mem | mem
    · obtain rfl := List.mem_singleton.1 mem
      rfl
    · rcases List.mem_append.1 mem with mem | mem
      · exact isDigit_of_mem_zeros mem
      · exact digits c mem
  have same : valueOf 10 (['0'] ++ (List.replicate (places - cs.length) '0' ++ cs)) = n := by
    rw [valueOf, valueOf_eq digits] at number
    rw [valueOf, valueOf_eq all, Nat.ofDigitChars_append, Nat.ofDigitChars_append,
      Nat.ofDigitChars_replicate_zero]
    exact number
  refine ⟨⟨rfl, all, List.append_ne_nil_of_right_ne_nil _ some'⟩, ?_, ?_, ?_⟩
  · omega
  · rw [same]
    exact some_
  · rw [same, behind]

end Spelling

/-- The digits of a number in place are a text with a point, and the number is what they spell. -/
theorem inPlace_spelled {d : Digits} (some_ : 0 < d.digits) (low : -342 ≤ d.exponent) :
    ∃ whole fraction, (d.inPlace ".0").toList = whole ++ '.' :: fraction ∧
      Spelled whole fraction d.value := by
  obtain ⟨n, e⟩ := d
  have chars : (toString n).toList = Nat.toDigits 10 n := by
    rw [Nat.toString_eq_ofList_toDigits, String.toList_ofList]
  have length : (toString n).length = (Nat.toDigits 10 n).length := by
    rw [← chars, String.length_toList]
  cases e with
  | ofNat e =>
      refine ⟨_, _, ?_, spelled_whole some_ e⟩
      simp [Digits.inPlace, zeros]
  | negSucc e =>
      have few : e + 1 ≤ 342 := by
        change -342 ≤ Int.negSucc e at low
        omega
      have value : (n : ℚ) / 10 ^ (e + 1) = Digits.value ⟨n, .negSucc e⟩ := by
        rw [Digits.value, zpow_negSucc, div_eq_mul_inv]
      simp only [Digits.inPlace]
      generalize toString n = text at chars length ⊢
      rw [← value, length]
      split
      · rename_i long
        refine ⟨_, _, ?_, spelled_among some_ (Nat.succ_pos e) few long⟩
        simp [chars]
      · rename_i short
        refine ⟨_, _, ?_, spelled_behind some_ few (Nat.le_of_not_lt short)⟩
        simp [chars, zeros]

end Multipath.Decimal

namespace Multipath.Toml

open Doubles Decimal
open Float.Model.UnpackedFloat (Sign)

/-! ## Reading back -/

theorem ofReal_of_bounded {x : Float} (bounded : (parts x).isInf = false) :
    Node.ofReal x = .real x := by
  have bounded' : x.isInf = false := bounded
  rw [Node.ofReal, bounded']
  rfl

/-- The digits that were found are read as the number that they were found for. -/
theorem readsBack_finite {x : Float} {s : Sign} {m : ℕ} {e : ℤ} {h : 0 < m}
    (found : parts x = .finite s m e h) : ReadsBack x := by
  obtain ⟨canonical, high⟩ := canonical_parts found
  obtain ⟨y, unsigned, signed_⟩ := exists_unsigned found
  have near : (Binary.finite (isNegative s) m e).narrowBelow = true ↔ m = 2 ^ 52 ∧ e ≠ -1074 := by
    simp only [Binary.narrowBelow, Bool.and_eq_true, decide_eq_true_iff]
    rfl
  obtain ⟨some_, low, rounds⟩ := shortest_spec canonical high near (rfl : shortest .up m e _ = _)
  obtain ⟨whole, fraction, text, spelled⟩ := inPlace_spelled some_ low
  have shown : (layout.render x).toList =
      signOf (isNegative s) ++ (whole ++ '.' :: fraction) := by
    simp only [Layout.render, ofFloat_eq, found, binary, h.ne', if_false, layout, if_true, ← text]
    cases isNegative s with
    | false => rfl
    | true => simp [signOf]
  have nearest : toDouble (valueOf 10 (whole ++ fraction)) (0 - fraction.length) = y := by
    have behind : 0 < fraction.length := List.length_pos_iff.2 spelled.some_
    have few := spelled.few
    rw [zero_sub]
    exact toDouble_eq spelled.pos behind (by omega) unsigned (spelled.value ▸ rounds)
  have read := spelled.scalar? (isNegative s)
  rw [ofParts, nearest, signed_, ofReal_of_bounded (by rw [found]; rfl)] at read
  rw [ReadsBack]
  exact ⟨shown ▸ spelled.run (isNegative s), shown ▸ read⟩

theorem readsBack_zero {x : Float} {s : Sign} (found : parts x = .zero s) : ReadsBack x := by
  have pointed : Pointed ['0'] ['0'] := ⟨rfl, by simp, by simp⟩
  have shown : (layout.render x).toList = signOf (isNegative s) ++ (['0'] ++ '.' :: ['0']) := by
    simp only [Layout.render, ofFloat_eq, found, binary, if_true, layout]
    cases isNegative s with
    | false => rfl
    | true => rfl
  have same : signed (isNegative s) 0.0 = x := by
    refine eq_of_parts ?_
    rw [found]
    cases s with
    | positive => rfl
    | negative => rfl
  have read := pointed.scalar? (isNegative s)
  have number : toDouble (valueOf 10 (['0'] ++ ['0'])) (0 - (['0'] : List Char).length) = 0.0 := rfl
  rw [ofParts, number, same, ofReal_of_bounded (by rw [found]; rfl)] at read
  rw [ReadsBack]
  exact ⟨shown ▸ pointed.run (isNegative s), shown ▸ read⟩

theorem reads_infinity (negative : Bool) {text : String}
    (shown : text.toList = signOf negative ++ ['i', 'n', 'f']) :
    Reads text (.real (signed negative (Float.ofBits 0x7ff0000000000000))) := by
  have whole : wholeDigits? ['i', 'n', 'f'] = none := rfl
  have ragged : isRagged ['i', 'n', 'f'] = false := rfl
  cases negative with
  | false =>
      have moment : isMoment ['i', 'n', 'f'] = false := rfl
      refine ⟨shown ▸ ⟨by simp, by simp [signOf, inRun, isBlank], by simp [signOf]⟩, shown ▸ ?_⟩
      simp [signOf, scalar?, integer?, splitSign, moment, whole, ragged, real?]
  | true =>
      have moment : isMoment ['-', 'i', 'n', 'f'] = false := rfl
      refine ⟨shown ▸ ⟨by simp, by simp [signOf, inRun, isBlank], by simp [signOf]⟩, shown ▸ ?_⟩
      simp [signOf, scalar?, integer?, splitSign, moment, whole, ragged, real?]

theorem readsBack_infinity {x : Float} {s : Sign} (found : parts x = .infinity s) : ReadsBack x := by
  have shown : (layout.render x).toList = signOf (isNegative s) ++ ['i', 'n', 'f'] := by
    simp only [Layout.render, ofFloat_eq, found, binary, layout]
    cases isNegative s with
    | false => rfl
    | true => rfl
  have same : signed (isNegative s) (Float.ofBits 0x7ff0000000000000) = x := by
    refine eq_of_parts ?_
    rw [found]
    cases s with
    | positive => rfl
    | negative => rfl
  have read := reads_infinity (isNegative s) shown
  rwa [same] at read

/-- Every double is read back from its text, if it is a number. -/
theorem readsBack {x : Float} (number : x.isNaN = false) : ReadsBack x := by
  cases found : parts x with
  | notANumber =>
      change (parts x).isNaN = false at number
      rw [found] at number
      cases number
  | infinity s => exact readsBack_infinity found
  | zero s => exact readsBack_zero found
  | finite s m e h => exact readsBack_finite found

end Multipath.Toml
