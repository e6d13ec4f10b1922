/-
  Scenery/Proofs/Number/Shortest.lean
  ===================================
  **Numbers read back.**  A number is written as the shortest numeral that is rounded to it,
  in plain notation.  Reading rounds the numeral that stands there, whose digits on both
  sides of the point need not be the ones that were chosen: zeros have been added or taken
  away.  The value is the same, and rounding depends on nothing else.

  The main statement is `Number.read?_text`.
-/
import Scenery.Proofs.Number.Numeral
import Scenery.Proofs.Number.Rounding

namespace Scenery

/-! ### Values of digits -/

namespace Text

theorem digitsValue_append (s t : Text) :
    digitsValue (s ++ t) = digitsValue s * 10 ^ t.length + digitsValue t := by
  calc digitsValue (s ++ t)
      = Nat.ofDigitChars 10 t (digitsValue s) := Nat.ofDigitChars_append 0
    _ = 10 ^ t.length * digitsValue s + digitsValue t := Nat.ofDigitChars_eq_ofDigitChars_zero
    _ = digitsValue s * 10 ^ t.length + digitsValue t := by rw [Nat.mul_comm]

theorem digitsValue_toDigits (n : Nat) : digitsValue (Nat.toDigits 10 n) = n :=
  Nat.ofDigitChars_ten_toDigits

theorem digitsValue_zeros (k : Nat) : digitsValue (List.replicate k '0') = 0 := by
  have h : Nat.ofDigitChars 10 (List.replicate k '0') 0 = 10 ^ k * 0 :=
    Nat.ofDigitChars_replicate_zero
  rwa [Nat.mul_zero] at h

end Text

namespace Decimal

open Text

/-! ### The rank of a numeral -/

theorem two_pow_le_ten_pow (e : Nat) : 2 ^ (93 * (e / 28) + 3 * (e % 28)) ≤ 10 ^ e := by
  calc 2 ^ (93 * (e / 28) + 3 * (e % 28))
      = (2 ^ 93) ^ (e / 28) * (2 ^ 3) ^ (e % 28) := by rw [Nat.pow_add, Nat.pow_mul, Nat.pow_mul]
    _ ≤ (10 ^ 28) ^ (e / 28) * 10 ^ (e % 28) :=
        Nat.mul_le_mul (Nat.pow_le_pow_left (by decide) _) (Nat.pow_le_pow_left (by decide) _)
    _ = 10 ^ e := by rw [← Nat.pow_mul, ← Nat.pow_add, Nat.div_add_mod]

theorem lt_ten_pow {digits e : Nat} (h : 400 + Nat.log2 digits < e) :
    2 * (digits * Nat.pow 2 Rank.halvings) < 10 ^ (e + 1) := by
  have hle : Rank.halvings ≤ 1074 := by rw [Rank.halvings]
  generalize Rank.halvings = k at hle
  calc 2 * (digits * Nat.pow 2 k)
      < 2 * (2 ^ (Nat.log2 digits + 1) * 2 ^ k) := by
        apply Nat.mul_lt_mul_of_pos_left _ (by decide)
        exact Nat.mul_lt_mul_of_pos_right Nat.lt_log2_self (Nat.two_pow_pos k)
    _ = 2 ^ (1 + (Nat.log2 digits + 1 + k)) := by
        rw [Nat.pow_add 2 1, Nat.pow_add 2 (Nat.log2 digits + 1), Nat.pow_one]
    _ ≤ 2 ^ (3 * (e + 1)) := Nat.pow_le_pow_right (by decide) (by omega)
    _ = (2 ^ 3) ^ (e + 1) := Nat.pow_mul 2 3 (e + 1)
    _ ≤ 10 ^ (e + 1) := Nat.pow_le_pow_left (by decide) _

/-- **A numeral has the rank of its value.**  The exponents that are answered without
    writing the numeral out are answered rightly. -/
theorem rank_eq (d : Decimal) :
    d.rank = Rank.ofRatio (d.digits * 10 ^ d.exponent.toNat) (10 ^ (-d.exponent).toNat) := by
  obtain ⟨negative, digits, exponent⟩ := d
  cases exponent with
  | ofNat e =>
    have hwhole : (Int.ofNat e).toNat = e := rfl
    have hplaces : (-Int.ofNat e).toNat = 0 := by
      rw [Int.ofNat_eq_natCast]
      omega
    simp only [rank, hwhole, hplaces, Nat.pow_zero, Nat.pow_eq]
    split
    · next hzero =>
      rw [hzero, Nat.zero_mul]
      exact (Rank.ofRatio_zero Nat.one_pos).symm
    · next hpos =>
      split
      · next hlarge =>
        have hpow := two_pow_le_ten_pow e
        generalize hk : 93 * (e / 28) + 3 * (e % 28) = k at hpow
        refine (Rank.ofRatio_eq_infinity (k := k) Nat.one_pos (by omega) ?_).symm
        rw [Nat.mul_one]
        exact Nat.le_trans hpow (Nat.le_mul_of_pos_left _ (Nat.pos_of_ne_zero hpos))
      · rfl
  | negSucc e =>
    have hwhole : (Int.negSucc e).toNat = 0 := rfl
    have hplaces : (-Int.negSucc e).toNat = e + 1 := rfl
    simp only [rank, hwhole, hplaces, Nat.pow_zero, Nat.mul_one, Nat.pow_eq]
    split
    · next hsmall =>
      rw [Rank.ofRatio_eq_nearest]
      exact (Rank.nearest_eq_zero (lt_ten_pow hsmall)).symm
    · rfl

/-! ### Plain notation -/

/-- Digits with zeros in front of them. -/
def padded (places n : Nat) : Text :=
  List.replicate (places - (Nat.toDigits 10 n).length) '0' ++ Nat.toDigits 10 n

/-- Digits without the zeros behind them. -/
def stripped (t : Text) : Text := (t.reverse.dropWhile (· == '0')).reverse

theorem exists_stripped (t : Text) : ∃ k, t = stripped t ++ List.replicate k '0' := by
  have hzeros : t.reverse.takeWhile (· == '0') =
      List.replicate (t.reverse.takeWhile (· == '0')).length '0' := by
    rw [List.eq_replicate_iff]
    refine ⟨rfl, ?_⟩
    intro c hc
    exact beq_iff_eq.1 (all_of_mem_takeWhile c hc)
  refine ⟨(t.reverse.takeWhile (· == '0')).length, ?_⟩
  calc t = t.reverse.reverse := t.reverse_reverse.symm
    _ = (t.reverse.takeWhile (· == '0') ++ t.reverse.dropWhile (· == '0')).reverse := by
        rw [List.takeWhile_append_dropWhile]
    _ = stripped t ++ List.replicate (t.reverse.takeWhile (· == '0')).length '0' := by
        rw [List.reverse_append, hzeros, List.reverse_replicate, List.length_replicate]
        rfl

theorem digitsValue_padded (places n : Nat) : digitsValue (padded places n) = n := by
  rw [padded, digitsValue_append, digitsValue_zeros, Nat.zero_mul, Nat.zero_add,
    digitsValue_toDigits]

theorem length_padded {places n : Nat} (hplaces : 0 < places) (h : n < 10 ^ places) :
    (padded places n).length = places := by
  have hle := (Nat.length_toDigits_le_iff (by decide) hplaces).2 h
  rw [padded, List.length_append, List.length_replicate]
  omega

theorem isDigit_of_mem_toDigits {n : Nat} : ∀ c ∈ Nat.toDigits 10 n, c.isDigit := by
  intro c hc
  exact Nat.isDigit_of_mem_toDigits (by decide) (Nat.le_refl 10) hc

theorem isDigit_of_mem_padded {places n : Nat} : ∀ c ∈ padded places n, c.isDigit := by
  intro c hc
  rcases List.mem_append.1 hc with hzero | hdigit
  · rw [List.eq_of_mem_replicate hzero]
    rfl
  · exact isDigit_of_mem_toDigits c hdigit

theorem mem_of_mem_stripped {t : Text} {c : Char} (h : c ∈ stripped t) : c ∈ t := by
  obtain ⟨k, hk⟩ := exists_stripped t
  rw [hk]
  exact List.mem_append_left _ h

/-- The digits on both sides of the point, as one run, count what they counted. -/
theorem digitsValue_sides (units places : Nat) :
    let fraction := stripped (padded places (units % 10 ^ places))
    digitsValue (Nat.toDigits 10 (units / 10 ^ places) ++ fraction) * 10 ^ places =
      units * 10 ^ fraction.length := by
  intro fraction
  rw [digitsValue_append, digitsValue_toDigits]
  rcases Nat.eq_zero_or_pos places with rfl | hplaces
  · have hnil : fraction = [] := by
      simp [fraction, Nat.mod_one, padded, stripped]
    simp [hnil, digitsValue]
  have hlt : units % 10 ^ places < 10 ^ places := Nat.mod_lt _ (Nat.pow_pos (by decide))
  obtain ⟨k, hk⟩ := exists_stripped (padded places (units % 10 ^ places))
  have hlength : places = fraction.length + k := by
    have h := congrArg List.length hk
    rwa [length_padded hplaces hlt, List.length_append, List.length_replicate] at h
  have hvalue : units % 10 ^ places = digitsValue fraction * 10 ^ k := by
    have h := congrArg digitsValue hk
    rwa [digitsValue_padded, digitsValue_append, digitsValue_zeros, Nat.add_zero,
      List.length_replicate] at h
  calc (units / 10 ^ places * 10 ^ fraction.length + digitsValue fraction) * 10 ^ places
      = 10 ^ places * (units / 10 ^ places) * 10 ^ fraction.length +
          digitsValue fraction * 10 ^ places := by ring
    _ = 10 ^ places * (units / 10 ^ places) * 10 ^ fraction.length +
          digitsValue fraction * 10 ^ k * 10 ^ fraction.length := by
        rw [Nat.mul_assoc (digitsValue fraction), ← Nat.pow_add, Nat.add_comm k, ← hlength]
    _ = (10 ^ places * (units / 10 ^ places) + units % 10 ^ places) * 10 ^ fraction.length := by
        rw [← hvalue, Nat.add_mul]
    _ = units * 10 ^ fraction.length := by rw [Nat.div_add_mod]

theorem text_eq_written (d : Decimal) :
    d.text =
      let units := d.digits * 10 ^ d.exponent.toNat
      let places := (-d.exponent).toNat
      written d.negative (Nat.toDigits 10 (units / 10 ^ places))
        (stripped (padded places (units % 10 ^ places))) := by
  have hempty (t : Text) : (if t.isEmpty then [] else '.' :: t) =
      if t = [] then [] else '.' :: t := by
    cases t <;> rfl
  rw [text, hempty]
  rfl

/-- **A numeral in plain notation is read with the same value.** -/
theorem text_reads (d : Decimal) : ∃ whole fraction, AreDigits whole fraction ∧
    d.text = written d.negative whole fraction ∧
      (ofDigits d.negative whole fraction).toNumber = d.toNumber := by
  refine ⟨_, _, ?digits, text_eq_written d, ?number⟩
  case digits =>
    refine ⟨Nat.toDigits_ne_nil, isDigit_of_mem_toDigits, ?_⟩
    intro c hc
    exact isDigit_of_mem_padded c (mem_of_mem_stripped hc)
  case number =>
    have hpow (e : Nat) : 0 < 10 ^ e := Nat.pow_pos (by decide)
    have hsides := digitsValue_sides (d.digits * 10 ^ d.exponent.toNat) (-d.exponent).toNat
    simp only [toNumber]
    congr 1
    rw [rank_eq, rank_eq d]
    apply Rank.ofRatio_eq_of_cross (hpow _) (hpow _)
    simpa [ofDigits] using hsides

end Decimal

namespace Rank

theorem expansion_eq (r : Nat) : expansion r = units r * Nat.pow 5 halvings := by
  rw [expansion, halvings]

/-- The value at a rank, written out, has that rank. -/
theorem rank_expansion (negative : Bool) {r : Nat} (h : r < infinityRank) :
    (⟨negative, expansion r, -1074⟩ : Decimal).rank.val = r := by
  have hexponent : (-1074 : Int) = -(halvings : Int) := by rw [halvings]; rfl
  have hone (u k : Nat) : u * Nat.pow 5 k * 10 ^ 0 * Nat.pow 2 k = u * 10 ^ k := by
    rw [Nat.pow_zero, Nat.mul_one, Nat.mul_assoc]
    congr 1
    exact (Nat.mul_pow 5 2 k).symm
  have hwhole (k : Nat) : (-(k : Int)).toNat = 0 := by omega
  have hplaces (k : Nat) : (-(-(k : Int))).toNat = k := by omega
  rw [hexponent, Decimal.rank_eq]
  simp only [hplaces, hwhole, expansion_eq]
  rw [ofRatio_eq_nearest, hone, nearest_units r (Nat.pow_pos (by decide))]
  exact Nat.min_eq_left (Nat.le_of_lt h)

theorem rank_of_nearestWithDigits {r length n : Nat} {d : Decimal}
    (h : nearestWithDigits r length n = some d) : d.rank.val = r := by
  simp only [nearestWithDigits] at h
  split at h
  · next hlower =>
    simp only [Bool.and_eq_true, beq_iff_eq] at hlower
    cases h
    exact hlower.1
  · split at h
    · next hupper =>
      cases h
      exact beq_iff_eq.1 hupper
    · cases h

/-- **The shortest numeral has the rank it was made for.** -/
theorem rank_shortest {r : Nat} (h : r < infinityRank) : (shortest r).rank.val = r := by
  unfold shortest
  dsimp only
  generalize (Nat.toDigits 10 (expansion r)).length = length
  rcases hfind : (List.range length).findSome? fun n => nearestWithDigits r length (n + 1)
    with _ | d
  · exact rank_expansion false h
  · obtain ⟨n, -, hn⟩ := List.exists_of_findSome?_eq_some hfind
    exact rank_of_nearestWithDigits hn

end Rank

/-- The sign does not matter for the rank. -/
theorem Decimal.toNumber_sign (d : Decimal) (negative : Bool) :
    { d with negative := negative }.toNumber = .real negative d.rank := rfl

namespace Number

/-- **A number is read back from its text**, a numeral in plain notation. -/
theorem read?_text {n : Number} (h : n.isFinite) :
    Decimal.IsPlain n.text ∧ read? n.text = some n := by
  cases n with
  | nan => cases h
  | real negative r =>
    have hfinite : r.val < infinityRank := by simpa [isFinite] using h
    have hrank : (Rank.shortest r).rank = r := Fin.ext (Rank.rank_shortest hfinite)
    obtain ⟨whole, fraction, hdigits, htext, hvalue⟩ :=
      Decimal.text_reads { Rank.shortest r with negative := negative }
    have hn : (real negative r).text = Decimal.written negative whole fraction := by
      rw [text, if_neg (Nat.ne_of_lt hfinite), htext]
    rw [hn]
    refine ⟨⟨negative, whole, fraction, hdigits, rfl⟩, ?_⟩
    rw [read?_written hdigits, hvalue, Decimal.toNumber_sign, hrank]

end Number

end Scenery
