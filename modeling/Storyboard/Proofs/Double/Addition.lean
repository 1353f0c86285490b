import Storyboard.Proofs.Bounds
import Storyboard.Proofs.Double.Order
import Storyboard.Proofs.Double.Rounding

/-!
# Sums of doubles

A sum of finite doubles is their exact sum, rounded, and then packed, which takes what lies past the
range of doubles to infinity. Each of these steps keeps the order, so that sums of doubles do not
become less when their parts become more.
-/

namespace Storyboard.Double

open Float.Model (UnpackedFloat Format)
open Float.Model.UnpackedFloat
open Decimal.Format (Canonical)

/-! ## Packing -/

/-- What is left of a number that is packed: past the range of doubles only its sign. -/
def clamped : UnpackedFloat → UnpackedFloat
  | .finite s m e positive => if e ≤ 971 then .finite s m e positive else .infinity s
  | u => u

theorem unpackSign_packComponents {s : Sign} {e : BitVec 11} {m : BitVec 52} :
    Sign.ofBitVec (unpackSign (packComponents .binary64 s e m)) = s := by
  simp only [unpackSign, packComponents, BitVec.extractLsb]
  rw [BitVec.extractLsb'_append_eq_of_le (by omega), BitVec.extractLsb'_append_eq_of_le (by omega)]
  cases s <;> rfl

/-- A finite double has the form that numbers are kept in. -/
theorem regular_unpack {b : BitVec Format.binary64.numBits}
    (finite : (unpack .binary64 b).isFinite = true) : Regular (unpack .binary64 b) := by
  have small : (unpackMantissa b).toNat < 2 ^ 52 := (unpackMantissa b).isLt
  have bias : (Format.binary64.exponentBias : Int) = 1023 := rfl
  have width : (Format.binary64.mantissaBitsWithoutImplicit : Int) = 52 := rfl
  unfold unpack at finite ⊢
  dsimp only at finite ⊢
  split at finite
  · split at finite <;> cases finite
  · next notTop =>
    rw [if_neg notTop]
    split
    · next bottom =>
      split
      · trivial
      · have least : (unpackExponent b).toNat = 0 := by rw [bottom]; rfl
        rw [Regular, least, bias, width]
        exact canonical_iff.2 ⟨by omega, by omega, fun above => by omega⟩
    · next notBottom =>
      have positive : (unpackExponent b).toNat ≠ 0 := fun zero =>
        notBottom (BitVec.eq_of_toNat_eq zero)
      have value : (1#1 ++ unpackMantissa b).toNat = 2 ^ 52 + (unpackMantissa b).toNat :=
        toNat_leadingOne _
      rw [Regular, value, bias, width]
      exact canonical_iff.2 ⟨by omega, by omega, fun _ => by omega⟩

theorem unpack_normal {s : Sign} {e : BitVec 11} {m : BitVec 52} (some : 0 < e.toNat)
    (notTop : e.toNat < 2047) : unpack .binary64 (packComponents .binary64 s e m) =
      .finite s (2 ^ 52 + m.toNat) (e.toNat - 1075) (by omega) := by
  have notBottom : e ≠ 0#11 := by rintro rfl; simp at some
  have notTop : e ≠ -1#11 := by rintro rfl; simp at notTop
  have value : (1#1 ++ m).toNat = 2 ^ 52 + m.toNat := toNat_leadingOne m
  have bias : (Format.binary64.exponentBias : Int) = 1023 := rfl
  have width : (Format.binary64.mantissaBitsWithoutImplicit : Int) = 52 := rfl
  simp only [unpack, unpackMantissa_packComponents, unpackExponent_packComponents,
    unpackSign_packComponents, if_neg notTop, if_neg notBottom, value, bias, width]
  rfl

theorem unpack_subnormal {s : Sign} {m : BitVec 52} (some : 0 < m.toNat) :
    unpack .binary64 (packComponents .binary64 s 0#11 m) = .finite s m.toNat (-1074) some := by
  have nonzero : m ≠ 0#52 := by rintro rfl; simp at some
  simp only [unpack, unpackMantissa_packComponents, unpackExponent_packComponents,
    unpackSign_packComponents]
  rw [if_neg (by decide), if_pos trivial, dif_neg nonzero]
  rfl

/-- Packing and unpacking a number in its form. -/
theorem unpack_pack {u : UnpackedFloat} (regular : Regular u) :
    unpack .binary64 (pack .binary64 u) = clamped u := by
  have bias : (Format.binary64.exponentBias : Int) = 1023 := rfl
  have width : (Format.binary64.mantissaBitsWithoutImplicit : Int) = 52 := rfl
  have widthOne : Format.binary64.mantissaBits = 53 := rfl
  rcases u with s | _ | s | ⟨s, m, e, positive⟩
  · cases regular
  · cases regular
  · cases s <;> rfl
  · obtain ⟨least, below, leading⟩ := canonical_iff.1 regular
    rw [pack, bias, width, widthOne, clamped]
    dsimp only
    by_cases within : e ≤ 971
    · rw [if_neg (by simp; omega), if_pos within]
      by_cases leads : 2 ^ 52 ≤ m
      · have log : m.log2 = 52 := (Nat.log2_eq_iff (by omega)).2 ⟨leads, below⟩
        have field : (BitVec.ofNat 11 (e + 1023 + 52).toNat).toNat = (e + 1023 + 52).toNat := by
          rw [BitVec.toNat_ofNat]
          omega
        rw [if_pos (by rw [log]), unpack_normal (by rw [field]; omega) (by rw [field]; omega)]
        simp only [finite.injEq, true_and]
        constructor
        · rw [BitVec.toNat_ofNat]
          omega
        · rw [field]
          omega
      · obtain rfl : e = -1074 := by
          by_contra other
          exact leads (leading (by omega))
        have log : m.log2 < 52 := (Nat.log2_lt (by omega)).2 (by omega)
        have field : (BitVec.ofNat 52 m).toNat = m := by
          rw [BitVec.toNat_ofNat]
          omega
        rw [if_neg (by omega), unpack_subnormal (by rw [field]; exact positive)]
        simp only [finite.injEq, true_and, and_true]
        exact field
    · rw [if_pos (by simp; omega), if_neg within]
      cases s <;> rfl

/-! ## The order of packed numbers -/

theorem magnitude_pos {m : Nat} (positive : 0 < m) (e : Int) : 0 < magnitude m e :=
  Nat.mul_pos positive (Nat.two_pow_pos _)

theorem magnitude_le_iff {m m' : Nat} {e e' : Int} (canonical : Canonical .double m e)
    (canonical' : Canonical .double m' e') :
    magnitude m e ≤ magnitude m' e' ↔ e < e' ∨ e = e' ∧ m ≤ m' := by
  constructor
  · intro below
    by_contra notFirst
    exact absurd (magnitude_lt canonical' canonical (by omega)) (not_lt.2 below)
  · rintro (first | ⟨rfl, less⟩)
    · exact (magnitude_lt canonical canonical' (.inl first)).le
    · exact Nat.mul_le_mul_right _ less

theorem regular_cases {u : UnpackedFloat} (regular : Regular u) :
    (∃ s, u = .zero s) ∨ ∃ s m e positive, u = .finite s m e positive ∧ Canonical .double m e := by
  rcases u with s | _ | s | ⟨s, m, e, positive⟩
  · cases regular
  · cases regular
  · exact .inl ⟨s, rfl⟩
  · exact .inr ⟨s, m, e, positive, rfl, regular⟩

/-- Numbers in their form have places in the order of their values. -/
theorem place_le_iff {u v : UnpackedFloat} (regular : Regular u) (regular' : Regular v)
    {x y : Place} (placeU : placeOf u = some x) (placeV : placeOf v = some y) :
    x ≤ y ↔ units u ≤ units v := by
  rcases regular_cases regular with ⟨s, rfl⟩ | ⟨s, m, e, positive, rfl, canonical⟩ <;>
    rcases regular_cases regular' with ⟨s', rfl⟩ | ⟨s', m', e', positive', rfl, canonical'⟩
  · cases placeU
    cases placeV
    exact iff_of_true le_rfl le_rfl
  · have some' := magnitude_pos positive' e'
    rcases s' with _ | _ <;> cases placeU <;> cases placeV <;>
      simp [units, Prod.Lex.toLex_le_toLex]
    omega
  · have some := magnitude_pos positive e
    rcases s with _ | _ <;> cases placeU <;> cases placeV <;>
      simp [units, Prod.Lex.toLex_le_toLex]
    omega
  · have less := magnitude_le_iff canonical canonical'
    have more := magnitude_le_iff canonical' canonical
    have some := magnitude_pos positive e
    have some' := magnitude_pos positive' e'
    -- Of one sign, exponents and mantissas decide; of two, that both are not zero does.
    rcases s with _ | _ <;> rcases s' with _ | _ <;> cases placeU <;> cases placeV <;>
      simp [units, Prod.Lex.toLex_le_toLex] <;> omega

theorem exists_place {u : UnpackedFloat} (regular : Regular u) : ∃ x, placeOf u = some x := by
  rcases regular_cases regular with ⟨s, rfl⟩ | ⟨_ | _, m, e, positive, rfl, _⟩ <;> exact ⟨_, rfl⟩

/-- Being packed keeps the order. -/
theorem clamped_mono {u v : UnpackedFloat} (regular : Regular u) (regular' : Regular v)
    (below : units u ≤ units v) {x y : Place} (packedU : placeOf (clamped u) = some x)
    (packedV : placeOf (clamped v) = some y) : x ≤ y := by
  obtain ⟨first, placeU⟩ := exists_place regular
  obtain ⟨second, placeV⟩ := exists_place regular'
  have below := (place_le_iff regular regular' placeU placeV).2 below
  rcases regular_cases regular with ⟨s, rfl⟩ | ⟨s, m, e, positive, rfl, canonical⟩ <;>
    rcases regular_cases regular' with ⟨s', rfl⟩ | ⟨s', m', e', positive', rfl, canonical'⟩ <;>
    simp only [clamped] at packedU packedV
  · cases packedU
    cases packedV
    exact le_rfl
  · cases packedU
    split at packedV <;> rcases s' with _ | _ <;> cases placeU <;> cases placeV <;>
      cases packedV <;> simp [Prod.Lex.toLex_le_toLex] at below ⊢
  · cases packedV
    split at packedU <;> rcases s with _ | _ <;> cases placeU <;> cases placeV <;> cases packedU <;>
      simp [Prod.Lex.toLex_le_toLex] at below ⊢
  · split at packedU <;> split at packedV <;> rcases s with _ | _ <;> rcases s' with _ | _ <;>
      cases placeU <;> cases placeV <;> cases packedU <;> cases packedV <;>
      simp [Prod.Lex.toLex_le_toLex] at below ⊢ <;> omega

/-! ## Addition -/

theorem roundedInt_units {u : UnpackedFloat} (regular : Regular u) :
    roundedInt (units u) = units u := by
  rcases regular_cases regular with ⟨s, rfl⟩ | ⟨_ | _, m, e, positive, rfl, canonical⟩
  · rfl
  · exact (roundedInt_neg _).trans (congrArg (-Int.ofNat ·) (rounded_magnitude canonical))
  · exact (roundedInt_of_nonneg _).trans (congrArg Int.ofNat (rounded_magnitude canonical))

/-- A mantissa at a lower exponent is as much. -/
theorem apply_decreaseExponent {s : Sign} {m : Nat} {e lower : Int} {positive : 0 < m}
    (least : -1074 ≤ lower) (below : lower ≤ e) :
    s.apply (decreaseExponent m e lower).1 * 2 ^ (lower + 1074).toNat =
      units (.finite s m e positive) := by
  have zeros : (e + 1074).toNat = (e - lower).toNat + (lower + 1074).toNat := by omega
  rw [decreaseExponent, Nat.shiftLeft_eq]
  cases s <;>
  · simp only [Sign.apply, units, magnitude, zeros, pow_add]
    push_cast
    ring

/-- **The sum of two finite doubles** is their exact sum, rounded. -/
theorem add_spec {u v : UnpackedFloat} (regular : Regular u) (regular' : Regular v) :
    Regular (UnpackedFloat.add .binary64 u v) ∧
      units (UnpackedFloat.add .binary64 u v) = roundedInt (units u + units v) := by
  rcases regular_cases regular with ⟨s, rfl⟩ | ⟨s, m, e, positive, rfl, canonical⟩ <;>
    rcases regular_cases regular' with ⟨s', rfl⟩ | ⟨s', m', e', positive', rfl, canonical'⟩
  · change Regular (if s == s' then .zero s else .zero .positive) ∧
      units (if s == s' then .zero s else .zero .positive) = _
    split <;> exact ⟨trivial, rfl⟩
  · refine ⟨regular', ?_⟩
    exact ((congrArg roundedInt (zero_add _)).trans (roundedInt_units regular')).symm
  · refine ⟨regular, ?_⟩
    exact ((congrArg roundedInt (add_zero _)).trans (roundedInt_units regular)).symm
  · have least : -1074 ≤ min e e' :=
      le_min (canonical_iff.1 canonical).1 (canonical_iff.1 canonical').1
    rw [← apply_decreaseExponent least (min_le_left e e'),
      ← apply_decreaseExponent least (min_le_right e e'), ← add_mul]
    exact normalize_spec least

/-! ## Infinities -/

theorem add_notANumber {u v : UnpackedFloat} (either : u = .notANumber ∨ v = .notANumber) :
    UnpackedFloat.add .binary64 u v = .notANumber := by
  rcases either with rfl | rfl
  · rfl
  · cases u <;> rfl

/-- A sum with something infinite is that, or no number. -/
theorem add_infinity {u v : UnpackedFloat} {s : Sign} (either : u = .infinity s ∨ v = .infinity s) :
    UnpackedFloat.add .binary64 u v = .infinity s ∨
      UnpackedFloat.add .binary64 u v = .notANumber := by
  rcases either with rfl | rfl
  · rcases v with _ | _ | _ | _
    · rename_i s'
      cases s <;> cases s' <;> first | exact .inl rfl | exact .inr rfl
    · exact .inr rfl
    · exact .inl rfl
    · exact .inl rfl
  · rcases u with _ | _ | _ | _
    · rename_i s'
      cases s <;> cases s' <;> first | exact .inl rfl | exact .inr rfl
    · exact .inr rfl
    · exact .inl rfl
    · exact .inl rfl

/-- Where a sum with something infinite stands, if it is a number. -/
theorem place_add_of_infinity {a b : Float} {s : Sign} {x : Place}
    (either : a.toModel.unpack = .infinity s ∨ b.toModel.unpack = .infinity s)
    (here : place (a + b) = some x) : placeOf (.infinity s) = some x := by
  unfold place at here
  change placeOf (unpack .binary64 (pack .binary64 (UnpackedFloat.add .binary64 _ _))) = _ at here
  rcases add_infinity either with sum | sum <;> rw [sum] at here
  · cases s <;> exact here
  · cases here

theorem infinity_of_lowest {u : UnpackedFloat} (here : placeOf u = some lowest) :
    u = .infinity .negative := by
  rcases u with (_ | _) | _ | _ | ⟨_ | _, m, e, _⟩ <;> simp [placeOf, lowest] at here ⊢

theorem infinity_of_highest {u : UnpackedFloat} (here : placeOf u = some highest) :
    u = .infinity .positive := by
  rcases u with (_ | _) | _ | _ | ⟨_ | _, m, e, _⟩ <;> simp [placeOf, highest] at here ⊢

/-! ## Doubles in one line -/

theorem number_iff {a : Float} : Measure.isNaN a = false ↔ ∃ x, place a = some x := by
  have self : Measure.isNaN a = false ↔ Measure.le a a = true := by simp [Measure.isNaN]
  rw [self, le_iff]
  constructor
  · rintro ⟨x, _, here, _⟩
    exact ⟨x, here⟩
  · rintro ⟨x, here⟩
    exact ⟨x, x, here, here, le_rfl⟩

theorem isNaN_eq (a : Float) : Measure.isNaN a = a.isNaN := by
  rw [Bool.eq_iff_iff, isNaN_iff, ← not_iff_not, Bool.not_eq_true, number_iff]
  exact Option.ne_none_iff_exists'.symm

theorem number_of_unpack {a : Float} (number : ¬ a.toModel.unpack = .notANumber) :
    Measure.isNaN a = false := by
  rw [number_iff, place]
  generalize a.toModel.unpack = u at number
  rcases u with (_ | _) | _ | _ | ⟨_ | _, _, _, _⟩ <;>
    first | exact ⟨_, rfl⟩ | exact absurd rfl number

theorem number_of_add {a b : Float} (number : Measure.isNaN (a + b) = false) :
    Measure.isNaN a = false ∧ Measure.isNaN b = false := by
  obtain ⟨x, here⟩ := number_iff.1 number
  have both : ¬ (a.toModel.unpack = .notANumber ∨ b.toModel.unpack = .notANumber) := by
    intro either
    change placeOf (unpack .binary64 (pack .binary64 (UnpackedFloat.add .binary64 _ _))) = _ at here
    rw [add_notANumber either] at here
    cases here
  rw [not_or] at both
  exact ⟨number_of_unpack both.1, number_of_unpack both.2⟩

/-- The sum of two finite doubles, and where it stands. -/
theorem place_add {a b : Float} (finite : Regular a.toModel.unpack)
    (finite' : Regular b.toModel.unpack) :
    ∃ sum, Regular sum ∧
      units sum = roundedInt (units a.toModel.unpack + units b.toModel.unpack) ∧
      place (a + b) = placeOf (clamped sum) := by
  obtain ⟨regular, value⟩ := add_spec finite finite'
  exact ⟨_, regular, value, congrArg placeOf (unpack_pack regular)⟩

theorem regular_of_between {a : Float} {x : Place} (here : place a = some x) (above : lowest < x)
    (below : x < highest) : Regular a.toModel.unpack :=
  regular_unpack ((between_placeOf here).2.2.2 ⟨above, below⟩)

theorem lowest_lt {a : Float} {x : Place} (here : place a = some x)
    (other : ¬ a.toModel.unpack = .infinity .negative) : lowest < x :=
  lt_of_le_of_ne (between_placeOf here).1 fun same =>
    other (infinity_of_lowest (here.trans (congrArg some same.symm)))

theorem lt_highest {a : Float} {x : Place} (here : place a = some x)
    (other : ¬ a.toModel.unpack = .infinity .positive) : x < highest :=
  lt_of_le_of_ne (between_placeOf here).2.1 fun same =>
    other (infinity_of_highest (here.trans (congrArg some same)))

/-- **Sums of doubles do not become less when their parts become more.** -/
theorem sum_le_sum {a b c d : Float} (first : Measure.le a b = true)
    (second : Measure.le c d = true) (number : Measure.isNaN (a + c) = false)
    (number' : Measure.isNaN (b + d) = false) :
    Measure.le (a + c) (b + d) = true := by
  obtain ⟨pa, pb, placeA, placeB, first⟩ := le_iff.1 first
  obtain ⟨pc, pd, placeC, placeD, second⟩ := le_iff.1 second
  obtain ⟨x, here⟩ := number_iff.1 number
  obtain ⟨y, there⟩ := number_iff.1 number'
  refine le_iff.2 ⟨x, y, here, there, ?_⟩
  -- An infinite part takes its sum to one of the two ends.
  by_cases low : a.toModel.unpack = .infinity .negative ∨ c.toModel.unpack = .infinity .negative
  · obtain rfl := Option.some.inj (place_add_of_infinity low here)
    exact (between_placeOf there).1
  by_cases high : b.toModel.unpack = .infinity .positive ∨ d.toModel.unpack = .infinity .positive
  · obtain rfl := Option.some.inj (place_add_of_infinity high there)
    exact (between_placeOf here).2.1
  rw [not_or] at low high
  -- Otherwise all four are finite, as each lies between two that are not at the ends.
  have lowA := lowest_lt placeA low.1
  have lowC := lowest_lt placeC low.2
  have highB := lt_highest placeB high.1
  have highD := lt_highest placeD high.2
  have finiteA := regular_of_between placeA lowA (first.trans_lt highB)
  have finiteB := regular_of_between placeB (lowA.trans_le first) highB
  have finiteC := regular_of_between placeC lowC (second.trans_lt highD)
  have finiteD := regular_of_between placeD (lowC.trans_le second) highD
  obtain ⟨sum, regular, value, same⟩ := place_add finiteA finiteC
  obtain ⟨sum', regular', value', same'⟩ := place_add finiteB finiteD
  refine clamped_mono regular regular' ?_ (same.symm.trans here) (same'.symm.trans there)
  rw [value, value']
  exact roundedInt_mono (add_le_add ((place_le_iff finiteA finiteB placeA placeB).1 first)
    ((place_le_iff finiteC finiteD placeC placeD).1 second))

/-- Doubles stand in one line, and sums keep to it. -/
instance : LinearMeasure Float where
  le_of_lt below := by
    obtain ⟨x, y, placeA, placeB, below⟩ := lt_iff.1 below
    exact le_iff.2 ⟨x, y, placeA, placeB, below.le⟩
  le_of_not_lt numberA numberB :=
    le_of_not_lt ((isNaN_eq _).symm.trans numberA) ((isNaN_eq _).symm.trans numberB)
  isNaN_zero := number_iff.2 ⟨_, place_zero⟩
  isNaN_of_le below := by
    obtain ⟨x, y, placeA, placeB, _⟩ := le_iff.1 below
    exact ⟨number_iff.2 ⟨x, placeA⟩, number_iff.2 ⟨y, placeB⟩⟩
  isNaN_of_isFinite finite := by
    obtain ⟨x, here, _⟩ := isFinite_iff_place.1 finite
    exact number_iff.2 ⟨x, here⟩
  isNaN_of_add := number_of_add
  add_le_add := sum_le_sum

end Storyboard.Double
