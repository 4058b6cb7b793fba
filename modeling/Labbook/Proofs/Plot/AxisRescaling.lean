import Labbook.Proofs.Number.ExactScalar
import Labbook.Proofs.Number.LargestMagnitude
import Labbook.Proofs.Number.SignificantDigits
import Labbook.Proofs.Number.WholeWord
import Mathlib.Tactic.FieldSimp
import Mathlib.Tactic.IntervalCases
import Std.Data.String.ToInt

namespace Labbook

namespace AxisScale

-- Each symbol is a thousand times the one before it, or a thousandth.
def larger : List String := ["k", "M", "G", "T", "P", "E", "Z", "Y"]

def smaller : List String := ["m", "µ", "n", "p", "f", "a", "z", "y"]

def engineeringFactors : List (String × Rat) :=
  ("", 1) :: larger.mapIdx (fun n symbol => (symbol, 1000 ^ (n + 1))) ++
    smaller.mapIdx fun n symbol => (symbol, 1 / 1000 ^ (n + 1))

-- The power of ten in front of a unit without symbols, such as `10^3 `.
def powerFactor? (symbol : String) : Option Rat :=
  match symbol.toList with
  | '1' :: '0' :: '^' :: rest =>
    if rest.getLast? = some ' ' then
      (String.ofList rest.dropLast).toInt?.map fun n => (10 : Rat) ^ n
    else none
  | _ => none

def symbolFactor? (symbol : String) : Option Rat :=
  (engineeringFactors.lookup symbol).or (powerFactor? symbol)

theorem symbolFactor?_engineering : ∀ entry ∈ symbols,
    symbolFactor? entry.2 = some (10 ^ entry.1) := by
  have known : ∀ entry ∈ symbols, engineeringFactors.lookup entry.2 = some (10 ^ entry.1) := by
    decide +kernel
  intro entry listed
  rw [symbolFactor?, known entry listed, Option.some_or]

theorem symbolFactor?_power (n : Int) :
    symbolFactor? ("10^" ++ toString n ++ " ") = some (10 ^ n) := by
  have parts : ("10^" ++ toString n ++ " ").toList =
      '1' :: '0' :: '^' :: ((toString n).toList ++ [' ']) := by
    rw [String.toList_append, String.toList_append]
    rfl
  have unlisted : engineeringFactors.lookup ("10^" ++ toString n ++ " ") = none := by
    have short : ∀ entry ∈ engineeringFactors, entry.1.toList.length ≤ 1 := by decide +kernel
    refine List.lookup_eq_none_iff.mpr fun entry listed => bne_iff_ne.mpr fun same => ?_
    have long := short entry listed
    rw [← same, parts, List.length_cons, List.length_cons] at long
    omega
  have power : powerFactor? ("10^" ++ toString n ++ " ") = some (10 ^ n) := by
    rw [powerFactor?, parts]
    change (if ((toString n).toList ++ [' ']).getLast? = some ' ' then _ else none) = _
    rw [if_pos List.getLast?_concat, List.dropLast_concat, String.ofList_toList,
      Int.toString_eq_repr, Int.toInt?_repr]
    rfl
  rw [symbolFactor?, unlisted, power, Option.none_or]

section
variable {m : Rat} {scale k : Int} {symbol : String}

theorem decade_eq_log (positive : 0 < m) : Scalar.decade m = Int.log 10 m := by
  have size : (m.num.natAbs : Rat) = m.num := by
    rw [Nat.cast_natAbs, abs_of_pos (Rat.num_pos.mpr positive)]
  have same : (Fraction.mk m.num.natAbs m.den).value = m := by
    change (m.num.natAbs : Rat) / m.den = m
    rw [size, Rat.num_div_den]
  have num : 0 < m.num.natAbs := Int.natAbs_pos.mpr (Rat.num_pos.mpr positive).ne'
  change Fraction.decade ⟨m.num.natAbs, m.den⟩ = _
  rw [Fraction.decade_eq ⟨num, m.den_pos⟩, same]

-- The power of ten whose exponent is divisible by three, at or below a value.
structure IsScale (m : Rat) (scale : Int) : Prop where
  three : 3 ∣ scale
  low : 10 ^ scale ≤ m
  high : m < 10 ^ (scale + 3)

theorem tenPow_le {k scale : Int} (below : k ≤ scale) : (10 : Rat) ^ k ≤ 10 ^ scale :=
  zpow_le_zpow_right₀ (by norm_num) below

theorem isScale_log (positive : 0 < m) : IsScale m (3 * (Int.log 10 m).fdiv 3) := by
  obtain ⟨low, high⟩ := log_bounds positive
  have split := Int.mul_fdiv_add_fmod (Int.log 10 m) 3
  have least := Int.fmod_nonneg_of_pos (Int.log 10 m) (show (0 : Int) < 3 by decide)
  have most := Int.fmod_lt_of_pos (Int.log 10 m) (show (0 : Int) < 3 by decide)
  exact ⟨Int.dvd_mul_right 3 _, (tenPow_le (by omega)).trans low,
    high.trans_le (tenPow_le (by omega))⟩

theorem lt_of_tenPow {k scale : Int} (low : 10 ^ k ≤ m) (high : m < 10 ^ scale) : k < scale :=
  (zpow_lt_zpow_iff_right₀ (show (1 : Rat) < 10 by norm_num)).mp (low.trans_lt high)

theorem IsScale.unique (first : IsScale m scale) (second : IsScale m k) : k = scale := by
  have below := lt_of_tenPow first.low second.high
  have above := lt_of_tenPow second.low first.high
  obtain ⟨i, rfl⟩ := first.three
  obtain ⟨j, rfl⟩ := second.three
  omega

theorem powers_eq (isScale : IsScale m scale) :
    ∃ symbol, powers m = (symbol, scale) ∧ symbolFactor? symbol = some (10 ^ scale) := by
  have positive : 0 < m := (tenPow_pos scale).trans_le isScale.low
  have zero : (0.0 : Rat) < m := by norm_num [positive]
  have own := isScale.unique (isScale_log positive)
  unfold powers
  dsimp only
  rw [decade_eq_log positive, own]
  simp only [show Scalar.isFinite m = true from rfl, zero, decide_true, Bool.and_self, if_true]
  split
  next missing => exact ⟨"", by rw [missing], by rw [missing]; rfl⟩
  next => exact ⟨_, rfl, symbolFactor?_power scale⟩

theorem find?_spaced {entries : List (Int × String)} (spaced : entries.Pairwise fun a b => a.1 + 3 ≤ b.1)
    (listed : (scale, symbol) ∈ entries) (low : 10 ^ scale ≤ m) (high : m < 10 ^ (scale + 3)) :
    entries.find? (fun entry => decide (m < 10 ^ (entry.1 + 3))) = some (scale, symbol) := by
  induction entries with
  | nil => cases listed
  | cons entry rest ih =>
    obtain ⟨ahead, later⟩ := List.pairwise_cons.mp spaced
    rcases List.mem_cons.mp listed with rfl | behind
    · exact List.find?_cons_of_pos (decide_eq_true high)
    · have reached : ¬m < 10 ^ (entry.1 + 3) :=
        not_lt.mpr ((tenPow_le (ahead _ behind)).trans low)
      rw [List.find?_cons_of_neg (by simpa using reached)]
      exact ih later behind

theorem engineering_find (nonzero : m ≠ 0) : engineering m =
    match symbols.find? fun entry => decide (m < 10 ^ (entry.1 + 3)) with
    | some (scale, symbol) => (symbol, scale)
    | none => ("Y", 24) := by
  have solid : (!Scalar.isFinite m || Scalar.equals m 0.0) = false := by
    rw [equals_eq_decide]
    norm_num [nonzero]
    rfl
  unfold engineering
  rw [if_neg (by rw [solid]; exact Bool.false_ne_true)]
  rfl

theorem exists_symbol (three : 3 ∣ scale) (low : -24 ≤ scale) (high : scale ≤ 24) :
    ∃ symbol, (scale, symbol) ∈ symbols := by
  obtain ⟨k, rfl⟩ := three
  have least : -8 ≤ k := by omega
  have most : k ≤ 8 := by omega
  interval_cases k <;> simp [symbols]

theorem engineering_eq (isScale : IsScale m scale) (low : -24 ≤ scale) (high : scale ≤ 24) :
    ∃ symbol, engineering m = (symbol, scale) ∧ symbolFactor? symbol = some (10 ^ scale) := by
  have positive : 0 < m := (tenPow_pos scale).trans_le isScale.low
  have spaced : symbols.Pairwise fun a b => a.1 + 3 ≤ b.1 := by decide
  obtain ⟨symbol, listed⟩ := exists_symbol isScale.three low high
  refine ⟨symbol, ?_, symbolFactor?_engineering _ listed⟩
  rw [engineering_find positive.ne', find?_spaced spaced listed isScale.low isScale.high]

theorem engineering_below (nonzero : m ≠ 0) (below : m < 10 ^ (-24 : Int)) : (engineering m).2 = -24 := by
  have reached : m < 10 ^ (-24 + 3 : Int) := below.trans_le (tenPow_le (by decide))
  have first : symbols.find? (fun entry => decide (m < 10 ^ (entry.1 + 3))) = some (-24, "y") :=
    List.find?_cons_of_pos (decide_eq_true reached)
  rw [engineering_find nonzero, first]

theorem engineering_above (above : 10 ^ (27 : Int) ≤ m) : (engineering m).2 = 24 := by
  have last : ∀ entry ∈ symbols, entry.1 + 3 ≤ 27 := by decide
  have missing : symbols.find? (fun entry => decide (m < 10 ^ (entry.1 + 3))) = none := by
    refine List.find?_eq_none.mpr fun entry listed => ?_
    rw [decide_eq_true_eq, not_lt]
    exact (tenPow_le (last entry listed)).trans above
  rw [engineering_find ((tenPow_pos 27).trans_le above).ne', missing]

theorem choose_eq (rescalable : Bool) (isScale : IsScale m scale) (low : -24 ≤ scale)
    (high : scale ≤ 24) :
    ∃ symbol, choose rescalable m = (symbol, scale) ∧ symbolFactor? symbol = some (10 ^ scale) := by
  cases rescalable with
  | true => exact engineering_eq isScale low high
  | false => exact powers_eq isScale

-- The factor of the ticks and the unit on the label, of an axis with a largest magnitude `m`.
structure Rescales (m : Rat) (scale : Int) (label unit : String) (rescaled : Rescaled Rat) : Prop where
  factor : rescaled.factor = 10 ^ (-scale)
  low : 1 ≤ m * rescaled.factor
  high : m * rescaled.factor < 1000
  labelled : ∃ symbol, rescaled.label = axisLabel label (symbol ++ unit) ∧
    symbolFactor? symbol = some (1 / rescaled.factor)

theorem rescale_rescales (settings : Settings) (label unit : String) (isScale : IsScale m scale)
    (low : -24 ≤ scale) (high : scale ≤ 24) :
    Rescales m scale label unit (rescale settings label unit m) := by
  obtain ⟨symbol, chosen, factor⟩ := choose_eq (settings.isRescalable unit) isScale low high
  have size := tenPow_pos scale
  have thousand : (10 : Rat) ^ (scale + 3) = 1000 * 10 ^ scale := by
    rw [zpow_add₀ (by norm_num), mul_comm]
    norm_num
  have rescaled : rescale settings label unit m =
      ⟨10 ^ (-scale), axisLabel label (symbol ++ unit)⟩ := by
    rw [rescale, chosen]
    rfl
  rw [rescaled]
  refine ⟨rfl, ?_, ?_, symbol, rfl, ?_⟩
  · rw [zpow_neg, ← div_eq_mul_inv, one_le_div size]
    exact isScale.low
  · rw [zpow_neg, ← div_eq_mul_inv, div_lt_iff₀ size, ← thousand]
    exact isScale.high
  · rw [factor, zpow_neg, one_div, inv_inv]

theorem IsScale.range (isScale : IsScale m scale) (low : 10 ^ (-24 : Int) ≤ m)
    (high : m < 10 ^ (27 : Int)) : -24 ≤ scale ∧ scale ≤ 24 := by
  have above := lt_of_tenPow low isScale.high
  have below := lt_of_tenPow isScale.low high
  obtain ⟨k, rfl⟩ := isScale.three
  omega

end

def exactRescaled (settings : Settings) (r : Record) : Rescaled Rat :=
  rescale settings r.displayLabel r.unit r.data.maxMagnitude.value

theorem exactRescaled_rescales {m : Rat} {scale : Int} {r : Record} {t : Tensor Binary64}
    (settings : Settings) (isScale : IsScale m scale) (low : -24 ≤ scale) (high : scale ≤ 24)
    (numeric : r.data = .numeric t) (largest : LargestMagnitude t.cells m) :
    Rescales m scale r.displayLabel r.unit (exactRescaled settings r) := by
  have value : r.data.maxMagnitude.value = m := by
    rw [numeric]
    exact (maxMagnitude_value largest).2
  rw [exactRescaled, value]
  exact rescale_rescales settings _ _ isScale low high

-- One scale for the units of either kind, and for every record with this largest magnitude.
structure Shared (settings : Settings) (m : Rat) (scale : Int) : Prop where
  iff : ∀ k, k = scale ↔ IsScale m k
  chosen : ∀ unit, (choose (settings.isRescalable unit) m).2 = scale
  records : ∀ (r : Record) (t : Tensor Binary64), r.data = .numeric t → LargestMagnitude t.cells m →
    Rescales m scale r.displayLabel r.unit (exactRescaled settings r)

theorem choose_shared (settings : Settings) :
    (∀ m : Rat, 10 ^ (-24 : Int) ≤ m → m < 10 ^ (27 : Int) → ∃ scale, Shared settings m scale) ∧
    ∀ unit, settings.isRescalable unit = true → ∀ m : Rat, m ≠ 0 →
      (m < 10 ^ (-24 : Int) → (choose (settings.isRescalable unit) m).2 = -24) ∧
      (10 ^ (27 : Int) ≤ m → (choose (settings.isRescalable unit) m).2 = 24) := by
  constructor
  · intro m low high
    have isScale := isScale_log ((tenPow_pos (-24)).trans_le low)
    obtain ⟨least, most⟩ := isScale.range low high
    refine ⟨3 * (Int.log 10 m).fdiv 3, fun k => ⟨?_, isScale.unique⟩, fun unit => ?_, fun r t => ?_⟩
    · rintro rfl
      exact isScale
    · obtain ⟨symbol, same, -⟩ := choose_eq (settings.isRescalable unit) isScale least most
      rw [same]
    · exact exactRescaled_rescales settings isScale least most
  · intro unit rescalable m nonzero
    rw [rescalable]
    exact ⟨engineering_below nonzero, engineering_above⟩

def supply : Record := ⟨"supply", "", "V", .numeric (.ofList [999, .nan, 12345]), none⟩

theorem supply_largest : LargestMagnitude [999, .nan, 12345] 12345 := by
  have small : (999 : Binary64).value = 999 := Binary64.value_ofNat (by decide)
  have large : (12345 : Binary64).value = 12345 := Binary64.value_ofNat (by decide)
  refine ⟨⟨12345, by simp, by decide, by rw [large]; norm_num⟩, fun v member measured => ?_⟩
  simp only [List.mem_cons, List.not_mem_nil, or_false] at member
  rcases member with rfl | rfl | rfl
  · exact ⟨by decide, by rw [small]; norm_num⟩
  · exact absurd measured (by decide)
  · exact ⟨by decide, by rw [large]; norm_num⟩

theorem choose_shared_supply : ({} : Settings).isRescalable "V" = true ∧
    ({} : Settings).isRescalable "arb" = false ∧
    (choose (({} : Settings).isRescalable "V") (12345 : Rat)).2 = 3 ∧
    (choose (({} : Settings).isRescalable "arb") (12345 : Rat)).2 = 3 ∧
    Rescales 12345 3 "supply" "V" (exactRescaled {} supply) ∧
    (choose (({} : Settings).isRescalable "V") (10 ^ (-30 : Int) : Rat)).2 = -24 ∧
    (choose (({} : Settings).isRescalable "V") (10 ^ (30 : Int) : Rat)).2 = 24 := by
  have rescalable : ({} : Settings).isRescalable "V" = true := by decide
  have inRange := (choose_shared {}).1
  have outside := (choose_shared {}).2 "V" rescalable
  obtain ⟨scale, shared⟩ := inRange 12345 (by norm_num) (by norm_num)
  have own : 3 = scale := (shared.iff 3).mpr ⟨Int.dvd_refl 3, by norm_num, by norm_num⟩
  subst own
  exact ⟨rescalable, by decide, shared.chosen "V", shared.chosen "arb",
    shared.records supply _ rfl supply_largest,
    (outside _ (by norm_num)).1 (by norm_num), (outside _ (by norm_num)).2 (by norm_num)⟩

end AxisScale

end Labbook
