import DiscordRest.Paging.Request
import DiscordRest.Proofs.Snowflake

/-!
Snowflakes and time. The instant at which a snowflake was minted is the beginning of its
millisecond, and the snowflake of an instant is the least of its millisecond. The count of
milliseconds starts again whenever it has used up its 42 bits, and the order of time is lost there.
-/

namespace DiscordRest

------------------------------------------------------------------------------------------
-- Instants
------------------------------------------------------------------------------------------

namespace Instant

/-- The nanoseconds since the first moment of 1970. -/
def elapsed (instant : Instant) : Int :=
  instant.seconds * 1000000000 + instant.nanoseconds

/-- The milliseconds of an instant are the whole ones among its nanoseconds. -/
theorem milliseconds_eq (instant : Instant)
    : instant.milliseconds = instant.elapsed / 1000000 := by
  unfold milliseconds elapsed
  omega

theorem elapsed_ofMilliseconds (count : Int)
    : (ofMilliseconds count).elapsed = count * 1000000 := by
  have kept : ((count % 1000).toNat : Int) = count % 1000 :=
    Int.toNat_of_nonneg (Int.emod_nonneg count (by decide))
  simp only [ofMilliseconds, elapsed]
  omega

/-- The year of a day lies in the era of the day, whose last year goes on until the next March. -/
theorem year_dateOfDays (days : Int)
    : let era := (days + 719468) / 146097
      400 * era ≤ (dateOfDays days).year ∧ (dateOfDays days).year ≤ 400 * era + 401 := by
  have shifted : (days + 719468).fdiv 146097 = (days + 719468) / 146097 :=
    Int.fdiv_eq_ediv_of_nonneg _ (by decide)
  simp only [dateOfDays, shifted]
  omega

end Instant

namespace Snowflake

------------------------------------------------------------------------------------------
-- The numbers of a snowflake and of an instant
------------------------------------------------------------------------------------------

/-- How many milliseconds the upper 42 bits tell apart. -/
def period : Nat := twoTo 42

/-- How many snowflakes there are in a millisecond. -/
def perMillisecond : Nat := twoTo 22

/-- The milliseconds since the first moment of 2015, none before it. -/
def age (instant : Instant) : Nat :=
  instant.milliseconds.toNat - 1420070400000

theorem period_eq : period = 4398046511104 :=
  rfl

theorem perMillisecond_eq : perMillisecond = 4194304 :=
  rfl

theorem toNat_mintedMilliseconds (id : Snowflake)
    : id.mintedMilliseconds.toNat = id.value.toNat / perMillisecond + 1420070400000 := by
  have shifted : (id.value >>> 22).toNat = id.value.toNat / perMillisecond := by
    rw [UInt64.toNat_shiftRight]
    exact Nat.shiftRight_eq_div_pow _ 22
  have below := id.value.toNat_lt
  rw [mintedMilliseconds, UInt64.toNat_add, shifted]
  refine Nat.mod_eq_of_lt ?_
  show _ + 1420070400000 < _
  rw [perMillisecond_eq]
  omega

/-- What does not fit into the upper bits is lost, and the lower ones are empty. -/
theorem toNat_ofInstant (instant : Instant)
    : (ofInstant instant).value.toNat = age instant % period * perMillisecond := by
  show (UInt64.ofNat (age instant) <<< 22).toNat = _
  rw [UInt64.toNat_shiftLeft, UInt64.toNat_ofNat']
  show (age instant % 18446744073709551616) <<< 22 % 18446744073709551616 = _
  rw [Nat.shiftLeft_eq, period_eq, perMillisecond_eq]
  omega

/-- The milliseconds of snowflakes start with 2015 and go on for one period. -/
theorem mintedMilliseconds_bounds (id : Snowflake)
    : 1420070400000 ≤ id.mintedMilliseconds.toNat
      ∧ id.mintedMilliseconds.toNat < 1420070400000 + period := by
  have below := id.value.toNat_lt
  rw [toNat_mintedMilliseconds, period_eq, perMillisecond_eq]
  omega

theorem toInt_mintedMilliseconds (id : Snowflake)
    : id.mintedMilliseconds.toInt64.toInt = id.mintedMilliseconds.toNat := by
  obtain ⟨-, last⟩ := id.mintedMilliseconds_bounds
  rw [period_eq] at last
  refine BitVec.toInt_eq_toNat_of_lt ?_
  show 2 * id.mintedMilliseconds.toNat < 18446744073709551616
  omega

/-- All snowflakes were minted in the era of the years from 2000 on. -/
theorem inCalendar_ofMilliseconds (id : Snowflake)
    : (Instant.ofMilliseconds id.mintedMilliseconds.toNat).InCalendar := by
  obtain ⟨first, last⟩ := id.mintedMilliseconds_bounds
  rw [period_eq] at last
  have day : ((id.mintedMilliseconds.toNat : Int) / 1000).fdiv 86400
      = (id.mintedMilliseconds.toNat : Int) / 1000 / 86400 :=
    Int.fdiv_eq_ediv_of_nonneg _ (by decide)
  have year := Instant.year_dateOfDays ((id.mintedMilliseconds.toNat : Int) / 1000 / 86400)
  have era : ((id.mintedMilliseconds.toNat : Int) / 1000 / 86400 + 719468) / 146097 = 5 := by
    omega
  dsimp only at year
  rw [era, ← day] at year
  refine ⟨?_, ?_, ?_⟩
  · exact Int.le_trans (by decide) year.1
  · exact Int.le_trans year.2 (by decide)
  · show (_ % 1000 : Int).toNat * 1000000 < _
    omega

theorem ofMilliseconds?_minted (id : Snowflake)
    : Instant.ofMilliseconds? id.mintedMilliseconds.toInt64.toInt
      = some (.ofMilliseconds id.mintedMilliseconds.toNat) := by
  rw [toInt_mintedMilliseconds]
  exact if_pos id.inCalendar_ofMilliseconds

theorem minted_eq (id : Snowflake)
    : id.minted = .ofMilliseconds id.mintedMilliseconds.toNat := by
  rw [minted, ofMilliseconds?_minted]
  rfl

theorem age_minted (id : Snowflake) : age id.minted = id.value.toNat / perMillisecond := by
  have counted := id.toNat_mintedMilliseconds
  unfold age
  rw [Instant.milliseconds_eq, minted_eq, Instant.elapsed_ofMilliseconds,
    Int.mul_ediv_cancel _ (by decide), Int.toNat_natCast, counted, Nat.add_sub_cancel]

------------------------------------------------------------------------------------------
-- The least snowflake of a millisecond
------------------------------------------------------------------------------------------

/-- The milliseconds from the first moment of 1970 to the one that is counted as zero again. -/
def horizon : Int := 1420070400000 + period

theorem ofInstant_minted (id : Snowflake)
    : (ofInstant id.minted).value.toNat = id.value.toNat - id.value.toNat % perMillisecond := by
  have below := id.value.toNat_lt
  rw [toNat_ofInstant, age_minted, period_eq, perMillisecond_eq]
  omega

/-- Before the count starts again, the snowflake of an instant is the least of its millisecond. -/
theorem ofInstant_le_iff {instant : Instant} (early : instant.elapsed < horizon * 1000000)
    {id : Snowflake}
    : ofInstant instant ≤ id
      ↔ max (instant.elapsed / 1000000) 1420070400000 ≤ id.mintedMilliseconds.toNat := by
  have counted := id.toNat_mintedMilliseconds
  have below := id.value.toNat_lt
  rw [le_iff_toNat_le, toNat_ofInstant]
  unfold age
  rw [Instant.milliseconds_eq, counted]
  simp only [horizon, period_eq, perMillisecond_eq] at early ⊢
  omega

theorem mintedMilliseconds_ofInstant_minted (id : Snowflake)
    : (ofInstant id.minted).mintedMilliseconds = id.mintedMilliseconds := by
  refine UInt64.toNat_inj.mp ?_
  rw [toNat_mintedMilliseconds, toNat_mintedMilliseconds, ofInstant_minted, perMillisecond_eq]
  omega

theorem not_advances_before_iff {cursor id : Snowflake}
    : Paging.Direction.before.advances cursor id = false ↔ cursor ≤ id := by
  rw [Paging.Direction.advances, decide_eq_false_iff_not]
  exact UInt64.not_lt

/-- What a snowflake tells of the time at which it was minted. -/
structure KeepsTime (id : Snowflake) : Prop where
  counted : id.mintedMilliseconds.toNat = id.value.toNat / perMillisecond + 1420070400000
  /-- As a signed number the milliseconds are the same. -/
  signed : id.mintedMilliseconds.toInt64.toInt = id.mintedMilliseconds.toNat
  /-- The calendar has the instant, so no other one stands in for it. -/
  found : Instant.ofMilliseconds? id.mintedMilliseconds.toInt64.toInt = some id.minted
  instant : id.minted = .ofMilliseconds id.mintedMilliseconds.toNat
  elapsed : id.minted.elapsed = id.mintedMilliseconds.toNat * 1000000
  /-- The snowflake of the instant lacks the lower bits. -/
  cleared
    : (ofInstant id.minted).value.toNat = id.value.toNat - id.value.toNat % perMillisecond
  below : ofInstant id.minted ≤ id
  same : (ofInstant id.minted).mintedMilliseconds = id.mintedMilliseconds

theorem keepsTime (id : Snowflake) : id.KeepsTime where
  counted := id.toNat_mintedMilliseconds
  signed := id.toInt_mintedMilliseconds
  found := by rw [id.ofMilliseconds?_minted, minted_eq]
  instant := id.minted_eq
  elapsed := by rw [minted_eq, Instant.elapsed_ofMilliseconds]
  cleared := id.ofInstant_minted
  below := by
    rw [le_iff_toNat_le, ofInstant_minted]
    exact Nat.sub_le _ _
  same := id.mintedMilliseconds_ofInstant_minted

/--
Every snowflake gives back the millisecond at which it was minted and has the least snowflake of
it below it. Of the instants before the count starts again, the snowflake is the least of their
millisecond, or zero before 2015; behind it as a cursor lie the snowflakes minted earlier.
-/
theorem ofInstant_floors_minted
    : (∀ id : Snowflake, id.KeepsTime)
      ∧ (∀ (instant : Instant) (id : Snowflake),
        instant.elapsed < horizon * 1000000
        → (ofInstant instant ≤ id
          ↔ max (instant.elapsed / 1000000) 1420070400000 ≤ id.mintedMilliseconds.toNat))
      ∧ ∀ (instant : Instant) (id : Snowflake),
        instant.elapsed < horizon * 1000000
        → (Paging.Direction.before.advances (ofInstant instant) id = false
          ↔ instant.elapsed / 1000000 ≤ id.mintedMilliseconds.toNat) := by
  refine ⟨keepsTime, fun instant id early => ofInstant_le_iff early, ?_⟩
  intro instant id early
  -- No snowflake was minted before 2015, so the lower bound says nothing of it.
  have minted := id.mintedMilliseconds_bounds.1
  rw [not_advances_before_iff, ofInstant_le_iff early]
  omega

/-- The millisecond of a snowflake ends just before the next one begins. -/
theorem ofInstant_floors_minted_of_boundary
    : let id : Snowflake := ⟨175928847299117063⟩
      let last : Instant := ⟨1462015105, 796999999⟩
      let next : Instant := ⟨1462015105, 797000000⟩
      last.elapsed < horizon * 1000000
      ∧ next.elapsed < horizon * 1000000
      ∧ ofInstant last ≤ id
      ∧ Paging.Direction.before.advances (ofInstant next) id ≠ false := by
  intro id last next
  obtain ⟨-, least, behind⟩ := ofInstant_floors_minted
  have earlyLast : last.elapsed < horizon * 1000000 := by decide
  have earlyNext : next.elapsed < horizon * 1000000 := by decide
  refine ⟨earlyLast, earlyNext, (least last id earlyLast).mpr (by decide), fun excluded => ?_⟩
  exact absurd ((behind next id earlyNext).mp excluded) (by decide)

------------------------------------------------------------------------------------------
-- The order of instants
------------------------------------------------------------------------------------------

theorem age_le_age {earlier later : Instant} (ordered : earlier ≤ later)
    (plain : earlier.nanoseconds < 1000000000)
    : age earlier ≤ age later := by
  have milliseconds : earlier.milliseconds ≤ later.milliseconds := by
    unfold Instant.milliseconds
    rcases ordered with before | ⟨same, within⟩
    · omega
    · omega
  unfold age
  omega

/-- Snowflakes of instants stand in the order of what 42 bits count of their milliseconds. -/
theorem ofInstant_le_ofInstant_iff {a b : Instant}
    : ofInstant a ≤ ofInstant b ↔ age a % period ≤ age b % period := by
  rw [le_iff_toNat_le, toNat_ofInstant, toNat_ofInstant]
  exact Nat.mul_le_mul_right_iff (by decide : 0 < perMillisecond)

theorem ofInstant_le_of_same_period {earlier later : Instant} (ordered : earlier ≤ later)
    (plain : earlier.nanoseconds < 1000000000)
    (together : age earlier / period = age later / period)
    : ofInstant earlier ≤ ofInstant later := by
  have ages := age_le_age ordered plain
  rw [ofInstant_le_ofInstant_iff]
  rw [period_eq] at together ⊢
  omega

/-- In the first period the count is what has passed since 2015. -/
theorem age_lt_period_iff {instant : Instant}
    : age instant < period ↔ instant.elapsed < horizon * 1000000 := by
  unfold age
  rw [Instant.milliseconds_eq]
  simp only [horizon, period_eq]
  omega

theorem age_ofMilliseconds (count : Nat)
    : age (.ofMilliseconds (1420070400000 + count)) = count := by
  unfold age
  rw [Instant.milliseconds_eq, Instant.elapsed_ofMilliseconds]
  omega

/-- The last millisecond of the first period has a greater snowflake than the next one. -/
theorem not_ofInstant_le_at_horizon
    : ¬ofInstant (.ofMilliseconds (horizon - 1)) ≤ ofInstant (.ofMilliseconds horizon) := by
  have last := age_ofMilliseconds 4398046511103
  have next := age_ofMilliseconds 4398046511104
  rw [ofInstant_le_ofInstant_iff, show age (.ofMilliseconds (horizon - 1)) = _ from last,
    show age (.ofMilliseconds horizon) = _ from next]
  decide

/-- All instants before some millisecond keep their order if the first period has not ended there. -/
theorem keeps_order_before_iff {bound : Int}
    : (∀ earlier later : Instant,
        earlier ≤ later
        → earlier.nanoseconds < 1000000000
        → later.elapsed < bound * 1000000
        → ofInstant earlier ≤ ofInstant later)
      ↔ bound ≤ horizon := by
  constructor
  · intro keeps
    refine Int.not_lt.mp fun beyond => ?_
    refine not_ofInstant_le_at_horizon (keeps _ _ (by decide) (by decide) ?_)
    rw [Instant.elapsed_ofMilliseconds]
    omega
  · intro within earlier later ordered plain early
    have young : age later < period := age_lt_period_iff.mpr (by omega)
    have ages := age_le_age ordered plain
    refine ofInstant_le_of_same_period ordered plain ?_
    rw [Nat.div_eq_of_lt young, Nat.div_eq_of_lt (by omega)]

/--
The snowflakes of two instants, one not after the other, stand in the order of what 42 bits count of
their milliseconds since 2015. So they keep the order of the instants, outside of leap seconds,
within each period of the count, and behind its end where the count is no smaller there.
-/
theorem ofInstant_keeps_order_iff {earlier later : Instant} (ordered : earlier ≤ later)
    : (ofInstant earlier ≤ ofInstant later ↔ age earlier % period ≤ age later % period)
      ∧ (earlier.nanoseconds < 1000000000
        → (ofInstant earlier ≤ ofInstant later
          ↔ age earlier / period = age later / period
            ∨ age earlier / period < age later / period
              ∧ age earlier % period ≤ age later % period)) := by
  refine ⟨ofInstant_le_ofInstant_iff, fun plain => ?_⟩
  have periods : age earlier / period ≤ age later / period :=
    Nat.div_le_div_right (age_le_age ordered plain)
  constructor
  · intro kept
    rcases Nat.eq_or_lt_of_le periods with together | apart
    · exact Or.inl together
    · exact Or.inr ⟨apart, ofInstant_le_ofInstant_iff.mp kept⟩
  · rintro (together | ⟨-, counts⟩)
    · exact ofInstant_le_of_same_period ordered plain together
    · exact ofInstant_le_ofInstant_iff.mpr counts

/-- The order is kept in the last millisecond of the first period, and lost at the next one. -/
theorem ofInstant_keeps_order_iff_of_restart
    : let before : Instant := ⟨5818116911, 102999999⟩
      let last : Instant := ⟨5818116911, 103999999⟩
      let next : Instant := ⟨5818116911, 104000000⟩
      before ≤ last
      ∧ ofInstant before ≤ ofInstant last
      ∧ last ≤ next
      ∧ ¬ofInstant last ≤ ofInstant next := by
  intro before last next
  have first : before ≤ last := by decide
  have second : last ≤ next := by decide
  have kept := ((ofInstant_keeps_order_iff first).2 (by decide)).mpr (Or.inl (by decide))
  refine ⟨first, kept, second, fun again => ?_⟩
  exact absurd ((ofInstant_keeps_order_iff second).1.mp again) (by decide)

/-- The order of instants of the calendar is not kept everywhere: the count starts again. -/
theorem not_forall_ofInstant_le_ofInstant
    : ¬ ∀ earlier later : Instant,
        earlier.InCalendar
        → later.InCalendar
        → earlier ≤ later
        → ofInstant earlier ≤ ofInstant later := by
  intro keeps
  have kept := keeps ⟨5818116911, 103999999⟩ ⟨5818116911, 104000000⟩ (by decide) (by decide)
    (by decide)
  exact absurd kept (by decide)

end Snowflake

end DiscordRest
