import Mathlib.Algebra.Order.Field.Basic
import Mathlib.Tactic.Linarith

/-! Token buckets. A bucket fills at a rate up to its burst, as far as the clock has gone
when it is read, and whoever finds anything in it may take a packet's worth, which can
leave it in debt. What is spent in any interval is bounded all the same. -/
namespace MoonlightWeb.TokenBucket

variable {K : Type*} [Field K] [LinearOrder K] [IsStrictOrderedRing K]

structure Bucket (K : Type*) where
  budget : K
  last : K

/-- What was done to a bucket, the newest action first. -/
inductive Action (K : Type*) where
  | refill (now : K)
  | spend (size : K)

variable (rate burst : K)

def Bucket.refill (bucket : Bucket K) (now : K) : Bucket K :=
  ⟨min (bucket.budget + (now - bucket.last) * rate) burst, now⟩

def Bucket.spend (bucket : Bucket K) (size : K) : Bucket K :=
  ⟨bucket.budget - size, bucket.last⟩

/-- Where actions take a bucket: clocks do not go back, and only a bucket that is not
empty is spent from. -/
inductive Runs (start : Bucket K) : List (Action K) → Bucket K → Prop where
  | start : Runs start [] start
  | refill (ran : Runs start actions bucket) (later : bucket.last ≤ now) :
      Runs start (.refill now :: actions) (bucket.refill rate burst now)
  | spend (ran : Runs start actions bucket) (some : 0 < bucket.budget) (size : 0 ≤ amount) :
      Runs start (.spend amount :: actions) (bucket.spend amount)

/-- The clock at the last refill. -/
def reading (start : K) : List (Action K) → K
  | [] => start
  | .refill now :: _ => now
  | .spend _ :: older => reading start older

/-- What was spent in an interval, by the clock at the refill before it. -/
def spentBetween (start since upTo : K) : List (Action K) → K
  | [] => 0
  | .refill _ :: older => spentBetween start since upTo older
  | .spend size :: older =>
    (if since ≤ reading start older ∧ reading start older ≤ upTo then size else 0) +
      spentBetween start since upTo older

def largest : List (Action K) → K
  | [] => 0
  | .refill _ :: older => largest older
  | .spend size :: older => max size (largest older)

variable {rate burst}

omit [IsStrictOrderedRing K] in
theorem largest_nonneg (actions : List (Action K)) : 0 ≤ largest actions := by
  induction actions with
  | nil => exact le_rfl
  | cons action older ih =>
    cases action with
    | refill now => exact ih
    | spend size => exact ih.trans (le_max_right _ _)

omit [IsStrictOrderedRing K] in
theorem reading_eq {start : Bucket K} (ran : Runs rate burst start actions bucket) :
    reading start.last actions = bucket.last := by
  induction ran with
  | start => rfl
  | refill ran later ih => rfl
  | spend ran some size ih => exact ih

theorem budget_le {start : Bucket K} (full : start.budget ≤ burst)
    (ran : Runs rate burst start actions bucket) : bucket.budget ≤ burst := by
  induction ran with
  | start => exact full
  | refill ran later ih => exact min_le_right _ _
  | spend ran some size ih => exact (sub_le_self _ size).trans ih

/-- The debt is less than the packet that caused it. -/
theorem debt_le {start : Bucket K} (filled : 0 ≤ start.budget) (rates : 0 ≤ rate)
    (bursts : 0 ≤ burst) (ran : Runs rate burst start actions bucket) :
    -largest actions ≤ bucket.budget := by
  induction ran with
  | start =>
    rw [largest, neg_zero]
    exact filled
  | @refill actions bucket now ran later ih =>
    have gained : 0 ≤ (now - bucket.last) * rate := mul_nonneg (sub_nonneg.mpr later) rates
    apply le_min
    · exact ih.trans (le_add_of_nonneg_right gained)
    · exact (neg_nonpos.mpr (largest_nonneg actions)).trans bursts
  | @spend actions bucket amount ran some size ih =>
    have covers : amount ≤ max amount (largest actions) := le_max_left _ _
    change -max amount (largest actions) ≤ bucket.budget - amount
    linarith

/-- What an interval has cost while the clock stands before it, in it and behind it: in
it, what was spent and what is left came from the burst and the time that has gone by. -/
structure Metered (rate burst since upTo packet spent : K) (bucket : Bucket K) : Prop where
  before : bucket.last < since → spent = 0
  inside : since ≤ bucket.last → bucket.last ≤ upTo →
    spent + bucket.budget ≤ burst + rate * (bucket.last - since)
  behind : upTo < bucket.last → spent ≤ burst + rate * (upTo - since) + packet

theorem Metered.spent_le (metered : Metered rate burst since upTo packet spent bucket)
    (ordered : since ≤ upTo) (rates : 0 ≤ rate) (bursts : 0 ≤ burst) (debt : -packet ≤ bucket.budget)
    (nonneg : 0 ≤ packet) : spent ≤ burst + rate * (upTo - since) + packet := by
  have whole : 0 ≤ rate * (upTo - since) := mul_nonneg rates (sub_nonneg.mpr ordered)
  by_cases before : bucket.last < since
  · rw [metered.before before]
    linarith
  · by_cases behind : upTo < bucket.last
    · exact metered.behind behind
    · have inside := metered.inside (not_lt.mp before) (not_lt.mp behind)
      have part : rate * (bucket.last - since) ≤ rate * (upTo - since) :=
        mul_le_mul_of_nonneg_left (sub_le_sub_right (not_lt.mp behind) since) rates
      linarith

theorem runs_metered {start : Bucket K} (filled : 0 ≤ start.budget) (full : start.budget ≤ burst)
    (rates : 0 ≤ rate) (bursts : 0 ≤ burst) (ordered : since ≤ upTo)
    (ran : Runs rate burst start actions bucket) :
    Metered rate burst since upTo (largest actions)
      (spentBetween start.last since upTo actions) bucket := by
  induction ran with
  | start =>
    refine ⟨fun _ => rfl, fun reached _ => ?_, fun _ => ?_⟩
    · have passed : 0 ≤ rate * (start.last - since) := mul_nonneg rates (sub_nonneg.mpr reached)
      rw [spentBetween, zero_add]
      linarith
    · have whole : 0 ≤ rate * (upTo - since) := mul_nonneg rates (sub_nonneg.mpr ordered)
      rw [spentBetween, largest]
      linarith
  | @refill actions bucket now ran later ih =>
    have debt := debt_le filled rates bursts ran
    refine ⟨fun early => ih.before (later.trans_lt early), fun reached inTime => ?_, fun _ => ?_⟩
    · by_cases before : bucket.last < since
      · have passed : 0 ≤ rate * (now - since) := mul_nonneg rates (sub_nonneg.mpr reached)
        have capped : min (bucket.budget + (now - bucket.last) * rate) burst ≤ burst :=
          min_le_right _ _
        rw [spentBetween, ih.before before, zero_add]
        exact capped.trans (le_add_of_nonneg_right passed)
      · have inside := ih.inside (not_lt.mp before) (later.trans inTime)
        have gained : min (bucket.budget + (now - bucket.last) * rate) burst ≤
            bucket.budget + (now - bucket.last) * rate := min_le_left _ _
        change spentBetween _ _ _ actions + min _ _ ≤ burst + rate * (now - since)
        linarith
    · exact ih.spent_le ordered rates bursts debt (largest_nonneg actions)
  | @spend actions bucket amount ran some size ih =>
    have read := reading_eq ran
    refine ⟨fun early => ?_, fun reached inTime => ?_, fun late => ?_⟩
    · rw [spentBetween, read, if_neg fun within => not_le.mpr early within.1, ih.before early,
        add_zero]
    · have inside := ih.inside reached inTime
      rw [spentBetween, read, if_pos ⟨reached, inTime⟩]
      change amount + _ + (bucket.budget - amount) ≤ burst + rate * (bucket.last - since)
      linarith
    · have earlier := ih.behind late
      have grows : largest actions ≤ max amount (largest actions) := le_max_right _ _
      rw [spentBetween, read, if_neg fun within => not_le.mpr late within.2, zero_add, largest]
      linarith

/-- In any interval no more is spent than the burst, what came in meanwhile and one
packet. -/
theorem spent_le {start : Bucket K} (filled : 0 ≤ start.budget) (full : start.budget ≤ burst)
    (rates : 0 ≤ rate) (ordered : since ≤ upTo) (ran : Runs rate burst start actions bucket) :
    spentBetween start.last since upTo actions ≤
      burst + rate * (upTo - since) + largest actions := by
  have bursts : 0 ≤ burst := filled.trans full
  have metered := runs_metered filled full rates bursts ordered ran
  exact metered.spent_le ordered rates bursts (debt_le filled rates bursts ran)
    (largest_nonneg actions)

end MoonlightWeb.TokenBucket
