import StreamServer.Lib.SortedList
import StreamServer.Protocol.Constants

/-! Sets of 64-bit numbers kept as sorted, separated intervals. An interval carries
the two checks of its constructor, a set the order of its container. -/
namespace StreamServer.Common
open Protocol Lib.SortedList

structure Interval where
  start : Nat
  stop : Nat
  ordered : start ≤ stop
  bounded : stop ≤ maxUint64 - 1
  deriving DecidableEq, Repr

def Interval.make (start stop : Nat) : Except Error Interval :=
  if ordered : start ≤ stop then
    if bounded : stop ≤ maxUint64 - 1 then .ok ⟨start,stop,ordered,bounded⟩
    else .error (.standard "Interval bound too large")
  else .error (.standard "Trying to construct invalid interval")

def Separated (a b : Interval) : Prop := a.stop + 1 < b.start

structure IntervalSet where
  intervals : List Interval
  insertVersion : Nat
  separated : intervals.Pairwise Separated

def IntervalSet.empty : IntervalSet := ⟨[],0,List.Pairwise.nil⟩

instance : Membership Nat IntervalSet where
  mem set n := ∃ interval ∈ set.intervals, interval.start ≤ n ∧ n ≤ interval.stop

variable {set : IntervalSet} {interval a : Interval} {middle : List Interval}

theorem IntervalSet.mem_def {n : Nat} :
    n ∈ set ↔ ∃ interval ∈ set.intervals, interval.start ≤ n ∧ n ≤ interval.stop := Iff.rfl

/-- The predicate of the binary search and the one of the scan that follows it. -/
def endsBefore (interval : Interval) (a : Interval) : Bool := a.stop + 1 < interval.start
def startsWithin (interval : Interval) (a : Interval) : Bool := a.start ≤ interval.stop + 1

def intersectingRange (intervals : List Interval) (interval : Interval) :
    List Interval × List Interval × List Interval :=
  let rest := intervals.dropWhile (endsBefore interval)
  (intervals.takeWhile (endsBefore interval),rest.takeWhile (startsWithin interval),
    rest.dropWhile (startsWithin interval))

/-- The interval written over the first of the intersecting ones. -/
def merge (interval first last : Interval) : Interval where
  start := min interval.start first.start
  stop := max interval.stop last.stop
  ordered := by have := interval.ordered; omega
  bounded := by have := interval.bounded; have := last.bounded; omega

def insertIntervals (intervals : List Interval) (interval : Interval) : List Interval :=
  match intersectingRange intervals interval with
  | (before,[],after) => before ++ interval :: after
  | (before,first :: more,after) =>
    before ++ merge interval first ((first :: more).getLast (by simp)) :: after

def versionIncrement (intervals : List Interval) (interval : Interval) : Nat :=
  match intersectingRange intervals interval with
  | (_,[],_) => 1
  | (_,first :: more,_) =>
    let merged := merge interval first ((first :: more).getLast (by simp))
    if merged.stop - merged.start > first.stop - first.start then 1 else 0

private theorem endsBefore_down {b : Interval} (apart : Separated a b)
    (holds : endsBefore interval b = true) : endsBefore interval a = true := by
  have := b.ordered
  simp only [endsBefore,decide_eq_true_eq,Separated] at *
  omega

private theorem startsWithin_down {b : Interval} (apart : Separated a b)
    (holds : startsWithin interval b = true) : startsWithin interval a = true := by
  have := a.ordered
  simp only [startsWithin,decide_eq_true_eq,Separated] at *
  omega

/-- The three parts of a separated list that an interval cuts it into. -/
structure Cut (intervals : List Interval) (interval : Interval)
    (before middle after : List Interval) : Prop where
  whole : intervals = before ++ (middle ++ after)
  below : ∀ a ∈ before, a.stop + 1 < interval.start
  touching : ∀ a ∈ middle, interval.start ≤ a.stop + 1 ∧ a.start ≤ interval.stop + 1
  above : ∀ a ∈ after, interval.stop + 1 < a.start

theorem intersectingRange_cut (intervals : List Interval) (interval : Interval)
    (separated : intervals.Pairwise Separated) :
    ∃ before middle after, intersectingRange intervals interval = (before,middle,after) ∧
      Cut intervals interval before middle after := by
  have rest := dropWhile_sorted (p := endsBefore interval) separated
  refine ⟨_,_,_,rfl,?_,?_,?_,?_⟩
  · simp only [List.takeWhile_append_dropWhile]
  · intro a member
    simpa [endsBefore] using List.mem_takeWhile_imp member
  · intro a member
    have inside := List.mem_takeWhile_imp member
    have reached := dropWhile_fails separated (fun _ _ => endsBefore_down) a
      ((List.takeWhile_sublist _).subset member)
    simp only [endsBefore,startsWithin,decide_eq_true_eq,decide_eq_false_iff_not] at inside reached
    omega
  · intro a member
    have := dropWhile_fails rest (fun _ _ => startsWithin_down) a member
    simpa [startsWithin] using this

theorem insertIntervals_separated (intervals : List Interval) (interval : Interval)
    (separated : intervals.Pairwise Separated) :
    (insertIntervals intervals interval).Pairwise Separated := by
  obtain ⟨before,middle,after,cut,whole,below,touching,above⟩ :=
    intersectingRange_cut intervals interval separated
  rw [insertIntervals,cut]
  rw [whole] at separated
  obtain ⟨sortedBefore,sortedRest,across⟩ := List.pairwise_append.mp separated
  obtain ⟨sortedMiddle,sortedAfter,beyond⟩ := List.pairwise_append.mp sortedRest
  cases middle with
  | nil =>
    refine List.pairwise_append.mpr ⟨sortedBefore,List.pairwise_cons.mpr ⟨above,sortedAfter⟩,?_⟩
    intro a inBefore b inRest
    rcases List.mem_cons.mp inRest with rfl | inAfter
    · exact below a inBefore
    · exact across a inBefore b (by simpa using inAfter)
  | cons first more =>
    have last := List.getLast_mem (l := first :: more) (by simp)
    have firstMember : first ∈ first :: more := List.mem_cons_self
    refine List.pairwise_append.mpr ⟨sortedBefore,List.pairwise_cons.mpr ⟨?_,sortedAfter⟩,?_⟩
    · intro b inAfter
      have := beyond _ last b inAfter
      have := above b inAfter
      simp only [Separated,merge] at *
      omega
    · intro a inBefore b inRest
      rcases List.mem_cons.mp inRest with rfl | inAfter
      · have := below a inBefore
        have := across a inBefore first (List.mem_append_left _ firstMember)
        simp only [Separated,merge] at *
        omega
      · exact across a inBefore b (List.mem_append_right _ inAfter)

def IntervalSet.insert (set : IntervalSet) (interval : Interval) : IntervalSet where
  intervals := insertIntervals set.intervals interval
  insertVersion := set.insertVersion + versionIncrement set.intervals interval
  separated := insertIntervals_separated _ _ set.separated

private theorem middle_within (separated : middle.Pairwise Separated) (nonempty : middle ≠ [])
    (member : a ∈ middle) :
    (middle.head nonempty).start ≤ a.start ∧ a.stop ≤ (middle.getLast nonempty).stop := by
  induction middle with
  | nil => exact absurd rfl nonempty
  | cons first more ih =>
    obtain ⟨apart,rest⟩ := List.pairwise_cons.mp separated
    rcases List.mem_cons.mp member with rfl | later
    · refine ⟨Nat.le_refl _,?_⟩
      rcases List.mem_cons.mp (List.getLast_mem nonempty) with same | later
      · rw [same]
      · have := apart _ later
        have := ((a :: more).getLast nonempty).ordered
        simp only [Separated] at *
        omega
    · have inside := ih rest (List.ne_nil_of_mem later) later
      have := apart a later
      have := first.ordered
      rw [List.getLast_cons (List.ne_nil_of_mem later)]
      simp only [Separated,List.head_cons] at *
      omega

theorem IntervalSet.mem_insert (set : IntervalSet) (interval : Interval) (n : Nat) :
    n ∈ set.insert interval ↔ (interval.start ≤ n ∧ n ≤ interval.stop) ∨ n ∈ set := by
  have separated := set.separated
  obtain ⟨before,middle,after,cut,whole,below,touching,above⟩ :=
    intersectingRange_cut set.intervals interval separated
  simp only [IntervalSet.mem_def,IntervalSet.insert]
  rw [insertIntervals,cut]
  rw [whole] at separated ⊢
  cases middle with
  | nil => simp only [List.nil_append,List.mem_append,List.mem_cons]; grind
  | cons first more =>
    have sortedMiddle := (List.pairwise_append.mp (List.pairwise_append.mp separated).2.1).1
    have nonempty : first :: more ≠ [] := by simp
    have last := List.getLast_mem nonempty
    have touchFirst := touching first List.mem_cons_self
    have touchLast := touching _ last
    constructor
    · rintro ⟨a,member,low,high⟩
      rcases List.mem_append.mp member with inBefore | inRest
      · exact .inr ⟨a,List.mem_append_left _ inBefore,low,high⟩
      rcases List.mem_cons.mp inRest with rfl | inAfter
      · simp only [merge] at low high
        by_cases inside : interval.start ≤ n ∧ n ≤ interval.stop
        · exact .inl inside
        · -- Outside the inserted interval the merged one is covered by its two ends.
          right
          by_cases left : n < interval.start
          · exact ⟨first,by simp,by omega,by omega⟩
          · refine ⟨(first :: more).getLast nonempty,?_,by omega,by omega⟩
            exact List.mem_append_right _ (List.mem_append_left _ last)
      · exact .inr ⟨a,by simp [inAfter],low,high⟩
    · rintro (⟨low,high⟩ | ⟨a,member,low,high⟩)
      · exact ⟨_,List.mem_append_right _ List.mem_cons_self,by simp [merge]; omega,
          by simp [merge]; omega⟩
      · rcases List.mem_append.mp member with inBefore | inRest
        · exact ⟨a,List.mem_append_left _ inBefore,low,high⟩
        rcases List.mem_append.mp inRest with inMiddle | inAfter
        · have bounds := middle_within sortedMiddle nonempty inMiddle
          simp only [List.head_cons] at bounds
          exact ⟨_,List.mem_append_right _ List.mem_cons_self,by simp [merge]; omega,
            by simp [merge]; omega⟩
        · exact ⟨a,by simp [inAfter],low,high⟩

/-- The two-argument insertion, with the check of its own in front of the constructor's. -/
def IntervalSet.insertRange (set : IntervalSet) (start stop : Nat) : Except Error IntervalSet :=
  if start > stop then .error (.standard "Trying to insert invalid interval")
  else match Interval.make start stop with
    | .ok interval => .ok (set.insert interval)
    | .error e => .error e

theorem IntervalSet.mem_insertRange {result : IntervalSet} {start stop : Nat}
    (inserted : set.insertRange start stop = .ok result) (n : Nat) :
    n ∈ result ↔ (start ≤ n ∧ n ≤ stop) ∨ n ∈ set := by
  simp only [IntervalSet.insertRange,Interval.make] at inserted
  split at inserted
  · cases inserted
  · split at inserted
    · rename_i interval made
      split at made
      · split at made
        · cases made
          cases inserted
          exact IntervalSet.mem_insert set _ n
        · cases made
      · cases made
    · cases inserted

/-- What is left of the first intersecting interval below a withdrawn one. -/
def leftBelow (interval first : Interval) : Option Interval :=
  if below : first.start + 1 ≤ interval.start then
    some ⟨first.start,interval.start - 1,by omega,by
      have := interval.ordered; have := interval.bounded; omega⟩
  else none

/-- What is left of the last intersecting interval above a withdrawn one. -/
def leftAbove (interval last : Interval) : Option Interval :=
  if above : last.stop ≥ interval.stop + 1 then some ⟨interval.stop + 1,last.stop,above,last.bounded⟩
  else none

def withdrawIntervals (intervals : List Interval) (interval : Interval) : List Interval :=
  match intersectingRange intervals interval with
  | (_,[],_) => intervals
  | (before,first :: more,after) =>
    before ++ ((leftBelow interval first).toList ++
      ((leftAbove interval ((first :: more).getLast (by simp))).toList ++ after))

private theorem mem_leftBelow {first : Interval} :
    a ∈ (leftBelow interval first).toList ↔ first.start + 1 ≤ interval.start ∧
      a.start = first.start ∧ a.stop = interval.start - 1 := by
  unfold leftBelow
  split
  · next below =>
    obtain ⟨start,stop,_,_⟩ := a
    simp [below]
  · next above => simp [above]

private theorem mem_leftAbove {last : Interval} :
    a ∈ (leftAbove interval last).toList ↔ last.stop ≥ interval.stop + 1 ∧
      a.start = interval.stop + 1 ∧ a.stop = last.stop := by
  unfold leftAbove
  split
  · next above =>
    obtain ⟨start,stop,_,_⟩ := a
    simp [above]
  · next below => simp [below]

private theorem pairwise_toList {R : Interval → Interval → Prop} (kept : Option Interval) :
    kept.toList.Pairwise R := by
  cases kept <;> simp

theorem withdrawIntervals_separated (intervals : List Interval) (interval : Interval)
    (separated : intervals.Pairwise Separated) :
    (withdrawIntervals intervals interval).Pairwise Separated := by
  obtain ⟨before,middle,after,cut,whole,below,touching,above⟩ :=
    intersectingRange_cut intervals interval separated
  rw [withdrawIntervals,cut]
  cases middle with
  | nil => exact separated
  | cons first more =>
    rw [whole] at separated
    obtain ⟨sortedBefore,sortedRest,across⟩ := List.pairwise_append.mp separated
    obtain ⟨_,sortedAfter,beyond⟩ := List.pairwise_append.mp sortedRest
    have last := List.getLast_mem (l := first :: more) (by simp)
    have ordered := interval.ordered
    refine List.pairwise_append.mpr ⟨sortedBefore,List.pairwise_append.mpr ⟨pairwise_toList _,
      List.pairwise_append.mpr ⟨pairwise_toList _,sortedAfter,?_⟩,?_⟩,?_⟩
    · intro a kept b inAfter
      have apart := beyond _ last b inAfter
      rw [mem_leftAbove] at kept
      simp only [Separated] at *
      omega
    · intro a kept b inRest
      rw [mem_leftBelow] at kept
      rcases List.mem_append.mp inRest with inLast | inAfter
      · rw [mem_leftAbove] at inLast
        simp only [Separated]
        omega
      · have apart := above b inAfter
        simp only [Separated]
        omega
    · intro a inBefore b inRest
      have before := below a inBefore
      have apart := across a inBefore first (List.mem_append_left _ List.mem_cons_self)
      rcases List.mem_append.mp inRest with inFirst | inRest
      · rw [mem_leftBelow] at inFirst
        simp only [Separated] at *
        omega
      · rcases List.mem_append.mp inRest with inLast | inAfter
        · rw [mem_leftAbove] at inLast
          simp only [Separated]
          omega
        · exact across a inBefore b (List.mem_append_right _ inAfter)

def IntervalSet.withdraw (set : IntervalSet) (interval : Interval) : IntervalSet where
  intervals := withdrawIntervals set.intervals interval
  insertVersion := set.insertVersion
  separated := withdrawIntervals_separated _ _ set.separated

private theorem within_leftBelow {first : Interval} {n : Nat} :
    (∃ a ∈ (leftBelow interval first).toList, a.start ≤ n ∧ n ≤ a.stop) ↔
      first.start ≤ n ∧ n < interval.start := by
  constructor
  · rintro ⟨a,kept,low,high⟩
    rw [mem_leftBelow] at kept
    omega
  · rintro ⟨low,high⟩
    have below : first.start + 1 ≤ interval.start := by omega
    refine ⟨_,Option.mem_toList.mpr (dif_pos below),low,?_⟩
    show n ≤ interval.start - 1
    omega

private theorem within_leftAbove {last : Interval} {n : Nat} :
    (∃ a ∈ (leftAbove interval last).toList, a.start ≤ n ∧ n ≤ a.stop) ↔
      interval.stop < n ∧ n ≤ last.stop := by
  constructor
  · rintro ⟨a,kept,low,high⟩
    rw [mem_leftAbove] at kept
    omega
  · rintro ⟨low,high⟩
    have above : last.stop ≥ interval.stop + 1 := by omega
    exact ⟨_,Option.mem_toList.mpr (dif_pos above),low,high⟩

theorem IntervalSet.mem_withdraw (set : IntervalSet) (interval : Interval) (n : Nat) :
    n ∈ set.withdraw interval ↔ n ∈ set ∧ ¬(interval.start ≤ n ∧ n ≤ interval.stop) := by
  have separated := set.separated
  obtain ⟨before,middle,after,cut,whole,below,touching,above⟩ :=
    intersectingRange_cut set.intervals interval separated
  rw [mem_def,mem_def]
  change (∃ a ∈ withdrawIntervals set.intervals interval, _) ↔ _
  rw [withdrawIntervals,cut]
  have order := interval.ordered
  cases middle with
  | nil =>
    refine ⟨fun inside => ⟨inside,?_⟩,And.left⟩
    rintro ⟨low,high⟩
    obtain ⟨a,member,start,stop⟩ := inside
    rw [whole] at member
    rcases List.mem_append.mp member with early | late
    · have := below a early
      omega
    · have := above a late
      omega
  | cons first more =>
    dsimp only
    rw [whole] at separated ⊢
    have sortedMiddle := (List.pairwise_append.mp (List.pairwise_append.mp separated).2.1).1
    have nonempty : first :: more ≠ [] := by simp
    have last := List.getLast_mem nonempty
    have touchFirst := touching first List.mem_cons_self
    have touchLast := touching _ last
    constructor
    · rintro ⟨a,member,low,high⟩
      rcases List.mem_append.mp member with early | member
      · have := below a early
        exact ⟨⟨a,List.mem_append_left _ early,low,high⟩,by omega⟩
      rcases List.mem_append.mp member with kept | member
      · have := within_leftBelow.mp ⟨a,kept,low,high⟩
        exact ⟨⟨first,by simp,by omega,by omega⟩,by omega⟩
      rcases List.mem_append.mp member with kept | late
      · have := within_leftAbove.mp ⟨a,kept,low,high⟩
        exact ⟨⟨_,List.mem_append_right _ (List.mem_append_left _ last),by omega,by omega⟩,by omega⟩
      · have := above a late
        exact ⟨⟨a,by simp [late],low,high⟩,by omega⟩
    · rintro ⟨⟨a,member,low,high⟩,outside⟩
      rcases List.mem_append.mp member with early | member
      · exact ⟨a,List.mem_append_left _ early,low,high⟩
      rcases List.mem_append.mp member with inMiddle | late
      · have bounds := middle_within sortedMiddle nonempty inMiddle
        simp only [List.head_cons] at bounds
        by_cases left : n < interval.start
        · obtain ⟨b,kept,there⟩ := (@within_leftBelow interval first n).mpr ⟨by omega,left⟩
          exact ⟨b,by simp [Option.mem_toList.mp kept],there⟩
        · obtain ⟨b,kept,there⟩ :=
            (@within_leftAbove interval ((first :: more).getLast nonempty) n).mpr ⟨by omega,by omega⟩
          exact ⟨b,List.mem_append_right _ (List.mem_append_right _ (List.mem_append_left _ kept)),there⟩
      · exact ⟨a,by simp [late],low,high⟩

private theorem middle_alone (separated : middle.Pairwise Separated) (member : a ∈ middle)
    (touching : ∀ b ∈ middle, a.start ≤ b.stop + 1 ∧ b.start ≤ a.stop + 1) : middle = [a] := by
  have apart : ∀ b c, Separated b c → ¬(c.start ≤ b.stop + 1) := by
    intro b c far
    simp only [Separated] at far
    omega
  cases middle with
  | nil => cases member
  | cons first more =>
    obtain ⟨later,-⟩ := List.pairwise_cons.mp separated
    rcases List.mem_cons.mp member with rfl | inside
    · cases more with
      | nil => rfl
      | cons second rest =>
        exact absurd (touching second (by simp)).2 (apart _ _ (later second List.mem_cons_self))
    · exact absurd (touching first List.mem_cons_self).1 (apart _ _ (later a inside))

theorem IntervalSet.insert_covered (member : a ∈ set.intervals) (low : a.start ≤ interval.start)
    (high : interval.stop ≤ a.stop) : set.insert interval = set := by
  have separated := set.separated
  obtain ⟨before,middle,after,cut,whole,below,touching,above⟩ :=
    intersectingRange_cut set.intervals interval separated
  have ordered := interval.ordered
  have kept : insertIntervals set.intervals interval = set.intervals ∧
      versionIncrement set.intervals interval = 0 := by
    rw [insertIntervals,versionIncrement,cut]
    have found : a ∈ middle := by
      rw [whole] at member
      rcases List.mem_append.mp member with early | member
      · have := below a early
        omega
      rcases List.mem_append.mp member with here | late
      · exact here
      · have := above a late
        omega
    rw [whole] at separated
    have sortedMiddle := (List.pairwise_append.mp (List.pairwise_append.mp separated).2.1).1
    obtain rfl := middle_alone sortedMiddle found fun b touched => by
      have := touching b touched
      omega
    have same : merge interval a a = a := by
      obtain ⟨start,stop,ordered,bounded⟩ := a
      simp only [merge,Interval.mk.injEq]
      dsimp only at low high
      omega
    simp only [List.getLast_singleton,same,gt_iff_lt,Nat.lt_irrefl,if_false,and_true]
    exact whole.symm
  obtain ⟨intervals,version,_⟩ := set
  simp only [insert,kept.2,Nat.add_zero,mk.injEq,and_true]
  exact kept.1

theorem IntervalSet.insert_of_mem {n : Nat} (inside : n ∈ set)
    (alone : interval.start = n ∧ interval.stop = n) : set.insert interval = set := by
  obtain ⟨a,member,low,high⟩ := inside
  exact insert_covered member (by omega) (by omega)

/-- Numbers without a gap are in the set when one interval holds them all. -/
theorem IntervalSet.covers_iff {start stop : Nat} (ordered : start ≤ stop) :
    (∀ n, start ≤ n → n ≤ stop → n ∈ set) ↔
      ∃ a ∈ set.intervals, a.start ≤ start ∧ stop ≤ a.stop := by
  constructor
  · intro all
    obtain ⟨a,member,low,high⟩ := all start (Nat.le_refl _) ordered
    refine ⟨a,member,low,Nat.le_of_not_lt fun beyond => ?_⟩
    obtain ⟨b,other,reaches,within⟩ := all (a.stop + 1) (by omega) beyond
    obtain ⟨i,first,rfl⟩ := List.getElem_of_mem member
    obtain ⟨j,second,rfl⟩ := List.getElem_of_mem other
    have apart := List.pairwise_iff_getElem.mp set.separated
    have := (set.intervals[i]).ordered
    rcases Nat.lt_trichotomy i j with less | rfl | less
    · have := apart i j first second less
      simp only [Separated] at this
      omega
    · omega
    · have := apart j i second first less
      simp only [Separated] at this
      omega
  · rintro ⟨a,member,low,high⟩ n from_start to_stop
    exact ⟨a,member,by omega,by omega⟩

def containsWithin (start stop : Nat) : List Interval → Bool
  | [] => false
  | a :: rest =>
    if start ≥ a.start ∧ stop ≤ a.stop then true
    else if start < a.stop then false
    else containsWithin start stop rest

def IntervalSet.contains (set : IntervalSet) (start stop : Nat) : Bool :=
  containsWithin start stop set.intervals

private theorem containsWithin_iff {intervals : List Interval} {start stop : Nat}
    (separated : intervals.Pairwise Separated) :
    containsWithin start stop intervals = true ↔
      ∃ a ∈ intervals, a.start ≤ start ∧ stop ≤ a.stop := by
  induction intervals with
  | nil => simp [containsWithin]
  | cons first rest ih =>
    obtain ⟨later,separated⟩ := List.pairwise_cons.mp separated
    unfold containsWithin
    split_ifs with here before
    · exact iff_of_true rfl ⟨first,List.mem_cons_self,here⟩
    · refine iff_of_false id ?_
      rintro ⟨a,member,low,high⟩
      rcases List.mem_cons.mp member with rfl | behind
      · exact here ⟨low,high⟩
      · have := later a behind
        simp only [Separated] at this
        omega
    · rw [ih separated,List.exists_mem_cons_iff,or_iff_right fun first => here first]

private theorem versionIncrement_zero (unchanged : versionIncrement set.intervals interval = 0) :
    ∃ a ∈ set.intervals, a.start ≤ interval.start ∧ interval.stop ≤ a.stop := by
  have separated := set.separated
  obtain ⟨before,middle,after,cut,whole,-⟩ := intersectingRange_cut set.intervals interval separated
  rw [versionIncrement,cut] at unchanged
  rw [whole] at separated ⊢
  cases middle with
  | nil => cases unchanged
  | cons first more =>
    have sortedMiddle := (List.pairwise_append.mp (List.pairwise_append.mp separated).2.1).1
    have last := (middle_within sortedMiddle (List.cons_ne_nil first more) List.mem_cons_self).2
    have := first.ordered
    have := interval.ordered
    refine ⟨first,by simp,?_⟩
    by_contra outside
    refine absurd unchanged (ne_of_eq_of_ne (if_pos ?_) one_ne_zero)
    simp only [merge]
    omega

/-- The same numbers are kept as the same intervals. -/
theorem IntervalSet.intervals_unique {other : IntervalSet} (same : ∀ n, n ∈ set ↔ n ∈ other) :
    set.intervals = other.intervals := by
  have before {a b : Interval} (apart : Separated a b) : a.start < b.start :=
    a.ordered.trans_lt (Nat.lt_of_succ_lt apart)
  have irrefl : Std.Irrefl Separated := ⟨fun _ apart => (before apart).false⟩
  have antisymm : Std.Antisymm Separated :=
    ⟨fun _ _ less more => ((before less).asymm (before more)).elim⟩
  -- An interval of one set lies within one of the other, and that one within one of the first.
  have shared {set other : IntervalSet} (same : ∀ n, n ∈ set ↔ n ∈ other) {a : Interval}
      (member : a ∈ set.intervals) : a ∈ other.intervals := by
    obtain ⟨b,there,low,high⟩ := (covers_iff a.ordered).mp fun n low high =>
      (same n).mp ⟨a,member,low,high⟩
    obtain ⟨c,back,below,above⟩ := (covers_iff b.ordered).mp fun n low high =>
      (same n).mpr ⟨b,there,low,high⟩
    obtain rfl : c = a := by
      by_contra distinct
      have symm : Std.Symm fun a b => Separated a b ∨ Separated b a := ⟨fun _ _ => Or.symm⟩
      have apart := List.Pairwise.forall (R := fun a b => Separated a b ∨ Separated b a)
        (set.separated.imp Or.inl) back member distinct
      have := a.ordered
      simp only [Separated] at apart
      omega
    obtain ⟨start,stop,_,_⟩ := b
    obtain rfl : start = c.start := low.antisymm below
    obtain rfl : stop = c.stop := above.antisymm high
    exact there
  exact List.Pairwise.eq_of_mem_iff set.separated other.separated fun _ =>
    ⟨shared same,shared fun n => (same n).symm⟩

inductive SetChange where
  | insert (interval : Interval)
  | withdraw (interval : Interval)

def IntervalSet.change (set : IntervalSet) : SetChange → IntervalSet
  | .insert interval => set.insert interval
  | .withdraw interval => set.withdraw interval

/-- The change on the numbers themselves. -/
def SetChange.denote (numbers : Set Nat) : SetChange → Set Nat
  | .insert interval => Set.Icc interval.start interval.stop ∪ numbers
  | .withdraw interval => numbers \ Set.Icc interval.start interval.stop

theorem IntervalSet.not_mem_empty (n : Nat) : n ∉ IntervalSet.empty := by
  rintro ⟨interval,member,-⟩
  cases member

private theorem changes_denote (changes : List SetChange) (set : IntervalSet) (numbers : Set Nat)
    (same : ∀ n, n ∈ set ↔ n ∈ numbers) (n : Nat) :
    n ∈ changes.foldl IntervalSet.change set ↔ n ∈ changes.foldl SetChange.denote numbers := by
  induction changes generalizing set numbers with
  | nil => exact same n
  | cons change rest ih =>
    refine ih _ _ fun n => ?_
    cases change with
    | insert interval => exact (set.mem_insert interval n).trans (or_congr_right (same n))
    | withdraw interval => exact (set.mem_withdraw interval n).trans (and_congr_left' (same n))

/-- The container denotes these numbers. The version grows with them, and no unit is added to or
taken from a bound that wraps. -/
structure IntervalSet.Denotes (set : IntervalSet) (numbers : Set Nat) : Prop where
  members : ∀ n, n ∈ set ↔ n ∈ numbers
  separated : set.intervals.Pairwise Separated
  contains : ∀ start stop, start ≤ stop →
    (set.contains start stop = true ↔ ∀ n, start ≤ n → n ≤ stop → n ∈ numbers)
  version : ∀ interval, set.insertVersion < (set.insert interval).insertVersion ↔
    ∃ n ∈ set.insert interval, n ∉ set
  sums : ∀ interval, ∀ a ∈ interval :: set.intervals, a.start + 1 < 2^64 ∧ a.stop + 1 < 2^64
  differences : ∀ interval, ∀ first ∈ set.intervals, ∀ below ∈ leftBelow interval first,
    below.stop + 1 = interval.start

theorem intervalSet_refines (changes : List SetChange) :
    (changes.foldl IntervalSet.change .empty).Denotes (changes.foldl SetChange.denote ∅) := by
  have same := changes_denote changes .empty ∅ fun n => iff_of_false (IntervalSet.not_mem_empty n) id
  generalize changes.foldl IntervalSet.change .empty = set at *
  refine ⟨same,set.separated,fun start stop ordered => ?_,fun interval => ?_,
    fun interval a _ => ?_,fun interval first _ below left => ?_⟩
  · simp only [← same,IntervalSet.covers_iff ordered]
    exact containsWithin_iff set.separated
  · constructor
    · intro grown
      by_contra all
      push Not at all
      have covered := (IntervalSet.covers_iff interval.ordered).mp fun n low high =>
        all n ((set.mem_insert interval n).mpr (.inl ⟨low,high⟩))
      obtain ⟨a,member,low,high⟩ := covered
      rw [IntervalSet.insert_covered member low high] at grown
      exact Nat.lt_irrefl _ grown
    · rintro ⟨n,inside,new⟩
      refine Nat.lt_add_of_pos_right (Nat.pos_of_ne_zero fun unchanged => new ?_)
      obtain ⟨a,member,low,high⟩ := versionIncrement_zero unchanged
      rwa [IntervalSet.insert_covered member low high] at inside
  · have := a.ordered
    have := a.bounded
    unfold maxUint64 at this
    omega
  · have kept := mem_leftBelow.mp (Option.mem_toList.mpr left)
    omega

/-- Whatever the order of the changes, the same numbers leave the same intervals. -/
theorem intervalSet_canonical (changes others : List SetChange) :
    (changes.foldl IntervalSet.change .empty).intervals =
        (others.foldl IntervalSet.change .empty).intervals ↔
      changes.foldl SetChange.denote ∅ = others.foldl SetChange.denote ∅ := by
  have denotes (changes : List SetChange) := changes_denote changes .empty ∅ fun n =>
    iff_of_false (IntervalSet.not_mem_empty n) id
  constructor
  · intro equal
    ext n
    rw [← denotes,← denotes,IntervalSet.mem_def,IntervalSet.mem_def,equal]
  · intro same
    refine IntervalSet.intervals_unique fun n => ?_
    rw [denotes,denotes,same]

end StreamServer.Common
