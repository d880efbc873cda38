import StreamServer.Lib.Transition
import StreamServer.State.PriorityQueue

/-! The priority queue against what it stands for, a map from stream ids to priorities. The two
agree as long as an order id changes only with the bucket and a stream leaves a bucket under the
order id it came with, and not while the round robin of the bucket is to stop at it. -/
namespace StreamServer.State
open Protocol Lib.Transition

/-- The fields of a priority are three, one and fifty-eight bits wide. -/
def Priority.make (level : UInt8) (incremental : Bool) (orderId : UInt64) : Priority :=
  ⟨level.toNat % 2^3,incremental,orderId.toNat % 2^58⟩

namespace Level

/-- The streams are in order, and both iterators are at one of them or at the end. -/
structure Sound (level : Level) : Prop where
  ordered : level.streams.Pairwise fun first second => first.before second
  iterator : ∀ stream, level.nextStreamIt = some stream → stream ∈ level.streams
  start : ∀ stream, level.startStreamIt = some stream → stream ∈ level.streams

end Level

inductive QueueAction where
  | insertOrUpdate (id : StreamId) (level : UInt8) (incremental : Bool) (orderId : UInt64)
  | updateIfExist (id : StreamId) (level : UInt8) (incremental : Bool) (orderId : UInt64)
  | erase (id : StreamId)
  | begin (index : Nat)
  | next (index : Nat) (force : Bool)
  | getNextScheduledStream

structure QueueRun where
  queue : PriorityQueue := {}
  latest : StreamId → Option Priority := fun _ => none

namespace QueueRun

def step (run : QueueRun) : QueueAction → Except Error QueueRun
  | .insertOrUpdate id level incremental orderId =>
    let priority := Priority.make level incremental orderId
    .ok ⟨run.queue.insertOrUpdate id priority,Function.update run.latest id (some priority)⟩
  | .updateIfExist id level incremental orderId =>
    let priority := Priority.make level incremental orderId
    .ok ⟨run.queue.updateIfExist id priority,
      Function.update run.latest id ((run.latest id).map fun _ => priority)⟩
  | .erase id => .ok ⟨run.queue.erase id,Function.update run.latest id none⟩
  | .begin index => .ok {run with
      queue := {run.queue with levels := run.queue.levels.modify index Level.begin}}
  | .next index force =>
    if (run.queue.levels[index]?.bind Level.nextStreamIt).isNone then
      .error (.standard "undefined: past the end")
    else .ok {run with
      queue := {run.queue with levels := run.queue.levels.modify index (·.next force)}}
  | .getNextScheduledStream => .ok {run with queue := run.queue.getNextScheduledStream.2}

end QueueRun

def PriorityQueue.Holds (queue : PriorityQueue) (index : Nat) (stream : OrderedStream) : Prop :=
  ∃ level, queue.levels[index]? = some level ∧ stream ∈ level.streams

def Wanted (latest : StreamId → Option Priority) (index : Nat) (stream : OrderedStream) : Prop :=
  ∃ priority, latest stream.streamId = some priority ∧ priority2index priority = index ∧
    priority.orderId = stream.orderId

/-- Each id of the map is in the bucket of its latest priority, under its latest order id, and
nothing else is in any bucket. -/
structure Represents (queue : PriorityQueue) (latest : StreamId → Option Priority) : Prop where
  placed : ∀ id, queue.writableStreamsToLevel.lookup id = (latest id).map priority2index
  members : ∀ index stream, queue.Holds index stream ↔ Wanted latest index stream
  sound : ∀ level ∈ queue.levels, level.Sound

theorem OrderedStream.before_iff {first second : OrderedStream} : first.before second ↔
    first.orderId < second.orderId ∨
      first.orderId = second.orderId ∧ first.streamId < second.streamId := by
  unfold before
  split
  next same => simp [same]
  next other =>
    have strict : first.orderId ≠ second.orderId := other
    simp [strict]

theorem OrderedStream.before_irrefl (stream : OrderedStream) : ¬stream.before stream := by
  simp [before_iff]

theorem OrderedStream.before_trans {first second third : OrderedStream} (one : first.before second)
    (two : second.before third) : first.before third := by
  rw [before_iff] at *
  rcases one with one | ⟨same,one⟩ <;> rcases two with two | ⟨same',two⟩
  · exact .inl (Nat.lt_trans one two)
  · exact .inl (same' ▸ one)
  · exact .inl (same ▸ two)
  · exact .inr ⟨same.trans same',Nat.lt_trans one two⟩

theorem OrderedStream.before_total {first second : OrderedStream} (notBefore : ¬first.before second)
    (other : first ≠ second) : second.before first := by
  rw [before_iff] at *
  obtain ⟨order,id⟩ := first
  obtain ⟨order',id'⟩ := second
  simp only [not_or,not_and,Nat.not_lt] at notBefore
  rcases Nat.lt_or_ge order' order with less | more
  · exact .inl less
  · have same : order = order' := Nat.le_antisymm more notBefore.1
    subst same
    refine .inr ⟨rfl,Nat.lt_of_le_of_ne (notBefore.2 rfl) ?_⟩
    intro equal
    exact other (by rw [show id' = id from equal])

variable {streams : List OrderedStream} {id : StreamId}

theorem mem_insertOrdered {stream other : OrderedStream} :
    other ∈ insertOrdered stream streams ↔ other = stream ∨ other ∈ streams := by
  induction streams with
  | nil => simp [insertOrdered]
  | cons head tail ih =>
    unfold insertOrdered
    split
    · simp
    · split
      next same => simp [same]
      next => simp only [List.mem_cons,ih,or_left_comm]

theorem insertOrdered_ordered {stream : OrderedStream}
    (ordered : streams.Pairwise fun first second => first.before second) :
    (insertOrdered stream streams).Pairwise fun first second => first.before second := by
  induction streams with
  | nil => exact List.pairwise_singleton _ _
  | cons head tail ih =>
    obtain ⟨first,rest⟩ := List.pairwise_cons.mp ordered
    unfold insertOrdered
    split
    next less =>
      refine List.pairwise_cons.mpr ⟨List.forall_mem_cons.mpr ⟨less,?_⟩,ordered⟩
      exact fun other later => OrderedStream.before_trans less (first other later)
    next notLess =>
      split
      · exact ordered
      next other =>
        refine List.pairwise_cons.mpr ⟨?_,ih rest⟩
        intro follower inside
        rcases mem_insertOrdered.mp inside with rfl | later
        · exact OrderedStream.before_total notLess other
        · exact first follower later

theorem ordered_nodup (ordered : streams.Pairwise fun first second => first.before second) :
    streams.Nodup := by
  refine ordered.imp ?_
  rintro first _ before rfl
  exact OrderedStream.before_irrefl first before

theorem successor_mem {stream next : OrderedStream}
    (ordered : streams.Pairwise fun first second => first.before second)
    (follows : successor streams stream = some next) : next ∈ streams ∧ next ≠ stream := by
  unfold successor at follows
  have tail := List.mem_of_mem_head? follows
  have suffix : (streams.dropWhile fun other => other != stream).Sublist streams :=
    List.dropWhile_sublist _
  refine ⟨suffix.subset (List.mem_of_mem_tail tail),?_⟩
  rintro rfl
  cases rest : streams.dropWhile (fun other => other != next) with
  | nil => simp [rest] at tail
  | cons head others =>
    have head_is : head = next := by
      have fails := List.head_dropWhile_not (fun other => other != next)
        (show streams.dropWhile (fun other => other != next) ≠ [] by rw [rest]; exact List.cons_ne_nil _ _)
      simpa [rest] using fails
    rw [rest] at tail suffix
    have sorted := ordered.sublist suffix
    exact OrderedStream.before_irrefl next
      (head_is ▸ (List.pairwise_cons.mp sorted).1 next tail : next.before next)

namespace Level

variable {level : Level}

theorem Sound.insert (sound : level.Sound) (id orderId : Nat) : (level.insert id orderId).Sound where
  ordered := insertOrdered_ordered sound.ordered
  iterator stream at_ := mem_insertOrdered.mpr (.inr (sound.iterator stream at_))
  start stream at_ := mem_insertOrdered.mpr (.inr (sound.start stream at_))

theorem mem_eraseStream (sound : level.Sound) {stream : OrderedStream} :
    stream ∈ (level.eraseStream id).streams ↔
      stream ∈ level.streams ∧ stream ≠ level.getOrderedStream id := by
  have erased : stream ∈ level.streams.erase (level.getOrderedStream id) ↔
      stream ∈ level.streams ∧ stream ≠ level.getOrderedStream id := by
    rw [(ordered_nodup sound.ordered).mem_erase_iff]
    exact and_comm
  unfold Level.eraseStream
  dsimp only
  split
  · split <;> exact erased
  next absent =>
    refine ⟨fun inside => ⟨inside,?_⟩,And.left⟩
    rintro rfl
    exact absent inside

@[simp] theorem eraseStream_start : (level.eraseStream id).startStreamIt = level.startStreamIt := by
  unfold Level.eraseStream
  dsimp only
  split
  · split <;> rfl
  · rfl

/-- An erased stream is one that the iterator has left, but it may be where the round robin stops. -/
theorem eraseStream_sound (sound : level.Sound) :
    (level.eraseStream id).Sound ↔ level.startStreamIt ≠ some (level.getOrderedStream id) ∨
      level.getOrderedStream id ∉ level.streams := by
  have nodup := ordered_nodup sound.ordered
  have sorted := sound.ordered.sublist (List.erase_sublist (a := level.getOrderedStream id))
  constructor
  · intro after
    by_contra both
    rw [not_or,not_not,not_not] at both
    have kept := after.start _ (eraseStream_start.trans both.1)
    exact ((mem_eraseStream sound).mp kept).2 rfl
  · intro unmarked
    have start (stream) (at_ : level.startStreamIt = some stream)
        (inside : level.getOrderedStream id ∈ level.streams) :
        stream ∈ level.streams.erase (level.getOrderedStream id) := by
      refine (List.mem_erase_of_ne ?_).mpr (sound.start stream at_)
      rintro rfl
      exact unmarked.elim (· at_) (· inside)
    unfold Level.eraseStream
    dsimp only
    split
    next inside =>
      split
      · refine ⟨sorted,fun stream at_ => ?_,fun stream at_ => start stream at_ inside⟩
        obtain ⟨among,other⟩ := successor_mem sound.ordered at_
        exact (List.mem_erase_of_ne other).mpr among
      next elsewhere =>
        refine ⟨sorted,fun stream at_ => ?_,fun stream at_ => start stream at_ inside⟩
        refine (List.mem_erase_of_ne ?_).mpr (sound.iterator stream at_)
        rintro rfl
        exact elsewhere at_
    · exact sound

theorem Sound.begin (sound : level.Sound) : level.begin.Sound := by
  unfold Level.begin
  split
  · have next (stream) (at_ : level.nextStreamIt.or level.streams.head? = some stream) :
        stream ∈ level.streams := by
      rcases Option.or_eq_some_iff.mp at_ with current | ⟨-,first⟩
      · exact sound.iterator stream current
      · exact List.mem_of_mem_head? first
    exact ⟨sound.ordered,next,next⟩
  · exact ⟨sound.ordered,fun stream at_ => List.mem_of_mem_head? at_,sound.start⟩

@[simp] theorem begin_streams : level.begin.streams = level.streams := by
  unfold Level.begin
  split <;> rfl

theorem next_moved (sound : level.Sound) {stream : OrderedStream}
    (moved : level.nextStreamIt.bind (successor level.streams) = some stream) : stream ∈ level.streams := by
  obtain ⟨current,-,follows⟩ := Option.bind_eq_some_iff.mp moved
  exact (successor_mem sound.ordered follows).1

theorem Sound.next (sound : level.Sound) (force : Bool) : (level.next force).Sound := by
  unfold Level.next
  dsimp only
  split
  · split
    · exact ⟨sound.ordered,sound.iterator,sound.start⟩
    · refine ⟨sound.ordered,fun stream at_ => ?_,sound.start⟩
      rcases Option.or_eq_some_iff.mp at_ with moved | ⟨-,first⟩
      · exact next_moved sound moved
      · exact List.mem_of_mem_head? first
  · exact ⟨sound.ordered,fun stream at_ => next_moved sound at_,sound.start⟩

@[simp] theorem next_streams (force : Bool) : (level.next force).streams = level.streams := by
  unfold Level.next
  dsimp only
  split
  · split <;> rfl
  · rfl

end Level

namespace PriorityQueue

variable {queue : PriorityQueue} {index : Nat} {change : Level → Level}

/-- The order id under which a bucket looks for a stream. -/
def remembered (queue : PriorityQueue) (index : Nat) (id : StreamId) : OrderedStream :=
  (queue.levels[index]?.map (·.getOrderedStream id)).getD ⟨0,id⟩

theorem holds_modify {other : Nat} {stream : OrderedStream} :
    ({queue with levels := queue.levels.modify index change} : PriorityQueue).Holds other stream ↔
      ∃ level, queue.levels[other]? = some level ∧
        stream ∈ (if index = other then change level else level).streams := by
  unfold Holds
  rw [List.getElem?_modify]
  cases queue.levels[other]? with
  | none => simp
  | some level => simp

theorem holds_insert (valid : index < queue.levels.length) {id orderId other : Nat}
    {stream : OrderedStream} :
    ({queue with levels := queue.levels.modify index (·.insert id orderId)} : PriorityQueue).Holds other
        stream ↔ queue.Holds other stream ∨ other = index ∧ stream = ⟨orderId,id⟩ := by
  rw [holds_modify]
  constructor
  · rintro ⟨level,found,inside⟩
    split at inside
    next same =>
      rcases mem_insertOrdered.mp inside with fresh | old
      · exact .inr ⟨same.symm,fresh⟩
      · exact .inl ⟨level,found,old⟩
    next => exact .inl ⟨level,found,inside⟩
  · rintro (⟨level,found,inside⟩ | ⟨rfl,rfl⟩)
    · refine ⟨level,found,?_⟩
      split
      · exact mem_insertOrdered.mpr (.inr inside)
      · exact inside
    · refine ⟨_,List.getElem?_eq_getElem valid,?_⟩
      rw [if_pos rfl]
      exact mem_insertOrdered.mpr (.inl rfl)

theorem holds_eraseStream (sound : ∀ level ∈ queue.levels, level.Sound) {other : Nat}
    {stream : OrderedStream} :
    ({queue with levels := queue.levels.modify index (·.eraseStream id)} : PriorityQueue).Holds other
        stream ↔ queue.Holds other stream ∧ ¬(other = index ∧ stream = queue.remembered index id) := by
  rw [holds_modify]
  constructor
  · rintro ⟨level,found,inside⟩
    split at inside
    next same =>
      subst same
      obtain ⟨old,left⟩ := (Level.mem_eraseStream (sound level (List.mem_of_getElem? found))).mp inside
      refine ⟨⟨level,found,old⟩,fun gone => left ?_⟩
      simpa [remembered,found] using gone.2
    next other_ => exact ⟨⟨level,found,inside⟩,fun gone => other_ gone.1.symm⟩
  · rintro ⟨⟨level,found,inside⟩,left⟩
    refine ⟨level,found,?_⟩
    split
    next same =>
      subst same
      refine (Level.mem_eraseStream (sound level (List.mem_of_getElem? found))).mpr ⟨inside,fun gone => ?_⟩
      exact left ⟨rfl,by simpa [remembered,found] using gone⟩
    next => exact inside

theorem getElem?_modify_self {levels : List Level} {level : Level}
    (found : levels[index]? = some level) :
    (levels.modify index change)[index]? = some (change level) := by
  simp [found]

theorem sound_modify {levels : List Level} (sound : ∀ level ∈ levels, level.Sound)
    (keeps : ∀ level : Level, levels[index]? = some level → level.Sound → (change level).Sound) :
    ∀ level ∈ levels.modify index change, level.Sound := by
  intro level inside
  obtain ⟨other,found⟩ := List.mem_iff_getElem?.mp inside
  rw [List.getElem?_modify] at found
  obtain ⟨old,at_,rfl⟩ := Option.map_eq_some_iff.mp found
  have before := sound old (List.mem_of_getElem? at_)
  split
  next here => exact keeps old (here ▸ at_) before
  · exact before

end PriorityQueue

theorem priority2index_lt (level : UInt8) (incremental : Bool) (orderId : UInt64) :
    priority2index (Priority.make level incremental orderId) < kDefaultPriorityLevelsSize := by
  have small : level.toNat % 2^3 < 2^3 := Nat.mod_lt _ (by decide)
  have bit : (if incremental then 1 else 0) ≤ 1 := by cases incremental <;> decide
  show level.toNat % 2^3 * 2 + (if incremental then 1 else 0) < 16
  omega

section Wanted

variable {latest : StreamId → Option Priority} {id : StreamId} {index : Nat} {stream : OrderedStream}

theorem wanted_of_same {priority : Priority} (known : latest id = some priority)
    (same : stream.streamId = id) : Wanted latest index stream ↔
      index = priority2index priority ∧ stream = ⟨priority.orderId,id⟩ := by
  obtain ⟨orderId,streamId⟩ := stream
  subst same
  constructor
  · rintro ⟨other,there,rfl,order⟩
    obtain rfl : other = priority := Option.some.inj (there.symm.trans known)
    exact ⟨rfl,by rw [show other.orderId = orderId from order]⟩
  · rintro ⟨rfl,equal⟩
    refine ⟨priority,known,rfl,?_⟩
    rw [equal]

theorem wanted_of_other (other : stream.streamId ≠ id) (changed : Option Priority) :
    Wanted (Function.update latest id changed) index stream ↔ Wanted latest index stream := by
  unfold Wanted
  rw [Function.update_of_ne other]

theorem not_wanted_of_none (absent : latest stream.streamId = none) : ¬Wanted latest index stream := by
  rintro ⟨priority,there,-⟩
  rw [absent] at there
  cases there

end Wanted

/-- A stream would be found in its bucket under its latest order id. -/
def Findable (queue : PriorityQueue) (latest : StreamId → Option Priority) (id : StreamId) : Prop :=
  ∀ priority, latest id = some priority →
    queue.remembered (priority2index priority) id = ⟨priority.orderId,id⟩

/-- The round robin of its bucket is not to stop at a stream. -/
def Unmarked (queue : PriorityQueue) (latest : StreamId → Option Priority) (id : StreamId) : Prop :=
  ∀ priority, latest id = some priority → ∀ level,
    queue.levels[priority2index priority]? = some level →
      level.startStreamIt ≠ some ⟨priority.orderId,id⟩

def Removable (queue : PriorityQueue) (latest : StreamId → Option Priority) (id : StreamId) : Prop :=
  Findable queue latest id ∧ Unmarked queue latest id

/-- A priority for a stream that has one keeps the order id together with the bucket, or moves a
stream that can be removed. -/
def Movable (queue : PriorityQueue) (latest : StreamId → Option Priority) (id : StreamId)
    (priority : Priority) : Prop :=
  ∀ old, latest id = some old →
    if priority2index old = priority2index priority then old.orderId = priority.orderId
    else Removable queue latest id

def QueueRun.Orderly (run : QueueRun) : QueueAction → Prop
  | .insertOrUpdate id level incremental orderId | .updateIfExist id level incremental orderId =>
    Movable run.queue run.latest id (Priority.make level incremental orderId)
  | .erase id => Removable run.queue run.latest id
  | .begin _ | .next _ _ | .getNextScheduledStream => True

theorem lookup_insert_update (map : AList fun _ : StreamId => Nat) (id other : StreamId) (index : Nat) :
    (map.insert id index).lookup other = Function.update map.lookup id (some index) other := by
  by_cases same : other = id
  · subst same
    rw [AList.lookup_insert,Function.update_self]
  · rw [AList.lookup_insert_ne same,Function.update_of_ne same]

theorem lookup_erase_update (map : AList fun _ : StreamId => Nat) (id other : StreamId) :
    (map.erase id).lookup other = Function.update map.lookup id none other := by
  by_cases same : other = id
  · subst same
    rw [AList.lookup_erase,Function.update_self]
  · rw [AList.lookup_erase_ne same,Function.update_of_ne same]

theorem placed_update {lookup : StreamId → Option Nat} {latest : StreamId → Option Priority}
    (placed : ∀ id, lookup id = (latest id).map priority2index) (id other : StreamId)
    (changed : Option Priority) : Function.update lookup id (changed.map priority2index) other =
      (Function.update latest id changed other).map priority2index := by
  by_cases same : other = id
  · subst same
    rw [Function.update_self,Function.update_self]
  · rw [Function.update_of_ne same,Function.update_of_ne same,placed]

namespace Represents

variable {queue : PriorityQueue} {latest : StreamId → Option Priority} {id : StreamId}
  {old priority : Priority} (represents : Represents queue latest)

include represents

theorem holds_of_latest (known : latest id = some old) :
    queue.Holds (priority2index old) ⟨old.orderId,id⟩ :=
  (represents.members _ _).mpr ⟨old,known,rfl,rfl⟩

theorem erased_iff (known : latest id = some old) :
    (∀ index stream, ({queue with
        levels := queue.levels.modify (priority2index old) (·.eraseStream id)} : PriorityQueue).Holds
          index stream ↔ stream.streamId ≠ id ∧ Wanted latest index stream) ↔
      Findable queue latest id := by
  simp only [PriorityQueue.holds_eraseStream represents.sound,represents.members]
  constructor
  · intro others priority there
    obtain rfl : priority = old := Option.some.inj (there.symm.trans known)
    have left := (others (priority2index priority) ⟨priority.orderId,id⟩).mp.mt fun kept => kept.1 rfl
    rw [not_and,Classical.not_not] at left
    exact (left ⟨priority,known,rfl,rfl⟩).2.symm
  · intro findable index stream
    rw [findable old known]
    by_cases same : stream.streamId = id
    · simp [wanted_of_same known same,same]
    · have other : stream ≠ ⟨old.orderId,id⟩ := by
        rintro rfl
        exact same rfl
      simp [same,other]

theorem erased_sound_iff {level : Level} (known : latest id = some old)
    (findable : Findable queue latest id)
    (found : queue.levels[priority2index old]? = some level) :
    (level.eraseStream id).Sound ↔ level.startStreamIt ≠ some ⟨old.orderId,id⟩ := by
  have named : level.getOrderedStream id = ⟨old.orderId,id⟩ := by
    simpa [PriorityQueue.remembered,found] using findable old known
  obtain ⟨_,here,inside⟩ := represents.holds_of_latest known
  cases found.symm.trans here
  rw [Level.eraseStream_sound (represents.sound level (List.mem_of_getElem? found)),named]
  exact or_iff_left (not_not.mpr inside)

/-- Once the entries are right, the iterators are exactly if the stream was not marked. -/
theorem removable_iff (known : latest id = some old) (findable : Findable queue latest id) :
    (∀ level, queue.levels[priority2index old]? = some level → (level.eraseStream id).Sound) ↔
      Removable queue latest id := by
  constructor
  · intro sound
    refine ⟨findable,fun priority there level found => ?_⟩
    obtain rfl : priority = old := Option.some.inj (there.symm.trans known)
    exact (represents.erased_sound_iff known findable found).mp (sound level found)
  · intro removable level found
    exact (represents.erased_sound_iff known findable found).mpr (removable.2 old known level found)

theorem erase_iff :
    Represents (queue.erase id) (Function.update latest id none) ↔ Removable queue latest id := by
  have placed := represents.placed
  cases known : latest id with
  | none =>
    have absent : queue.writableStreamsToLevel.lookup id = none := by rw [placed,known]; rfl
    have same : Function.update latest id none = latest := by
      rw [← known]
      exact Function.update_eq_self id latest
    have removable : Removable queue latest id := by
      constructor <;> intro priority there <;> cases known.symm.trans there
    simp only [PriorityQueue.erase,absent,same,represents,removable]
  | some old =>
    have present : queue.writableStreamsToLevel.lookup id = some (priority2index old) := by
      rw [placed,known]
      rfl
    simp only [PriorityQueue.erase,present]
    have gone : ∀ index stream, Wanted (Function.update latest id none) index stream ↔
        stream.streamId ≠ id ∧ Wanted latest index stream := by
      intro index stream
      by_cases same : stream.streamId = id
      · have absent : Function.update latest id none stream.streamId = none := by
          rw [same,Function.update_self]
        simp [not_wanted_of_none absent,same]
      · simp [wanted_of_other same,same]
    constructor
    · intro after
      have findable := (represents.erased_iff known).mp fun index stream =>
        (after.members index stream).trans (gone index stream)
      refine (represents.removable_iff known findable).mp fun level found => ?_
      exact after.sound _ (List.mem_of_getElem? (PriorityQueue.getElem?_modify_self found))
    · intro removable
      have members := (represents.erased_iff known).mpr removable.1
      refine ⟨fun other => ?_,fun index stream => (members index stream).trans (gone index stream).symm,
        PriorityQueue.sound_modify represents.sound fun level found _ =>
          (represents.removable_iff known removable.1).mpr removable level found⟩
      exact (lookup_erase_update _ id other).trans (placed_update placed id other none)

theorem insert (valid : priority2index priority < queue.levels.length) (absent : latest id = none) :
    Represents
      {levels := queue.levels.modify (priority2index priority) (·.insert id priority.orderId)
       writableStreamsToLevel := queue.writableStreamsToLevel.insert id (priority2index priority)}
      (Function.update latest id (some priority)) where
  placed other := (lookup_insert_update _ id other _).trans
    (placed_update represents.placed id other (some priority))
  members index stream := by
    refine (PriorityQueue.holds_insert valid).trans ?_
    rw [represents.members]
    by_cases same : stream.streamId = id
    · have before := @not_wanted_of_none latest index stream (by rw [same,absent])
      rw [wanted_of_same (Function.update_self id (some priority) latest) same]
      simp [before]
    · have other : stream ≠ ⟨priority.orderId,id⟩ := by
        rintro rfl
        exact same rfl
      simp [wanted_of_other same,other]
  sound := PriorityQueue.sound_modify represents.sound fun level _ sound =>
    sound.insert id priority.orderId

theorem stay_iff (known : latest id = some old)
    (stays : priority2index old = priority2index priority) :
    Represents queue (Function.update latest id (some priority)) ↔ old.orderId = priority.orderId := by
  have renamed : Function.update latest id (some priority) id = some priority := Function.update_self ..
  constructor
  · intro after
    have held := (after.members _ _).mp (represents.holds_of_latest known)
    exact congrArg OrderedStream.orderId ((wanted_of_same renamed rfl).mp held).2
  · intro sameOrder
    refine ⟨fun other => ?_,fun index stream => ?_,represents.sound⟩
    · by_cases same : other = id
      · rw [represents.placed,same,known,renamed]
        exact congrArg some stays
      · rw [represents.placed,Function.update_of_ne same]
    · rw [represents.members]
      by_cases same : stream.streamId = id
      · rw [wanted_of_same known same,wanted_of_same renamed same,stays,sameOrder]
      · rw [wanted_of_other same]

theorem move_iff (valid : priority2index priority < queue.levels.length)
    (known : latest id = some old) (moves : priority2index old ≠ priority2index priority) :
    Represents
      {levels := (queue.levels.modify (priority2index old) (·.eraseStream id)).modify
         (priority2index priority) (·.insert id priority.orderId)
       writableStreamsToLevel := queue.writableStreamsToLevel.insert id (priority2index priority)}
      (Function.update latest id (some priority)) ↔ Removable queue latest id := by
  have renamed : Function.update latest id (some priority) id = some priority := Function.update_self ..
  have room : priority2index priority <
      (queue.levels.modify (priority2index old) (·.eraseStream id)).length := by
    rw [List.length_modify]
    exact valid
  constructor
  · intro after
    have findable : Findable queue latest id := by
      intro priority' there
      obtain rfl : priority' = old := Option.some.inj (there.symm.trans known)
      by_contra lost
      -- The entry of the old bucket is not found and stays.
      have left := (PriorityQueue.holds_eraseStream represents.sound).mpr
        ⟨represents.holds_of_latest known,fun gone => lost gone.2.symm⟩
      have still := (after.members _ _).mp ((PriorityQueue.holds_insert room).mpr (.inl left))
      exact moves ((wanted_of_same renamed rfl).mp still).1
    refine (represents.removable_iff known findable).mp fun level found => ?_
    refine after.sound _ (List.mem_of_getElem? (i := priority2index old) ?_)
    dsimp only
    rw [List.getElem?_modify,PriorityQueue.getElem?_modify_self found]
    simp [moves.symm]
  · intro removable
    have emptied := (represents.erase_iff).mpr removable
    have present : queue.writableStreamsToLevel.lookup id = some (priority2index old) := by
      rw [represents.placed,known]
      rfl
    simp only [PriorityQueue.erase,present] at emptied
    have again := emptied.insert room (Function.update_self id none latest)
    rw [Function.update_idem] at again
    refine ⟨fun other => ?_,again.members,again.sound⟩
    exact (lookup_insert_update _ id other _).trans
      (placed_update represents.placed id other (some priority))

theorem update_iff (valid : priority2index priority < queue.levels.length)
    (known : latest id = some old) :
    Represents (queue.updateExistingStreamPriority id (priority2index old) priority)
      (Function.update latest id (some priority)) ↔ Movable queue latest id priority := by
  have movable : Movable queue latest id priority ↔
      if priority2index old = priority2index priority then old.orderId = priority.orderId
      else Removable queue latest id := by
    constructor
    · exact fun each => each old known
    · intro holds other there
      obtain rfl : other = old := Option.some.inj (there.symm.trans known)
      exact holds
  rw [movable]
  unfold PriorityQueue.updateExistingStreamPriority
  dsimp only
  split
  next stays => exact represents.stay_iff known stays
  next moves => exact represents.move_iff valid known moves

/-- Passes over the buckets move their iterators only. -/
theorem levels {levels : List Level}
    (same : ∀ index : Nat, levels[index]?.map Level.streams = queue.levels[index]?.map Level.streams)
    (sound : ∀ level ∈ levels, level.Sound) : Represents {queue with levels} latest := by
  refine ⟨represents.placed,fun index stream => ?_,sound⟩
  rw [← represents.members]
  have streams := same index
  unfold PriorityQueue.Holds
  cases here : levels[index]? with
  | none =>
    rw [here] at streams
    have nothing := (Option.map_eq_none_iff.mp streams.symm)
    simp [nothing]
  | some level =>
    rw [here] at streams
    obtain ⟨before,there,equal⟩ := Option.map_eq_some_iff.mp streams.symm
    simp [there,equal]

theorem modify {change : Level → Level} (same : ∀ level, (change level).streams = level.streams)
    (keeps : ∀ level : Level, level.Sound → (change level).Sound) (index : Nat) :
    Represents {queue with levels := queue.levels.modify index change} latest := by
  refine represents.levels (fun other => ?_)
    (PriorityQueue.sound_modify represents.sound fun level _ => keeps level)
  rw [List.getElem?_modify]
  cases queue.levels[other]? with
  | none => rfl
  | some level =>
    by_cases here : index = other
    · simp [here,same]
    · simp [here]

theorem getNextScheduledStream :
    Represents queue.getNextScheduledStream.2 latest := by
  unfold PriorityQueue.getNextScheduledStream
  split
  · exact represents
  next index _ =>
    split
    · exact represents
    next level found =>
      have sound := represents.sound level (List.mem_of_getElem? found)
      have valid : index < queue.levels.length := (List.getElem?_eq_some_iff.mp found).1
      refine represents.levels (fun other => ?_) fun other inside => ?_
      · by_cases here : index = other
        · subst here
          simp [List.getElem?_set_self valid,found]
        · rw [List.getElem?_set_ne here]
      · rcases List.mem_or_eq_of_mem_set inside with old | rfl
        · exact represents.sound other old
        · exact sound.begin

end Represents

namespace QueueRun

/-- There are as many buckets as there are levels of priority, each with its two kinds. -/
def Sized (run : QueueRun) : Prop := run.queue.levels.length = kDefaultPriorityLevelsSize

theorem updateExistingStreamPriority_sized (queue : PriorityQueue) (id : StreamId) (current : Nat)
    (priority : Priority) :
    (queue.updateExistingStreamPriority id current priority).levels.length = queue.levels.length := by
  unfold PriorityQueue.updateExistingStreamPriority
  dsimp only
  split
  · rfl
  · simp

variable {action : QueueAction}

theorem step_sized {run next : QueueRun} (sized : run.Sized) (taken : run.step action = .ok next) :
    next.Sized := by
  cases action with
  | insertOrUpdate id level incremental orderId =>
    cases taken
    simp only [Sized,PriorityQueue.insertOrUpdate]
    split
    · rw [updateExistingStreamPriority_sized,sized]
    · simpa [Sized] using sized
  | updateIfExist id level incremental orderId =>
    cases taken
    simp only [Sized,PriorityQueue.updateIfExist]
    split
    · rw [updateExistingStreamPriority_sized,sized]
    · exact sized
  | erase id =>
    cases taken
    simp only [Sized,PriorityQueue.erase]
    split
    · simpa [Sized] using sized
    · exact sized
  | begin index =>
    cases taken
    simpa [Sized] using sized
  | next index force =>
    simp only [step] at taken
    split at taken
    · cases taken
    · cases taken
      simpa [Sized] using sized
  | getNextScheduledStream =>
    cases taken
    simp only [Sized,PriorityQueue.getNextScheduledStream]
    split
    · exact sized
    · split
      · exact sized
      · simpa [Sized] using sized

theorem step_represents {run next : QueueRun} (sized : run.Sized)
    (represents : Represents run.queue run.latest) (taken : run.step action = .ok next) :
    Represents next.queue next.latest ↔ run.Orderly action := by
  have placed := represents.placed
  cases action with
  | insertOrUpdate id level incremental orderId =>
    cases taken
    have valid := sized.symm ▸ priority2index_lt level incremental orderId
    dsimp only [Orderly,PriorityQueue.insertOrUpdate]
    rw [placed]
    cases known : run.latest id with
    | some old => exact represents.update_iff valid known
    | none =>
      refine ⟨fun _ old there => ?_,fun _ => represents.insert valid known⟩
      rw [known] at there
      cases there
  | updateIfExist id level incremental orderId =>
    cases taken
    have valid := sized.symm ▸ priority2index_lt level incremental orderId
    dsimp only [Orderly,PriorityQueue.updateIfExist]
    rw [placed]
    cases known : run.latest id with
    | some old => exact represents.update_iff valid known
    | none =>
      have same : Function.update run.latest id none = run.latest := by
        rw [← known]
        exact Function.update_eq_self id run.latest
      refine ⟨fun _ old there => ?_,fun _ => ?_⟩
      · rw [known] at there
        cases there
      · show Represents run.queue (Function.update run.latest id none)
        rw [same]
        exact represents
  | erase id =>
    cases taken
    exact represents.erase_iff
  | begin index =>
    cases taken
    exact iff_of_true (represents.modify (fun _ => Level.begin_streams) (fun _ => .begin) index) trivial
  | next index force =>
    simp only [step] at taken
    split at taken
    · cases taken
    · cases taken
      refine iff_of_true (represents.modify (fun _ => Level.next_streams force) ?_ index) trivial
      exact fun _ sound => sound.next force
  | getNextScheduledStream =>
    cases taken
    exact iff_of_true represents.getNextScheduledStream trivial

theorem empty_represents : Represents ({} : QueueRun).queue ({} : QueueRun).latest where
  placed id := rfl
  members index stream := by
    refine iff_of_false ?_ (not_wanted_of_none rfl)
    rintro ⟨level,found,inside⟩
    obtain ⟨index,-,rfl⟩ := List.mem_map.mp (List.mem_of_getElem? found)
    cases inside
  sound level inside := by
    obtain ⟨index,-,rfl⟩ := List.mem_map.mp inside
    exact ⟨.nil,fun _ at_ => (by cases at_),fun _ at_ => (by cases at_)⟩

/-- The queue stands for the map throughout a run exactly if every operation is orderly. -/
theorem priority_queue_refines (actions : List QueueAction) :
    Throughout step (fun run => Represents run.queue run.latest) {} actions ↔
      StepsMeet step Orderly {} actions :=
  throughout_iff_stepsMeet (fun _ _ _ sized represents taken =>
    ⟨fun _ => step_sized sized taken,step_represents sized represents taken⟩) rfl empty_represents

/-- A stream that had an order id in a bucket and comes back without one is left behind when it is
erased, a new order id for the same bucket is not noticed, and a round robin that began at a stream is
still to stop at it when it is erased. -/
theorem erased_stream_left_behind :
    (∃ reached, run step {}
        [.insertOrUpdate 0 3 true 5,.erase 0,.insertOrUpdate 0 3 true 0,.erase 0] = .ok reached ∧
      reached.latest 0 = none ∧ reached.queue.writableStreamsToLevel.lookup 0 = none ∧
      reached.queue.Holds 7 ⟨0,0⟩) ∧
    (∃ reached, run step {} [.insertOrUpdate 0 3 true 5,.updateIfExist 0 3 true 7] = .ok reached ∧
      reached.latest 0 = some ⟨3,true,7⟩ ∧ reached.queue.Holds 7 ⟨5,0⟩) ∧
    ∃ reached level, run step {} [.insertOrUpdate 0 3 true 0,.getNextScheduledStream,.erase 0] =
        .ok reached ∧ reached.queue.levels[7]? = some level ∧ level.streams = [] ∧
      level.startStreamIt = some ⟨0,0⟩ :=
  ⟨⟨_,rfl,rfl,rfl,_,rfl,List.mem_singleton.mpr rfl⟩,⟨_,rfl,rfl,_,rfl,List.mem_singleton.mpr rfl⟩,
    _,_,rfl,rfl,rfl,rfl⟩

end QueueRun

end StreamServer.State
