import Mathlib

/-! Partially known texts. A chunk is a piece of a text at an offset; a sparse list
of chunks holds pieces in order with a gap between any two. Inserting a chunk
merges it with all the chunks it overlaps or touches. -/
namespace StreamServer.Lib.Chunks

variable {α : Type} {n : Nat} {text : List α}

structure Chunk (α : Type) where
  offset : Nat
  data : List α

def Chunk.stop (chunk : Chunk α) : Nat := chunk.offset + chunk.data.length

def Chunk.Holds (chunk : Chunk α) (n : Nat) : Prop := chunk.offset ≤ n ∧ n < chunk.stop

/-- The chunk's elements are those of the text at the chunk's offset. -/
def Chunk.Agrees (text : List α) (chunk : Chunk α) : Prop :=
  ∀ k < chunk.data.length, chunk.data[k]? = text[chunk.offset + k]?

def Before (a b : Chunk α) : Prop := a.stop < b.offset

def Covers (chunks : List (Chunk α)) (n : Nat) : Prop := ∃ chunk ∈ chunks, chunk.Holds n

structure Sparse (chunks : List (Chunk α)) : Prop where
  separated : chunks.Pairwise Before
  nonempty : ∀ chunk ∈ chunks, chunk.data ≠ []

/-- The first chunk continued by what the second holds past its end. -/
def extend (first second : Chunk α) : Chunk α :=
  ⟨first.offset,first.data ++ second.data.drop (first.stop - second.offset)⟩

/-- A chunk placed in front of chunks that start after it swallows those it reaches. -/
def absorb (current : Chunk α) : List (Chunk α) → List (Chunk α)
  | [] => [current]
  | item :: rest =>
    if current.stop < item.offset then current :: item :: rest
    else if current.stop ≤ item.stop then extend current item :: rest
    else absorb current rest

def insertChunk (chunk : Chunk α) : List (Chunk α) → List (Chunk α)
  | [] => [chunk]
  | item :: rest =>
    if item.stop < chunk.offset then item :: insertChunk chunk rest
    else if item.offset ≤ chunk.offset ∧ chunk.stop ≤ item.stop then item :: rest
    else if chunk.offset ≤ item.offset then absorb chunk (item :: rest)
    else absorb (extend item chunk) rest

def trimFirst (n : Nat) : List (Chunk α) → List (Chunk α)
  | [] => []
  | chunk :: rest =>
    if chunk.data.length ≤ n then rest else ⟨chunk.offset + n,chunk.data.drop n⟩ :: rest

theorem sparse_nil : Sparse ([] : List (Chunk α)) := ⟨.nil,by simp⟩

variable {chunks : List (Chunk α)} {chunk : Chunk α}

theorem sparse_cons :
    Sparse (chunk :: chunks) ↔
      chunk.data ≠ [] ∧ (∀ other ∈ chunks, Before chunk other) ∧ Sparse chunks := by
  constructor
  · rintro ⟨separated,nonempty⟩
    obtain ⟨first,rest⟩ := List.pairwise_cons.mp separated
    obtain ⟨filled,nonempty⟩ := List.forall_mem_cons.mp nonempty
    exact ⟨filled,first,rest,nonempty⟩
  · rintro ⟨filled,first,separated,nonempty⟩
    exact ⟨List.pairwise_cons.mpr ⟨first,separated⟩,List.forall_mem_cons.mpr ⟨filled,nonempty⟩⟩

theorem covers_cons :
    Covers (chunk :: chunks) n ↔ chunk.Holds n ∨ Covers chunks n := by
  simp [Covers]

theorem not_covers_nil : ¬Covers ([] : List (Chunk α)) n := by simp [Covers]

theorem offset_lt_stop (filled : chunk.data ≠ []) : chunk.offset < chunk.stop := by
  have := List.length_pos_of_ne_nil filled
  simp only [Chunk.stop]
  omega

theorem extend_stop {first second : Chunk α} (reaches : second.offset ≤ first.stop)
    (beyond : first.stop ≤ second.stop) : (extend first second).stop = second.stop := by
  simp only [extend,Chunk.stop,List.length_append,List.length_drop] at *
  omega

theorem extend_filled {first second : Chunk α} (filled : first.data ≠ []) :
    (extend first second).data ≠ [] := by
  simp [extend,filled]

theorem extend_holds {first second : Chunk α} (ordered : first.offset ≤ second.offset)
    (reaches : second.offset ≤ first.stop) (beyond : first.stop ≤ second.stop) (n : Nat) :
    (extend first second).Holds n ↔ first.Holds n ∨ second.Holds n := by
  have same := extend_stop reaches beyond
  simp only [Chunk.Holds,same]
  simp only [extend]
  omega

theorem extend_agrees {first second : Chunk α} (agrees : first.Agrees text)
    (next : second.Agrees text) (reaches : second.offset ≤ first.stop) :
    (extend first second).Agrees text := by
  intro k inside
  simp only [extend,Chunk.stop,List.length_append,List.length_drop] at *
  by_cases left : k < first.data.length
  · rw [List.getElem?_append_left left]
    exact agrees k left
  · rw [List.getElem?_append_right (by omega),List.getElem?_drop,next _ (by omega)]
    congr 1
    omega

theorem absorb_offset (current : Chunk α) (chunks : List (Chunk α))
    (later : ∀ chunk ∈ chunks, current.offset ≤ chunk.offset) :
    ∀ chunk ∈ absorb current chunks, current.offset ≤ chunk.offset := by
  induction chunks with
  | nil => simp [absorb]
  | cons item rest ih =>
    obtain ⟨first,restLater⟩ := List.forall_mem_cons.mp later
    simp only [absorb]
    split
    · exact List.forall_mem_cons.mpr ⟨Nat.le_refl _,later⟩
    split
    · exact List.forall_mem_cons.mpr ⟨Nat.le_refl _,restLater⟩
    · exact ih restLater

variable {current : Chunk α}

theorem absorb_sparse (filled : current.data ≠ []) (sparse : Sparse chunks) :
    Sparse (absorb current chunks) := by
  induction chunks with
  | nil => exact sparse_cons.mpr ⟨filled,by simp,sparse_nil⟩
  | cons item rest ih =>
    obtain ⟨itemFilled,first,sparseRest⟩ := sparse_cons.mp sparse
    simp only [absorb]
    split
    · rename_i gap
      refine sparse_cons.mpr ⟨filled,List.forall_mem_cons.mpr ⟨gap,?_⟩,sparse⟩
      intro other member
      have := first other member
      have := offset_lt_stop itemFilled
      simp only [Before] at *
      omega
    split
    · rename_i touching within
      refine sparse_cons.mpr ⟨extend_filled filled,?_,sparseRest⟩
      intro other member
      simp only [Before,extend_stop (by omega) within]
      exact first other member
    · exact ih sparseRest

theorem absorb_covers (current : Chunk α) (later : ∀ chunk ∈ chunks, current.offset ≤ chunk.offset)
    (n : Nat) :
    Covers (absorb current chunks) n ↔ current.Holds n ∨ Covers chunks n := by
  induction chunks with
  | nil => simp [absorb,Covers]
  | cons item rest ih =>
    obtain ⟨after,restLater⟩ := List.forall_mem_cons.mp later
    simp only [absorb]
    split
    · exact covers_cons
    split
    · rename_i touching within
      rw [covers_cons,covers_cons,extend_holds after (by omega) within,or_assoc]
    · rename_i touching beyond
      rw [ih restLater,covers_cons]
      have swallowed : item.Holds n → current.Holds n := by
        simp only [Chunk.Holds]
        omega
      tauto

theorem absorb_agrees (agrees : current.Agrees text) (all : ∀ chunk ∈ chunks, chunk.Agrees text) :
    ∀ chunk ∈ absorb current chunks, chunk.Agrees text := by
  induction chunks with
  | nil => simpa [absorb] using agrees
  | cons item rest ih =>
    obtain ⟨itemAgrees,restAgrees⟩ := List.forall_mem_cons.mp all
    simp only [absorb]
    split
    · exact List.forall_mem_cons.mpr ⟨agrees,all⟩
    split
    · exact List.forall_mem_cons.mpr ⟨extend_agrees agrees itemAgrees (by omega),restAgrees⟩
    · exact ih restAgrees

variable {rest : List (Chunk α)} {item : Chunk α}

theorem later_of_sparse (sparse : Sparse (item :: rest)) (bound : n ≤ item.stop) :
    ∀ chunk ∈ rest, n ≤ chunk.offset := by
  intro chunk member
  have := (sparse_cons.mp sparse).2.1 chunk member
  simp only [Before] at this
  omega

theorem later_of_first (sparse : Sparse (item :: rest)) (first : n ≤ item.offset) :
    ∀ chunk ∈ item :: rest, n ≤ chunk.offset := by
  have := offset_lt_stop (sparse_cons.mp sparse).1
  exact List.forall_mem_cons.mpr ⟨first,later_of_sparse sparse (by omega)⟩

theorem insertChunk_offset (bound : Nat) (sparse : Sparse chunks) (low : bound ≤ chunk.offset)
    (all : ∀ other ∈ chunks, bound ≤ other.offset) :
    ∀ other ∈ insertChunk chunk chunks, bound ≤ other.offset := by
  induction chunks with
  | nil => simpa [insertChunk] using low
  | cons item rest ih =>
    obtain ⟨itemLow,restLow⟩ := List.forall_mem_cons.mp all
    obtain ⟨itemFilled,behind,sparseRest⟩ := sparse_cons.mp sparse
    have itemOrdered := offset_lt_stop itemFilled
    simp only [insertChunk]
    split
    · exact List.forall_mem_cons.mpr ⟨itemLow,ih sparseRest restLow⟩
    split
    · exact all
    split
    · rename_i notBefore notInside first
      intro other member
      exact Nat.le_trans low (absorb_offset _ _ (later_of_first sparse first) other member)
    · intro other member
      refine Nat.le_trans itemLow (absorb_offset (extend item chunk) rest ?_ other member)
      exact later_of_sparse sparse (Nat.le_of_lt itemOrdered)

theorem insertChunk_sparse (filled : chunk.data ≠ []) (sparse : Sparse chunks) :
    Sparse (insertChunk chunk chunks) := by
  induction chunks with
  | nil => exact sparse_cons.mpr ⟨filled,by simp,sparse_nil⟩
  | cons item rest ih =>
    obtain ⟨itemFilled,behind,sparseRest⟩ := sparse_cons.mp sparse
    simp only [insertChunk]
    split
    · rename_i before
      refine sparse_cons.mpr ⟨itemFilled,?_,ih sparseRest⟩
      exact insertChunk_offset (item.stop + 1) sparseRest before behind
    split
    · exact sparse
    split
    · exact absorb_sparse filled sparse
    · exact absorb_sparse (extend_filled itemFilled) sparseRest

theorem insertChunk_covers (sparse : Sparse chunks) (n : Nat) :
    Covers (insertChunk chunk chunks) n ↔ chunk.Holds n ∨ Covers chunks n := by
  induction chunks with
  | nil => simp [insertChunk,Covers]
  | cons item rest ih =>
    obtain ⟨itemFilled,behind,sparseRest⟩ := sparse_cons.mp sparse
    have itemOrdered := offset_lt_stop itemFilled
    simp only [insertChunk]
    split
    · rw [covers_cons,ih sparseRest,covers_cons]
      tauto
    split
    · rename_i notBefore inside
      have contained : chunk.Holds n → item.Holds n := by
        simp only [Chunk.Holds]
        omega
      rw [covers_cons]
      tauto
    split
    · rename_i notBefore notInside first
      exact absorb_covers chunk (later_of_first sparse first) n
    · rename_i notBefore notInside notFirst
      have later := later_of_sparse sparse (Nat.le_of_lt itemOrdered)
      rw [absorb_covers (extend item chunk) later n,covers_cons,
        extend_holds (by omega) (by omega) (by omega)]
      tauto

theorem insertChunk_agrees (agrees : chunk.Agrees text)
    (all : ∀ other ∈ chunks, other.Agrees text) :
    ∀ other ∈ insertChunk chunk chunks, other.Agrees text := by
  induction chunks with
  | nil => simpa [insertChunk] using agrees
  | cons item rest ih =>
    obtain ⟨itemAgrees,restAgrees⟩ := List.forall_mem_cons.mp all
    simp only [insertChunk]
    split
    · exact List.forall_mem_cons.mpr ⟨itemAgrees,ih restAgrees⟩
    split
    · exact all
    split
    · exact absorb_agrees agrees all
    · exact absorb_agrees (extend_agrees itemAgrees agrees (by omega)) restAgrees

theorem trimFirst_sparse (sparse : Sparse chunks) (n : Nat) :
    Sparse (trimFirst n chunks) := by
  cases chunks with
  | nil => exact sparse_nil
  | cons chunk rest =>
    obtain ⟨filled,behind,sparseRest⟩ := sparse_cons.mp sparse
    simp only [trimFirst]
    split
    · exact sparseRest
    · rename_i some_left
      refine sparse_cons.mpr ⟨?_,?_,sparseRest⟩
      · intro empty
        have := congrArg List.length empty
        simp only [List.length_drop,List.length_nil] at this
        omega
      · intro other member
        have := behind other member
        simp only [Before,Chunk.stop,List.length_drop] at *
        omega

theorem trimFirst_offset (sparse : Sparse (chunk :: rest)) (within : n ≤ chunk.data.length) :
    ∀ other ∈ trimFirst n (chunk :: rest), chunk.offset + n ≤ other.offset := by
  have later := later_of_sparse sparse (Nat.add_le_add_left within chunk.offset)
  simp only [trimFirst]
  split
  · exact later
  · exact List.forall_mem_cons.mpr ⟨Nat.le_refl _,later⟩

theorem trimFirst_covers (sparse : Sparse (chunk :: rest)) (within : n ≤ chunk.data.length)
    (m : Nat) :
    Covers (trimFirst n (chunk :: rest)) m ↔
      chunk.offset + n ≤ m ∧ Covers (chunk :: rest) m := by
  have later : Covers rest m → chunk.stop < m := by
    rintro ⟨other,member,low,_⟩
    have := (sparse_cons.mp sparse).2.1 other member
    simp only [Before] at this
    omega
  simp only [trimFirst]
  split
  · rw [covers_cons]
    simp only [Chunk.Holds,Chunk.stop] at *
    constructor
    · intro covered
      have := later covered
      exact ⟨by omega,.inr covered⟩
    · rintro ⟨low,inside | covered⟩
      · omega
      · exact covered
  · rw [covers_cons,covers_cons]
    simp only [Chunk.Holds,Chunk.stop,List.length_drop] at *
    constructor
    · rintro (inside | covered)
      · exact ⟨by omega,.inl (by omega)⟩
      · have := later covered
        exact ⟨by omega,.inr covered⟩
    · rintro ⟨low,inside | covered⟩
      · exact .inl (by omega)
      · exact .inr covered

theorem trimFirst_agrees (all : ∀ chunk ∈ chunks, chunk.Agrees text) (n : Nat) :
    ∀ chunk ∈ trimFirst n chunks, chunk.Agrees text := by
  cases chunks with
  | nil => simp [trimFirst]
  | cons chunk rest =>
    obtain ⟨agrees,restAgrees⟩ := List.forall_mem_cons.mp all
    simp only [trimFirst]
    split
    · exact restAgrees
    · refine List.forall_mem_cons.mpr ⟨?_,restAgrees⟩
      intro k inside
      simp only [List.length_drop] at inside
      rw [List.getElem?_drop,agrees (n + k) (by omega),Nat.add_assoc]

theorem Chunk.Agrees.within (agrees : chunk.Agrees text) (filled : chunk.data ≠ []) :
    chunk.stop ≤ text.length := by
  have positive := List.length_pos_of_ne_nil filled
  have last := agrees (chunk.data.length - 1) (by omega)
  rw [List.getElem?_eq_getElem (by omega)] at last
  have inside := (List.getElem?_eq_some_iff.mp last.symm).1
  simp only [Chunk.stop]
  omega

theorem Chunk.Agrees.take (agrees : chunk.Agrees text) (within : n ≤ chunk.data.length) :
    chunk.data.take n = (text.drop chunk.offset).take n := by
  apply List.ext_getElem?
  intro k
  rw [List.getElem?_take,List.getElem?_take]
  split
  · rw [List.getElem?_drop]
    exact agrees k (by omega)
  · rfl

theorem sparse_full {low high : Nat} (sparse : Sparse chunks)
    (above : ∀ chunk ∈ chunks, low ≤ chunk.offset) (below : ∀ chunk ∈ chunks, chunk.stop ≤ high)
    (full : ∀ n, low ≤ n → n < high → Covers chunks n) (proper : low < high) :
    ∃ chunk, chunks = [chunk] ∧ chunk.offset = low ∧ chunk.stop = high := by
  cases chunks with
  | nil => exact absurd (full low (Nat.le_refl _) proper) not_covers_nil
  | cons chunk rest =>
    obtain ⟨filled,behind,sparseRest⟩ := sparse_cons.mp sparse
    obtain ⟨chunkAbove,_⟩ := List.forall_mem_cons.mp above
    obtain ⟨chunkBelow,restBelow⟩ := List.forall_mem_cons.mp below
    have ordered := offset_lt_stop filled
    have notLater : ∀ n ≤ chunk.stop, ¬Covers rest n := by
      rintro n bound ⟨other,member,start,_⟩
      have := behind other member
      simp only [Before] at this
      omega
    have first : chunk.offset = low := by
      rcases covers_cons.mp (full low (Nat.le_refl _) proper) with ⟨start,_⟩ | later
      · omega
      · exact absurd later (notLater low (by omega))
    have last : chunk.stop = high := by
      by_contra short
      rcases covers_cons.mp (full chunk.stop (by omega) (by omega)) with ⟨_,inside⟩ | later
      · omega
      · exact absurd later (notLater _ (Nat.le_refl _))
    refine ⟨chunk,?_,first,last⟩
    cases rest with
    | nil => rfl
    | cons other more =>
      have gap := behind other List.mem_cons_self
      have bound := restBelow other List.mem_cons_self
      have otherOrdered := offset_lt_stop (sparse_cons.mp sparseRest).1
      simp only [Before] at gap
      omega

end StreamServer.Lib.Chunks
