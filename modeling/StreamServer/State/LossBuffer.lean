import StreamServer.State.Reassembly

/-! The loss buffer of a stream as a set of positions. Lost parts of a text are inserted and removed
again; a removal looks at one entry only, so it does not always remove what it should. -/
namespace StreamServer.State
open Protocol Lib.Transition Lib.SortedList

def StreamBuffer.Holds (buffer : StreamBuffer) (position : Nat) : Prop :=
  buffer.offset ≤ position ∧ position < buffer.stop

/-- A loss buffer, with the positions that should be in it and whether the FIN should. -/
structure LossRun where
  lossBuffer : List StreamBuffer := []
  positions : Finset Nat := ∅
  fin : Bool := false

/-- A part of the text is lost, or it is acknowledged after all. -/
inductive LossAction (text : Bytes) where
  | insert (slice : Slice text)
  | remove (slice : Slice text)

/-- What is lost has a byte or the FIN, and no byte of it is lost already. -/
def LossRun.step {text : Bytes} (run : LossRun) : LossAction text → Except Error LossRun
  | .insert slice =>
    if Disjoint slice.positions run.positions ∧ (0 < slice.len ∨ slice.fin) then
      .ok {
        lossBuffer := insertIntoLossBuffer run.lossBuffer ⟨slice.data,slice.offset,slice.fin⟩
        positions := run.positions ∪ slice.positions
        fin := run.fin || slice.fin}
    else .error (.standard "not a new part of the text")
  | .remove slice => .ok {
      lossBuffer := removeFromLossBuffer run.lossBuffer slice.offset slice.len slice.fin
      positions := run.positions \ slice.positions
      fin := run.fin && !slice.fin}

/-- An entry of the loss buffer is a part of the text, with a byte or the FIN. -/
structure LostPart (text : Bytes) (buffer : StreamBuffer) : Prop where
  agrees : buffer.chunk.Agrees text
  within : buffer.stop ≤ text.length
  filled : buffer.data ≠ [] ∨ buffer.eof = true
  finAtEnd : buffer.eof = true → buffer.stop = text.length

def InOrder (lossBuffer : List StreamBuffer) : Prop :=
  lossBuffer.Pairwise fun a b => a.stop ≤ b.offset

/-- The entries are sorted and disjoint parts of the text, at the positions that should be there. -/
structure LossRun.Exact (text : Bytes) (run : LossRun) : Prop where
  ordered : InOrder run.lossBuffer
  parts : ∀ buffer ∈ run.lossBuffer, LostPart text buffer
  positions : ∀ position, position ∈ run.positions ↔
    ∃ buffer ∈ run.lossBuffer, buffer.Holds position
  fin : run.fin = true → ∃ buffer ∈ run.lossBuffer, buffer.eof = true

/-- The range that is removed contains the entry or is contained in it. -/
def Nested (offset len : Nat) (buffer : StreamBuffer) : Prop :=
  (offset ≥ buffer.offset ∧ offset + len ≤ buffer.stop) ∨
    (buffer.offset ≥ offset ∧ buffer.stop ≤ offset + len)

instance (offset len : Nat) (buffer : StreamBuffer) : Decidable (Nested offset len buffer) :=
  inferInstanceAs (Decidable (_ ∨ _))

def Overlaps {text : Bytes} (slice : Slice text) (buffer : StreamBuffer) : Prop :=
  ∃ position ∈ slice.positions, buffer.Holds position

/-- What is removed overlaps at most one entry, contains it or is contained in it, and has no FIN
that the entry does not have. -/
def LossRun.Alone {text : Bytes} (run : LossRun) : LossAction text → Prop
  | .insert _ => True
  | .remove slice => ∀ buffer ∈ run.lossBuffer, Overlaps slice buffer →
      Nested slice.offset slice.len buffer ∧ (slice.fin = true → buffer.eof = true) ∧
        ∀ other ∈ run.lossBuffer, Overlaps slice other → other = buffer

section Insertion

variable {text : Bytes} {lossBuffer : List StreamBuffer} {buf : StreamBuffer}

def StreamBuffer.continuedBy (previous buf : StreamBuffer) : StreamBuffer :=
  {previous with data := previous.data ++ buf.data, eof := buf.eof}

private theorem insert_cases (lossBuffer : List StreamBuffer) (buf : StreamBuffer) :
    ∃ before after, lossBuffer = before ++ after ∧
      before = lossBuffer.takeWhile (fun buffer => buffer.offset ≤ buf.offset) ∧
      after = lossBuffer.dropWhile (fun buffer => buffer.offset ≤ buf.offset) ∧
      (insertIntoLossBuffer lossBuffer buf = before ++ buf :: after ∨
        ∃ front previous, before = front ++ [previous] ∧ previous.stop = buf.offset ∧
          insertIntoLossBuffer lossBuffer buf = front ++ previous.continuedBy buf :: after) := by
  refine ⟨_,_,(List.takeWhile_append_dropWhile ..).symm,rfl,rfl,?_⟩
  unfold insertIntoLossBuffer
  dsimp only
  split
  next none =>
    rw [List.getLast?_eq_none_iff] at none
    left
    rw [none,List.nil_append]
  next previous last =>
    obtain ⟨front,shape⟩ := List.getLast?_eq_some_iff.mp last
    split
    next adjacent =>
      refine .inr ⟨front,previous,shape,adjacent,?_⟩
      rw [shape,List.dropLast_concat]
      rfl
    next apart => exact .inl rfl

private theorem continuedBy_stop {previous : StreamBuffer} (adjacent : previous.stop = buf.offset) :
    (previous.continuedBy buf).stop = buf.stop := by
  unfold StreamBuffer.stop at *
  simp only [StreamBuffer.continuedBy,List.length_append]
  omega

private theorem continuedBy_holds {previous : StreamBuffer} (adjacent : previous.stop = buf.offset)
    (position : Nat) :
    (previous.continuedBy buf).Holds position ↔ previous.Holds position ∨ buf.Holds position := by
  have stop := continuedBy_stop adjacent
  have low : previous.offset ≤ previous.stop := Nat.le_add_right _ _
  have high : buf.offset ≤ buf.stop := Nat.le_add_right _ _
  unfold StreamBuffer.Holds
  rw [stop]
  show previous.offset ≤ position ∧ _ ↔ _
  omega

private theorem insert_holds (position : Nat) :
    (∃ buffer ∈ insertIntoLossBuffer lossBuffer buf, buffer.Holds position) ↔
      (∃ buffer ∈ lossBuffer, buffer.Holds position) ∨ buf.Holds position := by
  obtain ⟨before,after,shape,-,-,result | ⟨front,previous,rfl,adjacent,result⟩⟩ :=
    insert_cases lossBuffer buf
  · rw [result,shape]
    simp only [List.mem_append,List.mem_cons,or_and_right,exists_or,exists_eq_left]
    rw [or_comm (a := buf.Holds position),or_assoc]
  · rw [result,shape]
    simp only [List.mem_append,List.mem_cons,or_and_right,exists_or,exists_eq_left,List.not_mem_nil,
      or_false,continuedBy_holds adjacent]
    rw [or_assoc (a := previous.Holds position),or_comm (a := buf.Holds position),or_assoc,or_assoc]

private theorem insert_forall {property : StreamBuffer → Prop}
    (entries : ∀ buffer ∈ lossBuffer, property buffer) (new : property buf)
    (continued : ∀ previous ∈ lossBuffer, previous.stop = buf.offset →
      property (previous.continuedBy buf)) :
    ∀ buffer ∈ insertIntoLossBuffer lossBuffer buf, property buffer := by
  obtain ⟨before,after,shape,-,-,result | ⟨front,previous,rfl,adjacent,result⟩⟩ :=
    insert_cases lossBuffer buf
  · rw [result]
    rw [shape] at entries
    obtain ⟨left,right⟩ := List.forall_mem_append.mp entries
    exact List.forall_mem_append.mpr ⟨left,List.forall_mem_cons.mpr ⟨new,right⟩⟩
  · rw [result]
    rw [shape] at entries continued
    obtain ⟨left,right⟩ := List.forall_mem_append.mp entries
    refine List.forall_mem_append.mpr ⟨(List.forall_mem_append.mp left).1,?_⟩
    exact List.forall_mem_cons.mpr ⟨continued previous (by simp) adjacent,right⟩

private theorem offset_lt_of_mem_dropWhile {bound : Nat} (ordered : InOrder lossBuffer)
    {buffer : StreamBuffer}
    (inside : buffer ∈ lossBuffer.dropWhile (fun buffer => buffer.offset ≤ bound)) :
    bound < buffer.offset := by
  refine Nat.lt_of_not_le (of_decide_eq_false (dropWhile_fails ordered ?_ buffer inside))
  intro a b before low
  have stop : a.offset ≤ a.stop := Nat.le_add_right _ _
  have low := of_decide_eq_true low
  exact decide_eq_true (by omega)

/-- A new entry fits when those that start before it or with it end before it, and those that start
after it start after its end. -/
def Fits (lossBuffer : List StreamBuffer) (buf : StreamBuffer) : Prop :=
  ∀ buffer ∈ lossBuffer,
    (buffer.offset ≤ buf.offset → buffer.stop ≤ buf.offset) ∧
      (buf.offset < buffer.offset → buf.stop ≤ buffer.offset)

private theorem insert_ordered (ordered : InOrder lossBuffer) (fits : Fits lossBuffer buf) :
    InOrder (insertIntoLossBuffer lossBuffer buf) := by
  obtain ⟨before,after,shape,low,high,result⟩ := insert_cases lossBuffer buf
  have below : ∀ buffer ∈ before, buffer.stop ≤ buf.offset := by
    intro buffer inside
    refine (fits buffer (by rw [shape]; exact List.mem_append_left _ inside)).1 ?_
    rw [low] at inside
    simpa using List.mem_takeWhile_imp inside
  have above : ∀ buffer ∈ after, buf.stop ≤ buffer.offset := by
    intro buffer inside
    refine (fits buffer (by rw [shape]; exact List.mem_append_right _ inside)).2 ?_
    rw [high] at inside
    exact offset_lt_of_mem_dropWhile ordered inside
  rw [shape] at ordered
  obtain ⟨left,right,between⟩ := List.pairwise_append.mp ordered
  rcases result with result | ⟨front,previous,rfl,adjacent,result⟩
  · rw [result]
    refine List.pairwise_append.mpr ⟨left,List.pairwise_cons.mpr ⟨above,right⟩,?_⟩
    exact fun a inside => List.forall_mem_cons.mpr ⟨below a inside,between a inside⟩
  · obtain ⟨front_ordered,-,last⟩ := List.pairwise_append.mp left
    rw [result]
    refine List.pairwise_append.mpr ⟨front_ordered,List.pairwise_cons.mpr ⟨?_,right⟩,?_⟩
    · intro b later
      rw [continuedBy_stop adjacent]
      exact above b later
    · intro a inside
      exact List.forall_mem_cons.mpr ⟨last a inside previous List.mem_cons_self,
        between a (List.mem_append_left _ inside)⟩

private theorem continuedBy_lost {previous : StreamBuffer} (first : LostPart text previous)
    (second : LostPart text buf) (adjacent : previous.stop = buf.offset) :
    LostPart text (previous.continuedBy buf) := by
  have stop := continuedBy_stop adjacent
  refine ⟨?_,by rw [stop]; exact second.within,?_,fun eof => by rw [stop]; exact second.finAtEnd eof⟩
  · intro k inside
    change k < (previous.data ++ buf.data).length at inside
    show (previous.data ++ buf.data)[k]? = text[previous.offset + k]?
    rw [List.length_append] at inside
    by_cases left : k < previous.data.length
    · rw [List.getElem?_append_left left]
      exact first.agrees k left
    · have from_second := second.agrees (k - previous.data.length)
        (show k - previous.data.length < buf.data.length by omega)
      rw [List.getElem?_append_right (by omega)]
      refine from_second.trans ?_
      congr 1
      unfold StreamBuffer.stop at adjacent
      show buf.offset + _ = _
      omega
  · rcases second.filled with data | eof
    · exact .inl fun none => data (List.append_eq_nil_iff.mp none).2
    · exact .inr eof

private theorem insert_mem {buffer : StreamBuffer} (inside : buffer ∈ lossBuffer)
    (apart : buffer.stop ≠ buf.offset) : buffer ∈ insertIntoLossBuffer lossBuffer buf := by
  obtain ⟨before,after,shape,-,-,result | ⟨front,previous,rfl,adjacent,result⟩⟩ :=
    insert_cases lossBuffer buf
  · rw [result]
    rw [shape] at inside
    rcases List.mem_append.mp inside with left | right
    · exact List.mem_append_left _ left
    · exact List.mem_append_right _ (List.mem_cons_of_mem _ right)
  · have other : buffer ≠ previous := fun same => apart (same ▸ adjacent)
    rw [result]
    rw [shape] at inside
    simp only [List.mem_append,List.mem_cons,List.not_mem_nil,or_false,other] at inside ⊢
    tauto

private theorem insert_new : ∃ buffer ∈ insertIntoLossBuffer lossBuffer buf, buffer.eof = buf.eof := by
  obtain ⟨before,after,-,-,-,result | ⟨front,previous,-,-,result⟩⟩ := insert_cases lossBuffer buf
  · rw [result]
    exact ⟨buf,by simp,rfl⟩
  · rw [result]
    exact ⟨previous.continuedBy buf,by simp,rfl⟩

/-- The FIN stays, since nothing but the FIN comes after it. -/
private theorem insert_fin (parts : ∀ buffer ∈ lossBuffer, LostPart text buffer)
    (part : LostPart text buf) (fin : buf.eof = true ∨ ∃ buffer ∈ lossBuffer, buffer.eof = true) :
    ∃ buffer ∈ insertIntoLossBuffer lossBuffer buf, buffer.eof = true := by
  by_cases new : buf.eof = true
  · obtain ⟨buffer,inside,same⟩ := insert_new
    exact ⟨buffer,inside,same.trans new⟩
  · obtain ⟨buffer,inside,eof⟩ := fin.resolve_left new
    refine ⟨buffer,insert_mem inside ?_,eof⟩
    have ends := (parts buffer inside).finAtEnd eof
    have data := List.length_pos_of_ne_nil (part.filled.resolve_right new)
    have within := part.within
    unfold StreamBuffer.stop at *
    omega

end Insertion

section Removal

variable {text : Bytes} {before rest lossBuffer : List StreamBuffer} {item : StreamBuffer}
  {offset len : Nat} {eof : Bool}

/-- What stays of the entry behind the range that is removed. -/
def StreamBuffer.trimmed (item : StreamBuffer) (offset len : Nat) : StreamBuffer :=
  let tail := item.data.drop (offset - item.offset)
  ⟨tail.drop len,item.offset + (offset - item.offset) + min len tail.length,item.eof⟩

/-- What stays of the entry in front of the range that is removed. -/
def StreamBuffer.splitOff (item : StreamBuffer) (offset : Nat) : StreamBuffer :=
  ⟨item.data.take (offset - item.offset),item.offset,false⟩

def keepTrimmed (before : List StreamBuffer) (item : StreamBuffer) (rest : List StreamBuffer)
    (offset len : Nat) (eof : Bool) : List StreamBuffer :=
  if (item.trimmed offset len).data.isEmpty ∧ item.eof = eof then before ++ rest
  else before ++ item.trimmed offset len :: rest

def excise (before : List StreamBuffer) (item : StreamBuffer) (rest : List StreamBuffer)
    (offset len : Nat) (eof : Bool) : List StreamBuffer :=
  if offset > item.offset then
    insertIntoLossBuffer (keepTrimmed before item rest offset len eof) (item.splitOff offset)
  else keepTrimmed before item rest offset len eof

private theorem loop_cons :
    removeFromLossBufferLoop offset len eof before (item :: rest) =
      if item.offset > offset + len then before ++ item :: rest
      else if Nested offset len item then excise before item rest offset len eof
      else removeFromLossBufferLoop offset len eof (before ++ [item]) rest := by
  have amount : (if offset > item.offset then offset - item.offset else 0) = offset - item.offset := by
    split_ifs with behind
    · rfl
    · omega
  rw [removeFromLossBufferLoop]
  simp only [amount]
  unfold excise keepTrimmed
  simp only [Nat.sub_pos_iff_lt]
  rfl

private theorem loop_cases (before rest : List StreamBuffer) :
    (∃ skipped item later, rest = skipped ++ item :: later ∧
        (∀ buffer ∈ skipped, ¬Nested offset len buffer) ∧ Nested offset len item ∧
        removeFromLossBufferLoop offset len eof before rest =
          excise (before ++ skipped) item later offset len eof) ∨
      (removeFromLossBufferLoop offset len eof before rest = before ++ rest ∧
        ∃ skipped later, rest = skipped ++ later ∧ (∀ buffer ∈ skipped, ¬Nested offset len buffer) ∧
          ∀ buffer ∈ later.head?, offset + len < buffer.offset) := by
  induction rest generalizing before with
  | nil => exact .inr ⟨by rw [removeFromLossBufferLoop,List.append_nil],[],[],rfl,by simp,by simp⟩
  | cons item rest ih =>
    rw [loop_cons]
    split_ifs with far nested
    · exact .inr ⟨rfl,[],item :: rest,rfl,by simp,by simpa using far⟩
    · refine .inl ⟨[],item,rest,rfl,by simp,nested,?_⟩
      rw [List.append_nil]
    · rcases ih (before ++ [item]) with
        ⟨skipped,found,later,shape,others,here,result⟩ | ⟨result,skipped,later,shape,others,beyond⟩
      · refine .inl ⟨item :: skipped,found,later,by rw [shape]; rfl,?_,here,?_⟩
        · exact List.forall_mem_cons.mpr ⟨nested,others⟩
        · rw [result,List.append_assoc]
          rfl
      · refine .inr ⟨by rw [result,List.append_assoc]; rfl,item :: skipped,later,by rw [shape]; rfl,?_,
          beyond⟩
        exact List.forall_mem_cons.mpr ⟨nested,others⟩

private theorem le_trimmed_offset :
    item.offset + (offset - item.offset) ≤ (item.trimmed offset len).offset := Nat.le_add_right _ _

private theorem splitOff_holds (position : Nat) :
    (item.splitOff offset).Holds position ↔ item.Holds position ∧ position < offset := by
  unfold StreamBuffer.Holds StreamBuffer.splitOff StreamBuffer.stop at *
  simp only [List.length_take]
  omega

private theorem not_holds_of_empty {buffer : StreamBuffer} (empty : buffer.data = []) (position : Nat) :
    ¬buffer.Holds position := by
  unfold StreamBuffer.Holds StreamBuffer.stop
  rw [empty,List.length_nil]
  omega

private theorem keep_holds (position : Nat) :
    (∃ buffer ∈ keepTrimmed before item rest offset len eof, buffer.Holds position) ↔
      (∃ buffer ∈ before ++ rest, buffer.Holds position) ∨
        (item.trimmed offset len).Holds position := by
  unfold keepTrimmed
  split_ifs with erased
  · have nothing := not_holds_of_empty (List.isEmpty_iff.mp erased.1) position
    rw [or_iff_left nothing]
  · simp only [List.mem_append,List.mem_cons,or_and_right,exists_or,exists_eq_left]
    rw [or_comm (a := (item.trimmed offset len).Holds position),or_assoc]

private theorem mem_keep {buffer : StreamBuffer}
    (inside : buffer ∈ keepTrimmed before item rest offset len eof) :
    buffer ∈ before ∨ buffer = item.trimmed offset len ∨ buffer ∈ rest := by
  unfold keepTrimmed at inside
  split_ifs at inside
  · rcases List.mem_append.mp inside with left | right
    · exact .inl left
    · exact .inr (.inr right)
  · rcases List.mem_append.mp inside with left | right
    · exact .inl left
    · exact .inr (List.mem_cons.mp right)

private theorem splitOff_lost (part : LostPart text item) (behind : offset > item.offset)
    (within : offset ≤ item.stop) : LostPart text (item.splitOff offset) := by
  have length : (item.data.take (offset - item.offset)).length = offset - item.offset := by
    unfold StreamBuffer.stop at within
    rw [List.length_take]
    omega
  refine ⟨?_,?_,.inl ?_,fun fin => by cases fin⟩
  · intro k inside
    change k < (item.data.take (offset - item.offset)).length at inside
    show (item.data.take (offset - item.offset))[k]? = text[item.offset + k]?
    rw [List.getElem?_take_of_lt (by omega)]
    unfold StreamBuffer.stop at within
    exact part.agrees k (by simp only [StreamBuffer.chunk]; omega)
  · have top := part.within
    unfold StreamBuffer.stop at *
    show item.offset + (item.data.take (offset - item.offset)).length ≤ _
    omega
  · intro empty
    change item.data.take (offset - item.offset) = [] at empty
    rw [empty,List.length_nil] at length
    omega

variable (nested : Nested offset len item)
include nested

private theorem trimmed_stop :
    (item.trimmed offset len).stop = item.stop := by
  unfold Nested StreamBuffer.trimmed StreamBuffer.stop at *
  simp only [List.length_drop]
  omega

private theorem trimmed_holds (position : Nat) :
    (item.trimmed offset len).Holds position ↔ item.Holds position ∧ offset + len ≤ position := by
  unfold StreamBuffer.Holds
  rw [trimmed_stop nested]
  unfold Nested StreamBuffer.trimmed StreamBuffer.stop at *
  simp only [List.length_drop]
  omega

private theorem excise_holds (position : Nat) :
    (∃ buffer ∈ excise before item rest offset len eof, buffer.Holds position) ↔
      (∃ buffer ∈ before ++ rest, buffer.Holds position) ∨
        (item.Holds position ∧ ¬(offset ≤ position ∧ position < offset + len)) := by
  unfold excise
  split_ifs with behind
  · rw [insert_holds,keep_holds,trimmed_holds nested,splitOff_holds,or_assoc]
    refine or_congr_right ?_
    unfold StreamBuffer.Holds
    omega
  · rw [keep_holds,trimmed_holds nested]
    refine or_congr_right ?_
    unfold StreamBuffer.Holds
    omega

private theorem keep_ordered (ordered : InOrder (before ++ item :: rest)) :
    InOrder (keepTrimmed before item rest offset len eof) := by
  obtain ⟨left,right,between⟩ := List.pairwise_append.mp ordered
  obtain ⟨first,right⟩ := List.pairwise_cons.mp right
  unfold keepTrimmed
  split_ifs with erased
  · exact List.pairwise_append.mpr
      ⟨left,right,fun a inside b later => between a inside b (List.mem_cons_of_mem _ later)⟩
  · refine List.pairwise_append.mpr ⟨left,List.pairwise_cons.mpr ⟨?_,right⟩,?_⟩
    · intro b later
      rw [trimmed_stop nested]
      exact first b later
    · intro a inside b later
      rcases List.mem_cons.mp later with rfl | later
      · have below := between a inside item List.mem_cons_self
        have above := @le_trimmed_offset item offset len
        omega
      · exact between a inside b (List.mem_cons_of_mem _ later)

private theorem excise_ordered (ordered : InOrder (before ++ item :: rest)) :
    InOrder (excise before item rest offset len eof) := by
  have kept := @keep_ordered _ _ _ _ _ eof nested ordered
  unfold excise
  split_ifs with behind
  · refine insert_ordered kept fun buffer inside => ?_
    obtain ⟨left,right,between⟩ := List.pairwise_append.mp ordered
    obtain ⟨first,right⟩ := List.pairwise_cons.mp right
    have stop : (item.splitOff offset).stop ≤ offset := by
      unfold StreamBuffer.splitOff StreamBuffer.stop
      simp only [List.length_take]
      omega
    have low : (item.splitOff offset).offset = item.offset := rfl
    rw [low]
    unfold Nested at nested
    rcases mem_keep inside with left | rfl | right
    · have below := between buffer left item List.mem_cons_self
      have nonneg : buffer.offset ≤ buffer.stop := Nat.le_add_right _ _
      omega
    · have above := @le_trimmed_offset item offset len
      omega
    · have above := first buffer right
      omega
  · exact kept

private theorem trimmed_lost (part : LostPart text item)
    (filled : (item.trimmed offset len).data ≠ [] ∨ item.eof = true) :
    LostPart text (item.trimmed offset len) := by
  have stop := trimmed_stop nested
  refine ⟨?_,by rw [stop]; exact part.within,filled,fun fin => by rw [stop]; exact part.finAtEnd fin⟩
  intro k inside
  change k < ((item.data.drop (offset - item.offset)).drop len).length at inside
  rw [List.length_drop,List.length_drop] at inside
  show ((item.data.drop (offset - item.offset)).drop len)[k]? =
    text[item.offset + (offset - item.offset) + min len (item.data.drop (offset - item.offset)).length + k]?
  rw [List.getElem?_drop,List.getElem?_drop]
  refine (part.agrees (offset - item.offset + (len + k)) (by simp only [StreamBuffer.chunk]; omega)).trans ?_
  rw [List.length_drop]
  congr 1
  show item.offset + _ = _
  omega

private theorem nested_behind (behind : offset > item.offset) : offset + len ≤ item.stop := by
  unfold Nested at nested
  omega

private theorem excise_parts (parts : ∀ buffer ∈ before ++ item :: rest, LostPart text buffer)
    (clean : (item.trimmed offset len).data = [] → eof = true → item.eof = true) :
    ∀ buffer ∈ excise before item rest offset len eof, LostPart text buffer := by
  have part := parts item (by simp)
  have kept : ∀ buffer ∈ keepTrimmed before item rest offset len eof, LostPart text buffer := by
    intro buffer inside
    unfold keepTrimmed at inside
    split_ifs at inside with erased
    · refine parts buffer ?_
      simp only [List.mem_append,List.mem_cons] at inside ⊢
      tauto
    · rcases List.mem_append.mp inside with left | right
      · exact parts buffer (List.mem_append_left _ left)
      rcases List.mem_cons.mp right with rfl | right
      · refine trimmed_lost nested part ?_
        by_cases empty : (item.trimmed offset len).data = []
        · right
          have differs : item.eof ≠ eof := fun same => erased ⟨List.isEmpty_iff.mpr empty,same⟩
          cases removed : eof with
          | true => exact clean empty removed
          | false => simpa [removed] using differs
        · exact .inl empty
      · exact parts buffer (List.mem_append_right _ (List.mem_cons_of_mem _ right))
  unfold excise
  split_ifs with behind
  · have split := splitOff_lost part behind (Nat.le_of_add_right_le (nested_behind nested behind))
    exact insert_forall kept split fun previous inside adjacent =>
      continuedBy_lost (kept previous inside) split adjacent
  · exact kept

private theorem trimmed_mem
    (stays : (item.trimmed offset len).data = [] → item.eof ≠ eof) :
    item.trimmed offset len ∈ excise before item rest offset len eof := by
  have kept : item.trimmed offset len ∈ keepTrimmed before item rest offset len eof := by
    unfold keepTrimmed
    rw [if_neg fun erased => stays (List.isEmpty_iff.mp erased.1) erased.2]
    simp
  unfold excise
  split_ifs with behind
  · refine insert_mem kept ?_
    have within := nested_behind nested behind
    rw [trimmed_stop nested]
    show item.stop ≠ item.offset
    omega
  · exact kept

private theorem excise_fin (parts : ∀ buffer ∈ before ++ item :: rest, LostPart text buffer)
    (fin : ∃ buffer ∈ before ++ item :: rest, buffer.eof = true) :
    ∃ buffer ∈ excise before item rest offset len false, buffer.eof = true := by
  obtain ⟨buffer,inside,eof⟩ := fin
  by_cases same : buffer = item
  · have last : item.eof = true := same ▸ eof
    refine ⟨item.trimmed offset len,trimmed_mem nested fun _ => ?_,last⟩
    rw [last]
    decide
  · have kept : buffer ∈ keepTrimmed before item rest offset len false := by
      unfold keepTrimmed
      simp only [List.mem_append,List.mem_cons,same,false_or] at inside
      split_ifs
      · exact List.mem_append.mpr inside
      · simp only [List.mem_append,List.mem_cons]
        tauto
    refine ⟨buffer,?_,eof⟩
    unfold excise
    split_ifs with behind
    · refine insert_mem kept ?_
      have ends := (parts buffer inside).finAtEnd eof
      have within := nested_behind nested behind
      have top := (parts item (by simp)).within
      show buffer.stop ≠ item.offset
      omega
    · exact kept

end Removal

namespace LossRun

variable {text : Bytes} {run next : LossRun} {slice : Slice text}

private theorem mem_positions {position : Nat} :
    position ∈ slice.positions ↔ slice.offset ≤ position ∧ position < slice.offset + slice.len := by
  unfold Slice.positions
  exact Finset.mem_Ico

private theorem slice_lost (filled : 0 < slice.len ∨ slice.fin = true) :
    LostPart text ⟨slice.data,slice.offset,slice.fin⟩ := by
  have length : slice.data.length = slice.len := by
    have inside := slice.inside
    simp only [Slice.data,List.length_take,List.length_drop]
    omega
  refine ⟨?_,?_,?_,?_⟩
  · intro k inside
    change k < slice.data.length at inside
    show slice.data[k]? = text[slice.offset + k]?
    rw [length] at inside
    simp only [Slice.data,List.getElem?_take,inside,if_true,List.getElem?_drop]
  · show slice.offset + slice.data.length ≤ _
    rw [length]
    exact slice.inside
  · refine filled.imp_left fun some none => ?_
    change slice.data = [] at none
    rw [none,List.length_nil] at length
    omega
  · intro fin
    show slice.offset + slice.data.length = _
    rw [length]
    exact slice.finAtEnd fin

private theorem slice_holds (position : Nat) :
    StreamBuffer.Holds ⟨slice.data,slice.offset,slice.fin⟩ position ↔ position ∈ slice.positions := by
  have inside := slice.inside
  rw [mem_positions]
  unfold StreamBuffer.Holds StreamBuffer.stop
  simp only [Slice.data,List.length_take,List.length_drop]
  omega

private theorem Exact.fits (exact_run : Exact text run) (apart : Disjoint slice.positions run.positions)
    (filled : 0 < slice.len ∨ slice.fin = true) :
    Fits run.lossBuffer ⟨slice.data,slice.offset,slice.fin⟩ := by
  intro buffer inside
  have part := exact_run.parts buffer inside
  have bound := slice.inside
  have stop : StreamBuffer.stop ⟨slice.data,slice.offset,slice.fin⟩ = slice.offset + slice.len := by
    unfold StreamBuffer.stop
    simp only [Slice.data,List.length_take,List.length_drop]
    omega
  have apart_at : ∀ position, buffer.Holds position →
      ¬(slice.offset ≤ position ∧ position < slice.offset + slice.len) := by
    intro position held both
    exact Finset.disjoint_left.mp apart (mem_positions.mpr both)
      ((exact_run.positions position).mpr ⟨buffer,inside,held⟩)
  have within := part.within
  rw [stop]
  constructor
  · intro (low : buffer.offset ≤ slice.offset)
    by_contra reaches
    have held : buffer.Holds slice.offset := ⟨low,Nat.lt_of_not_le reaches⟩
    have nothing := apart_at slice.offset held
    have ends := slice.finAtEnd (filled.resolve_left (by omega))
    simp only [not_le] at reaches
    omega
  · intro (high : slice.offset < buffer.offset)
    by_contra reaches
    rw [not_le] at reaches
    by_cases data : buffer.data = []
    · have ends := part.finAtEnd (part.filled.resolve_left (not_not_intro data))
      unfold StreamBuffer.stop at ends
      rw [data,List.length_nil] at ends
      omega
    · have length := List.length_pos_of_ne_nil data
      refine apart_at buffer.offset ⟨Nat.le_refl _,?_⟩ ⟨by omega,reaches⟩
      unfold StreamBuffer.stop
      omega

private theorem Exact.insert (exact_run : Exact text run)
    (stepped : run.step (.insert slice) = .ok next) : Exact text next := by
  change (if _ then _ else _) = _ at stepped
  split_ifs at stepped with allowed
  cases stepped
  obtain ⟨apart,filled⟩ := allowed
  have part := slice_lost filled
  refine ⟨insert_ordered exact_run.ordered (exact_run.fits apart filled),?_,?_,?_⟩
  · exact insert_forall exact_run.parts part fun previous inside adjacent =>
      continuedBy_lost (exact_run.parts previous inside) part adjacent
  · intro position
    show position ∈ run.positions ∪ slice.positions ↔ _
    rw [insert_holds,Finset.mem_union,exact_run.positions,slice_holds]
  · intro fin
    refine insert_fin exact_run.parts part ?_
    rcases Bool.or_eq_true_iff.mp fin with old | new
    · exact .inr (exact_run.fin old)
    · exact .inl new

private theorem Exact.unchanged_iff (exact_run : Exact text run)
    (same : removeFromLossBuffer run.lossBuffer slice.offset slice.len slice.fin = run.lossBuffer)
    (stepped : run.step (.remove slice) = .ok next) :
    Exact text next ↔ ∀ buffer ∈ run.lossBuffer, ¬Overlaps slice buffer := by
  cases stepped
  rw [same]
  constructor
  · rintro removed buffer inside ⟨position,member,held⟩
    have left := (removed.positions position).mpr ⟨buffer,inside,held⟩
    exact (Finset.mem_sdiff.mp left).2 member
  · intro none
    refine ⟨exact_run.ordered,exact_run.parts,fun position => ?_,fun fin => ?_⟩
    · rw [Finset.mem_sdiff,exact_run.positions]
      refine and_iff_left_of_imp ?_
      rintro ⟨buffer,inside,held⟩ member
      exact none buffer inside ⟨position,member,held⟩
    · exact exact_run.fin (Bool.and_eq_true_iff.mp fin).1

private theorem overlaps_filled {buffer : StreamBuffer} (overlaps : Overlaps slice buffer) :
    buffer.offset < slice.offset + slice.len ∧ slice.offset < buffer.stop ∧
      buffer.offset < buffer.stop ∧ 0 < slice.len := by
  obtain ⟨position,member,low,high⟩ := overlaps
  rw [mem_positions] at member
  omega

private theorem Exact.unfound (exact_run : Exact text run) {skipped later : List StreamBuffer}
    (shape : run.lossBuffer = skipped ++ later)
    (others : ∀ buffer ∈ skipped, ¬Nested slice.offset slice.len buffer)
    (beyond : ∀ buffer ∈ later.head?, slice.offset + slice.len < buffer.offset) :
    (∀ buffer ∈ run.lossBuffer, ¬Overlaps slice buffer) ↔ run.Alone (.remove slice) := by
  constructor
  · intro none buffer inside overlaps
    exact absurd overlaps (none buffer inside)
  · intro alone buffer inside overlaps
    have nested := (alone buffer inside overlaps).1
    rw [shape] at inside
    rcases List.mem_append.mp inside with left | right
    · exact others buffer left nested
    · have ordered := exact_run.ordered
      rw [shape] at ordered
      have reaches := (overlaps_filled overlaps).1
      cases later with
      | nil => exact absurd right List.not_mem_nil
      | cons head tail =>
        have above := beyond head rfl
        rcases List.mem_cons.mp right with rfl | right
        · omega
        · have after := (List.pairwise_cons.mp (List.pairwise_append.mp ordered).2.1).1 buffer right
          unfold StreamBuffer.stop at after
          omega

section Found

variable {skipped later : List StreamBuffer} {item : StreamBuffer}
  (nested : Nested slice.offset slice.len item)
include nested

private theorem overlaps_of_nested (some : 0 < slice.len)
    (filled : item.offset < item.stop) : Overlaps slice item := by
  refine ⟨max slice.offset item.offset,mem_positions.mpr ?_,?_⟩
  · unfold Nested at nested
    omega
  · unfold Nested StreamBuffer.Holds at *
    omega

variable (exact_run : Exact text run) (shape : run.lossBuffer = skipped ++ item :: later)
include exact_run shape

/-- The entry that is cut is the only one that overlaps, and leaves nothing empty behind. -/
private theorem Exact.alone
    (cut : next.lossBuffer = excise skipped item later slice.offset slice.len slice.fin)
    (positions : next.positions = run.positions \ slice.positions) (removed : Exact text next) :
    run.Alone (.remove slice) := by
  have only : ∀ buffer ∈ run.lossBuffer, Overlaps slice buffer → buffer = item := by
    rintro buffer inside ⟨position,member,held⟩
    by_contra other
    have rest : buffer ∈ skipped ++ later := by
      rw [shape] at inside
      simpa [other] using inside
    have left := (removed.positions position).mpr
      (by rw [cut]; exact (excise_holds nested position).mpr (.inl ⟨buffer,rest,held⟩))
    rw [positions] at left
    exact (Finset.mem_sdiff.mp left).2 member
  have fin : slice.fin = true → item.eof = true := by
    intro last
    by_contra unmarked
    have stays : item.trimmed slice.offset slice.len ∈ next.lossBuffer := by
      rw [cut,last]
      exact trimmed_mem nested fun _ => unmarked
    have data := (removed.parts _ stays).filled.resolve_right unmarked
    have length := List.length_pos_of_ne_nil data
    have held : (item.trimmed slice.offset slice.len).Holds
        (item.trimmed slice.offset slice.len).offset :=
      ⟨Nat.le_refl _,Nat.lt_add_of_pos_right length⟩
    obtain ⟨inside,behind⟩ := (trimmed_holds nested _).mp held
    have ends := slice.finAtEnd last
    have top := (exact_run.parts item (by rw [shape]; simp)).within
    exact absurd inside.2 (by omega)
  intro buffer inside overlaps
  obtain rfl := only buffer inside overlaps
  exact ⟨nested,fin,only⟩

variable (some : 0 < slice.len) (alone : run.Alone (.remove slice))
  (others : ∀ buffer ∈ skipped, ¬Nested slice.offset slice.len buffer)
include some alone others

private theorem Exact.others_apart :
    ∀ buffer ∈ skipped ++ later, ¬Overlaps slice buffer := by
  have here : item ∈ run.lossBuffer := by
    rw [shape]
    simp
  intro buffer inside overlaps
  have there : buffer ∈ run.lossBuffer := by
    rw [shape]
    simp only [List.mem_append,List.mem_cons] at inside ⊢
    tauto
  obtain ⟨nested_too,-,only⟩ := alone buffer there overlaps
  rcases List.mem_append.mp inside with left | right
  · exact others buffer left nested_too
  · have ordered := exact_run.ordered
    rw [shape] at ordered
    have after := (List.pairwise_cons.mp (List.pairwise_append.mp ordered).2.1).1 buffer right
    obtain ⟨-,-,long,-⟩ := overlaps_filled overlaps
    by_cases filled : item.offset < item.stop
    · obtain rfl := only item here (overlaps_of_nested nested some filled)
      omega
    · have part := exact_run.parts item here
      have empty : item.data = [] := by
        unfold StreamBuffer.stop at filled
        exact List.length_eq_zero_iff.mp (by omega)
      have ends := part.finAtEnd (part.filled.resolve_left (not_not_intro empty))
      have top := (exact_run.parts buffer there).within
      omega

private theorem Exact.cut
    (cut : next.lossBuffer = excise skipped item later slice.offset slice.len slice.fin)
    (positions : next.positions = run.positions \ slice.positions)
    (fin : next.fin = (run.fin && !slice.fin)) : Exact text next := by
  have apart := exact_run.others_apart nested shape some alone others
  have here : item ∈ run.lossBuffer := by
    rw [shape]
    simp
  have ordered := exact_run.ordered
  have parts := exact_run.parts
  rw [shape] at ordered parts
  refine ⟨?_,?_,?_,?_⟩
  · rw [cut]
    exact excise_ordered nested ordered
  · rw [cut]
    refine excise_parts nested parts fun _ last => ?_
    by_cases filled : item.offset < item.stop
    · exact (alone item here (overlaps_of_nested nested some filled)).2.1 last
    · refine (exact_run.parts item here).filled.resolve_left (not_not_intro ?_)
      unfold StreamBuffer.stop at filled
      exact List.length_eq_zero_iff.mp (by omega)
  · intro position
    rw [cut,positions,excise_holds nested,Finset.mem_sdiff,exact_run.positions,shape,mem_positions]
    constructor
    · rintro ⟨⟨buffer,inside,held⟩,outside⟩
      simp only [List.mem_append,List.mem_cons] at inside
      rcases inside with left | rfl | right
      · exact .inl ⟨buffer,List.mem_append_left _ left,held⟩
      · exact .inr ⟨held,outside⟩
      · exact .inl ⟨buffer,List.mem_append_right _ right,held⟩
    · rintro (⟨buffer,inside,held⟩ | ⟨held,outside⟩)
      · refine ⟨⟨buffer,?_,held⟩,fun both => ?_⟩
        · simp only [List.mem_append,List.mem_cons] at inside ⊢
          tauto
        · exact apart buffer inside ⟨position,mem_positions.mpr both,held⟩
      · exact ⟨⟨item,by simp,held⟩,outside⟩
  · intro kept
    rw [fin,Bool.and_eq_true_iff,Bool.not_eq_true'] at kept
    have marked := exact_run.fin kept.1
    rw [shape] at marked
    rw [cut,kept.2]
    exact excise_fin nested parts marked

end Found

private theorem Exact.remove_iff (exact_run : Exact text run)
    (stepped : run.step (.remove slice) = .ok next) :
    Exact text next ↔ run.Alone (.remove slice) := by
  by_cases nothing : run.lossBuffer.isEmpty ∨ slice.len = 0
  · have same : removeFromLossBuffer run.lossBuffer slice.offset slice.len slice.fin = run.lossBuffer :=
      if_pos nothing
    have none : ∀ buffer ∈ run.lossBuffer, ¬Overlaps slice buffer := by
      intro buffer inside overlaps
      rcases nothing with empty | zero
      · rw [List.isEmpty_iff.mp empty] at inside
        exact List.not_mem_nil inside
      · have some := (overlaps_filled overlaps).2.2.2
        omega
    refine (exact_run.unchanged_iff same stepped).trans (iff_of_true none ?_)
    intro buffer inside overlaps
    exact absurd overlaps (none buffer inside)
  · have loop : removeFromLossBuffer run.lossBuffer slice.offset slice.len slice.fin =
        removeFromLossBufferLoop slice.offset slice.len slice.fin [] run.lossBuffer := if_neg nothing
    have some : 0 < slice.len := Nat.pos_of_ne_zero fun none => nothing (.inr none)
    rcases @loop_cases slice.offset slice.len slice.fin [] run.lossBuffer with
      ⟨skipped,item,later,shape,others,nested,result⟩ | ⟨result,skipped,later,shape,others,beyond⟩
    · cases stepped
      rw [← loop] at result
      exact ⟨exact_run.alone nested shape result rfl,
        fun alone => exact_run.cut nested shape some alone others result rfl rfl⟩
    · refine (exact_run.unchanged_iff (loop.trans result) stepped).trans ?_
      exact exact_run.unfound shape others beyond

/-- In every run, the loss buffer holds exactly what was lost and not removed if and only if each
removal overlaps at most one entry, nested with it. -/
theorem loss_buffer_exact (text : Bytes) (actions : List (LossAction text)) :
    Throughout step (Exact text) {} actions ↔ StepsMeet step Alone {} actions := by
  refine @throughout_iff_stepsMeet _ _ _ _ _ _ _ _ (fun _ => True) ?_ trivial ?_
  · intro run action next _ exact_run stepped
    refine ⟨fun _ => trivial,?_⟩
    cases action with
    | insert slice => exact iff_of_true (exact_run.insert stepped) trivial
    | remove slice => exact exact_run.remove_iff stepped
  · exact ⟨.nil,by simp,by simp,fun fin => by cases fin⟩

/-- The second byte of a text is lost before the first, so there are two entries. When both bytes are
removed the second stays. -/
theorem second_entry_left : ∃ reached,
    Lib.Transition.run step {}
        [.insert (⟨1,1,false,by decide,by decide⟩ : Slice [7,8]),
          .insert ⟨0,1,false,by decide,by decide⟩,
          .remove ⟨0,2,false,by decide,by decide⟩] = .ok reached ∧
      reached.lossBuffer = [⟨[8],1,false⟩] ∧ 1 ∉ reached.positions :=
  ⟨_,rfl,rfl,by decide⟩

end LossRun

end StreamServer.State
