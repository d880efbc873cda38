import StreamServer.Codec.PacketBody
import StreamServer.Lib.Outcome

/-! What a builder has recorded is what is in its body. Each use of a writer adds one
recorded frame and the bytes a decoder reads it back from; a stream frame without a
length field leaves no space behind it, so nothing can follow. -/
namespace StreamServer.Codec
open Protocol Lib.Transition

/-- The frames a write can leave in the record, and the data in them. Paddings are counted in one
frame. -/
def FrameWrite.Yields : FrameWrite → QuicWriteFrame → Bytes → Prop
  | .frame control, recorded, data =>
    data = [] ∧ (recorded = control ∨ ∃ m n, control = .padding m ∧ recorded = .padding n)
  | .simple control, recorded, data => data = [] ∧ recorded = .simple control
  | .stream id offset source _ fin _ streamGroupId, recorded, data =>
    data <+: source ∧ ∃ shouldSetFin,
      recorded = .stream ⟨id,offset,data.length,shouldSetFin,false,streamGroupId,0⟩ ∧
      (shouldSetFin → fin ∧ data = source) ∧ (data ≠ [] ∨ shouldSetFin)
  | .crypto offset source, recorded, data =>
    data <+: source ∧ recorded = .crypto ⟨offset,data.length⟩
  | .ack metaData, recorded, data =>
    data = [] ∧ ∃ blocks, blocks <+: metaData.acks.intervals.reverse ∧
      recorded = .ack ⟨blocks,metaData.ackDelay⟩

/-- The values a decoder with these parameters reads back. -/
def FrameWrite.Readable (header : PacketHeader) (params : CodecParameters) : FrameWrite → Prop
  | .frame control => inRange control
  | .simple control => simpleInRange control
  | .stream _ _ _ _ _ _ streamGroupId => streamGroupId = none
  | .crypto _ _ => True
  | .ack metaData => metaData.ackDelayExponent = ackDelayExponentToUse header params ∧
      (1 ≤ metaData.ackDelayExponent ∧ metaData.ackDelayExponent < 64) ∧
      0 ≤ metaData.ackDelay ∧ metaData.ackDelay < 2^63

def FrameWrite.delimited : FrameWrite → Bool
  | .stream _ _ _ _ _ skipLenHint _ => skipLenHint == some false
  | _ => true

/-- The write may leave out the length of a stream frame that does not fill the packet. -/
def FrameWrite.hinted : FrameWrite → Bool
  | .stream _ _ _ _ _ skipLenHint _ => skipLenHint == some true
  | _ => false

theorem simpleInRange_wholeBlob {frame : QuicSimpleFrame} (range : simpleInRange frame) :
    wholeBlob (.simple frame) := by
  cases frame with
  | knob frame =>
    have same : frame = .make frame.knobSpace frame.id [frame.blob.flatten] := by
      simpa [simpleInRange] using range
    have length : frame.len = frame.blob.flatten.length := congrArg KnobFrame.len same
    simp [wholeBlob,length]
  | _ => rfl

variable {frame : QuicWriteFrame} {bytes source : Bytes} {after before : PacketBuilder}
  {ragged : Bool}

theorem inRange_wholeBlob (range : inRange frame) : wholeBlob frame := by
  cases frame with
  | simple frame => exact simpleInRange_wholeBlob range
  | _ => rfl

variable {header : PacketHeader} {params : CodecParameters}

/-- What one write has added: its record, and the bytes the record is read back from. -/
structure Added (header : PacketHeader) (params : CodecParameters) (write : FrameWrite)
    (before after : PacketBuilder) (recorded : QuicWriteFrame) (data bytes : Bytes) (ragged : Bool) :
    Prop where
  yields : write.Yields recorded data
  extends' : Extends before after bytes
  marked : after.empty = false
  record : after.frames = (recordFrame recorded before).frames
  body : Body header params ragged
    [readBack (ackDelayExponentToUse header params) data recorded] bytes
  sized : ragged = true → 2 + data.length ≤ bytes.length
  last : ragged = true → write.delimited = false ∧ (write.hinted ∨ data ≠ [] ∧ after.remainingSpaceInPkt = 0)

private theorem body_single {frame : QuicFrame}
    (read : ReadsFrame header params bytes frame) :
    Body header params false [frame] bytes := by
  obtain ⟨reads,first,tail,rfl,lead⟩ := read
  have single := Body.frame reads lead .nil
  rwa [List.append_nil] at single

private theorem recordFrame_frames {builder : PacketBuilder} (bytes : Bytes) :
    (recordFrame frame (builder.append bytes)).frames = (recordFrame frame builder).frames := by
  cases frame <;> rfl

private theorem recordFrame_marks (frame : QuicWriteFrame) (builder : PacketBuilder) :
    (recordFrame frame builder).empty = false := by
  cases frame <;> rfl

/-- The write left the builder alone or added a frame to it. -/
abbrev Adds (header : PacketHeader) (params : CodecParameters) (write : FrameWrite)
    (before after : PacketBuilder) : Prop :=
  after = before ∨ ∃ recorded data bytes ragged,
    Added header params write before after recorded data bytes ragged

section Adding

variable {builder : PacketBuilder} (small : builder.Counted)

include small

private theorem frame_added {control : QuicWriteFrame} {size : Nat} (range : inRange control)
    (written : writeFrame control builder = .ok (size,after)) :
    Adds header params (.frame control) builder after := by
  rcases writeFrame_cases small (inRange_wholeBlob range) written with ⟨-,same⟩ |
    ⟨fields,bytes,chosen,encoded,-,step,same⟩
  · exact .inl same
  · right
    by_cases padding : ∃ numFrames, control = .padding numFrames
    · obtain ⟨numFrames,rfl⟩ := padding
      cases chosen
      cases encoded
      refine ⟨.padding 1,[],[0],false,⟨rfl,.inr ⟨numFrames,1,rfl,rfl⟩⟩,step,
        same ▸ recordFrame_marks _ _,by rw [same]; exact recordFrame_frames [0],.padding .nil,nofun,nofun⟩
    · refine ⟨control,[],bytes,false,⟨rfl,.inl rfl⟩,step,same ▸ recordFrame_marks _ _,
        by rw [same]; exact recordFrame_frames bytes,body_single ?_,nofun,nofun⟩
      exact controlFrame_reads range (fun n same => padding ⟨n,same⟩) chosen encoded

private theorem simple_added {control : QuicSimpleFrame} {size : Nat}
    (range : simpleInRange control) (written : writeSimpleFrame control builder = .ok (size,after)) :
    Adds header params (.simple control) builder after := by
  rcases writeSimpleFrame_cases small (simpleInRange_wholeBlob range) written with ⟨-,same⟩ |
    ⟨bytes,encoded,-,step,same⟩
  · exact .inl same
  · exact .inr ⟨.simple control,[],bytes,false,⟨rfl,rfl⟩,step,by rw [same]; rfl,by rw [same]; rfl,
      body_single (simpleFrame_reads range encoded),nofun,nofun⟩

private theorem stream_added {id offset flowControlLen : Nat} {fin : Bool}
    {skipLenHint : Option Bool} {result : Option Nat}
    (written : writeStreamFrame builder id offset source flowControlLen fin skipLenHint none =
      .ok (result,after)) :
    Adds header params (.stream id offset source flowControlLen fin skipLenHint none) builder after := by
  rcases writeStreamFrame_cases small written with ⟨-,same⟩ |
    ⟨dataLen,dataLenLen,shouldSetFin,bytes,-,encoded,fit,step,marked,record⟩
  · exact .inl same
  · right
    have length : (source.take dataLen).length = dataLen := List.length_take_of_le fit.buffered
    have yields : (FrameWrite.stream id offset source flowControlLen fin skipLenHint none).Yields
        (.stream ⟨id,offset,dataLen,shouldSetFin,false,none,0⟩) (source.take dataLen) := by
      refine ⟨List.take_prefix _ _,shouldSetFin,by rw [length],fun sets => ?_,
        fit.something.imp_left fun some => List.length_pos_iff.mp (by omega)⟩
      rw [fit.carries,Bool.and_eq_true,beq_iff_eq] at sets
      exact ⟨sets.1,by rw [sets.2,List.take_length]⟩
    obtain ⟨first,tail,leads,nonzero⟩ := @streamFrame_leads header params bytes id offset dataLen
      dataLenLen shouldSetFin (source.take dataLen) encoded length
    by_cases counted : dataLenLen > 0
    · have reads := @streamFrame_reads header params bytes id offset dataLen dataLenLen shouldSetFin
        (source.take dataLen) encoded length counted
      exact ⟨_,_,_,false,yields,step,marked,record,body_single ⟨reads,first,tail,leads,nonzero⟩,
        nofun,nofun⟩
    · have none : dataLenLen = 0 := by omega
      have reads := @streamFrame_readsLast header params bytes id offset dataLen dataLenLen shouldSetFin
        (source.take dataLen) encoded length none
      rw [leads] at reads
      have body := Body.last reads nonzero
      rw [← leads] at body
      refine ⟨_,_,_,true,yields,step,marked,record,body,fun _ => ?_,fun _ => ?_⟩
      · have := streamHeader_two encoded
        rw [List.length_append]
        omega
      · rcases fit.filled none with rfl | ⟨rfl,something,full⟩
        · exact ⟨rfl,.inl rfl⟩
        · refine ⟨rfl,.inr ⟨List.length_pos_iff.mp (by omega),?_⟩⟩
          rw [step.space,List.length_append,length]
          omega

private theorem crypto_added {offset : Nat} {result : Option WriteCryptoFrame}
    (written : writeCryptoFrame offset source builder = .ok (result,after)) :
    Adds header params (.crypto offset source) builder after := by
  rcases writeCryptoFrame_cases small written with ⟨-,same⟩ | ⟨len,bytes,-,enough,encoded,step,same⟩
  · exact .inl same
  · have length : (source.take len).length = len := List.length_take_of_le enough
    exact .inr ⟨_,source.take len,bytes,false,⟨List.take_prefix _ _,by rw [length]⟩,step,
      by rw [same]; rfl,by rw [same]; rfl,body_single (cryptoFrame_reads enough encoded),nofun,nofun⟩

private theorem ack_added {metaData : WriteAckFrameMetaData} {result : Option (Nat × WriteAckFrame)}
    (readable : (FrameWrite.ack metaData).Readable header params)
    (written : writeAckFrame metaData builder = .ok (result,after)) :
    Adds header params (.ack metaData) builder after := by
  obtain ⟨exponent,bounded,positive,signed⟩ := readable
  rcases writeAckFrame_cases small written with ⟨-,same⟩ |
    ⟨largest,rest,additional,headerSize,bytes,blocks,-,-,filled,-,encoded,step,same⟩
  · exact .inl same
  · have read := ackFrame_reads blocks filled exponent bounded positive signed encoded
    rw [exponent] at read
    have taken : largest :: additional <+: metaData.acks.intervals.reverse := by
      rw [blocks]
      exact List.cons_prefix_cons.mpr ⟨rfl,fillFrameWithAckBlocks_front filled⟩
    exact .inr ⟨_,[],bytes,false,⟨rfl,_,taken,rfl⟩,step,by rw [same]; rfl,by rw [same]; rfl,
      body_single read,nofun,nofun⟩

theorem FrameWrite.perform_added {write : FrameWrite} (readable : write.Readable header params)
    (written : write.perform builder = .ok after) :
    Adds header params write builder after := by
  cases write with
  | frame control =>
    obtain ⟨⟨_,_⟩,wrote,rfl⟩ := map_ok written
    exact frame_added small readable wrote
  | simple control =>
    obtain ⟨⟨_,_⟩,wrote,rfl⟩ := map_ok written
    exact simple_added small readable wrote
  | stream id offset source flowControlLen fin skipLenHint streamGroupId =>
    obtain ⟨⟨_,_⟩,wrote,rfl⟩ := map_ok written
    cases readable
    exact stream_added small wrote
  | crypto offset source =>
    obtain ⟨⟨_,_⟩,wrote,rfl⟩ := map_ok written
    exact crypto_added small wrote
  | ack metaData =>
    obtain ⟨⟨_,_⟩,wrote,rfl⟩ := map_ok written
    exact ack_added small readable wrote

end Adding

private theorem Yields.anyPadding {write : FrameWrite} {a : Nat} {data : Bytes}
    (yields : write.Yields (.padding a) data) (b : Nat) : write.Yields (.padding b) data := by
  cases write with
  | frame control =>
    obtain ⟨none,same | ⟨m,n,same,-⟩⟩ := yields
    · exact ⟨none,.inr ⟨a,b,same.symm,rfl⟩⟩
    · exact ⟨none,.inr ⟨m,b,same,rfl⟩⟩
  | simple control | crypto offset source => cases yields.2
  | stream id offset source flowControlLen fin skipLenHint streamGroupId =>
    obtain ⟨-,_,same,-⟩ := yields
    cases same
  | ack metaData =>
    obtain ⟨-,_,-,same⟩ := yields
    cases same

/-- A recorded frame and the data written for it, as some allowed write leaves them. -/
def Content (allowed : FrameWrite → Prop) (content : QuicWriteFrame × Bytes) : Prop :=
  ∃ write, allowed write ∧ write.Yields content.1 content.2

def readContents (header : PacketHeader) (params : CodecParameters)
    (contents : List (QuicWriteFrame × Bytes)) : List QuicFrame :=
  contents.map fun content => readBack (ackDelayExponentToUse header params) content.2 content.1

/-- The body of the builder consists of the frames it has recorded. -/
def Faithful (header : PacketHeader) (params : CodecParameters) (allowed : FrameWrite → Prop)
    (ragged : Bool) (builder : PacketBuilder) : Prop :=
  ∃ contents frames, contents.map Prod.fst = builder.frames ∧ (∀ content ∈ contents, Content allowed content) ∧
    Body header params ragged frames builder.body ∧
    mergePaddings frames = mergePaddings (readContents header params contents)

variable {allowed : FrameWrite → Prop} {recorded : QuicWriteFrame}

private theorem contents_recorded {data : Bytes} {builder : PacketBuilder}
    {contents : List (QuicWriteFrame × Bytes)} (same : contents.map Prod.fst = builder.frames)
    (held : ∀ content ∈ contents, Content allowed content) {write : FrameWrite}
    (chosen : allowed write) (yields : write.Yields recorded data) :
    ∃ longer, longer.map Prod.fst = (recordFrame recorded builder).frames ∧
      (∀ content ∈ longer, Content allowed content) ∧
      mergePaddings (readContents header params longer) = mergePaddings (readContents header params contents ++
        [readBack (ackDelayExponentToUse header params) data recorded]) := by
  have appended {front : List (QuicWriteFrame × Bytes)} {last : QuicWriteFrame}
      (front_held : ∀ content ∈ front, Content allowed content) (yields : write.Yields last data) :
      ∀ content ∈ front ++ [(last,data)], Content allowed content :=
    List.forall_mem_append.mpr ⟨front_held,List.forall_mem_singleton.mpr ⟨write,chosen,yields⟩⟩
  by_cases padding : ∃ numFrames, recorded = .padding numFrames
  · obtain ⟨numFrames,rfl⟩ := padding
    simp only [recordFrame,PacketBuilder.appendPaddingFrame]
    split
    next count counted =>
      -- The padding is counted in the last recorded frame.
      obtain ⟨front,whole⟩ := List.getLast?_eq_some_iff.mp counted
      rw [whole] at same
      obtain ⟨before,last,rfl,beforeSame,lastSame⟩ := List.map_eq_append_iff.mp same
      obtain ⟨⟨_,oldData⟩,rfl,rfl⟩ := List.map_eq_singleton_iff.mp lastSame
      refine ⟨before ++ [(.padding (count + 1),data)],?_,
        appended (List.forall_mem_append.mp held).1 (Yields.anyPadding yields _),?_⟩
      · rw [whole,List.map_append,beforeSame,List.dropLast_concat]
        rfl
      · simp only [readContents,List.map_append,List.append_assoc]
        exact mergePaddings_congr rfl
    next =>
      refine ⟨contents ++ [(.padding 1,data)],by rw [List.map_append,same]; rfl,
        appended held (Yields.anyPadding yields _),?_⟩
      rw [readContents,List.map_append]
      rfl
  · refine ⟨contents ++ [(recorded,data)],?_,appended held yields,
      by rw [readContents,List.map_append]; rfl⟩
    have plain : recordFrame recorded builder = builder.appendFrame recorded := by
      cases recorded <;> first | rfl | exact absurd ⟨_,rfl⟩ padding
    rw [plain,List.map_append,same]
    rfl

theorem Faithful.added {write : FrameWrite} {builder : PacketBuilder} {data : Bytes}
    (faithful : Faithful header params allowed false builder) (chosen : allowed write)
    (step : Added header params write builder after recorded data bytes ragged) :
    Faithful header params allowed ragged after := by
  obtain ⟨contents,frames,same,held,body,merged⟩ := faithful
  obtain ⟨longer,recordedSame,longerHeld,longerMerged⟩ :=
    @contents_recorded header params allowed recorded data builder contents same held write chosen step.yields
  refine ⟨longer,frames ++ [readBack (ackDelayExponentToUse header params) data recorded],
    recordedSame.trans step.record.symm,longerHeld,?_,?_⟩
  · rw [step.extends'.body]
    exact body.append step.body
  · rw [longerMerged]
    exact mergePaddings_append merged

section Header

variable {builder : PacketBuilder} {α : Type}

/-- Whatever its space, a builder keeps its header. -/
def KeepsHeader (builder : PacketBuilder) : Except Error (α × PacketBuilder) → Prop :=
  Lib.Outcome.Yields (fun _ => True) fun result => result.2.header = builder.header

open Lib.Outcome

private theorem writeFields_header (fields : List Field) {record : PacketBuilder → PacketBuilder}
    (records : ∀ builder, (record builder).header = builder.header) :
    KeepsHeader builder (writeFields fields record builder) := by
  refine (Yields.anyway _).bind fun _ _ => ?_
  split
  · exact (Yields.anyway _).bind fun _ _ => records _
  · exact rfl

private theorem writeStreamFrameHeader_header {id offset writeBufferLen flowControlLen : Nat}
    {fin : Bool} {skipLenHint : Option Bool} {streamGroupId : Option Nat} {appendFrame : Bool} :
    KeepsHeader builder (writeStreamFrameHeader builder id offset writeBufferLen flowControlLen fin
      skipLenHint streamGroupId appendFrame) := by
  unfold writeStreamFrameHeader
  split_ifs
  · exact rfl
  · trivial
  · refine (Yields.anyway _).bind fun _ _ => (Yields.anyway _).bind fun _ _ => ?_
    split
    · exact rfl
    · refine (Yields.anyway _).bind fun _ _ => (Yields.anyway _).bind fun lengths _ => ?_
      obtain ⟨_,_ | _⟩ := lengths
      · exact rfl
      · exact (Yields.anyway _).bind fun _ _ => by cases appendFrame <;> exact rfl

private theorem writeStreamFrame_header {id offset flowControlLen : Nat} {data : Bytes} {fin : Bool}
    {skipLenHint : Option Bool} {streamGroupId : Option Nat} :
    KeepsHeader builder (writeStreamFrame builder id offset data flowControlLen fin skipLenHint
      streamGroupId) := by
  refine Yields.bind writeStreamFrameHeader_header fun begun same => ?_
  obtain ⟨_ | dataLen,begun⟩ := begun
  · exact same
  · simp only [writeStreamFrameData,PacketBuilder.insert]
    split_ifs
    · trivial
    all_goals exact same

private theorem writeCryptoFrame_header {offset : Nat} {data : Bytes} :
    KeepsHeader builder (writeCryptoFrame offset data builder) := by
  refine (Yields.anyway _).bind fun _ _ => (Yields.anyway _).bind fun _ _ => ?_
  dsimp only
  split
  · exact rfl
  · refine (Yields.anyway _).bind fun _ _ => ?_
    split
    · trivial
    · exact (Yields.anyway _).bind fun _ _ => rfl

private theorem writeAckFrame_header {metaData : WriteAckFrameMetaData} :
    KeepsHeader builder (writeAckFrame metaData builder) := by
  have written : KeepsHeader builder (writeAckFrameToPacketBuilder metaData builder) := by
    unfold writeAckFrameToPacketBuilder
    split
    · exact rfl
    · refine (Yields.anyway _).bind fun _ _ => ?_
      split
      · exact rfl
      · exact (Yields.anyway _).bind fun _ _ => (Yields.anyway _).bind fun _ _ => rfl
  refine written.bind fun result same => ?_
  obtain ⟨_ | frame,next⟩ := result <;> exact same

theorem FrameWrite.perform_header {write : FrameWrite} {after : PacketBuilder}
    (written : write.perform builder = .ok after) : after.header = builder.header := by
  cases write with
  | frame control =>
    obtain ⟨_,wrote,rfl⟩ := map_ok written
    obtain ⟨fields,-,wrote⟩ := bind_ok.mp wrote
    exact (writeFields_header fields fun _ => by cases control <;> rfl).ok wrote
  | simple control =>
    obtain ⟨_,wrote,rfl⟩ := map_ok written
    exact (@writeFields_header _ _ (·.appendFrame (.simple control)) fun _ => rfl).ok wrote
  | stream =>
    obtain ⟨_,wrote,rfl⟩ := map_ok written
    exact writeStreamFrame_header.ok wrote
  | crypto =>
    obtain ⟨_,wrote,rfl⟩ := map_ok written
    exact writeCryptoFrame_header.ok wrote
  | ack =>
    obtain ⟨_,wrote,rfl⟩ := map_ok written
    exact writeAckFrame_header.ok wrote

end Header

/-- A sequence of allowed writes, each on the builder the one before it has left. -/
inductive Performs (allowed : FrameWrite → Prop) : PacketBuilder → PacketBuilder → Prop
  | refl (builder : PacketBuilder) : Performs allowed builder builder
  | step {before middle after : PacketBuilder} {write : FrameWrite} (chosen : allowed write)
      (performed : write.perform before = .ok middle) (rest : Performs allowed middle after) :
      Performs allowed before after

theorem Performs.trans {middle : PacketBuilder} (first : Performs allowed before middle)
    (second : Performs allowed middle after) : Performs allowed before after := by
  induction first with
  | refl => exact second
  | step chosen performed _ ih => exact .step chosen performed (ih second)

theorem Performs.single {write : FrameWrite} (chosen : allowed write)
    (performed : write.perform before = .ok after) : Performs allowed before after :=
  .step chosen performed (.refl after)

theorem Performs.mono {wider : FrameWrite → Prop} (performs : Performs allowed before after)
    (within : ∀ write, allowed write → wider write) :
    Performs wider before after := by
  induction performs with
  | refl => exact .refl _
  | step chosen performed _ ih => exact .step (within _ chosen) performed ih

theorem Performs.sameHeader (performs : Performs allowed before after) :
    after.header = before.header := by
  induction performs with
  | refl => rfl
  | step _ performed _ ih => exact ih.trans (FrameWrite.perform_header performed)

/-- Nothing was written yet, or the last frame takes all the space and no padding will be missing. -/
def Settled (header : PacketHeader) (params : CodecParameters) (allowed : FrameWrite → Prop)
    (builder : PacketBuilder) : Prop :=
  ∃ ragged, Faithful header params allowed ragged builder ∧
    (ragged = true → builder.remainingSpaceInPkt = 0 ∧ 3 ≤ builder.body.length)

private theorem Settled.perform {write : FrameWrite} {builder : PacketBuilder}
    (settled : Settled header params allowed builder) (small : builder.Counted)
    (chosen : allowed write) (readable : write.Readable header params)
    (unhinted : write.hinted = false) (performed : write.perform builder = .ok after) :
    Settled header params allowed after ∧ ∃ bytes, Extends builder after bytes := by
  rcases FrameWrite.perform_added small readable performed with same |
    ⟨recorded,data,bytes,ragged,step⟩
  · rw [same]
    exact ⟨settled,[],Extends.refl builder⟩
  · obtain ⟨closed,faithful,full⟩ := settled
    have wrote := step.extends'
    cases closed with
    | true =>
      have none : bytes = [] := List.length_eq_zero_iff.mp (by
        have := wrote.fits
        have := (full rfl).1
        omega)
      subst none
      cases step.body.frames_of_zeros (@List.replicate_zero _ 0).symm
    | false =>
      refine ⟨⟨ragged,faithful.added chosen step,fun last => ?_⟩,bytes,wrote⟩
      have sized := step.sized last
      rcases (step.last last).2 with hinted | ⟨something,filled⟩
      · rw [unhinted] at hinted
        cases hinted
      · have positive := List.length_pos_iff.mpr something
        refine ⟨filled,?_⟩
        rw [wrote.body,List.length_append]
        omega

theorem Performs.settled (performs : Performs allowed before after)
    (readable : ∀ write, allowed write → write.Readable header params ∧ write.hinted = false)
    (small : before.Counted) (settled : Settled header params allowed before) :
    Settled header params allowed after ∧ ∃ bytes, Extends before after bytes := by
  induction performs with
  | refl => exact ⟨settled,[],Extends.refl _⟩
  | step chosen performed _ ih =>
    obtain ⟨read,unhinted⟩ := readable _ chosen
    obtain ⟨middle,first,wrote⟩ := settled.perform small chosen read unhinted performed
    obtain ⟨last,second,more⟩ := ih (wrote.counted small) middle
    exact ⟨last,first ++ second,wrote.trans more⟩

theorem Performs.whole {chosen : FrameWrite → Prop} (performs : Performs chosen before after)
    (readable : ∀ write, chosen write →
      allowed write ∧ write.Readable header params ∧ write.delimited = true)
    (small : before.Counted) (faithful : Faithful header params allowed false before) :
    Faithful header params allowed false after ∧ ∃ bytes, Extends before after bytes := by
  induction performs with
  | refl => exact ⟨faithful,[],Extends.refl _⟩
  | step chosen performed _ ih =>
    obtain ⟨permitted,read,control⟩ := readable _ chosen
    rcases FrameWrite.perform_added small read performed with rfl | ⟨recorded,data,bytes,ragged,step⟩
    · exact ih small faithful
    · have closed : ragged = false := by
        cases ragged with
        | false => rfl
        | true =>
          have stream := (step.last rfl).1
          rw [control] at stream
          cases stream
      subst closed
      obtain ⟨last,more,wrote⟩ := ih (step.extends'.counted small) (faithful.added permitted step)
      exact ⟨last,bytes ++ more,step.extends'.trans wrote⟩

/-- What the decoder of the peer makes of a packet: the recorded frames, and up to three paddings
that were needed to sample a short body. A frame without a length field ends the body. -/
def RecordedOnWire (header : PacketHeader) (params : CodecParameters) (allowed : FrameWrite → Prop)
    (built : BuiltPacket) : Prop :=
  ∃ contents ragged frames count decoded, contents.map Prod.fst = built.packet.frames ∧
    (∀ content ∈ contents, Content allowed content) ∧ Body header params ragged frames built.body ∧
    decodeRegularPacket header params built.body = .ok decoded ∧
    mergePaddings decoded = mergePaddings frames ∧
    mergePaddings frames =
      mergePaddings (readContents header params contents ++ List.replicate count (.padding 1)) ∧
    (count = 0 ∨ built.body.length ≤ 3)

/-- Writing leaves the header, the packet number and the reserved space of a builder alone. -/
structure Kept (before after : PacketBuilder) : Prop where
  header : after.header = before.header
  encoding : after.packetNumberEncoding = before.packetNumberEncoding
  overhead : after.cipherOverhead = before.cipherOverhead
  counted : before.Counted → after.Counted

theorem Kept.refl (builder : PacketBuilder) : Kept builder builder := ⟨rfl,rfl,rfl,id⟩

theorem Kept.trans {middle : PacketBuilder} (first : Kept before middle)
    (second : Kept middle after) : Kept before after :=
  ⟨second.header.trans first.header,second.encoding.trans first.encoding,
    second.overhead.trans first.overhead,second.counted ∘ first.counted⟩

theorem Extends.kept (step : Extends before after bytes) :
    Kept before after := ⟨step.header,step.encoding,step.overhead,step.counted⟩

/-- A builder whose header was encoded and nothing else. -/
structure Headed (before after : PacketBuilder) : Prop where
  body : after.body = before.body
  frames : after.frames = before.frames
  header : after.header = before.header
  overhead : after.cipherOverhead = before.cipherOverhead
  withheld : after.diff = before.diff
  counted : after.Counted
  numbered : ∀ encoding, after.packetNumberEncoding = some encoding → 1 ≤ encoding.length

theorem encodePacketHeader_headed (small : before.Counted)
    (fresh : before.packetNumberEncoding = none) (encoded : before.encodePacketHeader = .ok after) :
    Headed before after := by
  unfold PacketBuilder.encodePacketHeader at encoded
  unfold PacketBuilder.Counted at small
  split at encoded
  · obtain ⟨⟨encoding,bytes,left⟩,helped,done⟩ := bind_ok.mp encoded
    obtain ⟨number,numbered,helped⟩ := bind_ok.mp helped
    obtain ⟨token,-,helped⟩ := bind_ok.mp helped
    simp only [pure,Except.pure,Except.ok.injEq,Prod.mk.injEq] at helped
    obtain ⟨rfl,rfl,rfl⟩ := helped
    cases done
    refine ⟨rfl,rfl,rfl,rfl,rfl,?_,?_⟩
    · simp only [PacketBuilder.Counted]
      split_ifs <;> omega
    · intro encoding same
      cases same
      exact (encodePacketNumber_ok numbered).1
  · obtain ⟨⟨encoding,bytes,left⟩,helped,done⟩ := bind_ok.mp encoded
    obtain ⟨number,numbered,helped⟩ := bind_ok.mp helped
    simp only [pure,Except.pure,Except.ok.injEq] at helped
    split at helped
    · cases helped
      cases done
      refine ⟨rfl,rfl,rfl,rfl,rfl,by simp [PacketBuilder.Counted],fun encoding same => ?_⟩
      rw [fresh] at same
      cases same
    · cases helped
      cases done
      refine ⟨rfl,rfl,rfl,rfl,rfl,Nat.mod_lt _ (by decide),fun encoding same => ?_⟩
      cases same
      exact (encodePacketNumber_ok numbered).1

theorem padToMinBodySize_empty (missing : Nat) {builder : PacketBuilder}
    (nothing : builder.empty = true) : builder.padToMinBodySize missing = builder := by
  cases missing with
  | zero => rfl
  | succ missing =>
    unfold PacketBuilder.padToMinBodySize
    rw [nothing]
    rfl

/-- The padding that is not recorded is added to bodies of less than four bytes, since the tag of
the cipher is part of what is sampled. -/
theorem buildPacket_padded {builder : PacketBuilder} {built : BuiltPacket} (small : builder.Counted)
    (direct : builder.diff = 0) (tag : 16 ≤ builder.cipherOverhead)
    (numbered : ∀ encoding, builder.packetNumberEncoding = some encoding → 1 ≤ encoding.length)
    (done : builder.buildPacket = .ok built) :
    ∃ count, built.packet = ⟨builder.header,builder.frames⟩ ∧
      built.body = builder.body ++ List.replicate count 0 ∧ (count = 0 ∨ built.body.length ≤ 3) := by
  unfold PacketBuilder.buildPacket at done
  split at done
  · cases done
  next encoding chosen =>
    obtain ⟨header,-,done⟩ := bind_ok.mp done
    cases done
    have length := numbered encoding chosen
    dsimp only
    generalize missing : kMaxPacketNumEncodingSize - encoding.length + kSampleSize -
      (builder.body.length + builder.cipherOverhead) = count
    unfold kMaxPacketNumEncodingSize kSampleSize at missing
    by_cases marked : builder.empty = true
    · rw [padToMinBodySize_empty count marked]
      exact ⟨0,rfl,by simp,.inl rfl⟩
    · obtain ⟨added,step,less,-⟩ := padToMinBodySize_spec count small (by simpa using marked) direct
      refine ⟨added,rfl,step.body,?_⟩
      rw [step.body,List.length_append,List.length_replicate]
      omega

theorem Faithful.built {builder : PacketBuilder} {built : BuiltPacket}
    (faithful : Faithful header params allowed ragged builder)
    (long : ragged = true → 3 ≤ builder.body.length) (small : builder.Counted)
    (direct : builder.diff = 0) (tag : 16 ≤ builder.cipherOverhead)
    (numbered : ∀ encoding, builder.packetNumberEncoding = some encoding → 1 ≤ encoding.length)
    (done : builder.buildPacket = .ok built) :
    built.packet.header = builder.header ∧ RecordedOnWire header params allowed built := by
  obtain ⟨contents,frames,same,held,body,merged⟩ := faithful
  obtain ⟨count,packet,padded,short⟩ := buildPacket_padded small direct tag numbered done
  rw [packet]
  refine ⟨rfl,?_⟩
  have whole : Body header params ragged (frames ++ List.replicate count (.padding 1)) built.body := by
    rw [padded]
    cases ragged with
    | false => exact body.append (Body.zeros count)
    | true =>
      have none : count = 0 := by
        have := long rfl
        rw [padded,List.length_append,List.length_replicate] at short
        omega
      subst none
      rwa [List.replicate_zero,List.replicate_zero,List.append_nil,List.append_nil]
  obtain ⟨decoded,read,equal⟩ := whole.decodes (Nat.le_refl _) []
  exact ⟨contents,ragged,_,count,decoded,by rw [packet]; exact same,held,whole,read,equal,
    mergePaddings_append merged,short⟩

end StreamServer.Codec
