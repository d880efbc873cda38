import StreamServer.Lib.Transition
import StreamServer.Protocol.Constants

/-! A queue of bytes held in a chain of buffers with a cached length. It is the byte string that the
chain spells, however it is cut into buffers. -/
namespace StreamServer.Common
open Protocol Lib.Transition

def computeChainDataLength (chain : List Bytes) : Nat := (chain.map List.length).sum

/-- The chain is circular. An empty list stands for no chain. -/
structure BufQueue where
  chain : List Bytes := []
  chainLength : Nat := 0

namespace BufQueue

def make (chain : List Bytes) : BufQueue := ⟨chain,computeChainDataLength chain⟩

def move (queue : BufQueue) : List Bytes × BufQueue := (queue.chain,{})

/-- The search for the last buffer of a range: those passed, what is left of the range, and the
buffers from there on. The chain is longer than the range, so its end is not passed. -/
def seek (len : Nat) (passed : List Bytes) : List Bytes → List Bytes × Nat × List Bytes
  | [] => (passed,len,[])
  | current :: rest =>
    if len = 0 ∨ current.length > len then (passed,len,current :: rest)
    else seek (len - current.length) (passed ++ [current]) rest

def splitAtMost (queue : BufQueue) (len : Nat) : List Bytes × BufQueue :=
  if queue.chain = [] ∨ len = 0 then ([[]],queue)
  else if len ≥ queue.chainLength then queue.move
  else
    let chainLength := queue.chainLength - len
    match seek len [] queue.chain with
    | (passed,len,current :: rest) =>
      if len = 0 then (passed,{chain := current :: rest, chainLength})
      else (passed ++ [current.take len],{chain := current.drop len :: rest, chainLength})
    | (passed,_,[]) => (passed,{chain := [], chainLength})

/-- What could not be trimmed, and the chain that is left. Behind its last buffer the chain is back at
its head, and goes as a whole. -/
def trimChain (amount : Nat) : List Bytes → Nat × List Bytes
  | [] => (amount,[])
  | current :: rest =>
    if current.length ≥ amount then (0,current.drop amount :: rest)
    else trimChain (amount - current.length) rest

def trimStartAtMost (queue : BufQueue) (amount : Nat) : Nat × BufQueue :=
  if queue.chain = [] ∨ amount = 0 then (0,queue)
  else
    let (left,chain) := trimChain amount queue.chain
    (amount - left,{chain, chainLength := queue.chainLength - (amount - left)})

def trimStart (queue : BufQueue) (amount : Nat) : Except String BufQueue :=
  if (queue.trimStartAtMost amount).1 ≠ amount then
    .error "Attempt to trim more bytes than are present in BufQueue"
  else .ok (queue.trimStartAtMost amount).2

def append (queue : BufQueue) (buf : List Bytes) : BufQueue :=
  if computeChainDataLength buf = 0 then queue
  else ⟨queue.chain ++ buf,queue.chainLength + computeChainDataLength buf⟩

end BufQueue

inductive BufAction where
  | append (buf : List Bytes)
  | splitAtMost (len : Nat)
  | trimStartAtMost (amount : Nat)
  | trimStart (amount : Nat)
  | move

inductive Returned (α : Type) where
  | buf (content : α)
  | trimmed (amount : Nat)

def Returned.map {α β : Type} (f : α → β) : Returned α → Returned β
  | .buf content => .buf (f content)
  | .trimmed amount => .trimmed amount

/-- A content with all that calls returned, the latest first. -/
abbrev WithReturned (α β : Type) : Type := α × List (Returned β)

def bufStep : WithReturned BufQueue (List Bytes) → BufAction →
    Except String (WithReturned BufQueue (List Bytes))
  | (queue,returned), .append buf => .ok (queue.append buf,returned)
  | (queue,returned), .splitAtMost len =>
    .ok ((queue.splitAtMost len).2,.buf (queue.splitAtMost len).1 :: returned)
  | (queue,returned), .trimStartAtMost amount =>
    .ok ((queue.trimStartAtMost amount).2,.trimmed (queue.trimStartAtMost amount).1 :: returned)
  | (queue,returned), .trimStart amount => do return (← queue.trimStart amount,returned)
  | (queue,returned), .move => .ok (queue.move.2,.buf queue.move.1 :: returned)

/-- The same operations on a byte string. -/
def stringStep : WithReturned Bytes Bytes → BufAction → Except String (WithReturned Bytes Bytes)
  | (bytes,returned), .append buf => .ok (bytes ++ buf.flatten,returned)
  | (bytes,returned), .splitAtMost len => .ok (bytes.drop len,.buf (bytes.take len) :: returned)
  | (bytes,returned), .trimStartAtMost amount =>
    .ok (bytes.drop amount,.trimmed (min amount bytes.length) :: returned)
  | (bytes,returned), .trimStart amount =>
    if bytes.length < amount then
      .error "Attempt to trim more bytes than are present in BufQueue"
    else .ok (bytes.drop amount,returned)
  | (bytes,returned), .move => .ok ([],.buf bytes :: returned)

def spelled (state : WithReturned BufQueue (List Bytes)) : WithReturned Bytes Bytes :=
  (state.1.chain.flatten,state.2.map (.map List.flatten))

/-- The cached length is that of the chain. -/
def BufQueue.Counted (queue : BufQueue) : Prop := queue.chainLength = queue.chain.flatten.length

variable {queue : BufQueue} {chain passed : List Bytes} {len amount : Nat}

private theorem computeChainDataLength_eq (chain : List Bytes) :
    computeChainDataLength chain = chain.flatten.length := List.length_flatten.symm

private theorem seek_splits (longer : len < chain.flatten.length) :
    ∃ before left current rest, BufQueue.seek len passed chain = (passed ++ before,left,current :: rest) ∧
      chain = before ++ current :: rest ∧ len = before.flatten.length + left ∧
      left ≤ current.length := by
  induction chain generalizing len passed with
  | nil => cases longer
  | cons current rest ih =>
    rw [List.flatten_cons,List.length_append] at longer
    unfold BufQueue.seek
    split_ifs with here
    · exact ⟨[],len,current,rest,by simp,rfl,by simp,by omega⟩
    · obtain ⟨before,left,last,others,found,rfl,counted,within⟩ :=
        @ih (passed ++ [current]) (len - current.length) (by omega)
      refine ⟨current :: before,left,last,others,?_,rfl,?_,within⟩
      · rw [found,List.append_assoc]
        rfl
      · rw [List.flatten_cons,List.length_append]
        omega

private theorem splitAtMost_spelled (counted : queue.Counted) :
    (queue.splitAtMost len).1.flatten = queue.chain.flatten.take len ∧
      (queue.splitAtMost len).2.chain.flatten = queue.chain.flatten.drop len ∧
      (queue.splitAtMost len).2.Counted := by
  unfold BufQueue.Counted at *
  unfold BufQueue.splitAtMost
  split_ifs with nothing whole
  · rcases nothing with empty | zero
    · simp [counted,empty]
    · simp [counted,zero]
  · rw [counted] at whole
    exact ⟨(List.take_of_length_le whole).symm,(List.drop_of_length_le whole).symm,rfl⟩
  · rw [counted] at whole ⊢
    obtain ⟨before,left,current,rest,found,shape,rfl,within⟩ :=
      @seek_splits queue.chain [] len (Nat.not_le.mp whole)
    have all : queue.chain.flatten = before.flatten ++ (current ++ rest.flatten) := by
      rw [shape,List.flatten_append,List.flatten_cons]
    rw [found,all,List.take_append,List.drop_append]
    dsimp only
    split_ifs with exact
    · simp [exact]
    · simp [List.take_append_of_le_length within,List.drop_append_of_le_length within]
      omega

private theorem trimChain_spelled :
    (BufQueue.trimChain amount chain).1 = amount - chain.flatten.length ∧
      (BufQueue.trimChain amount chain).2.flatten = chain.flatten.drop amount := by
  induction chain generalizing amount with
  | nil => simp [BufQueue.trimChain]
  | cons current rest ih =>
    unfold BufQueue.trimChain
    split_ifs with enough
    · rw [List.flatten_cons,List.length_append,List.drop_append_of_le_length enough]
      exact ⟨by dsimp only; omega,rfl⟩
    · obtain ⟨left,rest⟩ := @ih (amount - current.length)
      rw [left,rest,List.flatten_cons,List.length_append,List.drop_append,
        List.drop_of_length_le (l := current) (by omega)]
      exact ⟨by omega,rfl⟩

private theorem trimStartAtMost_spelled (counted : queue.Counted) :
    (queue.trimStartAtMost amount).1 = min amount queue.chain.flatten.length ∧
      (queue.trimStartAtMost amount).2.chain.flatten = queue.chain.flatten.drop amount ∧
      (queue.trimStartAtMost amount).2.Counted := by
  unfold BufQueue.Counted at *
  unfold BufQueue.trimStartAtMost
  split_ifs with nothing
  · rcases nothing with empty | zero
    · simp [counted,empty]
    · simp [counted,zero]
  · obtain ⟨left,trimmed⟩ := @trimChain_spelled queue.chain amount
    dsimp only
    rw [left,trimmed,counted,List.length_drop]
    exact ⟨by omega,rfl,by omega⟩

private theorem append_spelled (counted : queue.Counted) (buf : List Bytes) :
    (queue.append buf).chain.flatten = queue.chain.flatten ++ buf.flatten ∧
      (queue.append buf).Counted := by
  unfold BufQueue.Counted at *
  unfold BufQueue.append
  rw [computeChainDataLength_eq]
  split_ifs with empty
  · rw [List.eq_nil_of_length_eq_zero empty,List.append_nil]
    exact ⟨rfl,counted⟩
  · simp [counted]

private theorem ok_spelled {next : WithReturned BufQueue (List Bytes)}
    {result : WithReturned Bytes Bytes} (same : spelled next = result) (kept : next.1.Counted) :
    (.ok result : Except String _) = spelled <$> .ok next ∧
      ∀ other, (.ok next : Except String _) = .ok other → other.1.Counted := by
  refine ⟨congrArg Except.ok same.symm,?_⟩
  rintro _ ⟨⟩
  exact kept

private theorem bufStep_spelled (state : WithReturned BufQueue (List Bytes)) (action : BufAction)
    (counted : state.1.Counted) :
    stringStep (spelled state) action = spelled <$> bufStep state action ∧
      ∀ next, bufStep state action = .ok next → next.1.Counted := by
  obtain ⟨queue,returned⟩ := state
  cases action with
  | append buf =>
    obtain ⟨same,kept⟩ := append_spelled counted buf
    exact ok_spelled (Prod.ext same rfl) kept
  | splitAtMost len =>
    obtain ⟨front,rest,kept⟩ := @splitAtMost_spelled queue len counted
    exact ok_spelled (Prod.ext rest (congrArg (Returned.buf · :: _) front)) kept
  | trimStartAtMost amount =>
    obtain ⟨trimmed,rest,kept⟩ := @trimStartAtMost_spelled queue amount counted
    exact ok_spelled (Prod.ext rest (congrArg (Returned.trimmed · :: _) trimmed)) kept
  | trimStart amount =>
    obtain ⟨trimmed,rest,kept⟩ := @trimStartAtMost_spelled queue amount counted
    simp only [bufStep,BufQueue.trimStart,trimmed]
    by_cases short : queue.chain.flatten.length < amount
    · rw [if_pos (by omega)]
      exact ⟨if_pos short,nofun⟩
    · rw [if_neg (by omega),show stringStep (spelled (queue,returned)) (.trimStart amount) =
        .ok (queue.chain.flatten.drop amount,_) from if_neg short]
      exact ok_spelled (Prod.ext rest rfl) kept
  | move => exact ok_spelled rfl rfl

/-- From any chain and for any calls, the queue and what it returns spell what the calls make of the
byte string, and the cached length is right all the time. -/
theorem bufQueue_refines (chain : List Bytes) (actions : List BufAction) :
    run stringStep (chain.flatten,[]) actions = spelled <$> run bufStep (.make chain,[]) actions ∧
      Throughout bufStep (fun state => state.1.Counted) (.make chain,[]) actions := by
  have counted : (BufQueue.make chain).Counted := computeChainDataLength_eq chain
  refine ⟨?_,?_⟩
  · refine @run_simulates _ _ _ (.make chain,[]) (fun state => state.1.Counted) (fun _ => True) _
      bufStep _ _ spelled (fun state action _ counted => (bufStep_spelled state action counted).1)
      (fun state action next _ counted => (bufStep_spelled state action counted).2 next)
      (fun _ _ => trivial) counted
  · refine @throughout_of_stepsMeet _ _ _ _ _ _ (fun _ _ => True) _ (fun _ => True) ?_ trivial counted
      (stepsMeet_of_always (fun _ _ _ => trivial) _)
    intro state action next _ counted _ done
    exact ⟨trivial,(bufStep_spelled state action counted).2 next done⟩

end StreamServer.Common
