import StreamServer.Loss.Ledger

/-! A packet and its clones form a family. The first of them that is acknowledged or declared
lost is processed in full, and all that follow are not. -/
namespace StreamServer.Loss
open Protocol State

/-- Whether all frames of the packet were given to a visitor; nothing if no visitor was told. -/
def mode : PacketFate → Option Bool
  | .sent | .ackedAfterLoss => none
  | .acked processAllFrames => some processAllFrames
  | .lost processed => some !processed

def modeIn (event : PacketEvent) (record : PacketRecord) : Option Bool :=
  if family record.packet = event then mode record.fate else none

/-- How the packets of a family were given to the visitors, the latest first. -/
def modes (event : PacketEvent) (history : List PacketRecord) : List Bool :=
  history.filterMap (modeIn event)

/-- Every packet was processed in full exactly if it was the first of its family, and was cloned
only before that. -/
def Once : List PacketRecord → Prop
  | [] => True
  | record :: earlier => Once earlier ∧
      (∀ full, mode record.fate = some full →
        (full = true ↔ modes (family record.packet) earlier = [])) ∧
      (record.fate = .sent → record.packet.associatedEvent.isSome →
        modes (family record.packet) earlier = [])

structure Families (next : PacketNumberSpace → PacketNum) (ledger : Ledger) : Prop where
  waiting : ∀ packet ∈ ledger.outstandings.packets, packet.declaredLost = false →
    (ledger.outstandings.needsProcess packet = true ↔ modes (family packet) ledger.history = [])
  pending : ∀ event ∈ ledger.outstandings.packetEvents, modes event ledger.history = []
  attended : ∀ event ∈ ledger.outstandings.packetEvents, ∃ packet ∈ ledger.outstandings.packets,
    packet.declaredLost = false ∧ packet.associatedEvent = some event
  old : ∀ record ∈ ledger.history, (family record.packet).packetNumber <
    next (family record.packet).packetNumberSpace
  once : Once ledger.history

variable {next : PacketNumberSpace → PacketNum} {ledger moved : Ledger}
  {before after : List OutstandingPacket} {packet other : OutstandingPacket} {event : PacketEvent}
  {record : PacketRecord}

theorem modes_cons_other (history : List PacketRecord) (other : family record.packet ≠ event) :
    modes event (record :: history) = modes event history :=
  List.filterMap_cons_none (if_neg other)

theorem modes_cons_unvisited (event : PacketEvent) (history : List PacketRecord)
    (unvisited : mode record.fate = none) :
    modes event (record :: history) = modes event history := by
  apply List.filterMap_cons_none
  rw [modeIn,unvisited,ite_self]

section Found

variable (ordered : ledger.Ordered next)
  (found : ledger.outstandings.packets = before ++ packet :: after)

include found

private theorem mem_tags :
    tag packet ∈ ledger.outstandings.packets.map tag := by
  rw [found]
  simp

private theorem other_mem_tags (inside : other ∈ before ++ after) :
    tag other ∈ ledger.outstandings.packets.map tag := by
  rw [found]
  rcases List.mem_append.mp inside with earlier | follows
  · exact List.mem_map_of_mem (List.mem_append_left _ earlier)
  · exact List.mem_map_of_mem (List.mem_append_right _ (List.mem_cons_of_mem _ follows))

include ordered

private theorem key_ne_of_found (inside : other ∈ before ++ after) :
    (tag other).key ≠ (tag packet).key := by
  have distinct := ordered.distinct
  rw [found,List.map_append,List.map_cons,List.pairwise_append,List.pairwise_cons] at distinct
  obtain ⟨_,⟨later,_⟩,across⟩ := distinct
  rcases List.mem_append.mp inside with earlier | follows
  · exact across _ (List.mem_map_of_mem earlier) _ List.mem_cons_self
  · exact (later _ (List.mem_map_of_mem follows)).symm

private theorem family_fresh :
    (family packet).packetNumber < next (family packet).packetNumberSpace := by
  cases tagged : packet.associatedEvent with
  | none =>
    rw [family,tagged]
    exact ordered.fresh (tag packet) (mem_tags found)
  | some event =>
    rw [family,tagged]
    exact ordered.eventFresh (tag packet) (mem_tags found) event tagged

/-- Two packets are of one family only through an event they share. -/
private theorem shared_event (inside : other ∈ before ++ after)
    (same : family packet = family other) :
    ∃ event, packet.associatedEvent = some event ∧ other.associatedEvent = some event := by
  cases tagged : packet.associatedEvent with
  | none =>
    rw [family,tagged,Option.getD_none] at same
    cases otherTagged : other.associatedEvent with
    | none =>
      rw [family,otherTagged,Option.getD_none] at same
      exact absurd same.symm (key_ne_of_found ordered found inside)
    | some event =>
      rw [family,otherTagged,Option.getD_some] at same
      obtain ⟨_,others⟩ := ordered.original (tag packet) (mem_tags found) tagged
      exact absurd (otherTagged.trans (congrArg some same.symm))
        (others (tag other) (other_mem_tags found inside))
  | some event =>
    rw [family,tagged,Option.getD_some] at same
    cases otherTagged : other.associatedEvent with
    | none =>
      rw [family,otherTagged,Option.getD_none] at same
      obtain ⟨_,others⟩ := ordered.original (tag other) (other_mem_tags found inside) otherTagged
      exact absurd (tagged.trans (congrArg some same)) (others (tag packet) (mem_tags found))
    | some shared =>
      rw [family,otherTagged,Option.getD_some] at same
      exact ⟨event,rfl,congrArg some same.symm⟩

private theorem needsProcess_release (inside : other ∈ before ++ after) :
    (ledger.outstandings.release packet).needsProcess other = true ↔
      family packet ≠ family other ∧ ledger.outstandings.needsProcess other = true := by
  simp only [OutstandingsInfo.needsProcess,release_packetEvents]
  constructor
  · intro needed
    refine ⟨fun same => ?_,?_⟩
    · obtain ⟨event,tagged,otherTagged⟩ := shared_event ordered found inside same
      rw [tagged,otherTagged] at needed
      simp at needed
    · cases otherTagged : other.associatedEvent with
      | none => rfl
      | some event =>
        rw [otherTagged] at needed
        cases tagged : packet.associatedEvent with
        | none =>
          rw [tagged] at needed
          exact needed
        | some settled =>
          rw [tagged] at needed
          simp only [Option.elim_some,Option.all_some,Finset.mem_erase,decide_eq_true_eq] at needed
          simpa using needed.2
  · rintro ⟨apart,needed⟩
    cases otherTagged : other.associatedEvent with
    | none => rfl
    | some event =>
      rw [otherTagged] at needed
      cases tagged : packet.associatedEvent with
      | none => exact needed
      | some settled =>
        have different : event ≠ settled := by
          rintro rfl
          apply apart
          rw [family,family,tagged,otherTagged,Option.getD_some,Option.getD_some]
        simp only [Option.all_some,decide_eq_true_eq] at needed
        simpa using ⟨different,needed⟩

end Found

/-- A packet that is released is the only one that goes, and its family is waited for no longer. -/
private theorem attended_release (families : Families next ledger)
    (found : ledger.outstandings.packets = before ++ packet :: after)
    (inside : event ∈ (ledger.outstandings.release packet).packetEvents) :
    ∃ other ∈ before ++ after, other.declaredLost = false ∧ other.associatedEvent = some event := by
  obtain ⟨other,there,alive,tagged⟩ := families.attended event
    (release_packetEvents_subset ledger.outstandings packet inside)
  rw [found] at there
  have cases : other = packet ∨ other ∈ before ++ after := by
    simp only [List.mem_append,List.mem_cons] at there ⊢
    tauto
  rcases cases with rfl | stays
  · rw [release_packetEvents,tagged] at inside
    exact absurd rfl (Finset.mem_erase.mp inside).1
  · exact ⟨other,stays,alive,tagged⟩

private theorem attended_skip {events : Finset PacketEvent}
    (attended : ∀ event ∈ events, ∃ other ∈ before ++ packet :: after,
      other.declaredLost = false ∧ other.associatedEvent = some event)
    (lost : packet.declaredLost = true) :
    ∀ event ∈ events, ∃ other ∈ before ++ after,
      other.declaredLost = false ∧ other.associatedEvent = some event := by
  intro event inside
  obtain ⟨other,there,alive,tagged⟩ := attended event inside
  have cases : other = packet ∨ other ∈ before ++ after := by
    simp only [List.mem_append,List.mem_cons] at there ⊢
    tauto
  rcases cases with rfl | stays
  · rw [lost] at alive
    exact nomatch alive
  · exact ⟨other,stays,alive,tagged⟩

private theorem families_release (ordered : ledger.Ordered next) (families : Families next ledger)
    (found : ledger.outstandings.packets = before ++ packet :: after)
    (waiting : packet.declaredLost = false) {fate : PacketFate}
    (visited : mode fate = some (ledger.outstandings.needsProcess packet))
    (released : moved.outstandings.packetEvents =
      (ledger.outstandings.release packet).packetEvents)
    (kept : ∀ other ∈ moved.outstandings.packets, other.declaredLost = false →
      other ∈ before ++ after)
    (stay : ∀ other ∈ before ++ after, other ∈ moved.outstandings.packets)
    (noted : moved.history = ⟨packet,fate⟩ :: ledger.history) : Families next moved := by
  have present : packet ∈ ledger.outstandings.packets := by
    rw [found]
    simp
  refine ⟨fun other inside alive => ?_,fun event inside => ?_,fun event inside => ?_,?_,?_⟩
  · have there := kept other inside alive
    have needs : moved.outstandings.needsProcess other =
        (ledger.outstandings.release packet).needsProcess other := by
      rw [OutstandingsInfo.needsProcess,released]
      rfl
    have stays : other ∈ ledger.outstandings.packets := by
      rw [found]
      rcases List.mem_append.mp there with earlier | follows
      · exact List.mem_append_left _ earlier
      · exact List.mem_append_right _ (List.mem_cons_of_mem _ follows)
    rw [needs,needsProcess_release ordered found there,noted,
      families.waiting other stays alive]
    by_cases same : family packet = family other
    · have latest : modes (family packet) (⟨packet,fate⟩ :: ledger.history) = _ :=
        List.filterMap_cons_some ((if_pos rfl).trans visited)
      rw [← same,latest]
      simp
    · rw [@modes_cons_other _ ⟨packet,fate⟩ ledger.history same]
      simp [same]
  · rw [released,release_packetEvents] at inside
    rw [noted]
    cases tagged : packet.associatedEvent with
    | none =>
      rw [tagged] at inside
      rw [@modes_cons_other _ ⟨packet,fate⟩]
      · exact families.pending event inside
      · rintro rfl
        rw [family,tagged] at inside
        exact (ordered.original (tag packet) (mem_tags found) tagged).1 inside
    | some settled =>
      rw [tagged] at inside
      obtain ⟨different,there⟩ := Finset.mem_erase.mp inside
      rw [@modes_cons_other _ ⟨packet,fate⟩]
      · exact families.pending event there
      · rw [family,tagged]
        exact different.symm
  · rw [released] at inside
    obtain ⟨other,stays,attends⟩ := attended_release families found inside
    exact ⟨other,stay other stays,attends⟩
  · rw [noted]
    exact List.forall_mem_cons.mpr ⟨family_fresh ordered found,families.old⟩
  · rw [noted]
    refine ⟨families.once,fun full same => ?_,fun sent => ?_⟩
    · rw [visited] at same
      rw [← Option.some.inj same]
      exact families.waiting packet present waiting
    · rw [show fate = .sent from sent] at visited
      cases visited

theorem Move.families (move : Move ledger moved) (ordered : ledger.Ordered next)
    (families : Families next ledger) : Families next moved := by
  cases move with
  | acked found waiting =>
    exact families_release ordered families found waiting rfl rfl
      (fun _ inside _ => inside) (fun _ inside => inside) rfl
  | @ackedAfterLoss before after packet found lost =>
    refine ⟨fun other inside alive => ?_,fun event inside => ?_,
      attended_skip (found ▸ families.attended) lost,?_,?_⟩
    · rw [modes_cons_unvisited _ _ rfl]
      apply families.waiting other _ alive
      rw [found]
      exact ((List.sublist_cons_self packet after).append_left before).subset inside
    · rw [modes_cons_unvisited _ _ rfl]
      exact families.pending event inside
    · exact List.forall_mem_cons.mpr ⟨family_fresh ordered found,families.old⟩
    · exact ⟨families.once,fun _ visited => (by cases visited),fun sent => (by cases sent)⟩
  | @cleared before after packet found lost =>
    refine {families with
      waiting := fun other inside alive => ?_
      attended := attended_skip (found ▸ families.attended) lost}
    apply families.waiting other _ alive
    rw [found]
    exact ((List.sublist_cons_self packet after).append_left before).subset inside
  | @lost before after packet marked found waiting marks same =>
    apply families_release ordered families found waiting _ _ _ _ rfl
    · rw [mode,Bool.not_not]
    · unfold noteLost
      split <;> simp [release_packetEvents,OutstandingsInfo.lowerDsrCount]
    · intro other inside alive
      rcases List.mem_append.mp inside with earlier | follows
      · exact List.mem_append_left _ earlier
      · rcases List.mem_cons.mp follows with rfl | follows
        · rw [marks] at alive
          cases alive
        · exact List.mem_append_right _ follows
    · intro other inside
      exact ((List.sublist_cons_self marked after).append_left before).subset inside
  | dropped found waiting early =>
    apply families_release ordered families found waiting _ rfl
      (fun _ inside _ => inside) (fun _ inside => inside) rfl
    rw [mode,Bool.not_not]
  | settled =>
    exact {families with}

end StreamServer.Loss
