import ClassicPlatform.Dem.Events

/-!
# Each event at most once

An event is looked up in its memory before it is stored. So in every state that the module goes
through no event has two entries in a memory.
-/
namespace Dem

open Function List Slots

def State.entriesOf (s : State) (origin : Origin) (event : Nat) : Nat :=
  amount EventRec.eventId event (s.eventBuffer origin)

/-- No event has more entries than before. -/
def Fewer (s s' : State) : Prop :=
  ∀ origin event, event ≠ 0 → s'.entriesOf origin event ≤ s.entriesOf origin event

/-- The states that the module goes through from empty memories on, inside of its functions too: an
event is stored, and whatever else happens adds no entry. -/
inductive Reached (config : Config) : State → Prop where
  | empty {s : State} : (∀ origin, ∀ entry ∈ s.eventBuffer origin, entry.free = true) →
      Reached config s
  | stored {s : State} (event : Nat) :
      Reached config s → Reached config (storeEventEvtMem config s event).1
  | fewer {s s' : State} : Reached config s → Fewer s s' → Reached config s'

def Unrepeated (s : State) : Prop :=
  ∀ origin event, event ≠ 0 → s.entriesOf origin event ≤ 1

variable {config : Config} {s s' : State} {event : Nat} {origin : Origin}

theorem Fewer.of_eq (same : s'.eventBuffer = s.eventBuffer) : Fewer s s' := by
  intro origin event _
  rw [State.entriesOf, same]
  exact Nat.le_refl _

theorem Fewer.refl (s : State) : Fewer s s :=
  .of_eq rfl

theorem Fewer.trans {s'' : State} (first : Fewer s s') (second : Fewer s' s'') : Fewer s s'' :=
  fun origin event is_event => (second origin event is_event).trans (first origin event is_event)

theorem Unrepeated.fewer (before : Unrepeated s) (fewer : Fewer s s') : Unrepeated s' :=
  fun origin event is_event => (fewer origin event is_event).trans (before origin event is_event)

theorem setEventBuffer_fewer {buffer : List EventRec}
    (fewer : ∀ event, event ≠ 0 → amount EventRec.eventId event buffer ≤ s.entriesOf origin event) :
    Fewer s (s.setEventBuffer origin buffer) := by
  intro memory event is_event
  change amount _ _ (update s.eventBuffer origin buffer memory) ≤ _
  by_cases same : memory = origin
  · subst same
    rw [update_self]
    exact fewer event is_event
  · rw [update_of_ne same]
    exact Nat.le_refl _

theorem setEventTimeStamp_fewer : Fewer s (setEventTimeStamp config s event) := by
  have rearranged : Fewer s (rearrangeEventTimeStamp config s) := by
    intro origin event is_event
    have renumbered : Renumber.AllRenumbered EventRec.free EventRec.timeStamp EventRec.stamp
        config.origins 0 s.eventBuffer (rearrangeEventTimeStamp config s).eventBuffer
        (rearrangeEventTimeStamp config s).eventTimeStamp := by
      apply Renumber.renumberAll_renumbered
      · exact fun _ _ => rfl
      · exact fun _ _ => rfl
      · exact config.origins_nodup
    refine le_of_eq (renumbered.countP_eq (fun entry counted => ?_) (fun _ _ => rfl) origin)
    rw [EventRec.free, of_decide_eq_true counted]
    exact decide_eq_false is_event
  unfold setEventTimeStamp takeTimeStamp
  split
  · dsimp only
    split
    · exact rearranged
    · exact .refl s
  · dsimp only
    split <;> exact .refl s

theorem resetAgingCounterEvtMem_fewer :
    Fewer s (resetAgingCounterEvtMem config s event origin) := by
  unfold resetAgingCounterEvtMem
  split
  · refine setEventBuffer_fewer fun other _ => le_of_eq ?_
    rw [amount, countP_map, State.entriesOf, amount]
    refine countP_congr fun entry _ => ?_
    simp only [comp_apply]
    split <;> rfl
  · exact .refl s

theorem eraseEntry_fewer : Fewer s (eraseEntry s event origin) :=
  setEventBuffer_fewer fun _ is_event =>
    le_trans (le_of_eq (amount_erase is_event.symm)) (Nat.sub_le _ _)

theorem deleteDTCData_fewer (combinedDTC : Bool) :
    Fewer s (deleteDTCData config s event combinedDTC) := by
  unfold deleteDTCData
  dsimp only
  split
  · exact eraseEntry_fewer
  · exact .refl s

theorem findAndDisplaceEvent_fewer : Fewer s (findAndDisplaceEvent config s event origin).1 :=
  eraseEntry_fewer

theorem lookupEventForDisplacement_fewer :
    Fewer s (lookupEventForDisplacement config s event origin).1 := by
  unfold lookupEventForDisplacement
  split
  · exact .refl s
  · split
    · refine List.foldlRecOn (motive := fun found : State × Option Nat => Fewer s found.1)
        _ _ (.refl s) ?_
      exact fun _ before other _ => before.trans findAndDisplaceEvent_fewer
    · exact .refl s

private theorem writeEntry_single (before : Unrepeated s) (index : Nat)
    (absent : event ≠ 0 → s.entriesOf origin event = 0) :
    Unrepeated (writeEntry config s event origin index) := by
  intro memory other is_event
  change amount _ _ (update s.eventBuffer origin _ memory) ≤ 1
  by_cases same : memory = origin
  · subst same
    rw [update_self]
    refine amount_set_le.trans ?_
    split
    next own =>
      change event = other at own
      subst own
      change s.entriesOf memory event + 1 ≤ 1
      rw [absent is_event]
    · exact before memory other is_event
  · rw [update_of_ne same]
    exact before memory other is_event

theorem storeEventEvtMem_unrepeated (before : Unrepeated s) :
    Unrepeated (storeEventEvtMem config s event).1 := by
  unfold storeEventEvtMem storeEventMem
  split
  · split
    next index found =>
      obtain ⟨entry, there, own⟩ := position_eq_some found
      have kept : event = ((s.eventBuffer (config.destination event)).getD index {}).eventId := by
        rw [getD_eq_getElem?_getD, there]
        exact own.symm
      exact before.fewer (setEventBuffer_fewer fun other _ => le_of_eq (amount_set_same kept))
    next missing =>
      have absent : s.entriesOf (config.destination event) event = 0 := position_eq_none.mp missing
      split
      · exact fun memory => writeEntry_single before _ (fun _ => absent) memory
      · split
        · have looked : Fewer s
              (lookupEventForDisplacement config s event (config.destination event)).1 :=
            lookupEventForDisplacement_fewer
          dsimp only
          split
          · refine fun memory => writeEntry_single (before.fewer looked) _ (fun is_event => ?_) memory
            exact Nat.le_zero.mp (absent ▸ looked _ event is_event)
          · exact before.fewer looked
        · exact before
  · exact before

theorem Reached.unrepeated (reached : Reached config s) : Unrepeated s := by
  induction reached with
  | empty entries =>
    intro origin event is_event
    refine le_trans (le_of_eq (countP_eq_zero.mpr fun entry member own => ?_)) (Nat.zero_le 1)
    have is_free := of_decide_eq_true (entries origin entry member)
    exact is_event (of_decide_eq_true own ▸ is_free)
  | stored event _ ih => exact storeEventEvtMem_unrepeated ih
  | fewer _ fewer ih => exact ih.fewer fewer

end Dem
