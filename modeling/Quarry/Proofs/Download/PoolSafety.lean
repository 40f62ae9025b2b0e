import Quarry.Proofs.Download.Progress

/-!
# Safety of a pool

What is true of every history of a pool, in whatever order its workers and its consumer move: wires
are claimed once and in order, each slot holds the outcome of its own wire and hands it out once, and
no slot that is waited for stays empty. The facts are gathered in `SafeHistory`.
-/

namespace Quarry.Pool

variable {α : Type} {isError : α → Bool} {outcome : Nat → α} {first p p' : Pool α}

/-! ## 1. Claims -/

/-- The wires that were claimed, in the order of the claims. -/
def claimedIn (events : List (Event α)) : List Nat :=
  events.filterMap fun
    | .claim _ index? => index?
    | _ => none

theorem claimedIn_append (events : List (Event α)) (e : Event α) :
    claimedIn (events ++ [e]) = claimedIn events ++ claimedIn [e] :=
  List.filterMap_append

-- One step claims no wire, or the first one that is left.
theorem Step.claimed {e : Event α} (hp : Sound isError outcome p)
    (h : Step isError outcome p e p') :
    List.range (min p'.next p'.slots.size) =
      List.range (min p.next p.slots.size) ++ claimedIn [e] := by
  -- Only a claim moves `next`, and by one.
  rw [h.frame.1]
  cases h with
  | look at_look =>
    rw [move_looking at_look]
    exact (List.append_nil _).symm
  | claim at_claim =>
    rw [move_claiming at_claim]
    show List.range (min (p.next + 1) p.slots.size) = _
    by_cases hlt : p.next < p.slots.size
    · rw [Nat.min_eq_left (by omega), Nat.min_eq_left (by omega), List.range_succ]
      simp only [claimedIn, hlt, if_true, List.filterMap_cons, List.filterMap_nil]
    · rw [Nat.min_eq_right (by omega), Nat.min_eq_right (by omega)]
      simp only [claimedIn, hlt, if_false, List.filterMap_cons, List.filterMap_nil, List.append_nil]
  | @record w i at_record =>
    rw [move_fetching at_record (hp.fetching_pending w i at_record)]
    exact (List.append_nil _).symm
  | @hand i =>
    rw [(take_frame i).2.2.1]
    exact (List.append_nil _).symm

/-- The claimed wires are the first ones, in order. -/
theorem History.claimed {events : List (Event α)} (hfirst : Sound isError outcome first)
    (hnext : first.next = 0) (h : History isError outcome first events p) :
    claimedIn events = List.range (min p.next p.slots.size) := by
  -- By induction on the history: the invariant holds wherever it leads.
  induction h with
  | start =>
    rw [hnext, Nat.zero_min]
    rfl
  | step hrun hstep ih => rw [claimedIn_append, ih, hstep.claimed (hfirst.history hrun)]

/-! ## 2. Slots -/

/-- A slot before and after a step: it stays, it is filled with the outcome of its wire, or its
outcome is taken. -/
inductive SlotStep (outcome : Nat → α) (index : Nat) : Slot α → Slot α → Prop where
  | stay (slot : Slot α) : SlotStep outcome index slot slot
  | fill : SlotStep outcome index .pending (.ready (outcome index))
  | empty : SlotStep outcome index (.ready (outcome index)) .taken

theorem Step.slot {e : Event α} (hp : Sound isError outcome p)
    (h : Step isError outcome p e p') {k : Nat} {s s' : Slot α}
    (hs : p.slots[k]? = some s) (hs' : p'.slots[k]? = some s') : SlotStep outcome k s s' := by
  -- Only recording and handing out touch a slot, and each of them touches one.
  have hsame : ∀ {t : Slot α}, p.slots[k]? = some t → SlotStep outcome k s t := by
    intro t ht
    rw [hs] at ht
    cases ht
    exact .stay s
  cases h with
  | look at_look =>
    rw [move_looking at_look] at hs'
    exact hsame hs'
  | claim at_claim =>
    rw [move_claiming at_claim] at hs'
    exact hsame hs'
  | @record w i at_record =>
    have hpend := hp.fetching_pending w i at_record
    rw [move_fetching at_record hpend, slot_become _ hpend k] at hs'
    by_cases hik : i = k
    · subst hik
      rw [if_pos rfl] at hs'
      rw [hpend] at hs
      cases hs
      cases hs'
      exact .fill
    · rw [if_neg hik] at hs'
      exact hsame hs'
  | @hand i within filled =>
    rcases take_of_filled hp within filled with ⟨hready, htake⟩ | ⟨_, htake⟩
    · rw [htake, slot_become _ hready k] at hs'
      by_cases hik : i = k
      · subst hik
        rw [if_pos rfl] at hs'
        rw [hready] at hs
        cases hs
        cases hs'
        exact .empty
      · rw [if_neg hik] at hs'
        exact hsame hs'
    · rw [htake] at hs'
      exact hsame hs'

/-! ## 3. What the consumer is handed -/

/-- What the consumer was handed for a wire, in order. -/
def handedIn (index : Nat) (events : List (Event α)) : List (Option α) :=
  events.filterMap fun
    | .hand i outcome? => if i = index then some outcome? else none
    | _ => none

theorem handedIn_append (index : Nat) (events : List (Event α)) (e : Event α) :
    handedIn index (events ++ [e]) = handedIn index events ++ handedIn index [e] :=
  List.filterMap_append

/-- What was handed out for a wire, by the state of its slot: nothing before it is taken, and then
its outcome followed by nothing any more. -/
def Handed (outcome : Nat → α) (index : Nat) (slot? : Option (Slot α))
    (handed : List (Option α)) : Prop :=
  (slot? ≠ some .taken → handed = []) ∧
    (slot? = some .taken → ∃ again, handed = some (outcome index) :: List.replicate again none)

-- A step that hands out nothing and takes nothing.
theorem Handed.keep {slot? slot?' : Option (Slot α)} {handed : List (Option α)} {k : Nat}
    (h : Handed outcome k slot? handed) (hiff : slot?' = some .taken ↔ slot? = some .taken) :
    Handed outcome k slot?' handed :=
  ⟨fun hne => h.1 (fun ht => hne (hiff.mpr ht)), fun ht => h.2 (hiff.mp ht)⟩

theorem Step.handed {e : Event α} (hp : Sound isError outcome p)
    (h : Step isError outcome p e p') {k : Nat} {handed : List (Option α)}
    (hk : Handed outcome k p.slots[k]? handed) :
    Handed outcome k p'.slots[k]? (handed ++ handedIn k [e]) := by
  cases h with
  | look at_look =>
    rw [move_looking at_look, show handedIn k [Event.look _] = [] from rfl, List.append_nil]
    exact hk
  | claim at_claim =>
    rw [move_claiming at_claim, show handedIn k [Event.claim _ _] = [] from rfl, List.append_nil]
    exact hk
  | @record w i at_record =>
    have hpend := hp.fetching_pending w i at_record
    rw [move_fetching at_record hpend, show handedIn k [Event.record _ _] = [] from rfl,
      List.append_nil]
    refine hk.keep ?_
    rw [slot_become _ hpend k]
    split
    · rename_i hik
      rw [← hik, hpend]
      simp
    · rfl
  | @hand i within filled =>
    rcases take_of_filled hp within filled with ⟨hready, htake⟩ | ⟨htaken, htake⟩
    · rw [htake]
      by_cases hik : i = k
      · -- The first time the slot is ready, and from then on it is taken.
        subst hik
        have hnone : handed = [] := hk.1 (by rw [hready]; simp)
        refine ⟨fun hne => absurd ?_ hne, fun _ => ⟨0, ?_⟩⟩
        · rw [slot_become _ hready i, if_pos rfl]
        · rw [hnone]
          simp [handedIn]
      · rw [slot_become _ hready k, if_neg hik]
        simpa [handedIn, hik] using hk
    · rw [htake]
      by_cases hik : i = k
      · subst hik
        obtain ⟨again, hhanded⟩ := hk.2 htaken
        refine ⟨fun hne => absurd htaken hne, fun _ => ⟨again + 1, ?_⟩⟩
        rw [hhanded, List.replicate_succ']
        simp [handedIn]
      · simpa [handedIn, hik] using hk

theorem History.handed {events : List (Event α)} (hfirst : Sound isError outcome first) {k : Nat}
    (hk : first.slots[k]? ≠ some .taken) (h : History isError outcome first events p) :
    Handed outcome k p.slots[k]? (handedIn k events) := by
  induction h with
  | start => exact ⟨fun _ => rfl, fun ht => absurd ht hk⟩
  | step hrun hstep ih =>
    rw [handedIn_append]
    exact hstep.handed (hfirst.history hrun) ih

/-! ## 4. Wires in flight -/

/-- The number of wires that are being fetched. -/
def inFlight (p : Pool α) : Nat :=
  p.workers.countP fun
    | .fetching _ => true
    | _ => false

theorem size_workers_start (wires threads : Nat) (stops : Bool) :
    (start wires threads stops : Pool α).workers.size =
      if wires = 0 then 0 else max 1 (min threads wires) := by
  simp only [start]
  split
  · rfl
  · exact Array.size_replicate

theorem size_slots_start (wires threads : Nat) (stops : Bool) :
    (start wires threads stops : Pool α).slots.size = wires :=
  Array.size_replicate

/-! ## 5. Safe histories -/

/-- What holds of a history that leads from the start to a pool. -/
structure SafeHistory (isError : α → Bool) (outcome : Nat → α) (wires threads : Nat)
    (stopsOnError : Bool) (events : List (Event α)) (p : Pool α) : Prop where
  /-- No wire is claimed twice, and the claimed wires are those before `next`. -/
  claimed_once : (claimedIn events).Nodup
  claimed_prefix : claimedIn events = List.range (min p.next wires)
  /-- A ready slot holds the outcome of its own wire, and slots only move on. -/
  ready_own : ∀ (i : Nat) (o : α), p.slots[i]? = some (.ready o) → o = outcome i
  slot_step : ∀ (e : Event α) (p' : Pool α), Step isError outcome p e p' →
    ∀ (i : Nat) (s s' : Slot α), p.slots[i]? = some s → p'.slots[i]? = some s' →
      SlotStep outcome i s s'
  /-- An outcome is handed out at most once; whoever asks again is told that it is consumed. -/
  handed_once : ∀ i < wires, handedIn i events = [] ∨
    ∃ again, handedIn i events = some (outcome i) :: List.replicate again none
  /-- No more wires are fetched at a time than there are threads or wires. -/
  in_flight : p.inFlight ≤ min threads wires
  /-- Once the workers are done, all slots are filled; if the pool stops on errors, all slots up to
  the first error. -/
  filled : p.Finished → stopsOnError = false → ∀ i < wires, p.slots[i]? ≠ some .pending
  filled_to_error : p.Finished → stopsOnError = true → ∀ i < wires,
    (∀ j < i, isError (outcome j) = false) → p.slots[i]? ≠ some .pending
  /-- So a consumer that waits for the slots in order, no further than the first error if the pool
  stops on errors, never waits for ever: while its slot is pending a worker can move, and each move
  of a worker makes the number of moves that are left smaller. -/
  not_stuck : ∀ i < wires, (stopsOnError = true → ∀ j < i, isError (outcome j) = false) →
    p.slots[i]? = some .pending →
      ∃ (w : Nat) (e : Event α), Step isError outcome p e (p.move isError outcome w)
  moves_decrease : ∀ (w : Nat) (x : Worker), p.workers[w]? = some x → x ≠ .done →
    (p.move isError outcome w).movesLeft < p.movesLeft

/-- Every history of a pool is safe, for any wires, any positive number of threads and any outcomes,
whether or not errors stop the pool. -/
theorem safeHistory_of_history {wires threads : Nat} {stopsOnError : Bool}
    {events : List (Event α)} (hthreads : 1 ≤ threads)
    (h : History isError outcome (start wires threads stopsOnError) events p) :
    SafeHistory isError outcome wires threads stopsOnError events p := by
  have hfirst : Sound isError outcome (start wires threads stopsOnError) := sound_start _ _ _
  have hp : Sound isError outcome p := hfirst.history h
  have hslots : p.slots.size = wires := h.frame.1.trans (size_slots_start _ _ _)
  have hworkers : p.workers.size = if wires = 0 then 0 else max 1 (min threads wires) :=
    h.frame.2.1.trans (size_workers_start _ _ _)
  have hstops : p.stopsOnError = stopsOnError := h.frame.2.2
  have hclaimed : claimedIn events = List.range (min p.next wires) := by
    rw [← hslots]
    exact h.claimed hfirst rfl
  -- What the pool does on errors is what it was started with.
  have hawaited : ∀ i : Nat, (stopsOnError = true → ∀ j < i, isError (outcome j) = false) →
      Awaited isError outcome p i := fun i hi hstop => hi (hstops ▸ hstop)
  have hpos : ∀ i < wires, 0 < p.workers.size := by
    intro i hi
    rw [hworkers, if_neg (by omega)]
    omega
  exact {
    claimed_once := hclaimed ▸ List.nodup_range
    claimed_prefix := hclaimed
    ready_own := hp.ready_eq
    slot_step := fun e p' hstep i s s' hs hs' => hstep.slot hp hs hs'
    handed_once := fun i hi => by
      have hpend : (start wires threads stopsOnError : Pool α).slots[i]? ≠ some .taken := by
        rw [start_slot hi]
        simp
      have hhanded := h.handed hfirst hpend
      by_cases ht : p.slots[i]? = some .taken
      · exact Or.inr (hhanded.2 ht)
      · exact Or.inl (hhanded.1 ht)
    in_flight := by
      have hle : p.inFlight ≤ p.workers.size := Array.countP_le_size
      rw [hworkers] at hle
      split at hle <;> omega
    filled := fun hdone hno i hi =>
      hp.filled_of_finished hdone (hpos i hi) (hawaited i (by simp [hno]))
    filled_to_error := fun hdone _ i hi hok =>
      hp.filled_of_finished hdone (hpos i hi) (hawaited i fun _ => hok)
    not_stuck := fun i hi hok hpend => by
      obtain ⟨w, x, hw, hx⟩ := hp.exists_live (hpos i hi) (hawaited i hok) hpend
      exact ⟨w, exists_step_move hw hx⟩
    moves_decrease := fun w x hw hx => movesLeft_move_lt hw hx }

/-- Two workers fetch a wire each and the second one fails first: the outcome of the first wire is
still left in its slot and handed out, once. -/
theorem safeHistory_second_wire_fails :
    let events : List (Event Bool) :=
      [.look 0, .claim 0 (some 0), .look 1, .claim 1 (some 1), .record 1 1, .look 1, .record 0 0,
        .hand 0 (some false), .hand 0 none]
    1 ≤ 3 ∧ ∃ p, History id (· == 1) (start 2 3 true) events p ∧
      p.slots = #[.taken, .ready true] ∧ SafeHistory id (· == 1) 2 3 true events p := by
  intro events
  have h0 : History id (· == 1) (start 2 3 true) [] (start 2 3 true : Pool Bool) := .start
  have h1 := (h0.step (@Step.look _ _ _ _ 0 rfl)).step (@Step.claim _ _ _ _ 0 rfl)
  have h2 := (h1.step (@Step.look _ _ _ _ 1 rfl)).step (@Step.claim _ _ _ _ 1 rfl)
  have h3 := (h2.step (@Step.record _ _ _ _ 1 1 rfl)).step (@Step.look _ _ _ _ 1 rfl)
  have h4 := (h3.step (@Step.record _ _ _ _ 0 0 rfl)).step
    (@Step.hand _ _ _ _ 0 (by decide) (by decide))
  have h5 := h4.step (@Step.hand _ _ _ _ 0 (by decide) (by decide))
  have hthreads : 1 ≤ 3 := by decide
  exact ⟨hthreads, _, h5, by rfl, safeHistory_of_history hthreads h5⟩

end Quarry.Pool
