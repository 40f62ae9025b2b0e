import Mathlib.Data.List.Basic
import Quarry.Download.Pool

/-!
# Interleavings of a pool

The workers of a pool and the consumer of its outcomes take atomic steps in any order. A history is
the list of what happened in such an order. `Sound` is the invariant of every pool that a history
leads to; it holds at the start and each step keeps it.
-/

namespace Quarry.Pool

variable {α : Type} {isError : α → Bool} {outcome : Nat → α} {p p' : Pool α}

/-! ## 1. Steps -/

/-- What happens in one step: a worker looks whether the pool has stopped, claims a wire if one is
left, or leaves an outcome in its slot; or the consumer is handed what a slot holds, which is nothing
if it was taken before. -/
inductive Event (α : Type) where
  | look (worker : Nat)
  | claim (worker : Nat) (index? : Option Nat)
  | record (worker index : Nat)
  | hand (index : Nat) (outcome? : Option α)

/-- The steps of a pool. The consumer is kept waiting as long as its slot is pending. -/
inductive Step (isError : α → Bool) (outcome : Nat → α) : Pool α → Event α → Pool α → Prop where
  | look {p : Pool α} {worker : Nat} (at_look : p.workers[worker]? = some .looking) :
      Step isError outcome p (.look worker) (p.move isError outcome worker)
  | claim {p : Pool α} {worker : Nat} (at_claim : p.workers[worker]? = some .claiming) :
      Step isError outcome p (.claim worker (if p.next < p.slots.size then some p.next else none))
        (p.move isError outcome worker)
  | record {p : Pool α} {worker index : Nat}
      (at_record : p.workers[worker]? = some (.fetching index)) :
      Step isError outcome p (.record worker index) (p.move isError outcome worker)
  | hand {p : Pool α} {index : Nat} (within : index < p.slots.size)
      (filled : p.slots[index]? ≠ some .pending) :
      Step isError outcome p (.hand index (p.take index).1) (p.take index).2

/-- What happened on the way from a pool to another. -/
inductive History (isError : α → Bool) (outcome : Nat → α) (first : Pool α) :
    List (Event α) → Pool α → Prop where
  | start : History isError outcome first [] first
  | step {events : List (Event α)} {p : Pool α} {e : Event α} {p' : Pool α} :
      History isError outcome first events p → Step isError outcome p e p' →
      History isError outcome first (events ++ [e]) p'

/-! ## 2. What a move does -/

-- One equation for each thing that a worker is about to do.
theorem move_looking {w : Nat} (h : p.workers[w]? = some .looking) :
    p.move isError outcome w =
      { p with workers := p.workers.setIfInBounds w (if p.stopped then .done else .claiming) } := by
  simp only [move, h]

theorem move_claiming {w : Nat} (h : p.workers[w]? = some .claiming) :
    p.move isError outcome w =
      { p with
        workers := p.workers.setIfInBounds w
          (if p.next < p.slots.size then .fetching p.next else .done)
        next := p.next + 1 } := by
  simp only [move, h]

-- A worker that fetched a wire whose slot is pending fills the slot and looks again.
theorem move_fetching {w i : Nat} (h : p.workers[w]? = some (.fetching i))
    (hi : p.slots[i]? = some .pending) :
    p.move isError outcome w =
      { p with
        slots := p.slots.setIfInBounds i (.ready (outcome i))
        workers := p.workers.setIfInBounds w .looking
        stopped := p.stopped || (p.stopsOnError && isError (outcome i)) } := by
  simp only [move, h, finish, hi]

-- The worker at a place after one of them was replaced.
theorem worker_become {workers : Array Worker} {w : Nat} {old : Worker} (new : Worker)
    (h : workers[w]? = some old) (k : Nat) :
    (workers.setIfInBounds w new)[k]? = if w = k then some new else workers[k]? := by
  have hw : w < workers.size := (Array.getElem?_eq_some_iff.mp h).1
  rw [Array.getElem?_setIfInBounds]
  simp only [hw, if_true]

-- The slot at a place after one of them was replaced.
theorem slot_become {slots : Array (Slot α)} {i : Nat} {old : Slot α} (new : Slot α)
    (h : slots[i]? = some old) (k : Nat) :
    (slots.setIfInBounds i new)[k]? = if i = k then some new else slots[k]? := by
  have hi : i < slots.size := (Array.getElem?_eq_some_iff.mp h).1
  rw [Array.getElem?_setIfInBounds]
  simp only [hi, if_true]

theorem take_ready {i : Nat} {o : α} (h : p.slots[i]? = some (.ready o)) :
    p.take i = (some o, { p with slots := p.slots.setIfInBounds i .taken }) := by
  simp only [take, h]

theorem take_taken {i : Nat} (h : p.slots[i]? = some .taken) : p.take i = (none, p) := by
  simp only [take, h]

/-! ## 3. The invariant -/

/-- What holds of a pool at any time. A slot is pending as long as its wire is not claimed or one
worker fetches it; a ready slot holds the outcome of its own wire. A worker is done because the pool
has stopped or because no wire is left, and a pool stops because of an error at a claimed wire. -/
structure Sound (isError : α → Bool) (outcome : Nat → α) (p : Pool α) : Prop where
  ready_eq : ∀ (i : Nat) (o : α), p.slots[i]? = some (.ready o) → o = outcome i
  fetching_lt : ∀ w i : Nat, p.workers[w]? = some (.fetching i) → i < p.next
  fetching_pending : ∀ w i : Nat, p.workers[w]? = some (.fetching i) →
    p.slots[i]? = some .pending
  fetching_unique : ∀ w w' i : Nat, p.workers[w]? = some (.fetching i) →
    p.workers[w']? = some (.fetching i) → w = w'
  pending_fetching : ∀ i : Nat, i < p.next → p.slots[i]? = some .pending →
    ∃ w : Nat, p.workers[w]? = some (.fetching i)
  unclaimed_pending : ∀ i : Nat, p.next ≤ i → i < p.slots.size → p.slots[i]? = some .pending
  done_reason : ∀ w : Nat, p.workers[w]? = some .done → p.stopped = true ∨ p.slots.size ≤ p.next
  stopped_reason : p.stopped = true → p.stopsOnError = true ∧
    ∃ i, i < p.next ∧ i < p.slots.size ∧ isError (outcome i) = true

theorem start_slot {wires threads i : Nat} {stops : Bool} (h : i < wires) :
    (start wires threads stops : Pool α).slots[i]? = some .pending := by
  simp only [start, Array.getElem?_replicate, if_pos h]

theorem start_worker {wires threads w : Nat} {stops : Bool} {x : Worker}
    (h : (start wires threads stops : Pool α).workers[w]? = some x) : x = .looking := by
  simp only [start] at h
  split at h
  · simp at h
  · rw [Array.getElem?_replicate] at h
    split at h
    · exact (Option.some.inj h).symm
    · cases h

/-- Nothing is claimed at the start, and all slots are pending. -/
theorem sound_start (wires threads : Nat) (stops : Bool) :
    Sound isError outcome (start wires threads stops) := by
  have hsize : (start wires threads stops : Pool α).slots.size = wires := by
    simp only [start, Array.size_replicate]
  -- All workers are looking, which leaves only the slots to speak of.
  have hidle : ∀ (w : Nat) (x : Worker), x ≠ .looking →
      (start wires threads stops : Pool α).workers[w]? ≠ some x :=
    fun w x hx h => hx (start_worker h)
  exact {
    ready_eq := by
      intro i o h
      have hi := (Array.getElem?_eq_some_iff.mp h).1
      rw [start_slot (by omega)] at h
      cases h
    fetching_lt := fun w i h => absurd h (hidle w _ (by simp))
    fetching_pending := fun w i h => absurd h (hidle w _ (by simp))
    fetching_unique := fun w _ i h => absurd h (hidle w _ (by simp))
    pending_fetching := fun i hi => absurd hi (Nat.not_lt_zero i)
    unclaimed_pending := fun i _ hi => start_slot (by omega)
    done_reason := fun w h => absurd h (hidle w _ (by simp))
    stopped_reason := fun h => absurd h (by simp [start]) }

theorem Sound.look (hp : Sound isError outcome p) {w : Nat}
    (h : p.workers[w]? = some .looking) : Sound isError outcome (p.move isError outcome w) := by
  rw [move_looking h]
  have hw := worker_become (if p.stopped then .done else .claiming) h
  -- Looking changes who fetches what for no worker.
  have hfetch : ∀ k i : Nat, (p.workers.setIfInBounds w
      (if p.stopped then .done else .claiming))[k]? = some (.fetching i) ↔
        p.workers[k]? = some (.fetching i) := by
    intro k i
    rw [hw k]
    by_cases hk : w = k
    · subst hk
      rw [if_pos rfl, h]
      cases p.stopped <;> simp
    · rw [if_neg hk]
  exact {
    ready_eq := hp.ready_eq
    fetching_lt := fun k i hk => hp.fetching_lt k i ((hfetch k i).mp hk)
    fetching_pending := fun k i hk => hp.fetching_pending k i ((hfetch k i).mp hk)
    fetching_unique := fun k k' i hk hk' =>
      hp.fetching_unique k k' i ((hfetch k i).mp hk) ((hfetch k' i).mp hk')
    pending_fetching := fun i hi hs => by
      obtain ⟨k, hk⟩ := hp.pending_fetching i hi hs
      exact ⟨k, (hfetch k i).mpr hk⟩
    unclaimed_pending := hp.unclaimed_pending
    -- A worker that looks is done only because the pool has stopped.
    done_reason := fun k hk => by
      by_cases hstop : p.stopped = true
      · exact Or.inl hstop
      · refine hp.done_reason k ?_
        rw [hw k] at hk
        split at hk
        · simp at hk
        · exact hk
    stopped_reason := hp.stopped_reason }

-- A claim moves `next` on: the claimed wire is fetched by this worker and by no other.
theorem Sound.claim (hp : Sound isError outcome p) {w : Nat}
    (h : p.workers[w]? = some .claiming) : Sound isError outcome (p.move isError outcome w) := by
  rw [move_claiming h]
  have hw := worker_become (if p.next < p.slots.size then .fetching p.next else .done) h
  -- a worker that fetches a wire after the claim fetched it before, or has just claimed it
  have hfetch : ∀ k i : Nat, (p.workers.setIfInBounds w
      (if p.next < p.slots.size then .fetching p.next else .done))[k]? = some (.fetching i) →
        p.workers[k]? = some (.fetching i) ∨ w = k ∧ i = p.next ∧ p.next < p.slots.size := by
    intro k i hk
    rw [hw k] at hk
    split at hk
    · rename_i hwk
      split at hk
      · rename_i hlt
        cases hk
        exact Or.inr ⟨hwk, rfl, hlt⟩
      · cases hk
    · exact Or.inl hk
  -- And who fetched a wire before still does, for the claiming worker fetched none.
  have hold : ∀ k i : Nat, p.workers[k]? = some (.fetching i) → (p.workers.setIfInBounds w
      (if p.next < p.slots.size then .fetching p.next else .done))[k]? = some (.fetching i) := by
    intro k i hk
    rw [hw k, if_neg, hk]
    rintro rfl
    rw [h] at hk
    cases hk
  exact {
    ready_eq := hp.ready_eq
    fetching_lt := fun k i hk => by
      show i < p.next + 1
      rcases hfetch k i hk with hk | ⟨_, rfl, _⟩
      · exact Nat.lt_succ_of_lt (hp.fetching_lt k i hk)
      · exact Nat.lt_succ_self _
    fetching_pending := fun k i hk => by
      rcases hfetch k i hk with hk | ⟨_, rfl, hlt⟩
      · exact hp.fetching_pending k i hk
      · exact hp.unclaimed_pending _ (Nat.le_refl _) hlt
    -- Wires that are fetched were claimed before, and so come before `next`.
    fetching_unique := fun k k' i hk hk' => by
      rcases hfetch k i hk with hk | ⟨rfl, hi, _⟩ <;> rcases hfetch k' i hk' with hk' | ⟨rfl, hi', _⟩
      · exact hp.fetching_unique k k' i hk hk'
      · have hlt := hp.fetching_lt k i hk
        omega
      · have hlt := hp.fetching_lt k' i hk'
        omega
      · rfl
    -- The wire that was just claimed is the only new one below `next`.
    pending_fetching := fun i hi hs => by
      by_cases hold' : i < p.next
      · obtain ⟨k, hk⟩ := hp.pending_fetching i hold' hs
        exact ⟨k, hold k i hk⟩
      · have hi' : i = p.next := by
          change i < p.next + 1 at hi
          omega
        subst hi'
        have hlt : p.next < p.slots.size := (Array.getElem?_eq_some_iff.mp hs).1
        exact ⟨w, by rw [hw w, if_pos rfl, if_pos hlt]⟩
    unclaimed_pending := fun i hi hlt =>
      hp.unclaimed_pending i (Nat.le_of_succ_le hi) hlt
    done_reason := fun k hk => by
      show p.stopped = true ∨ p.slots.size ≤ p.next + 1
      rw [hw k] at hk
      split at hk
      · split at hk
        · cases hk
        · exact Or.inr (by omega)
      · rcases hp.done_reason k hk with hs | hle
        · exact Or.inl hs
        · exact Or.inr (Nat.le_succ_of_le hle)
    stopped_reason := fun hs => by
      obtain ⟨hstops, i, hi, hlt, he⟩ := hp.stopped_reason hs
      exact ⟨hstops, i, Nat.lt_succ_of_lt hi, hlt, he⟩ }

-- A worker that leaves an outcome was the only one to fetch its wire, so that the slot was pending
-- until now.
theorem Sound.record (hp : Sound isError outcome p) {w i : Nat}
    (h : p.workers[w]? = some (.fetching i)) :
    Sound isError outcome (p.move isError outcome w) := by
  have hpend := hp.fetching_pending w i h
  rw [move_fetching h hpend]
  have hw := worker_become .looking h
  have hs := slot_become (.ready (outcome i)) hpend
  -- No other worker fetches the wire, so that the rest of them fetch other wires.
  have hfetch : ∀ k j : Nat, (p.workers.setIfInBounds w .looking)[k]? = some (.fetching j) →
      p.workers[k]? = some (.fetching j) ∧ i ≠ j := by
    intro k j hk
    rw [hw k] at hk
    split at hk
    · cases hk
    · rename_i hne
      refine ⟨hk, ?_⟩
      rintro rfl
      exact hne (hp.fetching_unique w k i h hk)
  have hslot : ∀ j : Nat, i ≠ j →
      (p.slots.setIfInBounds i (.ready (outcome i)))[j]? = p.slots[j]? := by
    intro j hj
    rw [hs j, if_neg hj]
  have hsize : (p.slots.setIfInBounds i (.ready (outcome i))).size = p.slots.size :=
    Array.size_setIfInBounds
  exact {
    ready_eq := fun j o hj => by
      rw [hs j] at hj
      split at hj
      · rename_i hij
        cases hj
        rw [hij]
      · exact hp.ready_eq j o hj
    fetching_lt := fun k j hk => hp.fetching_lt k j (hfetch k j hk).1
    fetching_pending := fun k j hk => by
      obtain ⟨hk, hij⟩ := hfetch k j hk
      exact (hslot j hij).trans (hp.fetching_pending k j hk)
    fetching_unique := fun k k' j hk hk' =>
      hp.fetching_unique k k' j (hfetch k j hk).1 (hfetch k' j hk').1
    pending_fetching := fun j hj hpj => by
      have hij : i ≠ j := by
        rintro rfl
        rw [hs i, if_pos rfl] at hpj
        cases hpj
      obtain ⟨k, hk⟩ := hp.pending_fetching j hj ((hslot j hij).symm.trans hpj)
      refine ⟨k, ?_⟩
      rw [hw k, if_neg, hk]
      rintro rfl
      rw [h] at hk
      cases hk
      exact hij rfl
    unclaimed_pending := fun j hj hlt => by
      have hi := hp.fetching_lt w i h
      change p.next ≤ j at hj
      rw [hsize] at hlt
      exact (hslot j (by omega)).trans (hp.unclaimed_pending j hj hlt)
    done_reason := fun k hk => by
      show (p.stopped || _) = true ∨ (p.slots.setIfInBounds i _).size ≤ p.next
      rw [hsize]
      rw [hw k] at hk
      split at hk
      · cases hk
      · rcases hp.done_reason k hk with hstop | hle
        · exact Or.inl (by rw [hstop, Bool.true_or])
        · exact Or.inr hle
    -- The pool stopped before, or stops now because of the wire that was fetched.
    stopped_reason := fun hstop => by
      show p.stopsOnError = true ∧
        ∃ j, j < p.next ∧ j < (p.slots.setIfInBounds i _).size ∧ isError (outcome j) = true
      rw [hsize]
      by_cases hold : p.stopped = true
      · exact hp.stopped_reason hold
      · have hnew : p.stopsOnError = true ∧ isError (outcome i) = true := by
          simpa [hold] using hstop
        have hlt := (Array.getElem?_eq_some_iff.mp hpend).1
        exact ⟨hnew.1, i, hp.fetching_lt w i h, hlt, hnew.2⟩ }

-- The consumer is handed the outcome of a ready slot and then finds it taken; a slot that is taken
-- stays as it is.
theorem take_of_filled (hp : Sound isError outcome p) {i : Nat} (hi : i < p.slots.size)
    (hfilled : p.slots[i]? ≠ some .pending) :
    p.slots[i]? = some (.ready (outcome i)) ∧
        p.take i = (some (outcome i), { p with slots := p.slots.setIfInBounds i .taken }) ∨
      p.slots[i]? = some .taken ∧ p.take i = (none, p) := by
  obtain ⟨slot, hslot⟩ : ∃ slot, p.slots[i]? = some slot := ⟨_, Array.getElem?_eq_getElem hi⟩
  cases slot with
  | pending => exact absurd hslot hfilled
  | ready o =>
    obtain rfl := hp.ready_eq i o hslot
    exact Or.inl ⟨hslot, take_ready hslot⟩
  | taken => exact Or.inr ⟨hslot, take_taken hslot⟩

-- Handing out concerns no worker, and only slots that are not pending.
theorem Sound.hand (hp : Sound isError outcome p) {i : Nat} (hi : i < p.slots.size)
    (hfilled : p.slots[i]? ≠ some .pending) : Sound isError outcome (p.take i).2 := by
  rcases take_of_filled hp hi hfilled with ⟨hready, htake⟩ | ⟨_, htake⟩
  · rw [htake]
    have hs := slot_become .taken hready
    -- Pending slots are the same before and after.
    have hpend : ∀ j : Nat, (p.slots.setIfInBounds i .taken)[j]? = some .pending ↔
        p.slots[j]? = some .pending := by
      intro j
      rw [hs j]
      split
      · rename_i hij
        rw [← hij, hready]
        simp
      · rfl
    exact {
      ready_eq := fun j o hj => by
        rw [hs j] at hj
        split at hj
        · cases hj
        · exact hp.ready_eq j o hj
      fetching_lt := hp.fetching_lt
      fetching_pending := fun w j hw => (hpend j).mpr (hp.fetching_pending w j hw)
      fetching_unique := hp.fetching_unique
      pending_fetching := fun j hj hpj => hp.pending_fetching j hj ((hpend j).mp hpj)
      unclaimed_pending := fun j hj hlt => by
        rw [Array.size_setIfInBounds] at hlt
        exact (hpend j).mpr (hp.unclaimed_pending j hj hlt)
      done_reason := fun w hw => by
        show p.stopped = true ∨ (p.slots.setIfInBounds i .taken).size ≤ p.next
        rw [Array.size_setIfInBounds]
        exact hp.done_reason w hw
      stopped_reason := fun hstop => by
        show p.stopsOnError = true ∧
          ∃ j, j < p.next ∧ j < (p.slots.setIfInBounds i .taken).size ∧ isError (outcome j) = true
        rw [Array.size_setIfInBounds]
        exact hp.stopped_reason hstop }
  · rw [htake]
    exact hp

/-- Each step keeps the invariant. -/
theorem Sound.step {e : Event α} (hp : Sound isError outcome p) (h : Step isError outcome p e p') :
    Sound isError outcome p' := by
  cases h with
  | look at_look => exact hp.look at_look
  | claim at_claim => exact hp.claim at_claim
  | record at_record => exact hp.record at_record
  | hand within filled => exact hp.hand within filled

theorem Sound.history {first : Pool α} {events : List (Event α)}
    (hfirst : Sound isError outcome first) (h : History isError outcome first events p) :
    Sound isError outcome p := by
  induction h with
  | start => exact hfirst
  | step _ hstep ih => exact ih.step hstep

end Quarry.Pool
