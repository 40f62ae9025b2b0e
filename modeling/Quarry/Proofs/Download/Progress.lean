import Quarry.Proofs.Download.Interleaving

/-!
# Progress of a pool

Each move of a worker brings the pool closer to its end, and a pool whose workers are all done has
filled every slot that its consumer waits for. So a consumer that waits for the slots in order, no
further than the first error if the pool stops on errors, is never kept waiting for ever.
-/

namespace Quarry.Pool

variable {α : Type} {isError : α → Bool} {outcome : Nat → α} {p p' : Pool α}

/-! ## 1. What no step changes -/

-- Numbers of slots and workers stay, and whether errors stop the pool.
theorem move_frame (w : Nat) :
    (p.move isError outcome w).slots.size = p.slots.size ∧
      (p.move isError outcome w).workers.size = p.workers.size ∧
      (p.move isError outcome w).stopsOnError = p.stopsOnError := by
  unfold move
  split
  · exact ⟨rfl, Array.size_setIfInBounds, rfl⟩
  · exact ⟨rfl, Array.size_setIfInBounds, rfl⟩
  · simp only [finish]
    split
    · exact ⟨Array.size_setIfInBounds, Array.size_setIfInBounds, rfl⟩
    · exact ⟨rfl, Array.size_setIfInBounds, rfl⟩
  · exact ⟨rfl, rfl, rfl⟩

theorem take_frame (i : Nat) :
    (p.take i).2.slots.size = p.slots.size ∧ (p.take i).2.workers = p.workers ∧
      (p.take i).2.next = p.next ∧ (p.take i).2.stopsOnError = p.stopsOnError := by
  unfold take
  split
  · exact ⟨Array.size_setIfInBounds, rfl, rfl, rfl⟩
  · exact ⟨rfl, rfl, rfl, rfl⟩

theorem Step.frame {e : Event α} (h : Step isError outcome p e p') :
    p'.slots.size = p.slots.size ∧ p'.workers.size = p.workers.size ∧
      p'.stopsOnError = p.stopsOnError := by
  cases h with
  | look | claim | record => exact move_frame _
  | hand =>
    have hf := take_frame (p := p)
    exact ⟨(hf _).1, congrArg Array.size (hf _).2.1, (hf _).2.2.2⟩

theorem History.frame {first : Pool α} {events : List (Event α)}
    (h : History isError outcome first events p) :
    p.slots.size = first.slots.size ∧ p.workers.size = first.workers.size ∧
      p.stopsOnError = first.stopsOnError := by
  induction h with
  | start => exact ⟨rfl, rfl, rfl⟩
  | step _ hstep ih =>
    have hf := hstep.frame
    exact ⟨hf.1.trans ih.1, hf.2.1.trans ih.2.1, hf.2.2.trans ih.2.2⟩

/-! ## 2. The moves that are left -/

-- Replacing a worker replaces its share of the moves.
theorem foldr_rank_set {ws : List Worker} {w : Nat} {old : Worker} (new : Worker)
    (h : ws[w]? = some old) :
    (ws.set w new).foldr (fun w n => w.rank + n) 0 + old.rank =
      ws.foldr (fun w n => w.rank + n) 0 + new.rank := by
  induction ws generalizing w with
  | nil => simp at h
  | cons x ws ih =>
    cases w with
    | zero =>
      obtain rfl : x = old := by simpa using h
      simp only [List.set_cons_zero, List.foldr_cons]
      omega
    | succ w =>
      have hrest := ih (w := w) (by simpa using h)
      simp only [List.set_cons_succ, List.foldr_cons]
      omega

-- Each move of a worker that is not done leaves fewer moves.
theorem movesLeft_move_lt {w : Nat} {x : Worker} (h : p.workers[w]? = some x) (hx : x ≠ .done) :
    (p.move isError outcome w).movesLeft < p.movesLeft := by
  have hlist : p.workers.toList[w]? = some x := by rwa [Array.getElem?_toList]
  have hsum : ∀ new : Worker,
      (p.workers.setIfInBounds w new).toList.foldr (fun w n => w.rank + n) 0 + x.rank =
        p.workers.toList.foldr (fun w n => w.rank + n) 0 + new.rank := by
    intro new
    rw [Array.toList_setIfInBounds]
    exact foldr_rank_set new hlist
  rw [movesLeft, movesLeft, (move_frame w).1]
  -- A claim costs less than the wire that leaves `next` behind is worth; all other moves make the
  -- worker itself rank lower.
  cases x with
  | looking =>
    rw [move_looking h]
    have hs := hsum (if p.stopped then .done else .claiming)
    have hr : Worker.rank (if p.stopped then .done else .claiming) < Worker.rank .looking := by
      split <;> decide
    show 3 * (p.slots.size - p.next) +
      (p.workers.setIfInBounds w _).toList.foldr (fun w n => w.rank + n) 0 < _
    omega
  | claiming =>
    rw [move_claiming h]
    have hs := hsum (if p.next < p.slots.size then .fetching p.next else .done)
    show 3 * (p.slots.size - (p.next + 1)) +
      (p.workers.setIfInBounds w _).toList.foldr (fun w n => w.rank + n) 0 < _
    by_cases hlt : p.next < p.slots.size
    · rw [if_pos hlt] at hs ⊢
      change _ + 1 = _ + 3 at hs
      omega
    · rw [if_neg hlt] at hs ⊢
      change _ + 1 = _ + 0 at hs
      omega
  | fetching i =>
    have hs := hsum .looking
    have hw : (p.move isError outcome w).workers = p.workers.setIfInBounds w .looking ∧
        (p.move isError outcome w).next = p.next := by
      simp only [move, h, finish]
      split <;> exact ⟨rfl, rfl⟩
    rw [hw.1, hw.2]
    change _ + 3 = _ + 2 at hs
    omega
  | done => exact absurd rfl hx

/-! ## 3. Pools whose workers are done -/

/-- All workers are done. -/
def Finished (p : Pool α) : Prop := ∀ (w : Nat) (x : Worker), p.workers[w]? = some x → x = .done

/-- No wire before this one fails, or errors do not stop the pool. -/
def Awaited (isError : α → Bool) (outcome : Nat → α) (p : Pool α) (index : Nat) : Prop :=
  p.stopsOnError = true → ∀ j < index, isError (outcome j) = false

/-- A pool whose workers are done has filled every slot up to the first error, and all slots if it
does not stop on errors. Wires are claimed in order, so those before the error that stopped the pool
were claimed, and a claimed wire is never given up. -/
theorem Sound.filled_of_finished (hp : Sound isError outcome p) (hdone : p.Finished)
    (hworkers : 0 < p.workers.size) {i : Nat} (hi : Awaited isError outcome p i) :
    p.slots[i]? ≠ some .pending := by
  intro hpend
  have hlt : i < p.slots.size := (Array.getElem?_eq_some_iff.mp hpend).1
  -- If the worker is done because of an error, the error is at a later wire than the awaited one.
  have hclaimed : i < p.next := by
    have hw : p.workers[0]? = some .done := by
      have hget := Array.getElem?_eq_getElem hworkers
      rw [hget, hdone 0 _ hget]
    rcases hp.done_reason 0 hw with hstop | hle
    · obtain ⟨hstops, j, hj, _, herr⟩ := hp.stopped_reason hstop
      by_contra hni
      have hok := hi hstops j (by omega)
      rw [herr] at hok
      cases hok
    · omega
  -- But a claimed wire with a pending slot is being fetched, and nobody is.
  obtain ⟨w, hw⟩ := hp.pending_fetching i hclaimed hpend
  cases hdone w _ hw

-- As long as an awaited slot is pending, some worker can move.
theorem Sound.exists_live (hp : Sound isError outcome p) (hworkers : 0 < p.workers.size) {i : Nat}
    (hi : Awaited isError outcome p i) (hpend : p.slots[i]? = some .pending) :
    ∃ (w : Nat) (x : Worker), p.workers[w]? = some x ∧ x ≠ .done := by
  by_contra hno
  refine hp.filled_of_finished ?_ hworkers hi hpend
  intro w x hw
  by_contra hx
  exact hno ⟨w, x, hw, hx⟩

-- A worker that is not done makes one of the three steps.
theorem exists_step_move {w : Nat} {x : Worker} (h : p.workers[w]? = some x) (hx : x ≠ .done) :
    ∃ e, Step isError outcome p e (p.move isError outcome w) := by
  cases x with
  | looking => exact ⟨_, .look h⟩
  | claiming => exact ⟨_, .claim h⟩
  | fetching i => exact ⟨_, .record h⟩
  | done => exact absurd rfl hx

/-! ## 4. Schedules -/

-- A turn goes to a live worker, and there is one as long as a worker is live.
theorem live_of_turn {choose : Nat → Nat} {moves w : Nat} (h : p.turn choose moves = some w) :
    ∃ x, p.workers[w]? = some x ∧ x ≠ .done := by
  have hmem : w ∈ p.live := List.mem_of_getElem? h
  simp only [live, List.mem_filter, List.mem_range] at hmem
  obtain ⟨x, hx⟩ : ∃ x, p.workers[w]? = some x := ⟨_, Array.getElem?_eq_getElem hmem.1⟩
  have hne := hmem.2
  rw [hx] at hne
  exact ⟨x, hx, by simpa using hne⟩

theorem finished_of_turn {choose : Nat → Nat} {moves : Nat} (h : p.turn choose moves = none) :
    p.Finished := by
  intro w x hw
  by_contra hx
  have hlt : w < p.workers.size := (Array.getElem?_eq_some_iff.mp hw).1
  have hmem : w ∈ p.live := by
    simp only [live, List.mem_filter, List.mem_range]
    refine ⟨hlt, ?_⟩
    rw [hw]
    simpa using hx
  have hpos : 0 < p.live.length := List.length_pos_of_mem hmem
  rw [turn, List.getElem?_eq_none_iff] at h
  have hmod := Nat.mod_lt (choose moves) hpos
  omega

-- What the moves of live workers keep holds after any number of them.
theorem advance_keeps {P : Pool α → Prop} (choose : Nat → Nat)
    (hmove : ∀ (q : Pool α) (w : Nat) (x : Worker), P q → q.workers[w]? = some x → x ≠ .done →
      P (q.move isError outcome w))
    (count moves : Nat) (hp : P p) : P (p.advance isError outcome choose count moves).1 := by
  induction count generalizing p moves with
  | zero => exact hp
  | succ count ih =>
    rw [advance]
    split
    · exact hp
    · rename_i w hturn
      obtain ⟨x, hw, hx⟩ := live_of_turn hturn
      exact ih (moves + 1) (hmove p w x hp hw hx)

/-- Waiting with the bound of the moves that are left ends with a filled slot or with all workers
done, and keeps what the moves of live workers keep. -/
theorem await_keeps {P : Pool α → Prop} (choose : Nat → Nat)
    (hmove : ∀ (q : Pool α) (w : Nat) (x : Worker), P q → q.workers[w]? = some x → x ≠ .done →
      P (q.move isError outcome w))
    (index bound moves : Nat) (hbound : p.movesLeft ≤ bound) (hp : P p) :
    P (p.await isError outcome choose index bound moves).1 ∧
      ((p.await isError outcome choose index bound moves).1.slots[index]? ≠ some .pending ∨
        (p.await isError outcome choose index bound moves).1.Finished) := by
  -- By induction on the bound, which stays above the moves that are left.
  induction bound generalizing p moves with
  | zero =>
    -- No moves are left, so that no worker can be live.
    refine ⟨hp, Or.inr ?_⟩
    show p.Finished
    intro w x hw
    by_contra hx
    have hlt : (p.move isError outcome w).movesLeft < p.movesLeft := movesLeft_move_lt hw hx
    omega
  | succ bound ih =>
    rw [await]
    split
    · split
      · rename_i hturn
        exact ⟨hp, Or.inr (finished_of_turn hturn)⟩
      · rename_i w hturn
        obtain ⟨x, hw, hx⟩ := live_of_turn hturn
        have hlt : (p.move isError outcome w).movesLeft < p.movesLeft := movesLeft_move_lt hw hx
        exact ih (moves + 1) (by omega) (hmove p w x hp hw hx)
    · rename_i hfilled
      exact ⟨hp, Or.inl hfilled⟩

end Quarry.Pool
