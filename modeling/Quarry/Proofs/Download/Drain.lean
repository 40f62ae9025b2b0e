import Quarry.Proofs.Download.Progress
import Quarry.Run.Intake

/-!
# Draining a batch

A batch hands out the outcome of each wire in the order of the wires, whatever the order in which its
workers move. If errors stop its pool, this holds up to the first error, and what absorbs the
outcomes stops there too.
-/

namespace Quarry.Batch

variable {host : Host} {b : Batch}

/-! ## 1. Batches that wait -/

/-- What the consumer is to get for a wire. -/
def handed (host : Host) (b : Batch) (index : Nat) : Except DownloadError Content :=
  match b.outcome host index with
  | .ok content => .ok content
  | .error fault => .error (.failed index ((b.wires[index]?.map Wire.url).getD "") fault)

/-- What a pool keeps while the consumer waits for a slot: it is sound and has workers, the slots from
there on are not taken, and errors before them did not stop it. -/
structure Holds (host : Host) (b : Batch) (index : Nat) (p : Pool Outcome) : Prop where
  sound : Pool.Sound Outcome.isFault (b.outcome host) p
  slots_size : p.slots.size = b.wires.size
  workers_size : b.wires.size ≠ 0 → 0 < p.workers.size
  untaken : ∀ j : Nat, index ≤ j → p.slots[j]? ≠ some .taken
  awaited : Pool.Awaited Outcome.isFault (b.outcome host) p index

-- What holds of a pool for a batch does not depend on the pool that the batch has.
theorem Holds.withPool {index : Nat} {p : Pool Outcome} (h : Holds host b index p)
    (q : Pool Outcome) : Holds host { b with pool := q } index p :=
  ⟨h.sound, h.slots_size, h.workers_size, h.untaken, h.awaited⟩

-- At the start every slot is pending, and no wire comes before the first one.
theorem holds_start (kind : Script.DownloadKind) (wires : Array Wire) (first threads : Nat)
    (stops : Bool) :
    Holds host (start kind wires first threads stops) 0
      (start kind wires first threads stops).pool where
  sound := Pool.sound_start _ _ _
  slots_size := Array.size_replicate
  workers_size := fun hne => by
    change wires.size ≠ 0 at hne
    simp only [start, Pool.start, if_neg hne, Array.size_replicate]
    omega
  untaken := fun j _ => by
    intro h
    have hlt := (Array.getElem?_eq_some_iff.mp h).1
    have hpend : (Pool.start wires.size threads stops : Pool Outcome).slots[j]? = some .pending :=
      Pool.start_slot (by simpa [start, Pool.start] using hlt)
    rw [start, hpend] at h
    cases h
  awaited := fun _ j hj => absurd hj (Nat.not_lt_zero j)

-- The moves of the workers change nothing for the consumer but that slots are filled.
theorem Holds.move {index : Nat} {p : Pool Outcome} (h : Holds host b index p) {w : Nat}
    {x : Worker} (hw : p.workers[w]? = some x) (hx : x ≠ .done) :
    Holds host b index (p.move Outcome.isFault (b.outcome host) w) := by
  obtain ⟨e, hstep⟩ : ∃ e, Pool.Step Outcome.isFault (b.outcome host) p e
      (p.move Outcome.isFault (b.outcome host) w) := Pool.exists_step_move hw hx
  have hframe := @Pool.move_frame _ Outcome.isFault (b.outcome host) p w
  exact {
    sound := h.sound.step hstep
    slots_size := hframe.1.trans h.slots_size
    workers_size := fun hne => by
      rw [hframe.2.1]
      exact h.workers_size hne
    untaken := fun j hj => by
      -- A slot that a move fills is not taken; no other slot changes.
      cases x with
      | looking =>
        rw [Pool.move_looking hw]
        exact h.untaken j hj
      | claiming =>
        rw [Pool.move_claiming hw]
        exact h.untaken j hj
      | fetching i =>
        have hpend := h.sound.fetching_pending w i hw
        rw [Pool.move_fetching hw hpend, Pool.slot_become _ hpend j]
        split
        · simp
        · exact h.untaken j hj
      | done => exact absurd rfl hx
    awaited := fun hstops => h.awaited (hframe.2.2.symm.trans hstops) }

-- After its outcome was taken, the consumer waits for the next slot.
theorem Holds.take {index : Nat} {p : Pool Outcome} (h : Holds host b index p)
    (hlt : index < b.wires.size) (hfilled : p.slots[index]? ≠ some .pending)
    (hnext : p.stopsOnError = true → (b.outcome host index).isFault = false) :
    Holds host b (index + 1) (p.take index).2 := by
  have hwithin : index < p.slots.size := by
    rw [h.slots_size]
    exact hlt
  have hframe := Pool.take_frame (p := p) index
  exact {
    sound := h.sound.hand hwithin hfilled
    slots_size := hframe.1.trans h.slots_size
    workers_size := fun hne => by
      rw [hframe.2.1]
      exact h.workers_size hne
    untaken := fun j hj => by
      rcases Pool.take_of_filled h.sound hwithin hfilled with ⟨hready, htake⟩ | ⟨htaken, _⟩
      · rw [htake, Pool.slot_become _ hready j, if_neg (by omega)]
        exact h.untaken j (by omega)
      · exact absurd htaken (h.untaken index (Nat.le_refl _))
    awaited := fun hstops j hj => by
      have hs : p.stopsOnError = true := hframe.2.2.2.symm.trans hstops
      rcases Nat.lt_succ_iff_lt_or_eq.mp hj with hj | rfl
      · exact h.awaited hs j hj
      · exact hnext hs }

/-! ## 2. Waiting -/

/-- Waiting for the next wire gives its outcome, however many moves the workers make meanwhile. -/
theorem wait_eq {index : Nat} (moves : Nat) (h : Holds host b index b.pool) (hlt : index < b.wires.size) :
    ∃ (p : Pool Outcome) (moves' : Nat),
      b.wait host index moves = (b.handed host index, { b with pool := p }, moves') ∧
        p.stopsOnError = b.pool.stopsOnError ∧
        ((b.pool.stopsOnError = true → (b.outcome host index).isFault = false) →
          Holds host b (index + 1) p) := by
  -- Both loops make moves of live workers, and these keep what the consumer relies on.
  have hmove : ∀ (q : Pool Outcome) (w : Nat) (x : Worker),
      (Holds host b index q ∧ q.stopsOnError = b.pool.stopsOnError) → q.workers[w]? = some x →
        x ≠ .done → Holds host b index (q.move Outcome.isFault (b.outcome host) w) ∧
          (q.move Outcome.isFault (b.outcome host) w).stopsOnError = b.pool.stopsOnError :=
    fun q w x hq hw hx => ⟨hq.1.move hw hx, (Pool.move_frame w).2.2.trans hq.2⟩
  have hadvance := Pool.advance_keeps host.choose hmove (host.ahead (b.first + index)) moves
    ⟨h, rfl⟩
  generalize hq : b.pool.advance Outcome.isFault (b.outcome host) host.choose
    (host.ahead (b.first + index)) moves = ahead at hadvance
  have hawait := Pool.await_keeps host.choose hmove index ahead.1.movesLeft ahead.2
    (Nat.le_refl _) hadvance
  generalize hr : ahead.1.await Outcome.isFault (b.outcome host) host.choose index
    ahead.1.movesLeft ahead.2 = awaited at hawait
  obtain ⟨⟨hholds, hstops⟩, hend⟩ := hawait
  -- If the workers are all done, the slot is filled since no error before it stopped them.
  have hfilled : awaited.1.slots[index]? ≠ some .pending := by
    rcases hend with hfilled | hdone
    · exact hfilled
    · exact hholds.sound.filled_of_finished hdone (hholds.workers_size (by omega)) hholds.awaited
  have hwithin : index < awaited.1.slots.size := by
    rw [hholds.slots_size]
    exact hlt
  obtain ⟨hready, htake⟩ | ⟨htaken, _⟩ := Pool.take_of_filled hholds.sound hwithin hfilled
  · refine ⟨(awaited.1.take index).2, awaited.2, ?_, ?_, ?_⟩
    · have hwire := Array.getElem?_eq_getElem hlt
      simp only [wait, hwire, hq, hr, htake, handed, Option.map_some, Option.getD_some]
      cases b.outcome host index <;> rfl
    · exact (Pool.take_frame index).2.2.2.trans hstops
    · intro hnext
      exact hholds.take hlt hfilled (fun hs => hnext (hstops.symm.trans hs))
  · exact absurd htaken (hholds.untaken index (Nat.le_refl _))

/-- Draining absorbs the outcomes in the order of the wires, up to the first error. Errors must end
what absorbs them if they stop the pool: the workers may leave later wires alone. -/
theorem drain_eq {σ : Type} {absorb : σ → Except DownloadError Content → Except RunError σ}
    {count index moves : Nat} {t : σ}
    (habsorb : b.pool.stopsOnError = true → ∀ (t : σ) (i : Nat) (url : String) (fault : FetchFault),
      ∃ e, absorb t (.error (.failed i url fault)) = .error e)
    (h : Holds host b index b.pool) (hle : index + count ≤ b.wires.size) :
    (drain host absorb (List.range' index count) t b moves).1 =
      (List.range' index count).foldlM (fun t i => absorb t (b.handed host i)) t := by
  -- By induction on the wires that are left, with the pool as it is after each wait.
  induction count generalizing index moves t b with
  | zero => rfl
  | succ count ih =>
    obtain ⟨p, moves', hwait, hstops, hnext⟩ := wait_eq moves h (by omega)
    rw [List.range'_succ, List.foldlM_cons]
    simp only [drain, hwait]
    cases ht : absorb t (b.handed host index) with
    | error e => rfl
    | ok t' =>
      -- What was absorbed is no error that stops the pool, so that the next wire is still awaited.
      have hok : b.pool.stopsOnError = true → (b.outcome host index).isFault = false := by
        intro hs
        cases ho : b.outcome host index with
        | ok content => rfl
        | error fault =>
          obtain ⟨e, he⟩ := habsorb hs t index ((b.wires[index]?.map Wire.url).getD "") fault
          simp only [handed, ho] at ht
          rw [he] at ht
          cases ht
      have hrest : index + 1 + count ≤ b.wires.size := by omega
      exact ih (fun hs => habsorb (hstops.symm.trans hs)) ((hnext hok).withPool p) hrest

end Quarry.Batch
