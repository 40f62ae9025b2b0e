import Mathlib.Data.List.Basic
import Quarry.Pattern.Search

/-!
# Marks of a search

A written pattern accepts only right after it has noted the end of the match. So the start that a search
notes is never behind the end, and neither is before the place where the search began.
-/

namespace Quarry.Pattern

/-! ## 1. Written steps -/

/-- The steps that a step may go on to. -/
def Instruction.targets : Instruction → List Nat
  | .take _ next | .check _ next | .mark _ next => [next]
  | .fork first second => [first, second]
  | .accept => []

namespace Program

/-- Steps were added behind others, and go on to one step of those or to each other. None of them
accepts. -/
structure Written (steps : Array Instruction) (next : Nat) (p : Program) : Prop where
  size_le : steps.size ≤ p.steps.size
  kept : ∀ i < steps.size, p.steps[i]? = steps[i]?
  added : ∀ i s, steps.size ≤ i → p.steps[i]? = some s →
    s ≠ .accept ∧ ∀ t ∈ s.targets, t = next ∨ steps.size ≤ t
  start : p.start = next ∨ steps.size ≤ p.start

variable {steps : Array Instruction} {next : Nat}

theorem written_nothing : Written steps next ⟨steps, next⟩ where
  size_le := Nat.le_refl _
  kept _ _ := rfl
  added i s hi hs := by
    rw [Array.getElem?_eq_none hi] at hs
    cases hs
  start := Or.inl rfl

-- What is written behind written steps is written behind what was there before.
theorem Written.trans {p q : Program} {on : Nat} (hp : Written steps next p)
    (hq : Written p.steps on q) (hon : on = next ∨ steps.size ≤ on) : Written steps next q where
  size_le := Nat.le_trans hp.size_le hq.size_le
  kept i hi := (hq.kept i (Nat.lt_of_lt_of_le hi hp.size_le)).trans (hp.kept i hi)
  added i s hi hs := by
    by_cases hlt : i < p.steps.size
    · exact hp.added i s hi ((hq.kept i hlt).symm.trans hs)
    · obtain ⟨haccept, htargets⟩ := hq.added i s (Nat.not_lt.mp hlt) hs
      refine ⟨haccept, fun t ht => ?_⟩
      rcases htargets t ht with rfl | hle
      · exact hon
      · exact Or.inr (Nat.le_trans hp.size_le hle)
  start := by
    rcases hq.start with heq | hle
    · exact heq ▸ hon
    · exact Or.inr (Nat.le_trans hp.size_le hle)

-- One more step, that goes on to those.
theorem Written.add {p : Program} (hp : Written steps next p) {s : Instruction} (hs : s ≠ .accept)
    (htargets : ∀ t ∈ s.targets, t = next ∨ steps.size ≤ t) :
    Written steps next (Program.add p.steps s) where
  size_le := by
    rw [Program.add, Array.size_push]
    exact Nat.le_trans hp.size_le (Nat.le_succ _)
  kept i hi := by
    have hlt : i ≠ p.steps.size := Nat.ne_of_lt (Nat.lt_of_lt_of_le hi hp.size_le)
    rw [Program.add, Array.getElem?_push, if_neg hlt]
    exact hp.kept i hi
  added i s' hi hs' := by
    rw [Program.add, Array.getElem?_push] at hs'
    split at hs'
    · cases hs'
      exact ⟨hs, htargets⟩
    · exact hp.added i s' hi hs'
  start := Or.inr hp.size_le

-- A round between a body and what is past it.
theorem round_targets {greedy : Bool} {inside past t : Nat}
    (ht : t ∈ (round greedy inside past).targets) : t = inside ∨ t = past := by
  cases greedy
  · rcases List.mem_pair.mp ht with h | h
    · exact Or.inr h
    · exact Or.inl h
  · exact List.mem_pair.mp ht

theorem round_ne_accept (greedy : Bool) (inside past : Nat) : round greedy inside past ≠ .accept := by
  cases greedy <;> exact nofun

section Bodies

variable {body : Array Instruction → Nat → Program}
  (hbody : ∀ steps next, Written steps next (body steps next))

include hbody

theorem written_copies (count : Nat) : Written steps next (copies body count steps next) := by
  induction count with
  | zero => exact written_nothing
  | succ count ih => exact ih.trans (hbody _ _) ih.start

theorem written_upTo (greedy : Bool) (count : Nat) :
    Written steps next (upTo body greedy count steps next) := by
  induction count with
  | zero => exact written_nothing
  | succ count ih =>
    have hinner := ih.trans (hbody _ _) ih.start
    refine hinner.add (round_ne_accept _ _ _) fun t ht => ?_
    rcases round_targets ht with rfl | rfl
    · exact hinner.start
    · exact Or.inl rfl

-- A fork that is put in front of a body, before there is a body to lead to.
theorem written_back (greedy : Bool) (start : Nat)
    (hstart : start = steps.size ∨ start = (body (steps.push .accept) steps.size).start) :
    let inner := body (steps.push .accept) steps.size
    Written steps next
      ⟨inner.steps.setIfInBounds steps.size (round greedy inner.start next), start⟩ := by
  intro inner
  have hinner : Written (steps.push .accept) steps.size inner := hbody _ _
  have hsize := hinner.size_le
  rw [Array.size_push] at hsize
  have hinside : steps.size ≤ inner.start := by
    rcases hinner.start with heq | hle
    · exact Nat.le_of_eq heq.symm
    · rw [Array.size_push] at hle
      exact Nat.le_of_succ_le hle
  refine ⟨?_, fun i hi => ?_, fun i s hi hs => ?_, ?_⟩
  · rw [Array.size_setIfInBounds]
    exact Nat.le_of_succ_le hsize
  · rw [Array.getElem?_setIfInBounds_ne (Nat.ne_of_gt hi),
      hinner.kept i (by rw [Array.size_push]; exact Nat.lt_succ_of_lt hi),
      Array.getElem?_push, if_neg (Nat.ne_of_lt hi)]
  · by_cases hback : steps.size = i
    · subst hback
      rw [Array.getElem?_setIfInBounds_self_of_lt hsize] at hs
      cases hs
      refine ⟨round_ne_accept _ _ _, fun t ht => ?_⟩
      rcases round_targets ht with rfl | rfl
      · exact Or.inr hinside
      · exact Or.inl rfl
    · rw [Array.getElem?_setIfInBounds_ne hback] at hs
      have hle : (steps.push .accept).size ≤ i := by
        rw [Array.size_push]
        omega
      obtain ⟨haccept, htargets⟩ := hinner.added i s hle hs
      refine ⟨haccept, fun t ht => Or.inr ?_⟩
      rcases htargets t ht with rfl | hle
      · exact Nat.le_refl _
      · rw [Array.size_push] at hle
        exact Nat.le_of_succ_le hle
  · rcases hstart with rfl | rfl
    · exact Or.inr (Nat.le_refl _)
    · exact Or.inr hinside

theorem written_many (greedy : Bool) : Written steps next (many body greedy steps next) :=
  written_back hbody greedy _ (Or.inr rfl)

end Bodies

theorem written_write (p : Pattern) : ∀ steps next, Written steps next (write p steps next) := by
  induction p with
  | empty => exact fun _ _ => written_nothing
  | set s =>
    exact fun _ _ => written_nothing.add nofun fun t ht => Or.inl (List.mem_singleton.mp ht)
  | anchor a =>
    exact fun _ _ => written_nothing.add nofun fun t ht => Or.inl (List.mem_singleton.mp ht)
  | group index body ih =>
    intro steps next
    have hstop : Written steps next (Program.add steps (.mark (2 * index + 1) next)) :=
      written_nothing.add nofun fun t ht => Or.inl (List.mem_singleton.mp ht)
    have hinner := hstop.trans (ih _ _) hstop.start
    exact hinner.add nofun fun t ht => (List.mem_singleton.mp ht) ▸ hinner.start
  | seq first second hfirst hsecond =>
    exact fun steps next =>
      (hsecond steps next).trans (hfirst _ _) (hsecond steps next).start
  | choice first second hfirst hsecond =>
    intro steps next
    have hother := hsecond steps next
    have hinner := hother.trans (hfirst _ next) (Or.inl rfl)
    refine hinner.add nofun fun t ht => ?_
    rcases List.mem_pair.mp ht with rfl | rfl
    · exact hinner.start
    · exact hother.start
  | repeated body least most greedy ih =>
    intro steps next
    unfold write
    split
    next most =>
      have hrest : Written steps next (upTo (write body) greedy (most - least) steps next) :=
        written_upTo ih greedy (most - least)
      exact hrest.trans (written_copies ih least) hrest.start
    next =>
      have hrounds : Written steps next (many (write body) greedy steps next) :=
        written_many ih greedy
      split
      next =>
        split
        next =>
          refine hrounds.add (round_ne_accept _ _ _) fun t ht => ?_
          rcases round_targets ht with rfl | rfl
          · exact hrounds.start
          · exact Or.inl rfl
        next => exact written_back ih greedy _ (Or.inl rfl)
      next least => exact hrounds.trans (written_copies ih least) hrounds.start

/-- No step but the mark for the end of the match goes on to the step that accepts. -/
structure Closes (p : Program) : Prop where
  start : p.steps[p.start]? ≠ some .accept
  steps : ∀ (i : Nat) (s : Instruction) (t : Nat), p.steps[i]? = some s → t ∈ s.targets →
    p.steps[t]? = some .accept → s = .mark 1 t

theorem closes_ofPattern (p : Pattern) : Closes (ofPattern p) := by
  -- The first two steps accept and mark the end. All others are behind them.
  have hbody : Written #[.accept, .mark 1 0] 1 (write p #[.accept, .mark 1 0] 1) :=
    written_write p _ _
  have hall : Written #[.accept, .mark 1 0] 1 (ofPattern p) :=
    hbody.add nofun fun t ht => (List.mem_singleton.mp ht) ▸ hbody.start
  have haccept : ∀ t, t = 1 ∨ 2 ≤ t → (ofPattern p).steps[t]? ≠ some .accept := by
    rintro t (rfl | ht) heq
    · rw [hall.kept 1 (by decide)] at heq
      cases heq
    · exact (hall.added t _ ht heq).1 rfl
  refine ⟨haccept _ hall.start, fun i s t hs ht htaccept => ?_⟩
  match i with
  | 0 =>
    rw [hall.kept 0 (by decide)] at hs
    cases hs
    cases ht
  | 1 =>
    rw [hall.kept 1 (by decide)] at hs
    cases hs
    rw [List.mem_singleton.mp ht]
    rfl
  | i + 2 =>
    have htargets := (hall.added (i + 2) s (Nat.le_add_left 2 i) hs).2 t ht
    exact absurd htaccept (haccept t htargets)

/-! ## 2. Threads -/

/-- The marks of a match that was found from an index on. Its start and its end are noted in this order. -/
def InOrder (first : Nat) (marks : Array (Option Nat)) : Prop :=
  ∀ a b, marks[0]? = some (some a) → marks[1]? = some (some b) → first ≤ a ∧ a ≤ b

/-- What a thread has noted lies between the start of the search and where it is, and in order if it
accepts. -/
structure Sound (p : Program) (first index : Nat) (t : Thread) : Prop where
  noted : ∀ (number i : Nat), t.marks[number]? = some (some i) → first ≤ i ∧ i ≤ index
  accepting : p.steps[t.step]? = some .accept → InOrder first t.marks

section Threads

variable {p : Program} {first index : Nat} {t : Thread}

-- A thread that goes on past a step that notes nothing comes to a step that does not accept.
theorem Sound.goOn (ht : p.Sound first index t) (hp : p.Closes) {s : Instruction} {next : Nat}
    (hs : p.steps[t.step]? = some s) (hnext : next ∈ s.targets) (hmark : ∀ number, s ≠ .mark number next) :
    p.Sound first index ⟨next, t.marks⟩ where
  noted := ht.noted
  accepting haccept := absurd (hp.steps _ s next hs hnext haccept) (hmark 1)

-- The end of a match is noted behind everything else.
theorem Sound.mark (ht : p.Sound first index t) (hp : p.Closes) (hindex : first ≤ index)
    {number next : Nat} (hs : p.steps[t.step]? = some (.mark number next)) :
    p.Sound first index ⟨next, t.marks.setIfInBounds number (some index)⟩ := by
  have hnoted : ∀ (k i : Nat), (t.marks.setIfInBounds number (some index))[k]? = some (some i) →
      first ≤ i ∧ i ≤ index := by
    intro k i hk
    by_cases hnumber : number = k
    · subst hnumber
      obtain ⟨hlt, hset⟩ := Array.getElem?_eq_some_iff.mp hk
      rw [Array.getElem_setIfInBounds_self] at hset
      cases hset
      exact ⟨hindex, Nat.le_refl _⟩
    · rw [Array.getElem?_setIfInBounds_ne hnumber] at hk
      exact ht.noted k i hk
  refine ⟨hnoted, fun haccept a b ha hb => ⟨(hnoted 0 a ha).1, ?_⟩⟩
  -- Only the mark for the end comes before the step that accepts.
  have hend := hp.steps _ _ next hs (List.mem_singleton_self next) haccept
  cases hend
  obtain ⟨hlt, hset⟩ := Array.getElem?_eq_some_iff.mp hb
  rw [Array.getElem_setIfInBounds_self] at hset
  cases hset
  exact (hnoted 0 a ha).2

theorem forall_mem_push {settled : Array Thread} (hsettled : ∀ t ∈ settled, p.Sound first index t)
    (ht : p.Sound first index t) : ∀ u ∈ settled.push t, p.Sound first index u := by
  intro u hu
  rcases Array.mem_push.mp hu with hu | rfl
  · exact hsettled u hu
  · exact ht

-- Following steps that take no character keeps threads sound, one case for each kind of step.
theorem settle_sound (hp : p.Closes) {place : Place} (hindex : first ≤ place.index) {bound : Nat}
    {pending : List Thread} {entered : Array Bool} {settled : Array Thread}
    (hpending : ∀ t ∈ pending, p.Sound first place.index t)
    (hsettled : ∀ t ∈ settled, p.Sound first place.index t) :
    ∀ t ∈ p.settle place bound pending entered settled, p.Sound first place.index t := by
  fun_induction settle p place bound pending entered settled with
  | case1 => exact hsettled
  | case2 => exact hsettled
  | case3 _ _ _ _ _ _ ih => exact ih (List.forall_mem_cons.mp hpending).2 hsettled
  | case4 _ _ _ _ _ _ _ _ ih => exact ih (List.forall_mem_cons.mp hpending).2 hsettled
  | case5 _ _ _ _ _ _ _ _ _ _ ih =>
    obtain ⟨ht, hrest⟩ := List.forall_mem_cons.mp hpending
    exact ih hrest (forall_mem_push hsettled ht)
  | case6 _ _ _ _ _ _ _ _ ih =>
    obtain ⟨ht, hrest⟩ := List.forall_mem_cons.mp hpending
    exact ih hrest (forall_mem_push hsettled ht)
  | case7 _ _ _ _ _ _ _ a next hs _ ih =>
    obtain ⟨ht, hrest⟩ := List.forall_mem_cons.mp hpending
    have hnext := ht.goOn hp hs (List.mem_singleton_self next) nofun
    exact ih (List.forall_mem_cons.mpr ⟨hnext, hrest⟩) hsettled
  | case8 _ _ _ _ _ _ _ _ _ _ _ ih => exact ih (List.forall_mem_cons.mp hpending).2 hsettled
  | case9 _ _ _ _ _ _ _ number next hs _ ih =>
    obtain ⟨ht, hrest⟩ := List.forall_mem_cons.mp hpending
    exact ih (List.forall_mem_cons.mpr ⟨ht.mark hp hindex hs, hrest⟩) hsettled
  | case10 _ _ _ _ _ _ _ one other hs ih =>
    obtain ⟨ht, hrest⟩ := List.forall_mem_cons.mp hpending
    have hone := ht.goOn hp hs (List.mem_pair.mpr (Or.inl rfl)) nofun
    have hother := ht.goOn hp hs (List.mem_pair.mpr (Or.inr rfl)) nofun
    exact ih (List.forall_mem_cons.mpr ⟨hone, List.forall_mem_cons.mpr ⟨hother, hrest⟩⟩) hsettled

theorem feed_sound (hp : p.Closes) {c : Char} {threads : List Thread}
    (h : ∀ t ∈ threads, p.Sound first index t) : ∀ t ∈ p.feed c threads, p.Sound first (index + 1) t := by
  intro t' ht'
  obtain ⟨t, ht, hfed⟩ := List.mem_filterMap.mp ht'
  split at hfed
  next s next hs =>
    split at hfed
    next =>
      cases hfed
      have hnext := (h t ht).goOn hp hs (List.mem_singleton_self next) nofun
      exact ⟨fun k i hk => ⟨(hnext.noted k i hk).1, Nat.le_succ_of_le (hnext.noted k i hk).2⟩,
        hnext.accepting⟩
    next => cases hfed
  next => cases hfed

theorem fresh_sound (hp : p.Closes) (marks : Nat) :
    p.Sound first index ⟨p.start, Array.replicate marks none⟩ where
  noted k i hk := by
    rw [Array.getElem?_replicate] at hk
    split at hk <;> cases hk
  accepting haccept := absurd haccept hp.start

/-- What a search has reached: threads that are sound, and a best match in order. -/
structure Front.Sound (f : Front) (p : Program) (first index : Nat) : Prop where
  live : ∀ t ∈ f.live, p.Sound first index t
  best : ∀ marks, f.best = some marks → InOrder first marks

theorem front_sound (hp : p.Closes) {place : Place} (hindex : first ≤ place.index) {marks : Nat}
    {threads : List Thread} {best : Option (Array (Option Nat))}
    (hthreads : ∀ t ∈ threads, p.Sound first place.index t)
    (hbest : ∀ marks, best = some marks → InOrder first marks) :
    Front.Sound (p.front marks place threads best) p first place.index := by
  let fresh : List Thread := if best.isNone then [⟨p.start, Array.replicate marks none⟩] else []
  let settled := p.settle place (2 * p.steps.size + (threads ++ fresh).length + 1) (threads ++ fresh)
    (Array.replicate p.steps.size false) #[]
  have hfresh : ∀ t ∈ fresh, p.Sound first place.index t := by
    intro t ht
    unfold fresh at ht
    split at ht
    next => exact List.mem_singleton.mp ht ▸ fresh_sound hp marks
    next => cases ht
  have hsettled : ∀ t ∈ settled.toList, p.Sound first place.index t := by
    intro t ht
    exact settle_sound hp hindex (List.forall_mem_append.mpr ⟨hthreads, hfresh⟩)
      (fun u hu => absurd hu (Array.not_mem_empty u)) t (Array.mem_toList_iff.mp ht)
  refine ⟨fun t ht => hsettled t ((List.takeWhile_sublist _).subset ht), fun found hfound => ?_⟩
  -- The best match is that of a thread that accepts here, or the one from before.
  rcases Option.or_eq_some_iff.mp hfound with haccepted | ⟨_, hold⟩
  · obtain ⟨t, ht, rfl⟩ := Option.map_eq_some_iff.mp haccepted
    refine (hsettled t (List.mem_of_find?_eq_some ht)).accepting ?_
    have haccepts := List.find?_some ht
    unfold accepts at haccepts
    split at haccepts
    next haccept => exact haccept
    next => cases haccepts
  · exact hbest found hold

theorem finish_inOrder (hp : p.Closes) {marks index : Nat} {cs : List Char} {f : Front}
    (hindex : first ≤ index) (hf : Front.Sound f p first index) {found : Array (Option Nat)}
    (hfound : p.finish marks index cs f = some found) : InOrder first found := by
  -- By induction on the characters that are left.
  induction cs generalizing index f with
  | nil => exact hf.best found hfound
  | cons c cs ih =>
    unfold finish at hfound
    simp only at hfound
    split at hfound
    next => exact hf.best found hfound
    next =>
      have hnext : first ≤ index + 1 := Nat.le_succ_of_le hindex
      have hplace : first ≤ (⟨some c, index + 1, cs⟩ : Place).index := hnext
      exact ih hnext (front_sound hp hplace (feed_sound hp hf.live) hf.best) hfound

end Threads

/-- The start and the end that a search of a written pattern notes are in order, from the place on where
the search began. -/
theorem search?_inOrder (p : Pattern) {groups : Nat} {place : Place} {found : Array (Option Nat)}
    (h : (ofPattern p).search? groups place = some found) : InOrder place.index found := by
  have hp := closes_ofPattern p
  have hstart : Front.Sound ((ofPattern p).front (2 * groups + 2) place [] none) (ofPattern p)
      place.index place.index :=
    front_sound hp (Nat.le_refl place.index) (fun t ht => absurd ht List.not_mem_nil) nofun
  exact finish_inOrder hp (Nat.le_refl _) hstart h

end Program

end Quarry.Pattern
