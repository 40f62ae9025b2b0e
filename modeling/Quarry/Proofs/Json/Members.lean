import Mathlib.Data.List.Induction
import Mathlib.Data.List.Perm.Subperm
import Quarry.Json.Basic

/-!
# Members of objects

Members that are put in one by one stand in the order of their keys, with each key once. Nothing is lost
exactly if the keys were distinct from the start.
-/

namespace Quarry.Json

variable {α : Type}

/-! ## 1. Putting a member in -/

theorem mem_keys_insertMember {key k : String} {value : α} {members : List (String × α)} :
    k ∈ (insertMember key value members).map Prod.fst ↔ k = key ∨ k ∈ members.map Prod.fst := by
  fun_induction insertMember key value members with
  | case1 => simp
  | case2 k' v' rest hlt => simp
  | case3 v' rest hlt => simp
  | case4 k' v' rest hlt hne ih =>
    rw [List.map_cons, List.map_cons, List.mem_cons, List.mem_cons, ih]
    exact or_left_comm

-- The new member stands before what is greater and behind what is less.
theorem ordered_insertMember {key : String} {value : α} {members : List (String × α)}
    (h : members.Pairwise fun a b => a.1 < b.1) :
    (insertMember key value members).Pairwise fun a b => a.1 < b.1 := by
  fun_induction insertMember key value members with
  | case1 => exact List.pairwise_singleton _ _
  | case2 k v rest hlt =>
    apply List.pairwise_cons.mpr
    refine ⟨fun b hb => ?_, h⟩
    rcases List.mem_cons.mp hb with rfl | hb
    · exact hlt
    · exact String.lt_trans hlt (List.rel_of_pairwise_cons h hb)
  | case3 v rest hlt =>
    exact List.pairwise_cons.mpr (List.pairwise_cons.mp h)
  | case4 k v rest hlt hne ih =>
    have hless : k < key := Std.lt_of_le_of_ne (String.not_lt.mp hlt) (Ne.symm hne)
    apply List.pairwise_cons.mpr
    refine ⟨fun b hb => ?_, ih (List.pairwise_cons.mp h).2⟩
    have hkey : b.1 ∈ (insertMember key value rest).map Prod.fst := List.mem_map_of_mem hb
    rcases mem_keys_insertMember.mp hkey with heq | hmem
    · rw [heq]
      exact hless
    · have ⟨b', hb', heq⟩ := List.mem_map.mp hmem
      rw [← heq]
      exact List.rel_of_pairwise_cons h hb'

-- Under a new key nothing else is changed.
theorem insertMember_perm {key : String} {value : α} {members : List (String × α)}
    (h : key ∉ members.map Prod.fst) :
    (insertMember key value members).Perm ((key, value) :: members) := by
  fun_induction insertMember key value members with
  | case1 => exact .refl _
  | case2 k v rest hlt => exact .refl _
  | case3 v rest hlt => simp at h
  | case4 k v rest hlt hne ih =>
    have habsent : key ∉ rest.map Prod.fst := fun hmem => h (List.mem_cons_of_mem _ hmem)
    exact ((ih habsent).cons (k, v)).trans (.swap _ _ _)

/-! ## 2. All members -/

theorem sortMembers_append_singleton (members : List (String × α)) (key : String) (value : α) :
    sortMembers (members ++ [(key, value)]) = insertMember key value (sortMembers members) := by
  simp [sortMembers]

/-- The members of an object stand in the order of their keys, each key once. -/
theorem ordered_sortMembers (members : List (String × α)) :
    (sortMembers members).Pairwise fun a b => a.1 < b.1 := by
  induction members using List.reverseRecOn with
  | nil => exact .nil
  | append_singleton members m ih =>
    rw [sortMembers_append_singleton]
    exact ordered_insertMember ih

theorem nodup_keys_sortMembers (members : List (String × α)) :
    ((sortMembers members).map Prod.fst).Nodup := by
  apply List.pairwise_map.mpr
  refine (ordered_sortMembers members).imp fun {a b} hlt heq => ?_
  rw [heq] at hlt
  exact String.lt_irrefl _ hlt

theorem mem_keys_sortMembers {members : List (String × α)} {k : String} :
    k ∈ (sortMembers members).map Prod.fst ↔ k ∈ members.map Prod.fst := by
  induction members using List.reverseRecOn with
  | nil => rfl
  | append_singleton members m ih =>
    rw [sortMembers_append_singleton, mem_keys_insertMember, ih]
    simp [or_comm]

/-- Members with distinct keys are all kept. -/
theorem sortMembers_perm {members : List (String × α)} (h : (members.map Prod.fst).Nodup) :
    (sortMembers members).Perm members := by
  induction members using List.reverseRecOn with
  | nil => exact .refl _
  | append_singleton members m ih =>
    rw [List.map_append, List.nodup_append] at h
    have hnew : m.1 ∉ (sortMembers members).map Prod.fst := by
      intro hmem
      exact h.2.2 _ (mem_keys_sortMembers.mp hmem) _ (List.mem_singleton_self _) rfl
    rw [sortMembers_append_singleton]
    apply (insertMember_perm hnew).trans
    apply ((ih h.1).cons m).trans
    exact (List.perm_append_singleton m members).symm

/-- Where two members have one key there are fewer members in the end. -/
theorem length_sortMembers_lt {members : List (String × α)} (h : ¬(members.map Prod.fst).Nodup) :
    (sortMembers members).length < members.length := by
  have hnodup := nodup_keys_sortMembers members
  have hsub : ((sortMembers members).map Prod.fst).Subperm (members.map Prod.fst) :=
    List.subperm_of_subset hnodup fun k hk => mem_keys_sortMembers.mp hk
  have hle := hsub.length_le
  rw [List.length_map, List.length_map] at hle
  apply Nat.lt_of_le_of_ne hle
  intro heq
  have hperm := hsub.perm_of_length_le (by simp [heq])
  exact h (hperm.nodup_iff.mp hnodup)

end Quarry.Json
