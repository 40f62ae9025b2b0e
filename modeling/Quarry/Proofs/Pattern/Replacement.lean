import Quarry.Proofs.Pattern.Marks
import Quarry.Proofs.Pattern.Template

/-!
# Replacement of matches

The matches in a text and what stands between them are the whole text, in order. Replacing puts the meaning
of a template in the place of each match, and keeps what stands between them. A number behind an opening
brace of the template is the exception: it ends the braces too early.
-/

namespace Quarry

open Pattern (Place)

/-! ## 1. Places -/

namespace Pattern.Place

theorem rest_skip (place : Place) (count : Nat) : (place.skip count).rest = place.rest.drop count := by
  induction count generalizing place with
  | zero => rfl
  | succ count ih =>
    rw [skip, ih]
    unfold next
    split
    next hrest => rw [hrest, List.drop_nil, List.drop_nil]
    next c rest hrest => rw [hrest, List.drop_succ_cons]

-- What is between two indices does not depend on the place in front of them.
theorem between_next {place : Place} {first last : Nat} (hfirst : place.next.index ≤ first) :
    place.next.between first last = place.between first last := by
  unfold next at hfirst ⊢
  split
  next => rfl
  next c rest hrest =>
    simp only [hrest] at hfirst
    unfold between
    have hindex : first - place.index = first - (place.index + 1) + 1 := by omega
    rw [hrest, hindex, List.drop_succ_cons]

theorem index_le_next (place : Place) : place.index ≤ place.next.index := by
  unfold next
  split
  next => exact Nat.le_refl _
  next => exact Nat.le_succ _

end Pattern.Place

/-! ## 2. Matches -/

/-- A match that was found from a place on, with its own text as that of group 0. -/
structure FoundFrom (place : Place) (found : (Nat × Nat) × List (Option (List Char))) : Prop where
  behind : place.index ≤ found.1.1
  ordered : found.1.1 ≤ found.1.2
  whole : found.2[0]? = some (some (place.between found.1.1 found.1.2))

namespace Matcher

variable {m : Matcher} {place : Place}

theorem exists_program_of_compile? {source : String} (h : compile? source = some m) :
    ∃ p, m.program = Pattern.Program.ofPattern p := by
  obtain ⟨⟨p, groups, names⟩, _, h⟩ := Option.bind_eq_some_iff.mp h
  simp only [Option.ite_none_right_eq_some] at h
  obtain ⟨_, heq⟩ := h
  cases heq
  exact ⟨p, rfl⟩

theorem span?_eq_some {marks : Array (Option Nat)} {group first last : Nat}
    (h : span? marks group = some (first, last)) :
    marks[2 * group]? = some (some first) ∧ marks[2 * group + 1]? = some (some last) := by
  obtain ⟨noted, hnoted, hstart⟩ := Option.bind_eq_some_iff.mp h
  obtain ⟨start, rfl, hrest⟩ := Option.bind_eq_some_iff.mp hstart
  obtain ⟨noted', hnoted', hstop⟩ := Option.bind_eq_some_iff.mp hrest
  obtain ⟨stop, rfl, heq⟩ := Option.bind_eq_some_iff.mp hstop
  cases heq
  exact ⟨hnoted, hnoted'⟩

theorem search?_found {p : Pattern} (hm : m.program = .ofPattern p)
    {found : (Nat × Nat) × List (Option (List Char))} (h : m.search? place = some found) :
    FoundFrom place found := by
  obtain ⟨marks, hmarks, h⟩ := Option.bind_eq_some_iff.mp h
  obtain ⟨⟨first, last⟩, hspan, h⟩ := Option.bind_eq_some_iff.mp h
  cases h
  rw [hm] at hmarks
  obtain ⟨hfirst, hlast⟩ := span?_eq_some hspan
  obtain ⟨hbehind, hordered⟩ := Pattern.Program.search?_inOrder p hmarks first last hfirst hlast
  refine ⟨hbehind, hordered, ?_⟩
  rw [List.getElem?_map, List.getElem?_range (Nat.succ_pos _)]
  simp only [Option.map_some, hspan]

theorem next?_found {p : Pattern} (hm : m.program = .ofPattern p) {last : Option Nat}
    {found : (Nat × Nat) × List (Option (List Char))} (h : m.next? place last = some found) :
    FoundFrom place found := by
  obtain ⟨found', hsearch, h⟩ := Option.bind_eq_some_iff.mp h
  split at h
  next =>
    split at h
    next => cases h
    next =>
      -- The search goes on one character later.
      have hnext := search?_found hm h
      refine ⟨Nat.le_trans place.index_le_next hnext.behind, hnext.ordered, ?_⟩
      rw [← Place.between_next hnext.behind]
      exact hnext.whole
  next =>
    cases h
    exact search?_found hm hsearch

/-- The matches from a place on and what is skipped between them are all that is left there. -/
theorem flatten_occurrencesFrom {p : Pattern} (hm : m.program = .ofPattern p) (bound : Nat)
    (last : Option Nat) :
    ((m.occurrencesFrom bound place last).1.flatMap fun o => o.skipped ++ o.text) ++
      (m.occurrencesFrom bound place last).2 = place.rest := by
  induction bound generalizing place last with
  | zero => rfl
  | succ bound ih =>
    unfold occurrencesFrom
    cases hnext : m.next? place last with
    | none => rfl
    | some found =>
      obtain ⟨⟨first, stop⟩, groups⟩ := found
      obtain ⟨hbehind, hordered, hwhole⟩ := next?_found hm hnext
      simp only at hbehind hordered hwhole ⊢
      have htext : Occurrence.text ⟨place.between place.index first, groups⟩ =
          place.between first stop := by
        unfold Occurrence.text Occurrence.group
        rw [hwhole]
        rfl
      have hstop : stop - place.index = first - place.index + (stop - first) := by omega
      rw [List.flatMap_cons, htext, List.append_assoc, ih, Place.rest_skip, hstop]
      unfold Place.between
      rw [Nat.sub_self, List.drop_zero, List.append_assoc, ← List.drop_drop, List.take_append_drop,
        List.take_append_drop]

theorem flatten_occurrences {source : String} (h : compile? source = some m) (text : String) :
    ((m.occurrences text).1.flatMap fun o => o.skipped ++ o.text) ++ (m.occurrences text).2 =
      text.toList := by
  obtain ⟨p, hm⟩ := exists_program_of_compile? h
  exact flatten_occurrencesFrom hm _ _

/-! ## 3. Replacing -/

/-- What replacing does to a text: nothing comes of a text without a match, and in any other the meaning of
the template stands in the place of each match. -/
structure Replaces (m : Matcher) (text template : String) : Prop where
  /-- The matches and what is skipped between them are the text. -/
  partition : ((m.occurrences text).1.flatMap fun o => o.skipped ++ o.text) ++
    (m.occurrences text).2 = text.toList
  unmatched : m.replaceAll? text template = none ↔ (m.occurrences text).1 = []
  replaced : (m.occurrences text).1 ≠ [] → m.replaceAll? text template =
    some (.ofList (((m.occurrences text).1.flatMap fun o =>
      o.skipped ++ m.expand o (Template.meaning template.toList)) ++ (m.occurrences text).2))

theorem replaceAll?_eq (text template : String) : m.replaceAll? text template =
    if (m.occurrences text).1 = [] then none
    else some (.ofList (((m.occurrences text).1.flatMap fun o =>
      o.skipped ++ m.expand o (Template.parts (Template.brace template.toList))) ++
        (m.occurrences text).2)) := by
  unfold replaceAll?
  obtain ⟨found, tail⟩ := m.occurrences text
  cases found <;> rfl

/-- Replacing gives each match the meaning of the template, if there is none or the template has no number
behind an opening brace. -/
theorem replaces_of_clear {source : String} (hm : compile? source = some m) (text template : String)
    (h : (m.occurrences text).1 = [] ∨ Template.Clear template.toList) : m.Replaces text template := by
  refine ⟨flatten_occurrences hm text, ?_, fun hfound => ?_⟩
  · rw [replaceAll?_eq]
    split
    next hnone => exact iff_of_true rfl hnone
    next hfound => exact iff_of_false nofun hfound
  · rw [replaceAll?_eq, if_neg hfound, Template.parts_brace (h.resolve_left hfound)]

/-- A number in front of letters, a name in braces and an escaped sign. -/
theorem replaces_number_before_letters :
    ∃ m, compile? "(?P<n>b)(c)" = some m ∧ m.Replaces "abcbc" "$2a$\x7bn\x7d$$1" := by
  have hclear : Template.Clear "$2a$\x7bn\x7d$$1".toList := by
    have hend : Template.Clear ['1'] := .plain (by decide) .nil
    have hsign : Template.Clear "$$1".toList := .sign (fun _ heq => by cases heq) hend
    have hbraces : Template.Clear "$\x7bn\x7d$$1".toList := by
      refine .sign (fun inner heq => ?_) hsign
      cases heq
      exact .plain (by decide) .nil
    exact .sign (fun _ heq => by cases heq) (.plain (by decide) hbraces)
  have hcompiles : (compile? "(?P<n>b)(c)").isSome := by decide +kernel
  obtain ⟨m, hm⟩ := Option.isSome_iff_exists.mp hcompiles
  exact ⟨m, hm, replaces_of_clear hm _ _ (Or.inr hclear)⟩

/-- A number behind a brace that is not closed: the brace and the match are lost. -/
theorem number_behind_brace_is_lost :
    ¬∀ source m text template, compile? source = some m → m.Replaces text template := by
  intro h
  have hfound : ((compile? "(b)").map fun m =>
      ((m.occurrences "abc").1.flatMap fun o =>
        o.skipped ++ m.expand o (Template.meaning "$\x7b$1".toList)) ++ (m.occurrences "abc").2) =
      some "a$\x7bbc".toList := by decide +kernel
  have hmatched : ((compile? "(b)").map fun m => (m.occurrences "abc").1.length) = some 1 := by
    decide +kernel
  have hresult : ((compile? "(b)").bind fun m => m.replaceAll? "abc" "$\x7b$1") = some "ac" := by
    decide +kernel
  cases hm : compile? "(b)" with
  | none =>
    rw [hm] at hresult
    cases hresult
  | some m =>
    rw [hm, Option.map_some] at hfound hmatched
    rw [hm, Option.bind_some] at hresult
    have hne : (m.occurrences "abc").1 ≠ [] := by
      intro hnil
      rw [hnil] at hmatched
      cases hmatched
    have hmeant := (h _ m "abc" "$\x7b$1" hm).replaced hne
    rw [hresult, Option.some.inj hfound] at hmeant
    revert hmeant
    decide

end Matcher

end Quarry
