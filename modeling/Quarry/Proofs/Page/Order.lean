import Quarry.Selector.Matching

/-!
# Document order

Each element within a node is listed once, behind those that start before it. So are the elements that a
selector means.
-/

namespace Quarry

namespace Page.Spot

/-! ## 1. Definitions -/

/-- A spot lies within another one: a child of its node is there, or somewhere around it. -/
inductive Within : Spot → Spot → Prop where
  | child {parent : Spot} {before after : List Node} {node : Node}
      (h : parent.node.children = before.reverse ++ node :: after) :
      Within parent (.child parent before node after)
  | deeper {parent spot : Spot} {before after : List Node} {node : Node}
      (h : parent.node.children = before.reverse ++ node :: after)
      (hspot : Within (.child parent before node after) spot) : Within parent spot

/-- The first spot starts before the second one. It is around it, or in front of it where their ways from
the root part. -/
def Precedes (a b : Spot) : Prop := List.Lex (· < ·) a.path.reverse b.path.reverse

/-- The spots with a property, in document order. -/
structure Lists (p : Spot → Prop) (spots : List Spot) : Prop where
  mem : ∀ spot, spot ∈ spots ↔ p spot
  ordered : spots.Pairwise Precedes

/-- A spot with a property that no other one with it starts before. -/
structure IsFirst (p : Spot → Prop) (spot : Spot) : Prop where
  holds : p spot
  least : ∀ other, p other → other = spot ∨ spot.Precedes other

/-! ## 2. Elements within a node -/

variable {parent spot : Spot} {before after nodes : List Node} {node : Node}

-- A child and what is within it, where the child is one of the last children.
def Among (parent : Spot) (before nodes : List Node) (spot : Spot) : Prop :=
  ∃ front node after, nodes = front ++ node :: after ∧
    (spot = .child parent (front.reverse ++ before) node after ∨
      (Spot.child parent (front.reverse ++ before) node after).Within spot)

theorem among_nil (parent spot : Spot) (before : List Node) : ¬Among parent before [] spot := by
  rintro ⟨front, node, after, h, _⟩
  exact List.append_ne_nil_of_right_ne_nil front (List.cons_ne_nil node after) h.symm

theorem among_cons : Among parent before (node :: after) spot ↔
    (spot = .child parent before node after ∨ (Spot.child parent before node after).Within spot) ∨
      Among parent (node :: before) after spot := by
  constructor
  · rintro ⟨front, node', after', h, hspot⟩
    cases front with
    | nil =>
      obtain ⟨rfl, rfl⟩ := List.cons.inj h
      exact .inl hspot
    | cons node'' front =>
      obtain ⟨rfl, rfl⟩ := List.cons.inj h
      rw [List.reverse_cons, List.append_assoc] at hspot
      exact .inr ⟨front, node', after', rfl, hspot⟩
  · rintro (hspot | ⟨front, node', after', rfl, hspot⟩)
    · exact ⟨[], node, after, rfl, hspot⟩
    · refine ⟨node :: front, node', after', rfl, ?_⟩
      rwa [List.reverse_cons, List.append_assoc]

theorem within_iff_among : parent.Within spot ↔ Among parent [] parent.node.children spot := by
  constructor
  · intro h
    cases h with
    | @child _ before after node h =>
      exact ⟨before.reverse, node, after, h, .inl (by simp)⟩
    | @deeper _ _ before after node h hspot =>
      exact ⟨before.reverse, node, after, h, .inr (by simpa using hspot)⟩
  · rintro ⟨front, node, after, h, hspot⟩
    rw [List.append_nil] at hspot
    have hchildren : parent.node.children = front.reverse.reverse ++ node :: after := by
      rw [List.reverse_reverse]
      exact h
    rcases hspot with rfl | hspot
    · exact .child hchildren
    · exact .deeper hchildren hspot

-- A node, if it is an element, and the elements within it.
theorem mem_self_or_within {top : Spot} {inner : List Spot}
    (hinner : spot ∈ inner ↔ spot.node.isElement ∧ top.Within spot) :
    spot ∈ (if top.node.isElement then top :: inner else inner) ↔
      spot.node.isElement ∧ (spot = top ∨ top.Within spot) := by
  split
  case isTrue helement =>
    rw [List.mem_cons, hinner]
    constructor
    · rintro (rfl | ⟨hspot, hwithin⟩)
      · exact ⟨helement, .inl rfl⟩
      · exact ⟨hspot, .inr hwithin⟩
    · rintro ⟨hspot, hself | hwithin⟩
      · exact .inl hself
      · exact .inr ⟨hspot, hwithin⟩
  case isFalse helement =>
    rw [hinner]
    refine and_congr_right fun hspot => (or_iff_right ?_).symm
    rintro rfl
    exact helement hspot

mutual

theorem mem_within (spot top : Spot) : (node : Node) →
    (spot ∈ within top node ↔ spot.node.isElement ∧ Among top [] node.children spot)
  | .element _ _ children => mem_withinAll spot top [] children
  | .text _ | .comment _ => by simp [within, Node.children, among_nil]

theorem mem_withinAll (spot parent : Spot) (before : List Node) : (nodes : List Node) →
    (spot ∈ withinAll parent before nodes ↔ spot.node.isElement ∧ Among parent before nodes spot)
  | [] => by simp [withinAll, among_nil]
  | node :: after => by
    have hinner : spot ∈ within (.child parent before node after) node ↔
        spot.node.isElement ∧ (Spot.child parent before node after).Within spot := by
      rw [within_iff_among]
      exact mem_within spot (.child parent before node after) node
    have hrest := mem_withinAll spot parent (node :: before) after
    rw [withinAll, among_cons, and_or_left, List.mem_append, hrest]
    exact or_congr_left (mem_self_or_within hinner)

end

theorem mem_descendants {top : Spot} : spot ∈ top.descendants ↔ spot.node.isElement ∧ top.Within spot := by
  rw [within_iff_among]
  exact mem_within spot top top.node

theorem mem_elements {top : Spot} :
    spot ∈ top.elements ↔ spot.node.isElement ∧ (spot = top ∨ top.Within spot) :=
  mem_self_or_within mem_descendants

/-! ## 3. Their order -/

-- The way to what is within a spot goes on from there.
theorem path_of_within {top : Spot} (h : top.Within spot) :
    ∃ i rest, spot.path.reverse = top.path.reverse ++ i :: rest := by
  induction h with
  | @child parent before after node h => exact ⟨before.length, [], List.reverse_cons⟩
  | @deeper parent spot before after node h hspot ih =>
    obtain ⟨i, rest, hpath⟩ := ih
    refine ⟨before.length, i :: rest, hpath.trans ?_⟩
    rw [path, List.reverse_cons, List.append_assoc]
    rfl

-- So does the way to a child and to what is within it.
theorem path_of_child {first : Spot}
    (h : first = .child parent before node after ∨ (Spot.child parent before node after).Within first) :
    ∃ rest, first.path.reverse = parent.path.reverse ++ before.length :: rest := by
  rcases h with rfl | h
  · exact ⟨[], List.reverse_cons⟩
  · obtain ⟨i, rest, hpath⟩ := path_of_within h
    refine ⟨i :: rest, hpath.trans ?_⟩
    rw [path, List.reverse_cons, List.append_assoc]
    rfl

theorem lex_append_left {way as bs : List Nat} (h : List.Lex (· < ·) as bs) :
    List.Lex (· < ·) (way ++ as) (way ++ bs) := by
  induction way with
  | nil => exact h
  | cons i way ih => exact .cons ih

-- A node starts before what is within it.
theorem precedes_of_within {top : Spot} (h : top.Within spot) : top.Precedes spot := by
  obtain ⟨i, rest, hpath⟩ := path_of_within h
  have hlex : List.Lex (· < ·) (top.path.reverse ++ []) (top.path.reverse ++ i :: rest) :=
    lex_append_left .nil
  rwa [List.append_nil, ← hpath] at hlex

-- A child and what is within it start before the later children and what is within them.
theorem precedes_of_among {first : Spot}
    (hfirst : first = .child parent before node after ∨ (Spot.child parent before node after).Within first)
    (h : Among parent (node :: before) after spot) : first.Precedes spot := by
  obtain ⟨rest, hpath⟩ := path_of_child hfirst
  obtain ⟨front, node', after', rfl, hspot⟩ := h
  obtain ⟨rest', hpath'⟩ := path_of_child hspot
  have hlt : before.length < (front.reverse ++ node :: before).length := by
    rw [List.length_append, List.length_cons]
    omega
  rw [Precedes, hpath, hpath']
  exact lex_append_left (.rel hlt)

theorem pairwise_self_or_within {top : Spot} {inner : List Spot} (hinner : inner.Pairwise Precedes)
    (hwithin : ∀ spot ∈ inner, top.Within spot) :
    (if top.node.isElement then top :: inner else inner).Pairwise Precedes := by
  split
  · exact .cons (fun spot hspot => precedes_of_within (hwithin spot hspot)) hinner
  · exact hinner

mutual

theorem pairwise_within (top : Spot) : (node : Node) → (within top node).Pairwise Precedes
  | .element _ _ children => pairwise_withinAll top [] children
  | .text _ | .comment _ => .nil

theorem pairwise_withinAll (parent : Spot) (before : List Node) :
    (nodes : List Node) → (withinAll parent before nodes).Pairwise Precedes
  | [] => .nil
  | node :: after => by
    have hmem (spot : Spot) : spot ∈ within (.child parent before node after) node ↔
        spot.node.isElement ∧ (Spot.child parent before node after).Within spot := by
      rw [within_iff_among]
      exact mem_within spot (.child parent before node after) node
    have hfirst := pairwise_self_or_within (pairwise_within (.child parent before node after) node)
      fun spot hspot => ((hmem spot).mp hspot).2
    refine List.pairwise_append.mpr ⟨hfirst, pairwise_withinAll parent (node :: before) after, ?_⟩
    -- What is listed for the child precedes what is listed for those behind it.
    intro first hfirst spot hspot
    exact precedes_of_among ((mem_self_or_within (hmem first)).mp hfirst).2
      ((mem_withinAll spot parent (node :: before) after).mp hspot).2

end

theorem pairwise_descendants (top : Spot) : top.descendants.Pairwise Precedes :=
  pairwise_within top top.node

theorem pairwise_elements (top : Spot) : top.elements.Pairwise Precedes :=
  pairwise_self_or_within (pairwise_descendants top) fun _ hspot => (mem_descendants.mp hspot).2

theorem Precedes.asymm {a b : Spot} (h : a.Precedes b) : ¬b.Precedes a :=
  fun h' => List.lt_irrefl _ (List.lt_trans h h')

/-- The head of a list is the first spot that it lists. -/
theorem Lists.isFirst {p : Spot → Prop} {spot : Spot} {spots : List Spot} (h : Lists p (spot :: spots)) :
    IsFirst p spot where
  holds := (h.mem spot).mp List.mem_cons_self
  least other hother := (List.mem_cons.mp ((h.mem other).mpr hother)).imp_right
    ((List.pairwise_cons.mp h.ordered).1 other)

theorem IsFirst.eq {p : Spot → Prop} {a b : Spot} (ha : IsFirst p a) (hb : IsFirst p b) : a = b := by
  rcases ha.least b hb.holds with rfl | hab
  · rfl
  · rcases hb.least a ha.holds with rfl | hba
    · rfl
    · exact absurd hba hab.asymm

end Page.Spot

/-! ## 4. Selectors -/

namespace Selector

open Page (Spot)

/-- A selector means an element of a page, which may be the root. -/
structure MeansIn (s : Selector) (root spot : Spot) : Prop where
  element : spot.node.isElement
  within : spot = root ∨ root.Within spot
  isMatch : s.isMatch [] spot

/-- A selector means an element within another one, which is its scope. -/
structure MeansWithin (s : Selector) (place spot : Spot) : Prop where
  element : spot.node.isElement
  within : place.Within spot
  isMatch : s.isMatch place.path spot

theorem meansIn_iff {s : Selector} {root spot : Spot} : s.MeansIn root spot ↔
    (spot.node.isElement ∧ (spot = root ∨ root.Within spot)) ∧ s.isMatch [] spot :=
  ⟨fun ⟨helement, hwithin, hmatch⟩ => ⟨⟨helement, hwithin⟩, hmatch⟩,
    fun ⟨⟨helement, hwithin⟩, hmatch⟩ => ⟨helement, hwithin, hmatch⟩⟩

theorem meansWithin_iff {s : Selector} {place spot : Spot} : s.MeansWithin place spot ↔
    (spot.node.isElement ∧ place.Within spot) ∧ s.isMatch place.path spot :=
  ⟨fun ⟨helement, hwithin, hmatch⟩ => ⟨⟨helement, hwithin⟩, hmatch⟩,
    fun ⟨⟨helement, hwithin⟩, hmatch⟩ => ⟨helement, hwithin, hmatch⟩⟩

/-- The elements of a page that a selector means, in document order. -/
theorem lists_selectAll (s : Selector) (root : Spot) : Spot.Lists (s.MeansIn root) (s.selectAll root) where
  mem spot := by rw [selectAll, List.mem_filter, Spot.mem_elements, meansIn_iff]
  ordered := (Spot.pairwise_elements root).filter _

/-- The elements within an element that a selector means, in document order. -/
theorem lists_select (s : Selector) (place : Spot) :
    Spot.Lists (s.MeansWithin place) (s.select place) where
  mem spot := by rw [select, List.mem_filter, Spot.mem_descendants, meansWithin_iff]
  ordered := (Spot.pairwise_descendants place).filter _

theorem head?_select_of_isFirst {s : Selector} {place spot : Spot}
    (h : Spot.IsFirst (s.MeansWithin place) spot) : (s.select place).head? = some spot := by
  have hlists := lists_select s place
  cases hselect : s.select place with
  | nil =>
    have hmem := (hlists.mem spot).mpr h.holds
    rw [hselect] at hmem
    cases hmem
  | cons first others =>
    rw [hselect] at hlists
    exact congrArg some (hlists.isFirst.eq h)

theorem select_eq_nil {s : Selector} {place : Spot} (h : ∀ spot, ¬s.MeansWithin place spot) :
    s.select place = [] :=
  List.eq_nil_iff_forall_not_mem.mpr fun spot hspot => h spot (((lists_select s place).mem spot).mp hspot)

end Selector

end Quarry
