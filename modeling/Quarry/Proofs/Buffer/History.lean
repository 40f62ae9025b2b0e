import Mathlib.Algebra.Group.Nat.Defs
import Mathlib.Data.List.Induction
import Quarry.Proofs.Buffer.InPlace

/-!
# Histories of stores

What any sequence of calls makes of an empty store, whether or not some of them fail. Rows keep the types
of their columns, identities count the rows from one without gaps, and a call that fails changes nothing.
-/

namespace Quarry

/-! ## 1. What calls do -/

/-- A buffer whose rows have a value of its type, or null, in each column, and their number in the
identity column. -/
structure Buffer.Regular (b : Buffer) : Prop where
  /-- Every row is as wide as the schema. -/
  width : ∀ row ∈ b.rows, row.length = b.schema.columns.length
  /-- Every cell is null or of the type of its column. -/
  typed : ∀ row ∈ b.rows, ∀ (i : Nat) (c : BufferColumn), b.schema.columns[i]? = some c →
    ∃ v, row[i]? = some v ∧ (v = .null ∨ v.type = c.type)
  /-- The identities of the rows are one, two, three and so on. -/
  identities : b.rows.size < 2 ^ 63 → ∀ index, b.schema.identity? = some index →
    ∀ (k : Nat) (row : List Value), b.rows[k]? = some row →
      ∃ n : Int64, row[index]? = some (.integer n) ∧ n.toInt = k + 1

/-- The row that an insert appends to a buffer, and the identity that it returns. -/
structure Buffer.Appends (b : Buffer) (targets : List Nat) (values : List Value)
    (row : List Value) (identity : Option Int64) : Prop where
  /-- There is a value for each target. -/
  balanced : targets.length = values.length
  /-- Every value has a reading in the type of its column. -/
  converted : ∀ p ∈ targets.zip values, ∃ c, b.schema.columns[p.1]? = some c ∧
    (p.2.convert? c.type).isSome
  width : row.length = b.schema.columns.length
  /-- A column that is no target is null, unless it is the identity. -/
  untargeted : ∀ i < b.schema.columns.length, b.schema.identity? ≠ some i → i ∉ targets →
    row[i]? = some .null
  /-- A target holds the last value aimed at it, converted to its type. -/
  targeted : ∀ (i : Nat) (c : BufferColumn) (value : Value), b.schema.columns[i]? = some c →
    b.schema.identity? ≠ some i → (targets.zip values).reverse.lookup i = some value →
      ∃ v, value.convert? c.type = some v ∧ row[i]? = some v
  /-- The identity column holds the number of the row, even if it is a target. -/
  numbered : ∀ index, b.schema.identity? = some index → ∃ n : Int64, identity = some n ∧
    row[index]? = some (.integer n) ∧ (b.rows.size + 1 < 2 ^ 63 → n.toInt = b.rows.size + 1)
  /-- Without such a column there is no identity. -/
  unnumbered : b.schema.identity? = none → identity = none

/-- What a call that succeeds does to a store. -/
def Call.Does (before after : Store) (identity : Option Int64) : Call → Prop
  | .create name schema => before.get? name = none ∧ identity = none ∧
      ∀ other, after.get? other = if other = name then some ⟨name, schema, #[]⟩ else before.get? other
  | .insert name targets values => ∃ b row, before.get? name = some b ∧
      b.Appends targets values row identity ∧
      ∀ other, after.get? other =
        if other = name then some { b with rows := b.rows.push row } else before.get? other

/-- Why a store refuses a call. -/
inductive Call.Refused (s : Store) : Call → StoreError → Prop
  | duplicate {name : String} {schema : Schema} {b : Buffer} (hb : s.get? name = some b) :
      Refused s (.create name schema) (.duplicateBuffer name)
  | unknown {name : String} {targets : List Nat} {values : List Value}
      (hb : s.get? name = none) : Refused s (.insert name targets values) (.unknownBuffer name)
  | width {name : String} {targets : List Nat} {values : List Value} {b : Buffer}
      (hb : s.get? name = some b) (hlength : targets.length ≠ values.length) :
      Refused s (.insert name targets values) (.width ⟨targets.length, values.length⟩)
  /-- The first value that its column does not take. -/
  | conversion {name : String} {targets : List Nat} {values : List Value} {b : Buffer}
      {before after : List (Nat × Value)} {target : Nat} {value : Value} {c : BufferColumn}
      (hb : s.get? name = some b) (hlength : targets.length = values.length)
      (hpairs : targets.zip values = before ++ (target, value) :: after)
      (hbefore : ∀ p ∈ before, b.Converts p) (hc : b.schema.columns[target]? = some c)
      (hv : value.convert? c.type = none) :
      Refused s (.insert name targets values) (.conversion name c.name value.text c.type)

/-- A call whose schema was declared, or whose targets are columns of the buffer if there is one. -/
def Call.Admissible (s : Store) : Call → Prop
  | .create _ schema => ∃ buffer decls, declaredSchema buffer decls = .ok schema
  | .insert name targets _ =>
    ∀ b, s.get? name = some b → ∀ t ∈ targets, t < b.schema.columns.length

/-! ## 2. One call -/

namespace Buffer

variable {b : Buffer} {targets : List Nat} {values : List Value} {row : List Value}
  {identity : Option Int64}

-- A value is found for a column exactly if the column is a target.
theorem lookup_reverse_zip_eq_none_iff (hlength : targets.length = values.length) {i : Nat} :
    (targets.zip values).reverse.lookup i = none ↔ i ∉ targets := by
  have hfirst : (targets.zip values).map Prod.fst = targets := List.map_fst_zip (Nat.le_of_eq hlength)
  rw [List.lookup_eq_none_iff]
  constructor
  · intro h htarget
    obtain ⟨p, hp, rfl⟩ := List.mem_map.mp (hfirst ▸ htarget)
    exact bne_iff_ne.mp (h p (List.mem_reverse.mpr hp)) rfl
  · intro h p hp
    have hmem : p.1 ∈ targets := (List.of_mem_zip (List.mem_reverse.mp hp)).1
    exact bne_iff_ne.mpr fun heq => h (heq ▸ hmem)

-- Values that are stored give the row that an insert appends.
theorem appends_of_placeAll (hrange : ∀ t ∈ targets, t < b.schema.columns.length)
    (hlength : targets.length = values.length)
    (h : b.placeAll (targets.zip values) (List.replicate b.schema.columns.length .null) = .ok row) :
    b.Appends targets values (b.number row) (b.schema.identity?.map fun _ => b.nextIdentity) := by
  obtain ⟨hwidth, hcells⟩ := getElem?_of_placeAll h (List.length_replicate)
  -- Numbering changes the identity alone.
  have hnumber : ∀ i, b.schema.identity? ≠ some i → (b.number row)[i]? = row[i]? := by
    intro i hi
    unfold number
    cases hidentity : b.schema.identity? with
    | none => rfl
    | some index =>
      exact List.getElem?_set_ne fun heq => hi (by rw [hidentity, heq])
  refine {
    balanced := hlength
    converted := fun p hp => ?_
    width := ?_
    untargeted := fun i hi hidentity htarget => ?_
    targeted := fun i c value hc hidentity hvalue => ?_
    numbered := fun index hindex => ?_
    unnumbered := fun hnone => by rw [hnone]; rfl }
  · have hc := List.getElem?_eq_getElem (hrange p.1 (List.of_mem_zip hp).1)
    exact ⟨_, hc, converts_of_placeAll h p hp _ hc⟩
  · unfold number
    cases b.schema.identity? with
    | none => exact hwidth
    | some index => exact (List.length_set).trans hwidth
  · have hnone := (lookup_reverse_zip_eq_none_iff hlength).mpr htarget
    rw [hnumber i hidentity, (hcells i _ (List.getElem?_eq_getElem hi)).2 hnone,
      List.getElem?_replicate, if_pos hi]
  · rw [hnumber i hidentity]
    exact (hcells i c hc).1 value hvalue
  · obtain ⟨hlt, _⟩ := List.findIdx?_eq_some_iff_getElem.mp hindex
    refine ⟨b.nextIdentity, by rw [hindex]; rfl, ?_, fun hsize => ?_⟩
    · unfold number
      rw [hindex]
      exact List.getElem?_set_self (by rw [hwidth]; exact hlt)
    · exact Int64.toInt_ofNat_of_lt hsize

-- A buffer without rows is regular.
theorem regular_new (name : String) (schema : Schema) : Regular ⟨name, schema, #[]⟩ where
  width _ hrow := absurd hrow (Array.not_mem_empty _)
  typed _ hrow := absurd hrow (Array.not_mem_empty _)
  identities _ _ _ _ _ hk := by simp at hk

/-- A row that an insert appends keeps a buffer regular. -/
theorem Regular.push (h : b.Regular) (hb : b.schema.Declarable)
    (hrow : b.Appends targets values row identity) :
    Regular { b with rows := b.rows.push row } := by
  refine ⟨fun r hr => ?_, fun r hr i c hc => ?_, fun hsize index hindex k r hk => ?_⟩
  · rcases Array.mem_push.mp hr with hr | rfl
    · exact h.width r hr
    · exact hrow.width
  · rcases Array.mem_push.mp hr with hr | rfl
    · exact h.typed r hr i c hc
    · by_cases hidentity : b.schema.identity? = some i
      · -- Identities were declared as integers.
        obtain ⟨n, _, hcell, _⟩ := hrow.numbered i hidentity
        obtain ⟨hlt, hid, _⟩ := List.findIdx?_eq_some_iff_getElem.mp hidentity
        have hc' : c = b.schema.columns[i] :=
          (Option.some.inj ((List.getElem?_eq_getElem hlt).symm.trans hc)).symm
        refine ⟨_, hcell, Or.inr ?_⟩
        rw [hc', hb.identity _ (List.getElem_mem hlt) hid]
        rfl
      · cases hvalue : (targets.zip values).reverse.lookup i with
        | some value =>
          obtain ⟨v, hv, hcell⟩ := hrow.targeted i c value hc hidentity hvalue
          exact ⟨v, hcell, Value.type_of_convert (hb.typed c (List.mem_of_getElem? hc)) hv⟩
        | none =>
          refine ⟨.null, hrow.untargeted i (List.getElem?_eq_some_iff.mp hc).1 hidentity ?_,
            Or.inl rfl⟩
          exact (lookup_reverse_zip_eq_none_iff hrow.balanced).mp hvalue
  · replace hk : (b.rows.push row)[k]? = some r := hk
    have hsize' : b.rows.size + 1 < 2 ^ 63 := by
      simpa only [Array.size_push] using hsize
    rw [Array.getElem?_push] at hk
    by_cases hlast : k = b.rows.size
    · rw [if_pos hlast] at hk
      cases hk
      obtain ⟨n, _, hcell, hn⟩ := hrow.numbered index hindex
      exact ⟨n, hcell, by rw [hn hsize', hlast]⟩
    · rw [if_neg hlast] at hk
      exact h.identities (by omega) index hindex k r hk

end Buffer

namespace Call

variable {s : Store}

theorem apply_insert {name : String} {b : Buffer} (hb : s.get? name = some b)
    (targets : List Nat) (values : List Value) :
    (Call.insert name targets values).apply s =
      (b.insert targets values).map fun p => (s.replace p.1, p.2) := by
  rw [apply]
  unfold Store.insert Store.get
  rw [hb]
  show (b.insert targets values >>= fun p => Except.ok (s.replace p.1, p.2)) = _
  cases b.insert targets values <;> rfl

/-- A call is refused for a reason, or does what it is for. -/
theorem apply_cases {c : Call} (hc : c.Admissible s) :
    (∃ e, c.apply s = .error e ∧ c.Refused s e) ∨
      ∃ after identity, c.apply s = .ok (after, identity) ∧ c.Does s after identity := by
  cases c with
  | create name schema =>
    rw [apply]
    unfold Store.create
    cases hb : s.get? name with
    | some b => exact Or.inl ⟨_, rfl, .duplicate hb⟩
    | none =>
      refine Or.inr ⟨_, none, rfl, hb, rfl, fun other => ?_⟩
      exact Store.get?_concat (b := ⟨name, schema, #[]⟩) hb
  | insert name targets values =>
    cases hb : s.get? name with
    | none =>
      refine Or.inl ⟨_, ?_, .unknown hb⟩
      rw [apply]
      unfold Store.insert Store.get
      rw [hb]
      rfl
    | some b =>
      have hname : b.name = name := Store.name_of_get? hb
      rw [apply_insert hb]
      by_cases hlength : targets.length = values.length
      · rw [Buffer.insert_eq hlength]
        cases hplace : b.placeAll (targets.zip values)
            (List.replicate b.schema.columns.length .null) with
        | error e =>
          obtain ⟨before, target, value, behind, c, hpairs, hbefore, hc, hv, rfl⟩ :=
            Buffer.placeAll_eq_error hplace
          rw [hname]
          exact Or.inl ⟨_, rfl, .conversion hb hlength hpairs hbefore hc hv⟩
        | ok row =>
          refine Or.inr ⟨_, _, rfl, b, b.number row, hb,
            Buffer.appends_of_placeAll (hc b hb) hlength hplace, fun other => ?_⟩
          exact Store.get?_replace hb hname
      · rw [Buffer.insert_of_width hlength]
        exact Or.inl ⟨_, rfl, .width hb hlength⟩

-- What a call does keeps buffers regular, under schemas that were declared.
theorem Does.regular {c : Call} {after : Store} {identity : Option Int64}
    (h : c.Does s after identity) (hc : c.Admissible s)
    (hs : ∀ name b, s.get? name = some b → b.schema.Declarable ∧ b.Regular) {name : String}
    {b : Buffer} (hb : after.get? name = some b) : b.schema.Declarable ∧ b.Regular := by
  cases c with
  | create created schema =>
    obtain ⟨_, _, hget⟩ := h
    obtain ⟨_, _, hschema⟩ := hc
    rw [hget] at hb
    by_cases hname : name = created
    · rw [if_pos hname] at hb
      cases hb
      exact ⟨declaredSchema_declarable hschema, Buffer.regular_new created schema⟩
    · rw [if_neg hname] at hb
      exact hs name b hb
  | insert target targets values =>
    obtain ⟨d, row, hd, happends, hget⟩ := h
    obtain ⟨hschema, hregular⟩ := hs target d hd
    rw [hget] at hb
    by_cases hname : name = target
    · rw [if_pos hname] at hb
      cases hb
      exact ⟨hschema, hregular.push hschema happends⟩
    · rw [if_neg hname] at hb
      exact hs name b hb

end Call

/-! ## 3. Batches -/

namespace Buffer

/-- The rows that inserts append to a buffer one after the other. -/
inductive AppendsAll (targets : List Nat) : Buffer → List (List Value) → List (List Value) → Prop where
  | nil {b : Buffer} : AppendsAll targets b [] []
  | cons {b : Buffer} {values row : List Value} {rest new : List (List Value)} {identity : Option Int64}
      (hrow : b.Appends targets values row identity)
      (hrest : AppendsAll targets { b with rows := b.rows.push row } rest new) :
      AppendsAll targets b (values :: rest) (row :: new)

variable {b : Buffer} {targets : List Nat} {rows new : List (List Value)}

theorem push_append (b : Buffer) (row : List Value) (new : List (List Value)) :
    { b with rows := b.rows.push row ++ new.toArray } =
      { b with rows := b.rows ++ (row :: new).toArray } := by
  congr 1
  apply Array.toList_inj.mp
  simp

theorem AppendsAll.regular (h : AppendsAll targets b rows new) (hb : b.Regular)
    (hschema : b.schema.Declarable) : Regular { b with rows := b.rows ++ new.toArray } := by
  induction h with
  | @nil b =>
    rw [Array.append_empty]
    exact hb
  | @cons b values row rest new identity hrow _ ih =>
    rw [← push_append]
    exact ih (hb.push hschema hrow) hschema

end Buffer

-- Inserting rows appends one row for each of them to the buffer, and changes no other buffer.
theorem Store.insertAll_appends {store store' : Store} {b : Buffer} {name : String} {targets : List Nat}
    {rows : List (List Value)} (hb : store.get? name = some b)
    (htargets : ∀ t ∈ targets, t < b.schema.columns.length)
    (h : store.insertAll name targets rows = .ok store') :
    ∃ new, b.AppendsAll targets rows new ∧
      ∀ other, store'.get? other =
        if other = name then some { b with rows := b.rows ++ new.toArray } else store.get? other := by
  unfold insertAll at h
  -- By induction on the rows: the next row meets the buffer with those before it.
  induction rows generalizing store b with
  | nil =>
    cases h
    refine ⟨[], .nil, fun other => ?_⟩
    rw [Array.append_empty]
    split
    case isTrue hother => rw [hother, hb]
    case isFalse => rfl
  | cons values rest ih =>
    rw [List.foldlM_cons] at h
    obtain ⟨middle, hmiddle, hrest⟩ := Except.bind_eq_ok.mp h
    obtain ⟨⟨_, identity⟩, hinsert, rfl⟩ := Except.map_eq_ok.mp hmiddle
    have hadmissible : (Call.insert name targets values).Admissible store := by
      intro d hd t ht
      cases hb.symm.trans hd
      exact htargets t ht
    rcases Call.apply_cases hadmissible with ⟨e, he, _⟩ | ⟨_, _, hok, d, row, hd, happends, hget⟩
    · cases hinsert.symm.trans he
    · cases hinsert.symm.trans hok
      cases hb.symm.trans hd
      obtain ⟨new, hnew, hfound⟩ := ih ((hget name).trans (if_pos rfl)) htargets hrest
      refine ⟨row :: new, .cons happends hnew, fun other => ?_⟩
      rw [hfound other, hget other, ← Buffer.push_append]
      split <;> rfl

namespace Shelf

/-- The shelf after calls to one without buffers. -/
def after (calls : List Call) : Shelf := calls.foldl (fun s c => (s.call c).2) empty

/-- Calls each of which is admissible when it is made. -/
def Admissible (calls : List Call) : Prop :=
  ∀ before c rest, calls = before ++ c :: rest → c.Admissible (after before).store

theorem after_concat (calls : List Call) (c : Call) :
    after (calls ++ [c]) = ((after calls).call c).2 := List.foldl_concat ..

theorem admissible_concat (calls : List Call) {c : Call} :
    Admissible (calls ++ [c]) ↔ Admissible calls ∧ c.Admissible (after calls).store := by
  constructor
  · intro h
    refine ⟨fun before d rest heq => h before d (rest ++ [c]) ?_, h calls c [] rfl⟩
    rw [heq, List.append_assoc, List.cons_append]
  · rintro ⟨hcalls, hc⟩ before d rest heq
    -- The call is the last one, or one before it.
    rcases List.eq_nil_or_concat rest with rfl | ⟨rest', last, rfl⟩
    · obtain ⟨rfl, hd⟩ := List.append_inj' heq rfl
      cases hd
      exact hc
    · rw [List.concat_eq_append] at heq
      have hsplit : calls ++ [c] = (before ++ d :: rest') ++ [last] := by
        rw [heq, List.append_assoc, List.cons_append]
      exact hcalls before d rest' (List.append_inj' hsplit rfl).1

/-- What calls keep of a shelf: counters that count the rows, and regular buffers under schemas that
were declared. -/
structure Sound (s : Shelf) : Prop where
  counts : s.Counts
  regular : ∀ name b, s.store.get? name = some b → b.schema.Declarable ∧ b.Regular

theorem sound_empty : empty.Sound := ⟨counts_empty, fun _ _ hb => nomatch hb⟩

/-- A call to a sound shelf. It answers as the function that gives a new store does, and either leaves
the shelf as it was, with an error that has a reason, or does what it is for. -/
structure Serves (s : Shelf) (c : Call) : Prop where
  answer : c.apply s.store = (s.call c).1.map fun identity => ((s.call c).2.store, identity)
  effect : (∃ e, (s.call c).1 = .error e ∧ c.Refused s.store e ∧ (s.call c).2 = s) ∨
    ∃ identity, (s.call c).1 = .ok identity ∧ c.Does s.store (s.call c).2.store identity

theorem Sound.serves {s : Shelf} (h : s.Sound) {c : Call} (hc : c.Admissible s.store) :
    s.Serves c := by
  rcases call_cases h.counts c with ⟨e, happly, hcall⟩ | ⟨identity, next, happly, hcall, _⟩
  · refine ⟨by rw [hcall]; exact happly, Or.inl ⟨e, by rw [hcall], ?_, by rw [hcall]⟩⟩
    rcases Call.apply_cases hc with ⟨e', he, hrefused⟩ | ⟨_, _, hok, _⟩
    · cases happly.symm.trans he
      exact hrefused
    · cases happly.symm.trans hok
  · refine ⟨by rw [hcall]; exact happly, Or.inr ⟨identity, by rw [hcall], ?_⟩⟩
    rw [hcall]
    rcases Call.apply_cases hc with ⟨e', he, _⟩ | ⟨_, _, hok, hdoes⟩
    · cases happly.symm.trans he
    · cases happly.symm.trans hok
      exact hdoes

-- A call keeps a shelf sound, whether or not it succeeds.
theorem Sound.call {s : Shelf} (h : s.Sound) {c : Call} (hc : c.Admissible s.store) :
    (s.call c).2.Sound := by
  rcases call_cases h.counts c with ⟨e, _, hcall⟩ | ⟨identity, next, _, hcall, hcounts⟩
  · rw [hcall]
    exact h
  · rcases (h.serves hc).effect with ⟨e, he, _, _⟩ | ⟨identity', _, hdoes⟩
    · rw [hcall] at he
      cases he
    · rw [hcall] at hdoes ⊢
      exact ⟨hcounts, fun _ _ hb => hdoes.regular hc h.regular hb⟩

theorem sound_after {calls : List Call} (h : Admissible calls) : (after calls).Sound := by
  -- By induction on the calls, the last one last.
  induction calls using List.reverseRecOn with
  | nil => exact sound_empty
  | append_singleton calls c ih =>
    obtain ⟨hcalls, hc⟩ := (admissible_concat _).mp h
    rw [after_concat]
    exact (ih hcalls).call hc

-- Calls that are admissible are so up to each of them.
theorem Admissible.before {before rest : List Call} (h : Admissible (before ++ rest)) :
    Admissible before :=
  fun before' c rest' heq => h before' c (rest' ++ rest) (by
    rw [heq, List.append_assoc, List.cons_append])

/-- At every point of a history of calls the rows of every buffer keep its schema, and its identities are
one, two, three and so on. The next call fails for a reason and changes nothing, or it adds what it is
to add and changes nothing else. -/
theorem regular_of_history (calls : List Call) (h : Admissible calls) :
    ∀ before rest, calls = before ++ rest →
      (∀ name b, (after before).store.get? name = some b → b.Regular) ∧
      ∀ c rest', rest = c :: rest' → (after before).Serves c := by
  rintro before rest rfl
  have hsound := sound_after h.before
  refine ⟨fun name b hb => (hsound.regular name b hb).2, ?_⟩
  rintro c rest' rfl
  exact hsound.serves (h before c rest' rfl)

/-- A history with a value for the identity, a row that fails at its second value, and a column that is a
target twice. -/
theorem regular_of_history_repeated_targets :
    let calls : List Call := [
      .create "t" ⟨[⟨"id", .integer, true⟩, ⟨"a", .integer, false⟩]⟩,
      .insert "t" [0, 1] [.integer 9, .string "7"],
      .insert "t" [0, 1] [.integer 9, .string "x"],
      .insert "t" [1, 1] [.string "5", .null]]
    Admissible calls ∧ ∀ name b, (after calls).store.get? name = some b → b.Regular := by
  intro calls
  -- The buffer has two columns all along.
  have hinsert : ∀ s : Store, (s.get? "t").map (·.schema.columns.length) = some 2 →
      ∀ targets : List Nat, (∀ t ∈ targets, t < 2) → ∀ values,
        (Call.insert "t" targets values).Admissible s := by
    intro s hs targets htargets values b hb t ht
    rw [hb] at hs
    have hlength : b.schema.columns.length = 2 := Option.some.inj hs
    rw [hlength]
    exact htargets t ht
  have h : Admissible calls := by
    refine (admissible_concat (calls.take 3)).mpr ⟨?_, hinsert _ (by rfl) _ (by decide) _⟩
    refine (admissible_concat (calls.take 2)).mpr ⟨?_, hinsert _ (by rfl) _ (by decide) _⟩
    refine (admissible_concat (calls.take 1)).mpr ⟨?_, hinsert _ (by rfl) _ (by decide) _⟩
    refine (admissible_concat []).mpr ⟨fun before c rest heq => ?_, ?_⟩
    · simp at heq
    · exact ⟨"t", [⟨"id", "identity", true, ⟨1, 1⟩⟩, ⟨"a", "int", false, ⟨1, 1⟩⟩],
        by decide +kernel⟩
  exact ⟨h, (regular_of_history calls h calls [] (List.append_nil calls).symm).1⟩

end Shelf

end Quarry
