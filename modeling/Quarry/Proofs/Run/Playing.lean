import Quarry.Proofs.Buffer.History
import Quarry.Proofs.Run.Answers
import Quarry.Proofs.Run.Stores

/-!
# Plans by rules

What steps do to a ledger, and why they end a plan, in terms of the rules for selects and of the calls that
a store takes or refuses. A plan that fits performs its steps by these rules.
-/

namespace Quarry

/-! ## 1. Rules -/

/-- What a step does to the ledger of a plan. -/
inductive Step.Does (w : World) (l : Ledger) : Step → Ledger → Prop where
  | createBuffer {name : String} {schema : Schema} {store : Store}
      (hstore : (Call.create name schema).Does l.store store none) :
      Does w l (.createBuffer name schema) { l with store }
  /-- All rows are computed first, and then appended in one batch. -/
  | insert {buffer : String} {targets : List Nat} {query : SelectStep} {rows new : List (List Value)}
      {wires : Nat} {b : Buffer} {store : Store} (hrows : query.Computes w l.store l.wires rows wires)
      (hb : l.store.get? buffer = some b) (hnew : b.AppendsAll targets rows new)
      (hstore : ∀ other, store.get? other =
        if other = buffer then some { b with rows := b.rows ++ new.toArray } else l.store.get? other) :
      Does w l (.insert buffer targets query) { l with store, wires }
  | select {query : SelectStep} {rows : List (List Value)} {wires : Nat}
      (hrows : query.Computes w l.store l.wires rows wires) :
      Does w l (.select query) { l with sheets := l.sheets ++ [(query.columns, rows)], wires }

/-- The error with which a step ends a plan: the first one of its rows, or that of the first row that is
refused behind those in front of it. -/
inductive Step.Ends (w : World) (l : Ledger) : Step → RunError → Prop where
  | select {query : SelectStep} {e : RunError} (h : query.FailsFirst w l.store l.wires e) :
      Ends w l (.select query) e
  | query {buffer : String} {targets : List Nat} {query : SelectStep} {e : RunError}
      (h : query.FailsFirst w l.store l.wires e) : Ends w l (.insert buffer targets query) e
  | row {buffer : String} {targets : List Nat} {query : SelectStep} {values : List Value}
      {before after new : List (List Value)} {wires : Nat} {b : Buffer} {store : Store} {e : StoreError}
      (hrows : query.Computes w l.store l.wires (before ++ values :: after) wires)
      (hb : l.store.get? buffer = some b) (hnew : b.AppendsAll targets before new)
      (hstore : ∀ other, store.get? other =
        if other = buffer then some { b with rows := b.rows ++ new.toArray } else l.store.get? other)
      (h : (Call.insert buffer targets values).Refused store e) :
      Ends w l (.insert buffer targets query) (.store e)

-- Targets that take columns are columns of the schema.
theorem Schema.Takes.lt_length {schema : Schema} {targets : List Nat} {columns : List Column}
    (h : schema.Takes targets columns) : ∀ t ∈ targets, t < schema.columns.length := by
  intro t ht
  obtain ⟨k, hk, rfl⟩ := List.getElem_of_mem ht
  obtain ⟨c, hc, _⟩ := h.accepts.get hk (h.accepts.length_eq ▸ hk)
  exact (List.getElem?_eq_some_iff.mp hc).1

section Steps

variable {w : World} {l : Ledger} {catalog : Catalog} {step : Step}

end Steps

/-! ## 3. Plans -/

end Quarry
