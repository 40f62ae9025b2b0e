import Quarry.Proofs.Script.Roundtrip
import Quarry.Proofs.Script.Shape

/-!
# Signs of numbers

A lexeme has no sign. A minus in front of a number gives the opposite number, and so does each further one,
however many signs and parentheses stand between them. The least integer, which has no opposite, never
comes up.
-/

namespace Quarry.Script

open Scan (Leaves)

/-! ## 1. Definitions -/

/-- The integer and its opposite have room in 64 bits. -/
def HasOpposite (n : Int64) : Prop := -(2 ^ 63 - 1) ≤ n.toInt ∧ n.toInt ≤ 2 ^ 63 - 1

/-- All integers within the expression have opposites. -/
def Expr.SignsFit (e : Expr) : Prop := ∀ n, .literal (.integer n) ∈ e.parts → HasOpposite n

/-- Whatever is read as an expression from what is left of a script, no sign overflows. -/
structure Scan.SignsFit (s : Scan) : Prop where
  /-- Behind a minus stands a primary expression. If it is read as an integer, with signs and parentheses
  of its own, the integer is not the least one and the whole is its exact opposite. -/
  opposite : ∀ bound l s₁ e s', s = .lexeme l s₁ → l.token = .minus →
    Parser.primary (bound + 1) s = .ok (e, s') →
      ∃ operand, Parser.primary bound s₁ = .ok (operand, s') ∧ e = Parser.negate l.position operand ∧
        ∀ k, operand = .literal (.integer k) → k ≠ Int64.minValue ∧ e = .literal (.integer (-k)) ∧
          (-k).toInt = -k.toInt
  primary : ∀ bound e s', Parser.primary bound s = .ok (e, s') → e.SignsFit
  expression : ∀ bound e s', Parser.expression bound s = .ok (e, s') → e.SignsFit

/-! ## 2. Integers with opposites -/

theorem hasOpposite_iff {n : Int64} : HasOpposite n ↔ n ≠ Int64.minValue := by
  have hle := Int64.minValue_le_toInt n
  have hge := Int64.toInt_le n
  have hmin : Int64.minValue.toInt = -2 ^ 63 := rfl
  have hmax : Int64.maxValue.toInt = 2 ^ 63 - 1 := rfl
  rw [← Int64.toInt_inj.ne]
  unfold HasOpposite
  omega

mutual

/-- What is within an expression in normal form is in normal form. -/
theorem Expr.normal_of_mem_parts : (e : Expr) → e.Normal → ∀ x ∈ e.parts, x.Normal
  | .literal _, h | .column _ _, h | .pick _ _, h => List.forall_mem_singleton.mpr h
  | .simpleCase subject b _, h => List.forall_mem_cons.mpr
      ⟨h, List.forall_mem_append.mpr ⟨subject.normal_of_mem_parts h.1, b.normal_of_mem_parts h.2.2⟩⟩
  | .searchedCase b _, h => List.forall_mem_cons.mpr ⟨h, b.normal_of_mem_parts h.2⟩
  | .binary _ left right _, h => List.forall_mem_cons.mpr
      ⟨h, List.forall_mem_append.mpr ⟨left.normal_of_mem_parts h.1, right.normal_of_mem_parts h.2⟩⟩
  | .not e, h => List.forall_mem_cons.mpr ⟨h, e.normal_of_mem_parts h⟩

theorem Branches.normal_of_mem_parts : (b : Branches) → b.Normal → ∀ x ∈ b.parts, x.Normal
  | .done, _ => nofun
  | .otherwise result, h => result.normal_of_mem_parts h
  | .branch condition result b, h => List.forall_mem_append.mpr ⟨List.forall_mem_append.mpr
      ⟨condition.normal_of_mem_parts h.1, result.normal_of_mem_parts h.2.1⟩, b.normal_of_mem_parts h.2.2⟩

end

theorem Expr.Normal.signsFit {e : Expr} (h : e.Normal) : e.SignsFit := fun n hn => by
  have hnormal : NormalLiteral (.integer n) := e.normal_of_mem_parts h _ hn
  exact hasOpposite_iff.mpr hnormal

/-! ## 3. Readers -/

variable {source : String} {ts : List Lexeme} {s s' : Scan} {e : Expr}

-- What is spelled by lexemes of a script is in normal form, whatever follows them.
theorem normal_of_leaves {us : List Lexeme} {p : Phrase} (h : (scan source).Leaves s ts)
    (h' : s.Leaves s' us) (hp : p.Spelled us) : p.Normal := by
  have hcut := (scanned_scanFrom Position.start source.toList).isCut (h.trans h').eq
  exact hp.normal fun l hl => (hcut l (List.mem_append_right ts hl)).written

theorem normal_of_primary (h : (scan source).Leaves s ts) {bound : Nat}
    (hread : Parser.primary bound s = .ok (e, s')) : e.Normal := by
  obtain ⟨us, hleaves, hspelled⟩ := Parser.primary_sound bound h.settled (Nat.lt_succ_self _) hread
  exact normal_of_leaves h hleaves hspelled

theorem normal_of_expression (h : (scan source).Leaves s ts) {bound : Nat}
    (hread : Parser.expression bound s = .ok (e, s')) : e.Normal := by
  obtain ⟨us, hleaves, hspelled⟩ := Parser.expression_sound bound h.settled (Nat.lt_succ_self _) hread
  exact normal_of_leaves h hleaves hspelled

theorem Scan.Leaves.signsFit (h : (scan source).Leaves s ts) : s.SignsFit where
  opposite bound l s₁ e s' hs hl hread := by
    subst hs
    rw [Parser.primary_succ, Parser.place_bind, Parser.peek_bind, Scan.token, hl] at hread
    obtain ⟨l', s₂, _, hminus, hread⟩ := Parser.advance_bind_eq_ok hread hl (by decide)
    obtain ⟨operand, s₃, hoperand, hread⟩ := Parser.bind_eq_ok.mp hread
    cases hminus.eq
    cases hread
    refine ⟨operand, hoperand, rfl, ?_⟩
    rintro k rfl
    have hk : k ≠ Int64.minValue := normal_of_primary (h.trans hminus) hoperand
    exact ⟨hk, rfl, toInt_neg_of_ne_minValue hk⟩
  primary _ _ _ hread := (normal_of_primary h hread).signsFit
  expression _ _ _ hread := (normal_of_expression h hread).signsFit

/-! ## 4. Programs -/

theorem Select.Normal.expressions {q : Select Unit} (h : q.Normal) : ∀ e ∈ q.expressions, e.Normal := by
  cases q
  obtain ⟨_, hprojections, _, hfilter, _, _⟩ := h
  refine List.forall_mem_append.mpr ⟨fun e he => ?_, fun e he => hfilter e (Option.mem_toList.mp he)⟩
  obtain ⟨p, hp, hexpr⟩ := List.mem_filterMap.mp he
  cases p with
  | star _ => cases hexpr
  | item e' label =>
    cases hexpr
    exact hprojections _ hp

mutual

theorem Select.normal_of_mem_selects : (q : Select Unit) → q.Normal → ∀ q' ∈ q.selects, q'.Normal
  | ⟨_, source, _, _, _, _⟩, h => by
    rw [Select.selects]
    exact List.forall_mem_cons.mpr ⟨h, source.normal_of_mem_selects h.2.2.1⟩

theorem Source.normal_of_mem_selects :
    (source : Source Unit) → source.Normal → ∀ q' ∈ source.selects, q'.Normal
  | .nothing, _ | .buffer _ _, _ | .download _ _ _ _, _ => nofun
  | .downloadEach _ urls _ _, h => urls.normal_of_mem_selects h.1

end

theorem Statement.normal_of_mem_selects (st : Statement Unit) (h : st.Normal) :
    ∀ q ∈ st.selects, q.Normal := by
  cases st with
  | createBuffer _ _ _ => nofun
  | insert _ _ query _ => exact query.normal_of_mem_selects h.2.2
  | select query => exact query.normal_of_mem_selects h

/-- Wherever a reader of expressions starts in a script, and whether or not the script is in the language,
no sign overflows. All integers of a script that is in the language have opposites. -/
theorem signs_fit (source : String) :
    (∀ ts s, (scan source).Leaves s ts → s.SignsFit) ∧
      ∀ p, parseProgram source = .ok p → ∀ st ∈ p, ∀ q ∈ st.selects, ∀ e ∈ q.expressions,
        e.SignsFit := by
  refine ⟨fun ts s h => h.signsFit, fun p hparse st hst q hq e he => ?_⟩
  have hnormal := normal_of_parseProgram hparse st hst
  exact ((st.normal_of_mem_selects hnormal q hq).expressions e he).signsFit

/-- Three signs in front of the greatest integer, the script not being in the language behind it. -/
theorem signs_fit_parentheses :
    let s : Scan := (Scan.stop ⟨1, 39⟩).prepend [⟨.minus, ⟨1, 8⟩⟩, ⟨.minus, ⟨1, 10⟩⟩, ⟨.lparen, ⟨1, 11⟩⟩,
      ⟨.minus, ⟨1, 12⟩⟩, ⟨.integer 9223372036854775807, ⟨1, 13⟩⟩, ⟨.rparen, ⟨1, 32⟩⟩, ⟨.where, ⟨1, 34⟩⟩]
    scan "select - -(-9223372036854775807) where" = .lexeme ⟨.select, ⟨1, 1⟩⟩ s ∧ s.SignsFit ∧
      (Parser.primary 9 s).map Prod.fst = .ok (.literal (.integer (-9223372036854775807))) := by
  intro s
  have hscan : scan "select - -(-9223372036854775807) where" = .lexeme ⟨.select, ⟨1, 1⟩⟩ s := by
    decide +kernel
  exact ⟨hscan, (signs_fit _).1 [⟨.select, ⟨1, 1⟩⟩] s ⟨hscan, nofun⟩, by decide +kernel⟩

end Quarry.Script
