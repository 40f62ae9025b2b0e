import Quarry.Proofs.Script.Composition
import Quarry.Proofs.Script.NormalForm
import Quarry.Proofs.Script.PrintingStatements

/-!
# Printing and reading

The reader inverts the printer: the printed tokens of a program in normal form are read as the program, up
to the places of its parts. What a script is read as is in normal form, so that a printed script is read
as the script was.
-/

namespace Quarry.Script

/-- What is printed of the program is read as the program, up to the places of its parts. -/
structure Program.Rereads (p : Program Unit) : Prop where
  /-- Each printed token is one that a script can have. -/
  written : ∀ t ∈ p.print, t.Written
  /-- Lexemes with the printed tokens are read as the program, wherever they stand. -/
  reads : ∀ (ts : List Lexeme) (stop : Position), ts.map Lexeme.token = p.print →
    ∃ p', ((Scan.stop stop).prepend ts).program = .ok p' ∧ p'.unplaced = p.unplaced
  /-- So is each script that has the printed tokens. -/
  parses : ∀ (source : String) (ts : List Lexeme), HasLexemes source ts →
    ts.map Lexeme.token = p.print → ∃ p', parseProgram source = .ok p' ∧ p'.unplaced = p.unplaced

theorem Program.Normal.rereads {p : Program Unit} (h : p.Normal) : p.Rereads where
  written := written_program h
  reads ts stop htokens := by
    obtain ⟨p', hspelled, hplaces⟩ := prints_program h ts htokens
    exact ⟨p', hspelled.program_eq stop, hplaces⟩
  parses source ts hts htokens := by
    obtain ⟨p', hspelled, hplaces⟩ := prints_program h ts htokens
    exact ⟨p', parseProgram_eq_ok_iff.mpr ⟨ts, hts, hspelled⟩, hplaces⟩

theorem normal_of_parseProgram {source : String} {p : Program Unit} (h : parseProgram source = .ok p) :
    p.Normal := by
  obtain ⟨ts, hts, hp⟩ := parseProgram_eq_ok_iff.mp h
  exact hp.normal fun l hmem => (hts.isCut l hmem).written

/-- The reader inverts the printer on programs in normal form, and each script that it reads gives one. -/
theorem parser_inverts_printer :
    (∀ p : Program Unit, p.Normal → p.Rereads) ∧
      ∀ (source : String) (p : Program Unit), parseProgram source = .ok p → p.Normal ∧ p.Rereads := by
  refine ⟨fun p h => h.rereads, fun source p h => ?_⟩
  have hnormal := normal_of_parseProgram h
  exact ⟨hnormal, hnormal.rereads⟩

theorem parser_inverts_printer_parentheses :
    let p : Program Unit := [.select
      ⟨[.item (.binary .subtract (.literal (.integer 1))
        (.binary .subtract (.literal (.integer 2)) (.literal (.integer (-3))) ⟨0, 0⟩) ⟨0, 0⟩) none],
        .nothing, none, [], ⟨0, 0⟩, ()⟩]
    let q : Program Unit := [.select
      ⟨[.item (.binary .multiply (.binary .or (.column "a" ⟨1, 10⟩) (.column "b" ⟨1, 15⟩) ⟨1, 12⟩)
        (.column "c" ⟨1, 21⟩) ⟨1, 19⟩) none],
        .download .page "u" [.js, .thread 2 ⟨1, 55⟩] ⟨1, 28⟩, none, [], ⟨1, 1⟩, ()⟩]
    (p.Normal ∧ ∃ p', parseProgram "select 1 - (2 - -3)" = .ok p' ∧ p'.unplaced = p.unplaced) ∧
      parseProgram "select ((a or b)) * c from download page 'u' with js, thread 2" = .ok q ∧
        q.Normal ∧ q.Rereads := by
  intro p q
  have hliterals : NormalLiteral (.integer 1) ∧ NormalLiteral (.integer 2) ∧
      NormalLiteral (.integer (-3)) := by
    unfold NormalLiteral
    decide
  have hp : p.Normal := List.forall_mem_singleton.mpr
    ⟨nofun, List.forall_mem_singleton.mpr hliterals, trivial, nofun, nofun, nofun⟩
  have hq : parseProgram "select ((a or b)) * c from download page 'u' with js, thread 2" = .ok q := by
    decide +kernel
  refine ⟨⟨hp, ?_⟩, hq, parser_inverts_printer.2 _ _ hq⟩
  exact (parser_inverts_printer.1 p hp).parses _
    [⟨.select, ⟨1, 1⟩⟩, ⟨.integer 1, ⟨1, 8⟩⟩, ⟨.minus, ⟨1, 10⟩⟩, ⟨.lparen, ⟨1, 12⟩⟩,
      ⟨.integer 2, ⟨1, 13⟩⟩, ⟨.minus, ⟨1, 15⟩⟩, ⟨.minus, ⟨1, 17⟩⟩, ⟨.integer 3, ⟨1, 18⟩⟩,
      ⟨.rparen, ⟨1, 19⟩⟩] ⟨⟨1, 20⟩, by decide +kernel⟩ (by decide +kernel)

end Quarry.Script
