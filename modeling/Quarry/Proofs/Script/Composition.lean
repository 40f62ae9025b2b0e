import Quarry.Proofs.Script.AcceptanceStatements
import Quarry.Proofs.Script.Lexing
import Quarry.Proofs.Script.ReadingStatements

/-!
# Scripts in parts

A script is in the language exactly if its lexemes spell a program. Two scripts with a line break between
them make one, with the statements of the first and then those of the second: no statement goes on with
lexemes of the next script, although none needs a semicolon.
-/

namespace Quarry.Script

open Scan (Leaves)

/-! ## 1. The language -/

theorem settle_eq_ok {s s' : Scan} : Parser.settle s = .ok s' ↔ s.Settled ∧ s = s' := by
  cases s with
  | fault e => exact ⟨nofun, fun h => absurd rfl (h.1 e)⟩
  | stop p | lexeme l rest =>
    constructor
    · intro h
      cases h
      exact ⟨nofun, rfl⟩
    · rintro ⟨_, rfl⟩
      rfl

/-- The program that the lexemes of a scan are read as, with room for all of them. -/
def Scan.program (s : Scan) : Except SyntaxError (Program Unit) := do
  let start ← Parser.settle s
  let bound := start.size + 1
  return (← (Parser.program bound bound).run start).1

theorem parseProgram_eq (source : String) : parseProgram source = (scan source).program := rfl

theorem Scan.program_eq_ok {s : Scan} {p : Program Unit} : s.program = .ok p ↔
    s.Settled ∧ ∃ s', Parser.program (s.size + 1) (s.size + 1) s = .ok (p, s') := by
  constructor
  · intro h
    obtain ⟨s, hsettle, h⟩ := Except.bind_eq_ok.mp h
    obtain ⟨hsettled, rfl⟩ := settle_eq_ok.mp hsettle
    obtain ⟨⟨p, s'⟩, hread, h⟩ := Except.bind_eq_ok.mp h
    cases h
    exact ⟨hsettled, s', hread⟩
  · rintro ⟨hsettled, s', hread⟩
    refine Except.bind_eq_ok.mpr ⟨_, settle_eq_ok.mpr ⟨hsettled, rfl⟩, ?_⟩
    exact Except.bind_eq_ok.mpr ⟨_, hread, rfl⟩

-- Lexemes up to the end of a text are read as the program that they spell.
theorem Program.Spelled.program_eq {p : Program Unit} {ts : List Lexeme} (h : Program.Spelled p ts)
    (stop : Position) : ((Scan.stop stop).prepend ts).program = .ok p := by
  have hstop := Scan.settled_stop stop
  have hsize := Scan.size_prepend (.stop stop) ts
  simp only [Scan.size] at hsize
  refine Scan.program_eq_ok.mpr ⟨hstop.prepend ts, .stop stop, ?_⟩
  exact Parser.program_accepts h (by omega) (by omega) _ hstop rfl

-- Behind the last lexeme of a program stands the end of the script.
theorem exists_stop {s : Scan} {source : String} {ts : List Lexeme}
    (h : (scan source).Leaves s ts) (heof : s.token = .eof) : HasLexemes source ts := by
  cases s with
  | stop p => exact ⟨p, h.eq⟩
  | fault e => exact absurd rfl (h.settled e)
  | lexeme l rest =>
    have hscan : scan source = rest.prepend (ts ++ [l]) := by
      rw [h.eq, Scan.prepend_append]
      rfl
    have hcut := (scanned_scanFrom Position.start source.toList).isCut hscan l (by simp)
    exact absurd heof hcut.ne_eof

/-- The script is read as the program exactly if its lexemes spell it. -/
theorem parseProgram_eq_ok_iff {source : String} {p : Program Unit} :
    parseProgram source = .ok p ↔ ∃ ts, HasLexemes source ts ∧ Program.Spelled p ts := by
  rw [parseProgram_eq]
  constructor
  · intro h
    obtain ⟨hsettled, s, hread⟩ := Scan.program_eq_ok.mp h
    obtain ⟨ts, hleaves, heof, hp⟩ :=
      Parser.program_sound hsettled (Nat.lt_succ_self _) (Nat.lt_succ_self _) hread
    exact ⟨ts, exists_stop hleaves heof, hp⟩
  · rintro ⟨ts, ⟨stop, hscan⟩, hp⟩
    rw [hscan]
    exact hp.program_eq stop

/-! ## 2. Two scripts -/

/-- Two scripts with a text between them are read as the statements of one and then those of the other. -/
structure Joins (first between second : String) (p q : Program Unit) : Prop where
  /-- The statements of the whole are those of both parts. -/
  parses : parseProgram (first ++ between ++ second) = .ok (p ++ q)
  /-- The lexemes of the first script spell its statements and no others, and none of those behind it is
  part of them. -/
  apart : ∃ ts ts' us, HasLexemes first ts ∧
    HasLexemes (first ++ between ++ second) (ts ++ (ts' ++ us)) ∧
    Program.Spelled p ts ∧ Program.Spelled [] ts' ∧ Program.Spelled q us

theorem Joins.of_lexemes {first between second : String} {p q : Program Unit}
    {ts ts' us : List Lexeme} (hfirst : HasLexemes first ts)
    (hwhole : HasLexemes (first ++ between ++ second) (ts ++ (ts' ++ us)))
    (hp : Program.Spelled p ts) (hbetween : Program.Spelled [] ts') (hq : Program.Spelled q us) :
    Joins first between second p q := by
  refine ⟨parseProgram_eq_ok_iff.mpr ⟨_, hwhole, ?_⟩, ts, ts', us, hfirst, hwhole, hp, hbetween, hq⟩
  exact hp.append (hbetween.append hq)

-- A line with a semicolon between two scripts.
theorem HasLexemes.append_semicolon {first second : String} {ts us : List Lexeme}
    (h : HasLexemes first ts) (h' : HasLexemes second us) : ∃ l : Lexeme, l.token = .semicolon ∧
      HasLexemes (first ++ "\n;\n" ++ second)
        (ts ++ ([l] ++ us.map (Lexeme.relocate (Position.lower (linesOf first + 1))))) := by
  have hwhole := (h.append hasLexemes_semicolon).append h'
  have hlines : linesOf (first ++ "\n" ++ ";") = linesOf first + 1 := linesOf_append first ";"
  have hsource : first ++ "\n;\n" ++ second = first ++ "\n" ++ ";" ++ "\n" ++ second := by
    simp only [String.append_assoc]
    rfl
  rw [hlines, List.append_assoc] at hwhole
  rw [hsource]
  exact ⟨_, rfl, hwhole⟩

/-- Scripts compose. Behind a line break, or a line with a semicolon, a script is read as it is alone, with
its lexemes further down. -/
theorem joins_of_parseProgram {first second : String} {p q : Program Unit}
    (hfirst : parseProgram first = .ok p) (hsecond : parseProgram second = .ok q) :
    Joins first "\n" second p (q.relocate (Position.lower (first.toList.count '\n' + 1))) ∧
      Joins first "\n;\n" second p
        (q.relocate (Position.lower (first.toList.count '\n' + 2))) := by
  obtain ⟨ts, hts, hp⟩ := parseProgram_eq_ok_iff.mp hfirst
  obtain ⟨us, hus, hq⟩ := parseProgram_eq_ok_iff.mp hsecond
  obtain ⟨l, hl, hwhole⟩ := hts.append_semicolon hus
  have hjoined : HasLexemes (first ++ "\n" ++ second)
      (ts ++ ([] ++ us.map (Lexeme.relocate (Position.lower (linesOf first))))) := hts.append hus
  exact ⟨.of_lexemes hts hjoined hp .nil hq.relocate,
    .of_lexemes hts hwhole hp (.semicolon hl .nil) hq.relocate⟩

theorem joins_of_parseProgram_open_ends :
    let p := [.insert "a" none
      ⟨[.item (.literal (.integer 1)) none], .nothing, none, [], ⟨2, 1⟩, ()⟩ ⟨1, 1⟩]
    let q := fun line => [.select
      ⟨[.item (.column "b" ⟨line, 8⟩) none], .buffer "c" ⟨line, 15⟩, none, [], ⟨line, 1⟩, ()⟩]
    Joins "insert into a\nselect 1 -- one" "\n" "select b from c" p (q 3) ∧
      Joins "insert into a\nselect 1 -- one" "\n;\n" "select b from c" p (q 4) :=
  joins_of_parseProgram (q := [.select
    ⟨[.item (.column "b" ⟨1, 8⟩) none], .buffer "c" ⟨1, 15⟩, none, [], ⟨1, 1⟩, ()⟩])
    (by decide +kernel) (by decide +kernel)

end Quarry.Script
