import Mathlib.Data.List.TakeWhile
import Quarry.Number.Reading
import Quarry.Pattern.Template

/-!
# Templates with numbers

What a template means if the digits after a dollar sign are always a number of their own. Braces are put
around such numbers before a template is read. That keeps the meaning of a template exactly if it has no
number behind an opening brace.
-/

namespace Quarry.Template

/-! ## 1. Meaning -/

/-- What a dollar sign begins where digits are a number, whatever comes after them. All else is as for
`dollar`. -/
def numbered (rest : List Char) : TemplatePart × List Char :=
  match rest.takeWhile Char.isDigit with
  | [] => dollar rest
  | digits => (.group (.number (Number.ofDigits digits)), rest.dropWhile Char.isDigit)

/-- Reads a template by what a dollar sign begins. -/
def readFrom (sign : List Char → TemplatePart × List Char) : Nat → List Char → List TemplatePart
  | 0, _ => []
  | _ + 1, [] => []
  | bound + 1, '$' :: rest => (sign rest).1 :: readFrom sign bound (sign rest).2
  | bound + 1, c :: rest => .char c :: readFrom sign bound rest

/-- Reads a template. Each part takes a character, so that the bound is never reached. -/
def read (sign : List Char → TemplatePart × List Char) (template : List Char) : List TemplatePart :=
  readFrom sign template.length template

/-- The parts of a template in which digits after a dollar sign are a number of their own. -/
def meaning (template : List Char) : List TemplatePart := read numbered template

/-- A text in which no dollar sign takes digits: each one stands before a second one, which it takes, or
before something else that is no digit. -/
inductive Numberless : List Char → Prop
  | nil : Numberless []
  | plain {c : Char} {cs : List Char} (hc : c ≠ '$') (hcs : Numberless cs) : Numberless (c :: cs)
  | pair {cs : List Char} (hcs : Numberless cs) : Numberless ('$' :: '$' :: cs)
  | lone {cs : List Char} (hdollar : cs.head? ≠ some '$') (hdigit : cs.takeWhile Char.isDigit = [])
    (hcs : Numberless cs) : Numberless ('$' :: cs)

/-- A template without a number behind an opening brace, up to the closing one or to the end if there is
none. -/
inductive Clear : List Char → Prop
  | nil : Clear []
  | plain {c : Char} {cs : List Char} (hc : c ≠ '$') (hcs : Clear cs) : Clear (c :: cs)
  | sign {cs : List Char}
    (hbrace : ∀ inner, cs = '{' :: inner → Numberless (inner.takeWhile (· != '}')))
    (hcs : Clear (numbered cs).2) : Clear ('$' :: cs)

/-! ## 2. Reading part by part -/

section Reading

variable {sign : List Char → TemplatePart × List Char}

theorem length_dollar_le (rest : List Char) : (dollar rest).2.length ≤ rest.length := by
  unfold dollar
  split
  next => exact Nat.le_succ _
  next inner =>
    split
    next c behind hdrop =>
      have hle := (List.dropWhile_suffix (l := inner) (· != '}')).length_le
      rw [hdrop] at hle
      simp only [List.length_cons] at hle ⊢
      omega
    next => exact Nat.le_refl _
  next =>
    split
    next => exact Nat.le_refl _
    next => exact (List.dropWhile_suffix _).length_le

theorem length_numbered_le (rest : List Char) : (numbered rest).2.length ≤ rest.length := by
  unfold numbered
  split
  next => exact length_dollar_le rest
  next => exact (List.dropWhile_suffix _).length_le

-- A bound that is large enough does not matter.
theorem readFrom_eq (hsign : ∀ rest, (sign rest).2.length ≤ rest.length) {n m : Nat}
    {cs : List Char} (hn : cs.length ≤ n) (hm : cs.length ≤ m) :
    readFrom sign n cs = readFrom sign m cs := by
  induction n generalizing m cs with
  | zero =>
    rw [List.length_eq_zero_iff.mp (Nat.le_zero.mp hn)]
    cases m <;> rfl
  | succ n ih =>
    cases cs with
    | nil => cases m <;> rfl
    | cons c cs =>
      cases m with
      | zero => cases hm
      | succ m =>
        simp only [List.length_cons, Nat.add_le_add_iff_right] at hn hm
        by_cases hc : c = '$'
        · subst hc
          simp only [readFrom]
          rw [ih ((hsign cs).trans hn) ((hsign cs).trans hm)]
        · simp only [readFrom]
          rw [ih hn hm]

theorem read_plain {c : Char} (hc : c ≠ '$') (cs : List Char) :
    read sign (c :: cs) = .char c :: read sign cs := by
  show readFrom sign (cs.length + 1) (c :: cs) = _
  simp only [readFrom]
  rfl

theorem read_sign (hsign : ∀ rest, (sign rest).2.length ≤ rest.length) (cs : List Char) :
    read sign ('$' :: cs) = (sign cs).1 :: read sign (sign cs).2 := by
  show readFrom sign (cs.length + 1) ('$' :: cs) = _
  simp only [readFrom]
  rw [readFrom_eq hsign (hsign cs) (Nat.le_refl _)]
  rfl

-- The parts of a template are what is read with `dollar`.
theorem parts_eq_read (template : List Char) : parts template = read dollar template := by
  have hfrom : ∀ bound cs, partsFrom bound cs = readFrom dollar bound cs := by
    intro bound
    induction bound with
    | zero => exact fun _ => rfl
    | succ bound ih =>
      intro cs
      cases cs with
      | nil => rfl
      | cons c cs =>
        by_cases hc : c = '$'
        · subst hc
          simp only [partsFrom, readFrom, ih]
        · simp only [partsFrom, readFrom, ih]
  exact hfrom template.length template

end Reading

/-! ## 3. What a dollar sign begins -/

section Signs

variable {name digits inner cs : List Char}

theorem takeWhile_until (h : '}' ∉ name) : (name ++ '}' :: cs).takeWhile (· != '}') = name ∧
    (name ++ '}' :: cs).dropWhile (· != '}') = '}' :: cs := by
  have hname : ∀ c ∈ name, (c != '}') = true := fun c hc => bne_iff_ne.mpr fun heq => h (heq ▸ hc)
  rw [List.takeWhile_append_of_pos hname, List.dropWhile_append_of_pos hname]
  simp

-- Braces hold the name of a group.
theorem dollar_braced (h : '}' ∉ name) :
    dollar ('{' :: (name ++ '}' :: cs)) = (.group (groupName name), cs) := by
  obtain ⟨htake, hdrop⟩ : (name ++ '}' :: cs).takeWhile (· != '}') = name ∧
      (name ++ '}' :: cs).dropWhile (· != '}') = '}' :: cs := takeWhile_until h
  simp only [dollar, htake, hdrop]

-- A brace that is not closed is a character like others.
theorem dollar_unclosed (h : '}' ∉ inner) : dollar ('{' :: inner) = (.char '$', '{' :: inner) := by
  have hdrop : inner.dropWhile (· != '}') = [] :=
    List.dropWhile_eq_nil_iff.mpr fun c hc => bne_iff_ne.mpr fun heq => h (heq ▸ hc)
  simp only [dollar, hdrop]

-- Elsewhere a name is as long as it can be.
theorem dollar_named (hdollar : cs.head? ≠ some '$') (hbrace : cs.head? ≠ some '{') :
    dollar cs = match cs.takeWhile isNameChar with
      | [] => (.char '$', cs)
      | name => (.group (groupName name), cs.dropWhile isNameChar) := by
  unfold dollar
  split
  next => exact absurd rfl hdollar
  next => exact absurd rfl hbrace
  next => rfl

theorem numbered_of_no_digits (h : cs.takeWhile Char.isDigit = []) : numbered cs = dollar cs := by
  simp only [numbered, h]

-- Digits spell a number.
theorem groupName_of_digits (hne : digits ≠ []) (h : ∀ c ∈ digits, c.isDigit) :
    groupName digits = .number (Number.ofDigits digits) := by
  obtain ⟨d, rest, rfl⟩ := List.exists_cons_of_ne_nil hne
  have hplus : d ≠ '+' := by
    rintro rfl
    have hdigit := h '+' List.mem_cons_self
    contradiction
  have hhead : ¬(d :: rest).head? = some '+' := fun heq => hplus (Option.some.inj heq)
  have hall : (d :: rest).all Char.isDigit = true := List.all_eq_true.mpr h
  unfold groupName
  simp only [if_neg hhead, hall, List.isEmpty_cons, Bool.not_false, Bool.and_self]
  rfl

end Signs

/-! ## 4. Braces around numbers -/

section Braces

variable {n : Nat} {c : Char} {cs : List Char}

theorem braceFrom_plain (hc : c ≠ '$') : braceFrom (n + 1) (c :: cs) = c :: braceFrom n cs := by
  rw [braceFrom]
  · exact fun _ heq _ => hc heq
  · exact hc

theorem braceFrom_sign (h : cs.head? ≠ some '$') :
    braceFrom (n + 1) ('$' :: cs) = match cs.takeWhile Char.isDigit with
      | [] => '$' :: braceFrom n cs
      | digits => '$' :: '{' :: digits ++ '}' :: braceFrom n (cs.dropWhile Char.isDigit) := by
  have hpair : ∀ rest, cs = '$' :: rest → False := by
    rintro rest rfl
    exact h rfl
  exact braceFrom.eq_4 n cs hpair

-- A bound that is large enough does not matter.
theorem braceFrom_eq {n m : Nat} (hn : cs.length ≤ n) (hm : cs.length ≤ m) :
    braceFrom n cs = braceFrom m cs := by
  induction n generalizing m cs with
  | zero =>
    rw [List.length_eq_zero_iff.mp (Nat.le_zero.mp hn)]
    cases m <;> rfl
  | succ n ih =>
    cases cs with
    | nil => cases m <;> rfl
    | cons c cs =>
      cases m with
      | zero => cases hm
      | succ m =>
        simp only [List.length_cons, Nat.add_le_add_iff_right] at hn hm
        have hrest : ∀ rest : List Char, rest.length ≤ cs.length →
            braceFrom n rest = braceFrom m rest :=
          fun rest hle => ih (hle.trans hn) (hle.trans hm)
        by_cases hc : c = '$'
        · subst hc
          by_cases hpair : cs.head? = some '$'
          · obtain ⟨rest, rfl⟩ := List.head?_eq_some_iff.mp hpair
            simp only [braceFrom]
            rw [hrest rest (Nat.le_succ _)]
          · rw [braceFrom_sign hpair, braceFrom_sign hpair, hrest cs (Nat.le_refl _),
              hrest _ (List.dropWhile_suffix _).length_le]
        · rw [braceFrom_plain hc, braceFrom_plain hc, hrest cs (Nat.le_refl _)]

theorem brace_plain (hc : c ≠ '$') : brace (c :: cs) = c :: brace cs := braceFrom_plain hc

theorem brace_pair : brace ('$' :: '$' :: cs) = '$' :: '$' :: brace cs := by
  show '$' :: '$' :: braceFrom (cs.length + 1) cs = _
  rw [braceFrom_eq (Nat.le_succ _) (Nat.le_refl _)]
  rfl

theorem brace_lone (hdollar : cs.head? ≠ some '$') (hdigit : cs.takeWhile Char.isDigit = []) :
    brace ('$' :: cs) = '$' :: brace cs := by
  show braceFrom (cs.length + 1) ('$' :: cs) = _
  rw [braceFrom_sign hdollar, hdigit]
  rfl

theorem brace_number (h : cs.takeWhile Char.isDigit ≠ []) :
    brace ('$' :: cs) = '$' :: '{' :: (cs.takeWhile Char.isDigit ++
      '}' :: brace (cs.dropWhile Char.isDigit)) := by
  have hdollar : cs.head? ≠ some '$' := by
    intro heq
    obtain ⟨rest, rfl⟩ := List.head?_eq_some_iff.mp heq
    exact h rfl
  have hbound : (cs.dropWhile Char.isDigit).length ≤ cs.length := (List.dropWhile_suffix _).length_le
  show braceFrom (cs.length + 1) ('$' :: cs) = _
  rw [braceFrom_sign hdollar, braceFrom_eq hbound (Nat.le_refl _)]
  split
  next hnone => exact absurd hnone h
  next => rfl

-- The first character decides whether there are digits in front.
theorem takeWhile_cons_eq_nil {p : Char → Bool} (h : (c :: cs).takeWhile p = []) (rest : List Char) :
    (c :: rest).takeWhile p = [] := by
  rw [List.takeWhile_cons] at h
  split at h
  · cases h
  next hc => exact List.takeWhile_cons_of_neg hc

-- A text without numbers stays as it is in front of what cannot add to a dollar sign at its end.
theorem brace_numberless {inner : List Char} (h : Numberless inner) (hdollar : cs.head? ≠ some '$')
    (hdigit : cs.takeWhile Char.isDigit = []) : brace (inner ++ cs) = inner ++ brace cs := by
  induction h with
  | nil => rfl
  | plain hc _ ih => rw [List.cons_append, brace_plain hc, ih, List.cons_append]
  | pair _ ih => rw [List.cons_append, List.cons_append, brace_pair, ih]; rfl
  | @lone inner hinner hnone _ ih =>
    have hhead : (inner ++ cs).head? ≠ some '$' := by
      cases inner with
      | nil => exact hdollar
      | cons c inner => exact hinner
    have htake : (inner ++ cs).takeWhile Char.isDigit = [] := by
      cases inner with
      | nil => exact hdigit
      | cons c inner => exact takeWhile_cons_eq_nil hnone _
    rw [List.cons_append, brace_lone hhead htake, ih, List.cons_append]

-- Where a text begins is not changed.
theorem head?_brace : (brace cs).head? = cs.head? := by
  cases cs with
  | nil => rfl
  | cons c cs =>
    by_cases hc : c = '$'
    · subst hc
      by_cases hpair : cs.head? = some '$'
      · obtain ⟨rest, rfl⟩ := List.head?_eq_some_iff.mp hpair
        rfl
      · show (braceFrom (cs.length + 1) ('$' :: cs)).head? = _
        rw [braceFrom_sign hpair]
        split <;> rfl
    · rw [brace_plain hc]
      rfl

-- An opening brace keeps what is behind it, if there is no number up to the closing one.
theorem dollar_brace_open {inner : List Char} (h : Numberless (inner.takeWhile (· != '}'))) :
    dollar ('{' :: brace inner) =
      ((dollar ('{' :: inner)).1, brace (dollar ('{' :: inner)).2) := by
  by_cases hclosed : '}' ∈ inner
  · obtain ⟨name, rest, rfl, hname⟩ := List.eq_append_cons_of_mem hclosed
    rw [(takeWhile_until hname).1] at h
    have hhead : ('}' :: rest).head? ≠ some '$' := by simp
    rw [brace_numberless h hhead rfl, brace_plain (by decide), dollar_braced hname,
      dollar_braced hname]
  · have hall : ∀ c ∈ inner, (c != '}') = true :=
      fun c hc => bne_iff_ne.mpr fun heq => hclosed (heq ▸ hc)
    rw [List.takeWhile_eq_self_iff.mpr hall] at h
    have hsame : brace inner = inner := by
      have hbrace : brace (inner ++ []) = inner ++ brace [] := brace_numberless h nofun rfl
      rwa [List.append_nil, show brace [] = [] from rfl, List.append_nil] at hbrace
    rw [hsame, dollar_unclosed hclosed]
    show _ = (TemplatePart.char '$', brace ('{' :: inner))
    rw [brace_plain (by decide), hsame]

-- Characters in front of the first dollar sign stay.
theorem takeWhile_brace {p : Char → Bool} (hp : p '$' = false) :
    (brace cs).takeWhile p = cs.takeWhile p ∧ (brace cs).dropWhile p = brace (cs.dropWhile p) := by
  induction cs with
  | nil => exact ⟨rfl, rfl⟩
  | cons c cs ih =>
    by_cases hc : p c
    · have hplain : c ≠ '$' := by
        rintro rfl
        rw [hp] at hc
        cases hc
      rw [brace_plain hplain, List.takeWhile_cons_of_pos hc, List.takeWhile_cons_of_pos hc,
        List.dropWhile_cons_of_pos hc, List.dropWhile_cons_of_pos hc, ih.1, ih.2]
      exact ⟨rfl, rfl⟩
    · -- The first character is the same, so that both stop at once.
      have hhead : (brace (c :: cs)).head? = some c := head?_brace
      obtain ⟨rest, hrest⟩ := List.head?_eq_some_iff.mp hhead
      rw [List.takeWhile_cons_of_neg hc, List.dropWhile_cons_of_neg hc, hrest,
        List.takeWhile_cons_of_neg hc, List.dropWhile_cons_of_neg hc]
      exact ⟨rfl, rfl⟩

-- A name ends in the same place.
theorem dollar_brace_name (hdollar : cs.head? ≠ some '$') (hbrace : cs.head? ≠ some '{') :
    dollar (brace cs) = ((dollar cs).1, brace (dollar cs).2) := by
  obtain ⟨htake, hdrop⟩ : (brace cs).takeWhile isNameChar = cs.takeWhile isNameChar ∧
      (brace cs).dropWhile isNameChar = brace (cs.dropWhile isNameChar) :=
    takeWhile_brace (by decide)
  rw [dollar_named hdollar hbrace, dollar_named (by rwa [head?_brace]) (by rwa [head?_brace]),
    htake, hdrop]
  cases cs.takeWhile isNameChar <;> rfl

-- With braces around its number a dollar sign begins what it is to mean.
theorem exists_brace_sign
    (hbrace : ∀ inner, cs = '{' :: inner → Numberless (inner.takeWhile (· != '}'))) :
    ∃ rest, brace ('$' :: cs) = '$' :: rest ∧
      dollar rest = ((numbered cs).1, brace (numbered cs).2) := by
  by_cases hdigits : cs.takeWhile Char.isDigit = []
  · rw [numbered_of_no_digits hdigits]
    by_cases hpair : cs.head? = some '$'
    · obtain ⟨rest, rfl⟩ := List.head?_eq_some_iff.mp hpair
      exact ⟨'$' :: brace rest, brace_pair, rfl⟩
    · refine ⟨brace cs, brace_lone hpair hdigits, ?_⟩
      by_cases hopen : cs.head? = some '{'
      · obtain ⟨inner, rfl⟩ := List.head?_eq_some_iff.mp hopen
        rw [brace_plain (by decide)]
        exact dollar_brace_open (hbrace inner rfl)
      · exact dollar_brace_name hpair hopen
  · -- The digits are cut off, and put into braces.
    have hall : ∀ d ∈ cs.takeWhile Char.isDigit, d.isDigit := fun d hd => List.mem_takeWhile_imp hd
    have hclosed : '}' ∉ cs.takeWhile Char.isDigit := by
      intro hmem
      have hdigit := hall '}' hmem
      contradiction
    have hnumbered : numbered cs = (.group (.number (Number.ofDigits (cs.takeWhile Char.isDigit))),
        cs.dropWhile Char.isDigit) := by
      unfold numbered
      split
      next hnone => exact absurd hnone hdigits
      next => rfl
    refine ⟨_, brace_number hdigits, ?_⟩
    rw [dollar_braced hclosed, groupName_of_digits hdigits hall, hnumbered]

end Braces

/-- What is read after the braces are put in is the meaning of the template, if it has no number behind an
opening brace. -/
theorem parts_brace {template : List Char} (h : Clear template) :
    parts (brace template) = meaning template := by
  rw [parts_eq_read]
  -- By induction on the template as it is read: at each sign the same part is read from both.
  induction h with
  | nil => rfl
  | plain hc _ ih => rw [brace_plain hc, read_plain hc, meaning, read_plain hc, ih]; rfl
  | @sign cs hbrace _ ih =>
    obtain ⟨rest, hrest, hdollar⟩ := exists_brace_sign hbrace
    rw [hrest, read_sign length_dollar_le, hdollar, meaning, read_sign length_numbered_le, ih]
    rfl

/-! ## 5. Numbers behind braces -/

section Behind

-- Digits in braces are cut off a text with a number in it.
theorem exists_braced_number (text : List Char) (h : ¬Numberless text) :
    ∃ front d rest, text = front ++ '$' :: d :: rest ∧ d.isDigit ∧ ∀ cs, ∃ digits behind,
      brace (text ++ cs) = front ++ '$' :: '{' :: (digits ++ '}' :: behind) ∧
        ∀ c ∈ digits, c.isDigit := by
  -- By induction on the text, where a dollar sign takes a second one at once.
  induction hlength : text.length using Nat.strong_induction_on generalizing text with
  | _ n ih =>
    subst hlength
    cases text with
    | nil => exact absurd .nil h
    | cons c text =>
      by_cases hc : c = '$'
      · subst hc
        by_cases hpair : text.head? = some '$'
        · obtain ⟨text, rfl⟩ := List.head?_eq_some_iff.mp hpair
          obtain ⟨front, d, rest, rfl, hd, hbrace⟩ := ih text.length
            (Nat.lt_succ_of_lt (Nat.lt_succ_self _)) text (fun hn => h (.pair hn)) rfl
          refine ⟨'$' :: '$' :: front, d, rest, rfl, hd, fun cs => ?_⟩
          obtain ⟨digits, behind, heq, hdigits⟩ := hbrace cs
          exact ⟨digits, behind, by rw [List.cons_append, List.cons_append, brace_pair, heq]; rfl, hdigits⟩
        · by_cases hdigits : text.takeWhile Char.isDigit = []
          · cases text with
            | nil => exact absurd (.lone nofun rfl .nil) h
            | cons c text =>
              obtain ⟨front, d, rest, heq, hd, hbrace⟩ := ih (c :: text).length (Nat.lt_succ_self _)
                (c :: text) (fun hn => h (.lone hpair hdigits hn)) rfl
              refine ⟨'$' :: front, d, rest, by rw [heq]; rfl, hd, fun cs => ?_⟩
              obtain ⟨digits, behind, hbraced, hall⟩ := hbrace cs
              refine ⟨digits, behind, ?_, hall⟩
              have hnone := takeWhile_cons_eq_nil hdigits (text ++ cs)
              have hlone : brace ('$' :: (c :: text ++ cs)) = '$' :: brace (c :: text ++ cs) :=
                brace_lone hpair hnone
              rw [List.cons_append, hlone, hbraced, List.cons_append]
          · cases text with
            | nil => exact absurd rfl hdigits
            | cons d rest =>
              have hd : d.isDigit := by
                by_contra hd
                exact hdigits (List.takeWhile_cons_of_neg hd)
              refine ⟨[], d, rest, rfl, hd, fun cs => ⟨_, _, brace_number ?_, fun c hc => ?_⟩⟩
              · show (d :: (rest ++ cs)).takeWhile Char.isDigit ≠ []
                rw [List.takeWhile_cons_of_pos hd]
                exact List.cons_ne_nil _ _
              · exact List.mem_takeWhile_imp hc
      · obtain ⟨front, d, rest, rfl, hd, hbrace⟩ := ih text.length (Nat.lt_succ_self _) text
          (fun hn => h (.plain hc hn)) rfl
        refine ⟨c :: front, d, rest, rfl, hd, fun cs => ?_⟩
        obtain ⟨digits, behind, heq, hdigits⟩ := hbrace cs
        exact ⟨digits, behind, by rw [List.cons_append, brace_plain hc, heq]; rfl, hdigits⟩

-- What holds a dollar sign is no number.
theorem groupName_of_mem {text : List Char} (h : '$' ∈ text) : groupName text = .name (.ofList text) := by
  have hdigits : ∀ digits : List Char, '$' ∈ digits → digits.all Char.isDigit = false := by
    intro digits hmem
    exact List.all_eq_false.mpr ⟨'$', hmem, by decide⟩
  unfold groupName
  split
  next hplus =>
    obtain ⟨rest, rfl⟩ := List.head?_eq_some_iff.mp hplus
    have hrest : '$' ∈ rest := (List.mem_cons.mp h).resolve_left (by decide)
    simp only [List.tail_cons, hdigits rest hrest, Bool.and_false]
    rfl
  next =>
    simp only [hdigits text h, Bool.and_false]
    rfl

-- Behind a number with braces of its own, what an opening brace begins ends too early.
theorem dollar_brace_number {inner : List Char} (h : ¬Numberless (inner.takeWhile (· != '}'))) :
    (dollar ('{' :: brace inner)).1 ≠ (dollar ('{' :: inner)).1 := by
  obtain ⟨front, d, rest, htake, hd, hbrace⟩ := exists_braced_number _ h
  obtain ⟨digits, behind, hbraced, hall⟩ := hbrace (inner.dropWhile (· != '}'))
  rw [List.takeWhile_append_dropWhile] at hbraced
  have hopen : '}' ∉ inner.takeWhile (· != '}') := by
    intro hmem
    have hne : ('}' != '}') = true := List.mem_takeWhile_imp (p := fun c => c != '}') hmem
    exact bne_iff_ne.mp hne rfl
  have hname : '}' ∉ front ++ '$' :: '{' :: digits := by
    rw [htake, List.mem_append] at hopen
    simp only [List.mem_append, List.mem_cons, not_or] at hopen ⊢
    refine ⟨hopen.1, by decide, by decide, fun hmem => ?_⟩
    have hdigit := hall '}' hmem
    contradiction
  have hearly : (dollar ('{' :: brace inner)).1 =
      .group (.name (.ofList (front ++ '$' :: '{' :: digits))) := by
    have hmem : '$' ∈ front ++ '$' :: '{' :: digits := List.mem_append_right front List.mem_cons_self
    have hbraces : brace inner = front ++ '$' :: '{' :: digits ++ '}' :: behind := by
      rw [hbraced, List.append_assoc]
      rfl
    rw [hbraces, dollar_braced hname, groupName_of_mem hmem]
  rw [hearly]
  by_cases hclosed : '}' ∈ inner
  · obtain ⟨name, after, rfl, hfree⟩ := List.eq_append_cons_of_mem hclosed
    rw [(takeWhile_until hfree).1] at htake
    have hmem : '$' ∈ name := htake ▸ List.mem_append_right front List.mem_cons_self
    rw [dollar_braced hfree, groupName_of_mem hmem, htake]
    intro heq
    -- The names differ in the character behind the dollar sign.
    have hsame := String.ofList_injective (GroupName.name.inj (TemplatePart.group.inj heq))
    have hbrace' : '{' = d := (List.cons.inj (List.cons.inj (List.append_cancel_left hsame)).2).1
    rw [← hbrace'] at hd
    contradiction
  · rw [dollar_unclosed hclosed]
    exact nofun

end Behind

/-- What is read after the braces are put in is the meaning of the template exactly if the template has no
number behind an opening brace. -/
theorem parts_brace_iff {template : List Char} :
    parts (brace template) = meaning template ↔ Clear template := by
  refine ⟨fun h => ?_, parts_brace⟩
  rw [parts_eq_read, meaning] at h
  -- By induction on the length of the template: what is equal was read sign by sign.
  induction hlength : template.length using Nat.strong_induction_on generalizing template with
  | _ n ih =>
    subst hlength
    cases template with
    | nil => exact .nil
    | cons c cs =>
      by_cases hc : c = '$'
      · subst hc
        have hbrace : ∀ inner, cs = '{' :: inner → Numberless (inner.takeWhile (· != '}')) := by
          rintro inner rfl
          by_contra hnumber
          have hopen : brace ('$' :: '{' :: inner) = '$' :: '{' :: brace inner := by
            have hhead : ('{' :: inner).head? ≠ some '$' := by simp
            rw [brace_lone hhead rfl, brace_plain (by decide)]
          rw [hopen, read_sign length_dollar_le, read_sign length_numbered_le] at h
          exact dollar_brace_number hnumber (List.cons.inj h).1
        obtain ⟨rest, hrest, hdollar⟩ := exists_brace_sign hbrace
        rw [hrest, read_sign length_dollar_le, hdollar, read_sign length_numbered_le] at h
        exact .sign hbrace (ih _ (Nat.lt_succ_of_le (length_numbered_le cs)) (List.cons.inj h).2 rfl)
      · rw [brace_plain hc, read_plain hc, read_plain hc] at h
        exact .plain hc (ih _ (Nat.lt_succ_self _) (List.cons.inj h).2 rfl)

end Quarry.Template
