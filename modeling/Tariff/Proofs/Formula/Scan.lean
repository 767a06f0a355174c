import Tariff.Proofs.Formula.Grammar

/-!
# Scanning a formula

Whether a lexeme can come next in a formula depends on little of what comes before it: whether an
operand is still to come, and which brackets are open, that is parentheses and the question marks
without their colons. A scan keeps track of that, lexeme by lexeme. It gets through everything that
the grammar derives, and so through the front of it. Where the scan cannot go on, no formula can.

## Main definitions

* `Tariff.Formula.Scan` — how far a formula has been scanned.
* `Tariff.Formula.Scan.next`, `Tariff.Formula.Scan.run` — scanning a lexeme, and several of them.
* `Tariff.Formula.Scan.IsPast` — the scan is past an operand.

## Main results

* `Tariff.Formula.Scan.exists_run_of_derives` — what is derived is scanned to its end.
* `Tariff.Formula.Scan.not_derives_of_next_eq_none` — where the scan ends, no formula goes on.
-/

set_option autoImplicit false

namespace Tariff.Formula

/-- What opens a part of a formula that has to be closed again. -/
inductive Bracket where
  /-- a parenthesis around a conditional -/
  | group
  /-- the parenthesis of a call -/
  | call
  /-- the question mark of a choice -/
  | choice

/-- How far a formula has been scanned, with the brackets that are open, the innermost first. -/
inductive Scan where
  /-- an operand has to come -/
  | operand (opened : List Bracket)
  /-- a call has been opened, and an argument or the closing parenthesis has to come -/
  | argument (opened : List Bracket)
  /-- an operand has come that is a name, so it may yet be called -/
  | named (opened : List Bracket)
  /-- an operand has come -/
  | ended (opened : List Bracket)

namespace Scan

/-- Scans a lexeme where an operand has to come. -/
def start (opened : List Bracket) : Lexeme → Option Scan
  | .number _ => some (ended opened)
  | .name _ => some (named opened)
  | .openParen => some (operand (.group :: opened))
  | .operator op => if op.sign?.isSome then some (operand opened) else none
  | _ => none

/-- Scans a lexeme where an operand has come. -/
def follow : List Bracket → Lexeme → Option Scan
  | opened, .operator _ => some (operand opened)
  | opened, .question => some (operand (.choice :: opened))
  | .choice :: opened, .colon => some (operand opened)
  | .call :: opened, .comma => some (operand (.call :: opened))
  | .group :: opened, .closeParen | .call :: opened, .closeParen => some (ended opened)
  | _, _ => none

/-- Scans a lexeme, if it can come next. -/
def next : Scan → Lexeme → Option Scan
  | operand opened, l => start opened l
  | argument opened, .closeParen => some (ended opened)
  | argument opened, l => start (.call :: opened) l
  | named opened, .openParen => some (argument opened)
  | named opened, l | ended opened, l => follow opened l

/-- Scans several lexemes, as long as each can come next. -/
def run (s : Scan) (ls : List Lexeme) : Option Scan :=
  ls.foldlM next s

/-- The scan is past an operand, with these brackets open. -/
def IsPast (opened : List Bracket) (s : Scan) : Prop :=
  s = named opened ∨ s = ended opened

variable {s s₁ s₂ : Scan} {opened : List Bracket} {l : Lexeme} {ls ms : List Lexeme} {sym : Symbol}
  {p : Phrase}

/-- Nothing is scanned in no steps. -/
lemma run_nil : run s [] = some s :=
  rfl

/-- A lexeme is scanned before the lexemes after it. -/
lemma run_cons (hl : s.next l = some s₁) (h : run s₁ ls = some s₂) :
    run s (l :: ls) = some s₂ := by
  rw [run, List.foldlM_cons, hl]
  exact h

/-- Lexemes are scanned before the lexemes after them. -/
lemma run_append (h₁ : run s ls = some s₁) (h₂ : run s₁ ms = some s₂) :
    run s (ls ++ ms) = some s₂ := by
  rw [run] at h₁ h₂
  rw [run, List.foldlM_append, h₁]
  exact h₂

/-- The front of what is scanned is scanned. -/
lemma exists_of_run_append (h : run s (ls ++ ms) = some s₂) :
    ∃ s₁, run s ls = some s₁ ∧ run s₁ ms = some s₂ := by
  rw [run, List.foldlM_append] at h
  exact Option.bind_eq_some_iff.1 h

/-- Whatever does not call a name follows an operand in the same way. -/
lemma IsPast.next_eq (h : s.IsPast opened) (hl : l ≠ .openParen) :
    s.next l = follow opened l := by
  rcases h with rfl | rfl
  · cases l <;> first | rfl | exact absurd rfl hl
  · rfl

/-- Where an argument may come, what an operand starts with is scanned as one. -/
lemma run_argument (hl : l ≠ .closeParen) :
    run (argument opened) (l :: ls) = run (operand (.call :: opened)) (l :: ls) := by
  cases l <;> first | rfl | exact absurd rfl hl

/-- Further arguments, each after a comma, are scanned one after the other. -/
lemma exists_run_arguments {texts : List (List Lexeme)}
    (h : ∀ ls ∈ texts, ∃ s', run (operand (.call :: opened)) ls = some s' ∧
      s'.IsPast (.call :: opened)) (hs : s.IsPast (.call :: opened)) :
    ∃ s', run s (texts.flatMap (.comma :: ·)) = some s' ∧ s'.IsPast (.call :: opened) := by
  induction texts generalizing s with
  | nil => exact ⟨s, run_nil, hs⟩
  | cons ls texts ih =>
    obtain ⟨hls, htexts⟩ := List.forall_mem_cons.1 h
    obtain ⟨s₁, hrun, hs₁⟩ := hls
    obtain ⟨s₂, hmore, hs₂⟩ := ih htexts hs₁
    have hcomma : s.next .comma = some (operand (.call :: opened)) := hs.next_eq nofun
    exact ⟨s₂, run_append (run_cons hcomma hrun) hmore, hs₂⟩

/-- One or more arguments of a call, with commas between them, are scanned after its parenthesis. -/
lemma exists_run_separated {texts : List (List Lexeme)} (hne : texts ≠ [])
    (h : ∀ ls ∈ texts, ls.head? ≠ some .closeParen ∧ ∃ s', run (operand (.call :: opened)) ls =
      some s' ∧ s'.IsPast (.call :: opened)) :
    ∃ s', run (argument opened) (separated texts) = some s' ∧ s'.IsPast (.call :: opened) := by
  cases texts with
  | nil => exact absurd rfl hne
  | cons ls texts =>
    obtain ⟨⟨hstart, s₁, hrun, hs₁⟩, htexts⟩ := List.forall_mem_cons.1 h
    obtain ⟨s₂, hmore, hs₂⟩ := exists_run_arguments (fun ms hms => (htexts ms hms).2) hs₁
    have hfirst : run (argument opened) ls = some s₁ := by
      cases ls with
      | nil =>
        obtain rfl := Option.some.inj hrun
        exact absurd hs₁ (by simp [IsPast])
      | cons l ls => rwa [run_argument (by simpa using hstart)]
    exact ⟨s₂, run_append hfirst hmore, hs₂⟩

/-- Whatever the grammar derives is scanned to its end where an operand has to come, and the scan is
past an operand then, with the same brackets open as before.

**Proof sketch.** By induction on the derivation, one case for each rule of the grammar. The
brackets that a rule opens are open for the scan of what stands in them, and are closed again
after it. -/
theorem exists_run_of_derives (h : Derives sym ls p) (opened : List Bracket) :
    ∃ s, run (operand opened) ls = some s ∧ s.IsPast opened := by
  induction h generalizing opened with
  | plain _ ih | single _ ih | unsigned _ ih | base _ ih => exact ih opened
  | choice _ _ _ ihc iha ihb =>
    obtain ⟨s₁, hc, hs₁⟩ := ihc opened
    obtain ⟨s₂, ha, hs₂⟩ := iha (.choice :: opened)
    obtain ⟨s₃, hb, hs₃⟩ := ihb opened
    have hquestion : s₁.next .question = some (operand (.choice :: opened)) := hs₁.next_eq nofun
    have hcolon : s₂.next .colon = some (operand opened) := hs₂.next_eq nofun
    exact ⟨s₃, run_append hc (run_cons hquestion (run_append ha (run_cons hcolon hb))), hs₃⟩
  | @binary _ _ _ op _ _ _ _ _ ihl ihr =>
    obtain ⟨s₁, hl, hs₁⟩ := ihl opened
    obtain ⟨s₂, hr, hs₂⟩ := ihr opened
    have hop : s₁.next (.operator op) = some (operand opened) := hs₁.next_eq nofun
    exact ⟨s₂, run_append hl (run_cons hop hr), hs₂⟩
  | @signed op _ _ _ hsign _ ih =>
    obtain ⟨s₁, hoperand, hs₁⟩ := ih opened
    have hop : (operand opened).next (.operator op) = some (operand opened) := by
      simp [next, start, hsign]
    exact ⟨s₁, run_cons hop hoperand, hs₁⟩
  | power _ _ ihb ihe =>
    obtain ⟨s₁, hb, hs₁⟩ := ihb opened
    obtain ⟨s₂, he, hs₂⟩ := ihe opened
    have hpow : s₁.next (.operator .pow) = some (operand opened) := hs₁.next_eq nofun
    exact ⟨s₂, run_append hb (run_cons hpow he), hs₂⟩
  | number digits => exact ⟨ended opened, rfl, .inr rfl⟩
  | word name => exact ⟨named opened, rfl, .inl rfl⟩
  | group _ ih =>
    obtain ⟨s₁, hinner, hs₁⟩ := ih (.group :: opened)
    have hclose : s₁.next .closeParen = some (ended opened) := hs₁.next_eq nofun
    exact ⟨ended opened, run_cons rfl (run_append hinner (run_cons hclose run_nil)), .inr rfl⟩
  | @call name args hargs ih =>
    cases args with
    | nil => exact ⟨ended opened, rfl, .inr rfl⟩
    | cons arg args =>
      have htexts : ∀ ls ∈ (arg :: args).map (·.1), ls.head? ≠ some .closeParen ∧
          ∃ s', run (operand (.call :: opened)) ls = some s' ∧ s'.IsPast (.call :: opened) := by
        exact List.forall_mem_map.2 fun a ha =>
          ⟨(hargs a ha).head?_ne_closeParen, ih a ha (.call :: opened)⟩
      obtain ⟨s₁, hrun, hs₁⟩ := exists_run_separated (by simp) htexts
      have hclose : s₁.next .closeParen = some (ended opened) := hs₁.next_eq nofun
      exact ⟨ended opened, run_cons rfl (run_cons rfl (run_append hrun (run_cons hclose run_nil))),
        .inr rfl⟩

/-- Where the scan of a front cannot go on with a lexeme, nothing that the grammar derives has that
front and then that lexeme. -/
theorem not_derives_of_next_eq_none (hrun : run (operand []) ls = some s)
    (hl : s.next l = none) : ¬ Derives sym (ls ++ l :: ms) p := by
  intro h
  obtain ⟨s₂, hall, -⟩ := exists_run_of_derives h []
  obtain ⟨s₁, hfront, hrest⟩ := exists_of_run_append hall
  obtain rfl := Option.some.inj (hrun.symm.trans hfront)
  rw [run, List.foldlM_cons, hl] at hrest
  contradiction

/-- Where the scan is not past an operand with no bracket open, the grammar derives nothing. -/
theorem not_derives_of_not_isPast (hrun : run (operand []) ls = some s) (hs : ¬ s.IsPast []) :
    ¬ Derives sym ls p := by
  intro h
  obtain ⟨s₁, hall, hs₁⟩ := exists_run_of_derives h []
  obtain rfl := Option.some.inj (hrun.symm.trans hall)
  exact hs hs₁

end Scan

end Tariff.Formula
