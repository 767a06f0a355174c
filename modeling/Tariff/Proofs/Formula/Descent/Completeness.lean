import Tariff.Proofs.Formula.Grammar
import Tariff.Proofs.Outcome

/-!
# What is derivable the descent reads

An instance of a symbol at the front of the tokens is read to its end, whatever follows, as long as
the next token cannot continue it. The tree is the one that the derived phrase stands for.

Two numbers have to be large enough: the depth that is left, for the depth of the phrase, and the
number of steps. Twelve steps for each token suffice, because a function is called at most nine
times on the way down from a conditional to a primary before a token is taken.

## Main definitions

* `Tariff.Formula.Stops` — the next token does not continue an instance of a symbol.
* `Tariff.Formula.Descent.Complete` — the descent reads a derived phrase.
* `Tariff.Formula.Descent.Extends` — the descent reads a derived chain and may go on.

## Main results

* `Tariff.Formula.Descent.complete` — every derived phrase is read.
* `Tariff.Formula.Descent.whole_of_derives` — a derivable formula is read as a whole.
-/

set_option autoImplicit false

namespace Tariff.Formula

open Tariff.Text

/-! ### Where an instance of a symbol ends -/

/-- How tight a level binds its operands. -/
def Level.tightness : Level → Nat
  | .comparison => 1
  | .additive => 2
  | .multiplicative => 3

/-- How tight the parts of an instance of a symbol are bound at least. -/
def Symbol.tightness : Symbol → Nat
  | .conditional => 0
  | .chain level => level.tightness
  | .signed | .powered => 4
  | .primary => 5

/-- How tight a lexeme binds what stands before it. A lexeme that ends every symbol does not bind at
all, and one that never follows a phrase binds tightest. -/
def Lexeme.tightness : Lexeme → Nat
  | .closeParen | .comma | .colon => 0
  | .question => 1
  | .operator op =>
    match op.level? with
    | some level => level.tightness + 1
    | none => 5
  | .number _ | .name _ | .openParen => 6

/-- Whether the next token, if there is one, leaves an instance of a symbol before it as it is. -/
def Stops (sym : Symbol) (ts : List Token) : Prop :=
  ∀ t ∈ ts.head?, t.lexeme.tightness ≤ sym.tightness

namespace Stops

variable {sym sym' : Symbol} {level : Level} {op : Operator} {l : Lexeme} {p : Nat}
  {ts : List Token}

/-- What stops a symbol also stops a tighter one. -/
lemma mono (h : Stops sym ts) (hle : sym.tightness ≤ sym'.tightness) : Stops sym' ts :=
  fun t ht => Nat.le_trans (h t ht) hle

/-- A token stops a symbol iff it does not bind tighter. -/
lemma cons_iff : Stops sym (⟨l, p⟩ :: ts) ↔ l.tightness ≤ sym.tightness := by
  simp [Stops]

/-- An operator of a level stops the operand before it. -/
lemma operator (hop : op.level? = some level) : Stops level.operand (⟨.operator op, p⟩ :: ts) := by
  rw [cons_iff]
  cases level <;> simp [Lexeme.tightness, hop, Level.operand, Symbol.tightness, Level.tightness]

/-- What stops a chain stops its operands. -/
lemma of_chain (h : Stops (.chain level) ts) : Stops level.operand ts :=
  h.mono (by cases level <;> simp [Level.operand, Symbol.tightness, Level.tightness])

/-- No operator of the level of a chain stops it. -/
lemma operator?_eq_none (h : Stops (.chain level) ts) : Descent.operator? level ts = none := by
  unfold Descent.operator?
  split
  · next op p rest =>
    rw [cons_iff] at h
    simp only [ite_eq_right_iff]
    intro hop
    simp only [Lexeme.tightness, hop, Symbol.tightness] at h
    omega
  · rfl

end Stops

/-- Tokens whose lexemes fall apart at a lexeme fall apart at a token. -/
lemma exists_split_of_map_lexeme {us : List Token} {ls rs : List Lexeme} {l : Lexeme}
    (h : us.map Token.lexeme = ls ++ l :: rs) :
    ∃ vs p ws, us = vs ++ ⟨l, p⟩ :: ws ∧ vs.map Token.lexeme = ls ∧ ws.map Token.lexeme = rs := by
  obtain ⟨vs, us', rfl, hvs, hus'⟩ := List.map_eq_append_iff.1 h
  obtain ⟨⟨_, p⟩, ws, rfl, rfl, hws⟩ := List.map_eq_cons_iff.1 hus'
  exact ⟨vs, p, ws, rfl, hvs, hws⟩

namespace Descent

/-! ### The functions of the descent by symbol -/

/-- How much deeper than the depth that is left an instance of a symbol may be. The outermost
operand of a power and of a primary has been counted before. -/
def slack : Symbol → Nat
  | .powered | .primary => 1
  | _ => 0

/-- How many functions are called on the way down from a symbol to a primary. -/
def descents : Symbol → Nat
  | .conditional => 9
  | .chain .comparison => 8
  | .chain .additive => 6
  | .chain .multiplicative => 4
  | .signed => 2
  | .powered => 1
  | .primary => 0

variable (d : Descent)

/-- The function of the descent that reads a symbol. -/
def read (steps depth : Nat) : Symbol → List Token → Except Error (Parsed Tree)
  | .conditional => d.conditional steps depth
  | .chain level => d.chain steps depth level
  | .signed => d.signed steps depth
  | .powered => d.powered steps depth
  | .primary => d.primary steps depth

/-- The descent reads a phrase, wherever it is followed by something that stops its symbol. -/
def Complete (sym : Symbol) (ls : List Lexeme) (p : Phrase) : Prop :=
  ∀ n steps rest {t us}, us.map Token.lexeme = ls → p.tree? = some t → p.depth ≤ n + slack sym →
    12 * us.length + descents sym ≤ steps → Stops sym rest →
    d.read steps n sym (us ++ rest) = .ok (t, rest)

/-- The descent reads a phrase as the front of a chain, wherever it is followed by something that
stops its last operand. At most one step is gone for each token. -/
def Extends (level : Level) (ls : List Lexeme) (p : Phrase) : Prop :=
  ∀ n steps rest {t us}, us.map Token.lexeme = ls → p.tree? = some t → p.depth ≤ n →
    12 * us.length + descents (.chain level) ≤ steps → Stops level.operand rest →
    ∃ steps', steps ≤ steps' + us.length ∧
      d.chain steps n level (us ++ rest) = d.chainAfter steps' n level t rest

variable {d} {sym : Symbol} {level : Level} {op : Operator} {sign : Sign} {name : String}
  {ls rs as bs cs es : List Lexeme} {p l r a b c e : Phrase}

/-- An operand is read by the function of its symbol. -/
lemma operand_succ (steps n : Nat) (ts : List Token) :
    d.operand (steps + 1) n level ts = d.read steps n level.operand ts := by
  cases level <;> rfl

/-- The way down from a chain is two functions longer than that from its operand. -/
lemma descents_operand (level : Level) : descents level.operand + 2 = descents (.chain level) := by
  cases level <;> rfl

/-- An operand has no slack. -/
lemma slack_operand (level : Level) : slack level.operand = 0 := by
  cases level <;> rfl

/-! ### One lemma for each rule of the grammar -/

/-- A chain that is not continued is complete. -/
lemma Extends.complete (h : d.Extends level ls p) (hls : ls ≠ []) :
    d.Complete (.chain level) ls p := by
  intro n steps rest t us hus ht hn hsteps hstop
  obtain ⟨steps', hle, hread⟩ := h n steps rest hus ht hn hsteps hstop.of_chain
  have hlen : 1 ≤ us.length := by
    rcases us with _ | ⟨u, us⟩
    · exact absurd hus.symm hls
    · simp
  obtain ⟨k, rfl⟩ : ∃ k, steps' = k + 1 := ⟨steps' - 1, by omega⟩
  rw [read, hread, Descent.chainAfter, hstop.operator?_eq_none]

lemma Extends.single (h : d.Complete level.operand ls p) (hls : ls ≠ []) :
    d.Extends level ls p := by
  intro n steps rest t us hus ht hn hsteps hstop
  have hlen : 1 ≤ us.length := by
    rcases us with _ | ⟨u, us⟩
    · exact absurd hus.symm hls
    · simp
  have := descents_operand level
  obtain ⟨k, rfl⟩ : ∃ k, steps = k + 2 := ⟨steps - 2, by omega⟩
  refine ⟨k + 1, by omega, ?_⟩
  rw [Descent.chain, operand_succ,
    h n k rest hus ht (by rw [slack_operand]; exact hn) (by omega) hstop]
  rfl

lemma Extends.binary (hl : d.Extends level ls l) (hop : op.level? = some level)
    (hr : d.Complete level.operand rs r) :
    d.Extends level (ls ++ .operator op :: rs) (.binary op l r) := by
  intro n steps rest t us hus ht hn hsteps hstop
  obtain ⟨vs, q, ws, rfl, hvs, hws⟩ := exists_split_of_map_lexeme hus
  simp only [Phrase.tree?, Option.bind_eq_bind, Option.bind_eq_some_iff, Option.some.injEq] at ht
  obtain ⟨x, hx, y, hy, rfl⟩ := ht
  simp only [Phrase.depth] at hn
  simp only [List.length_append, List.length_cons] at hsteps ⊢
  obtain ⟨steps', hle, hread⟩ := hl n steps
    (⟨.operator op, q⟩ :: (ws ++ rest)) hvs hx (by omega) (by omega) (.operator hop)
  have := descents_operand level
  obtain ⟨k, rfl⟩ : ∃ k, steps' = k + 2 := ⟨steps' - 2, by omega⟩
  refine ⟨k + 1, by omega, ?_⟩
  rw [List.append_assoc, List.cons_append, hread, Descent.chainAfter]
  simp only [operator?, hop, if_true]
  rw [operand_succ, hr n k rest hws hy (by rw [slack_operand]; omega) (by omega) hstop]
  rfl

lemma Complete.plain (h : d.Complete (.chain .comparison) ls p) : d.Complete .conditional ls p := by
  intro n steps rest t us hus ht hn hsteps hstop
  simp only [descents] at hsteps
  obtain ⟨k, rfl⟩ : ∃ k, steps = k + 1 := ⟨steps - 1, by omega⟩
  have hread := h n k rest hus ht hn (by simp only [descents]; omega)
    (hstop.mono (by simp [Symbol.tightness]))
  simp only [read] at hread ⊢
  rw [Descent.conditional, hread]
  simp only [bind, Except.bind]
  split
  · simp [Stops, Lexeme.tightness, Symbol.tightness] at hstop
  · rfl

lemma Complete.choice (hc : d.Complete (.chain .comparison) cs c)
    (ha : d.Complete .conditional as a) (hb : d.Complete .conditional bs b) :
    d.Complete .conditional (cs ++ .question :: (as ++ .colon :: bs)) (.choice c a b) := by
  intro n steps rest t us hus ht hn hsteps hstop
  obtain ⟨us, p, us', rfl, hcs, hus'⟩ := exists_split_of_map_lexeme hus
  obtain ⟨vs, q, ws, rfl, hvs, hws⟩ := exists_split_of_map_lexeme hus'
  simp only [Phrase.tree?, Option.bind_eq_bind, Option.bind_eq_some_iff, Option.some.injEq] at ht
  obtain ⟨x, hx, y, hy, z, hz, rfl⟩ := ht
  simp only [Phrase.depth, slack] at hn
  simp only [List.length_append, List.length_cons, descents] at hsteps
  obtain ⟨k, rfl⟩ : ∃ k, steps = k + 1 := ⟨steps - 1, by omega⟩
  have hcond := hc n k
    (⟨.question, p⟩ :: (vs ++ ⟨.colon, q⟩ :: (ws ++ rest))) hcs hx
    (by simp only [slack]; omega) (by simp only [descents]; omega)
    (Stops.cons_iff.2 (by simp [Lexeme.tightness, Symbol.tightness, Level.tightness]))
  have htrue := ha n k (⟨.colon, q⟩ :: (ws ++ rest)) hvs hy
    (by simp only [slack]; omega) (by simp only [descents]; omega)
    (Stops.cons_iff.2 (by simp [Lexeme.tightness]))
  have hfalse := hb n k rest hws hz (by simp only [slack]; omega)
    (by simp only [descents]; omega) hstop
  simp only [read] at hcond htrue hfalse ⊢
  rw [List.append_assoc, List.cons_append, List.append_assoc, List.cons_append,
    Descent.conditional, hcond]
  simp only [bind, Except.bind, htrue, require, hfalse]

/-- No sign is found where a power starts. -/
lemma sign?_eq_none {us rest : List Token} (h : Derives .powered (us.map Token.lexeme) p) :
    sign? (us ++ rest) = none := by
  obtain ⟨l, ls, hls, hl⟩ := h.exists_cons
  obtain ⟨⟨_, q⟩, us', rfl, rfl, -⟩ := List.map_eq_cons_iff.1 hls
  unfold sign?
  split
  · simp_all [Symbol.startsWith]
  · rfl

lemma Complete.unsigned (hp : Derives .powered ls p) (h : d.Complete .powered ls p) :
    d.Complete .signed ls p := by
  intro n steps rest t us hus ht hn hsteps hstop
  simp only [descents, slack] at hsteps hn
  have := p.one_le_depth
  obtain ⟨k, rfl⟩ : ∃ k, steps = k + 1 := ⟨steps - 1, by omega⟩
  obtain ⟨m, rfl⟩ : ∃ m, n = m + 1 := ⟨n - 1, by omega⟩
  have hread := h m k rest hus ht (by simp only [slack]; omega)
    (by simp only [descents]; omega) hstop
  subst hus
  simp only [read] at hread ⊢
  rw [Descent.signed, sign?_eq_none hp, hread]

lemma Complete.signed (hsign : op.sign? = some sign) (h : d.Complete .signed ls p) :
    d.Complete .signed (.operator op :: ls) (.signed sign p) := by
  intro n steps rest t us hus ht hn hsteps hstop
  obtain ⟨⟨_, q⟩, vs, rfl, rfl, hvs⟩ := List.map_eq_cons_iff.1 hus
  simp only [Phrase.tree?, Option.map_eq_some_iff] at ht
  obtain ⟨x, hx, rfl⟩ := ht
  simp only [descents, slack, List.length_cons, Phrase.depth] at hsteps hn
  obtain ⟨k, rfl⟩ : ∃ k, steps = k + 1 := ⟨steps - 1, by omega⟩
  obtain ⟨m, rfl⟩ : ∃ m, n = m + 1 := ⟨n - 1, by omega⟩
  have hread := h m k rest hvs hx (by simp only [slack]; omega)
    (by simp only [descents]; omega) hstop
  simp only [read] at hread ⊢
  rw [List.cons_append, Descent.signed]
  simp only [sign?, hsign, Option.map_some, hread]
  rfl

lemma Complete.base (h : d.Complete .primary ls p) : d.Complete .powered ls p := by
  intro n steps rest t us hus ht hn hsteps hstop
  simp only [descents] at hsteps
  obtain ⟨k, rfl⟩ : ∃ k, steps = k + 1 := ⟨steps - 1, by omega⟩
  have hread := h n k rest hus ht hn (by simp only [descents]; omega)
    (hstop.mono (by simp [Symbol.tightness]))
  simp only [read] at hread ⊢
  rw [Descent.powered, hread]
  simp only [bind, Except.bind]
  split
  · simp [Stops, Lexeme.tightness, Symbol.tightness, Operator.level?] at hstop
  · rfl

lemma Complete.power (hb : d.Complete .primary bs b) (he : d.Complete .signed es e) :
    d.Complete .powered (bs ++ .operator .pow :: es) (.power b e) := by
  intro n steps rest t us hus ht hn hsteps hstop
  obtain ⟨vs, q, ws, rfl, hvs, hws⟩ := exists_split_of_map_lexeme hus
  simp only [Phrase.tree?, Option.bind_eq_bind, Option.bind_eq_some_iff, Option.some.injEq] at ht
  obtain ⟨x, hx, y, hy, rfl⟩ := ht
  simp only [Phrase.depth, slack] at hn
  simp only [List.length_append, List.length_cons, descents] at hsteps
  obtain ⟨k, rfl⟩ : ∃ k, steps = k + 1 := ⟨steps - 1, by omega⟩
  have hbase := hb n k (⟨.operator .pow, q⟩ :: (ws ++ rest)) hvs hx
    (by simp only [slack]; omega) (by simp only [descents]; omega)
    (Stops.cons_iff.2 (by simp [Lexeme.tightness, Symbol.tightness, Operator.level?]))
  have hexp := he n k rest hws hy (by simp only [slack]; omega)
    (by simp only [descents]; omega) hstop
  simp only [read] at hbase hexp ⊢
  rw [List.append_assoc, List.cons_append, Descent.powered, hbase]
  simp only [bind, Except.bind, hexp]

lemma Complete.number (digits : String) :
    d.Complete .primary [.number digits] (.number digits) := by
  intro n steps rest t us hus ht _ hsteps _
  obtain ⟨⟨_, q⟩, vs, rfl, rfl, hvs⟩ := List.map_eq_cons_iff.1 hus
  obtain rfl := List.map_eq_nil_iff.1 hvs
  simp only [descents, List.length_singleton] at hsteps
  obtain ⟨k, rfl⟩ : ∃ k, steps = k + 1 := ⟨steps - 1, by omega⟩
  simp only [Phrase.tree?, Option.some.injEq] at ht
  simp [read, Descent.primary, ht]

lemma Complete.word (name : String) : d.Complete .primary [.name name] (.word name) := by
  intro n steps rest t us hus ht _ hsteps hstop
  obtain ⟨⟨_, q⟩, vs, rfl, rfl, hvs⟩ := List.map_eq_cons_iff.1 hus
  obtain rfl := List.map_eq_nil_iff.1 hvs
  simp only [descents, List.length_singleton] at hsteps
  obtain ⟨k, rfl⟩ : ∃ k, steps = k + 1 := ⟨steps - 1, by omega⟩
  simp only [Phrase.tree?, Option.some.injEq] at ht
  subst ht
  -- a name is read as a call only before an opening parenthesis, which stops no symbol
  rcases rest with _ | ⟨⟨l, _⟩, rest⟩
  · simp [read, Descent.primary]
  · rw [Stops.cons_iff] at hstop
    cases l <;> simp_all [read, Descent.primary, Lexeme.tightness, Symbol.tightness]

lemma Complete.group (h : d.Complete .conditional ls p) :
    d.Complete .primary (.openParen :: (ls ++ [.closeParen])) (.group p) := by
  intro n steps rest t us hus ht hn hsteps _
  obtain ⟨⟨_, q⟩, us', rfl, rfl, hus'⟩ := List.map_eq_cons_iff.1 hus
  obtain ⟨vs, o, ws, rfl, hvs, hws⟩ := exists_split_of_map_lexeme hus'
  obtain rfl := List.map_eq_nil_iff.1 hws
  simp only [Phrase.depth, slack, descents, List.length_cons, List.length_append,
    List.length_nil] at hn hsteps
  obtain ⟨k, rfl⟩ : ∃ k, steps = k + 1 := ⟨steps - 1, by omega⟩
  have hread := h n k (⟨.closeParen, o⟩ :: rest) hvs
    (by simpa [Phrase.tree?] using ht) (by simp only [slack]; omega)
    (by simp only [descents]; omega) (Stops.cons_iff.2 (by simp [Lexeme.tightness]))
  simp only [read] at hread ⊢
  rw [List.cons_append, List.append_assoc, List.singleton_append]
  simp only [Descent.primary, hread, bind, Except.bind, require]

/-- What follows an argument stops a conditional: a comma or the closing parenthesis. -/
lemma stops_of_flatMap_comma {ts : List Token} {texts : List (List Lexeme)}
    (h : ts.map Token.lexeme = texts.flatMap (.comma :: ·)) (q : Nat) (rest : List Token) :
    Stops .conditional (ts ++ ⟨.closeParen, q⟩ :: rest) := by
  rcases texts with _ | ⟨ls, texts⟩
  · obtain rfl : ts = [] := by simpa using h
    exact Stops.cons_iff.2 (by simp [Lexeme.tightness])
  · rw [List.flatMap_cons, List.cons_append] at h
    obtain ⟨⟨_, o⟩, vs, rfl, rfl, -⟩ := List.map_eq_cons_iff.1 h
    exact Stops.cons_iff.2 (by simp [Lexeme.tightness])

/-- The further arguments of a call are read up to the closing parenthesis.

**Proof sketch.** Induction on the arguments. Each one is a conditional after a comma, and either
the comma of the next one or the closing parenthesis stops it. -/
lemma moreArguments_eq_ok {args : List (List Lexeme × Phrase)}
    (hargs : ∀ a ∈ args, d.Complete .conditional a.1 a.2) (n steps q : Nat) (rest : List Token)
    {us : List Token} {xs : List Tree}
    (hus : us.map Token.lexeme = (args.map (·.1)).flatMap (.comma :: ·))
    (hxs : Phrase.trees? (args.map (·.2)) = some xs)
    (hn : Phrase.depthOfAll (args.map (·.2)) ≤ n) (hsteps : 12 * us.length + 1 ≤ steps) :
    d.moreArguments steps n (us ++ ⟨.closeParen, q⟩ :: rest) =
      .ok (xs, ⟨.closeParen, q⟩ :: rest) := by
  induction args generalizing steps us xs with
  | nil =>
    obtain rfl : us = [] := by simpa using hus
    obtain rfl : [] = xs := by simpa [Phrase.trees?] using hxs
    obtain ⟨k, rfl⟩ : ∃ k, steps = k + 1 := ⟨steps - 1, by omega⟩
    simp [Descent.moreArguments]
  | cons arg args ih =>
    simp only [List.map_cons, List.flatMap_cons, List.cons_append] at hus
    obtain ⟨⟨_, o⟩, us', rfl, rfl, hus'⟩ := List.map_eq_cons_iff.1 hus
    obtain ⟨vs, ws, rfl, hvs, hws⟩ := List.map_eq_append_iff.1 hus'
    simp only [List.map_cons, Phrase.trees?, Option.bind_eq_bind, Option.bind_eq_some_iff,
      Option.some.injEq] at hxs
    obtain ⟨x, hx, ys, hys, rfl⟩ := hxs
    simp only [List.map_cons, Phrase.depthOfAll] at hn
    simp only [List.length_cons, List.length_append] at hsteps
    obtain ⟨k, rfl⟩ : ∃ k, steps = k + 1 := ⟨steps - 1, by omega⟩
    have hfirst := hargs arg (by simp) n k _ hvs hx (by simp only [slack]; omega)
      (by simp only [descents]; omega) (stops_of_flatMap_comma hws q rest)
    have hothers := ih (fun a ha => hargs a (by simp [ha])) k hws hys (by omega)
      (by omega)
    simp only [read] at hfirst
    simp [Descent.moreArguments, hfirst, hothers, bind, Except.bind]

/-- The arguments of a call are read up to the closing parenthesis. -/
lemma arguments_eq_ok {args : List (List Lexeme × Phrase)}
    (hder : ∀ a ∈ args, Derives .conditional a.1 a.2)
    (hargs : ∀ a ∈ args, d.Complete .conditional a.1 a.2) (n steps q : Nat) (rest : List Token)
    {us : List Token} {xs : List Tree} (hus : us.map Token.lexeme = separated (args.map (·.1)))
    (hxs : Phrase.trees? (args.map (·.2)) = some xs)
    (hn : Phrase.depthOfAll (args.map (·.2)) ≤ n) (hsteps : 12 * us.length + 10 ≤ steps) :
    d.arguments steps n (us ++ ⟨.closeParen, q⟩ :: rest) = .ok (xs, ⟨.closeParen, q⟩ :: rest) := by
  obtain ⟨k, rfl⟩ : ∃ k, steps = k + 1 := ⟨steps - 1, by omega⟩
  rcases args with _ | ⟨arg, args⟩
  · obtain rfl : us = [] := by simpa [separated] using hus
    obtain rfl : [] = xs := by simpa [Phrase.trees?] using hxs
    simp [Descent.arguments]
  · simp only [List.map_cons, separated] at hus
    obtain ⟨vs, ws, rfl, hvs, hws⟩ := List.map_eq_append_iff.1 hus
    simp only [List.map_cons, Phrase.trees?, Option.bind_eq_bind, Option.bind_eq_some_iff,
      Option.some.injEq] at hxs
    obtain ⟨x, hx, ys, hys, rfl⟩ := hxs
    simp only [List.map_cons, Phrase.depthOfAll] at hn
    simp only [List.length_append] at hsteps
    have hfirst := hargs arg (by simp) n k _ hvs hx (by simp only [slack]; omega)
      (by simp only [descents]; omega) (stops_of_flatMap_comma hws q rest)
    have hothers := moreArguments_eq_ok (fun a ha => hargs a (List.mem_cons_of_mem _ ha)) n k q
      rest hws hys (by omega) (by omega)
    -- no conditional starts with a closing parenthesis
    obtain ⟨l, ls, hls, hl⟩ := (hder arg (by simp)).exists_cons
    obtain ⟨⟨_, o⟩, vs', rfl, rfl, -⟩ := List.map_eq_cons_iff.1 (hvs.trans hls)
    simp only [read, List.cons_append] at hfirst
    rw [List.append_assoc, List.cons_append, Descent.arguments]
    · simp only [hfirst, hothers, bind, Except.bind]
    · rintro p ts ⟨⟩
      simp [Symbol.startsWith] at hl

lemma Complete.call (name : String) {args : List (List Lexeme × Phrase)}
    (hder : ∀ a ∈ args, Derives .conditional a.1 a.2)
    (hargs : ∀ a ∈ args, d.Complete .conditional a.1 a.2) :
    d.Complete .primary (.name name :: .openParen :: (separated (args.map (·.1)) ++ [.closeParen]))
      (.call name (args.map (·.2))) := by
  intro n steps rest t us hus ht hn hsteps _
  obtain ⟨⟨_, p⟩, us₁, rfl, rfl, hus₁⟩ := List.map_eq_cons_iff.1 hus
  obtain ⟨⟨_, o⟩, us₂, rfl, rfl, hus₂⟩ := List.map_eq_cons_iff.1 hus₁
  obtain ⟨vs, q, ws, rfl, hvs, hws⟩ := exists_split_of_map_lexeme hus₂
  obtain rfl := List.map_eq_nil_iff.1 hws
  simp only [Phrase.tree?, Option.bind_eq_bind, Option.bind_eq_some_iff] at ht
  obtain ⟨f, hf, xs, hxs, ht⟩ := ht
  simp only [Phrase.depth, slack, descents, List.length_cons, List.length_append,
    List.length_nil] at hn hsteps
  obtain ⟨k, rfl⟩ : ∃ k, steps = k + 1 := ⟨steps - 1, by omega⟩
  have hread := arguments_eq_ok hder hargs n k q rest hvs hxs
    (by omega) (by omega)
  simp only [read, List.cons_append, List.append_assoc, List.nil_append]
  simp only [Descent.primary, hf, hread, bind, Except.bind, require, Descent.call, ht]

/-! ### All symbols -/

/-- The descent reads a phrase of a chain as its front, and any other phrase as it is. -/
def Recovers (d : Descent) : Symbol → List Lexeme → Phrase → Prop
  | .chain level, ls, p => d.Extends level ls p
  | sym, ls, p => d.Complete sym ls p

/-- A phrase that is recovered is read where something stops its symbol. -/
lemma Recovers.complete (h : d.Recovers sym ls p) (hls : ls ≠ []) : d.Complete sym ls p := by
  cases sym with
  | chain level => exact Extends.complete h hls
  | _ => exact h

/-- Every derived phrase is recovered.

**Proof sketch.** Induction on the derivation, with one case for each rule of the grammar. Chains
are derived from the left, operand by operand, and the descent reads them in the same order; that
is why more of a chain may follow in their case. -/
lemma recovers (h : Derives sym ls p) : d.Recovers sym ls p := by
  induction h with
  | plain h ih => exact Complete.plain (ih.complete h.ne_nil)
  | choice hc ha hb ihc iha ihb =>
    exact Complete.choice (ihc.complete hc.ne_nil) (iha.complete ha.ne_nil)
      (ihb.complete hb.ne_nil)
  | single h ih => exact Extends.single (ih.complete h.ne_nil) h.ne_nil
  | binary hl hop hr ihl ihr => exact Extends.binary ihl hop (ihr.complete hr.ne_nil)
  | unsigned h ih => exact Complete.unsigned h (ih.complete h.ne_nil)
  | signed hop h ih => exact Complete.signed hop (ih.complete h.ne_nil)
  | base h ih => exact Complete.base (ih.complete h.ne_nil)
  | power hb he ihb ihe => exact Complete.power (ihb.complete hb.ne_nil) (ihe.complete he.ne_nil)
  | number digits => exact Complete.number digits
  | word name => exact Complete.word name
  | group h ih => exact Complete.group (ih.complete h.ne_nil)
  | call name hargs ih => exact Complete.call name hargs ih

/-- Every derived phrase is read, wherever it is followed by something that stops its symbol. -/
theorem complete (h : Derives sym ls p) : d.Complete sym ls p :=
  (recovers h).complete h.ne_nil

/-- A derivable formula is read as a whole, if the limit permits its depth. -/
theorem whole_of_derives {ts : List Token} {t : Tree}
    (h : Derives .conditional (ts.map Token.lexeme) p) (ht : p.tree? = some t)
    (hn : p.depth ≤ d.limit.toNat) : d.whole ts = .ok t := by
  have hread := complete (d := d) h d.limit.toNat (enoughSteps ts) [] rfl ht hn
    (by simp only [enoughSteps, descents]; omega) (by simp [Stops])
  rw [List.append_nil, read] at hread
  simp [whole, hread, bind, Except.bind]

end Descent

end Tariff.Formula
