import Tariff.Proofs.Formula.Descent.Completeness

/-!
# The grammar assigns one phrase

The lexemes of a formula are an instance of a symbol in one way only. Where an instance ends is
settled by the descent, which reads it to its end: two instances at the front of the same lexemes
end at the same place, if each is followed by something that stops its symbol. With the places
settled, the rules of the grammar leave one phrase.

A chain is derived from its right end, while the descent goes through its operands from the left. So
chains are compared as lists of operands.

## Main definitions

* `Tariff.Formula.StopsAt` — the next lexeme does not continue an instance of a symbol.
* `Tariff.Formula.IsOnly` — there is one phrase for some lexemes.
* `Tariff.Formula.Segment` — an instance of a symbol with the mark in front of it.
* `Tariff.Formula.IsChain` — a chain as an operand and the segments after it.
* `Tariff.Formula.Settles` — what the induction shows of a derived phrase.

## Main results

* `Tariff.Formula.Derives.split_unique` — where an instance of a symbol ends.
* `Tariff.Formula.Derives.unique` — the grammar assigns one phrase.
-/

set_option autoImplicit false

namespace Tariff.Formula

variable {sym : Symbol} {level : Level} {ls ls' rest rest' : List Lexeme} {p q : Phrase}

/-! ### Where instances end -/

/-- Whether the next lexeme, if there is one, leaves an instance of a symbol before it as it is. -/
def StopsAt (sym : Symbol) (ls : List Lexeme) : Prop :=
  ∀ l ∈ ls.head?, l.tightness ≤ sym.tightness

/-- The end stops every symbol. -/
lemma stopsAt_nil : StopsAt sym [] := by
  simp [StopsAt]

/-- A lexeme stops a symbol iff it does not bind tighter. -/
lemma stopsAt_cons {l : Lexeme} : StopsAt sym (l :: ls) ↔ l.tightness ≤ sym.tightness := by
  simp [StopsAt]

/-- Two instances of a symbol at the front of the same lexemes are the same lexemes, if each is
followed by something that stops the symbol. -/
lemma Derives.split_unique (hp : Derives sym ls p) (hq : Derives sym ls' q) (hpc : p.CallsAllowed)
    (hqc : q.CallsAllowed) (h : ls ++ rest = ls' ++ rest') (hstop : StopsAt sym rest)
    (hstop' : StopsAt sym rest') : ls = ls' ∧ rest = rest' := by
  -- the descent reads both instances off the same tokens, and what it leaves is the rest
  let token : Lexeme → Token := fun l => ⟨l, 0⟩
  have hlexeme : ∀ ls : List Lexeme, (ls.map token).map Token.lexeme = ls := fun ls => by
    simp [token, Function.comp_def]
  have hstops : ∀ {ls : List Lexeme}, StopsAt sym ls → Stops sym (ls.map token) := by
    intro ls hls t ht
    rw [List.head?_map, Option.mem_def, Option.map_eq_some_iff] at ht
    obtain ⟨l, hl, rfl⟩ := ht
    exact hls l hl
  obtain ⟨t, ht⟩ := Option.isSome_iff_exists.1 (p.isSome_tree?_iff.2 hpc)
  obtain ⟨u, hu⟩ := Option.isSome_iff_exists.1 (q.isSome_tree?_iff.2 hqc)
  let steps := 12 * (ls.length + ls'.length) + Descent.descents sym
  have hpread := Descent.complete (d := ⟨0, 0⟩) hp (max p.depth q.depth) steps (rest.map token)
    (hlexeme ls) ht (by omega) (by simp only [steps, List.length_map]; omega) (hstops hstop)
  have hqread := Descent.complete (d := ⟨0, 0⟩) hq (max p.depth q.depth) steps (rest'.map token)
    (hlexeme ls') hu (by omega) (by simp only [steps, List.length_map]; omega) (hstops hstop')
  rw [← List.map_append] at hpread hqread
  rw [h, hqread] at hpread
  have hrest : rest' = rest := by
    have hmap := congrArg (List.map Token.lexeme) (Prod.mk.inj (Except.ok.inj hpread)).2
    rwa [hlexeme, hlexeme] at hmap
  subst hrest
  exact ⟨List.append_cancel_right h, rfl⟩

/-- There is one phrase for some lexemes. -/
def IsOnly (sym : Symbol) (ls : List Lexeme) (p : Phrase) : Prop :=
  ∀ q, Derives sym ls q → q.CallsAllowed → p = q

/-! ### Sequences of instances -/

/-- An instance of a symbol with the mark in front of it: an operand after the first one of a chain,
or an argument after the first one of a call. -/
@[ext]
structure Segment where
  mark : Lexeme
  lexemes : List Lexeme
  phrase : Phrase

namespace Segment

/-- The lexemes of some segments. -/
def text (segments : List Segment) : List Lexeme :=
  segments.flatMap fun x => x.mark :: x.lexemes

/-- Segments are instances of a symbol, with marks that stop the symbol and with calls of functions
only. -/
def AreInstances (sym : Symbol) (segments : List Segment) : Prop :=
  ∀ x ∈ segments, x.mark.tightness ≤ sym.tightness ∧ Derives sym x.lexemes x.phrase ∧
    x.phrase.CallsAllowed

variable {xs ys : List Segment}

/-- Segments stop an instance of their symbol. -/
lemma AreInstances.stopsAt (h : AreInstances sym xs) : StopsAt sym (text xs) := by
  cases xs with
  | nil => exact stopsAt_nil
  | cons x xs =>
    rw [text, List.flatMap_cons]
    exact stopsAt_cons.2 (h x List.mem_cons_self).1

/-- Segments with the same lexemes are the same, if there is one phrase for each of them. -/
lemma AreInstances.unique (h : AreInstances sym xs) (h' : AreInstances sym ys)
    (honly : ∀ x ∈ xs, IsOnly sym x.lexemes x.phrase) (htext : text xs = text ys) : xs = ys := by
  induction xs generalizing ys with
  | nil =>
    cases ys with
    | nil => rfl
    | cons y ys => simp [text] at htext
  | cons x xs ih =>
    cases ys with
    | nil => simp [text] at htext
    | cons y ys =>
      obtain ⟨⟨-, hx, hxc⟩, hxs⟩ := List.forall_mem_cons.1 h
      obtain ⟨⟨-, hy, hyc⟩, hys⟩ := List.forall_mem_cons.1 h'
      obtain ⟨hxonly, honly⟩ := List.forall_mem_cons.1 honly
      simp only [text, List.flatMap_cons, List.cons_append, List.cons.injEq] at htext
      obtain ⟨hmark, htext⟩ := htext
      obtain ⟨hlexemes, hrest⟩ := hx.split_unique hy hxc hyc htext (AreInstances.stopsAt hxs)
        (AreInstances.stopsAt hys)
      have hphrase : x.phrase = y.phrase := hxonly y.phrase (hlexemes ▸ hy) hyc
      rw [Segment.ext hmark hlexemes hphrase, ih hxs hys honly hrest]

end Segment

/-! ### Chains as sequences of operands -/

/-- A chain grows by a segment whose mark is an operator. -/
def Segment.join (l : Phrase) (x : Segment) : Phrase :=
  match x.mark with
  | .operator op => .binary op l x.phrase
  | _ => l

/-- A chain is an operand with some segments after it. -/
structure IsChain (level : Level) (ls : List Lexeme) (p : Phrase) (first : List Lexeme)
    (base : Phrase) (segments : List Segment) : Prop where
  derives : Derives level.operand first base
  callsAllowed : base.CallsAllowed
  areInstances : Segment.AreInstances level.operand segments
  lexemes_eq : ls = first ++ Segment.text segments
  phrase_eq : p = segments.foldl Segment.join base

/-- A derived chain is an operand with some segments after it. -/
lemma IsChain.single (h : Derives level.operand ls p) (hcalls : p.CallsAllowed) :
    IsChain level ls p ls p [] :=
  ⟨h, hcalls, by simp [Segment.AreInstances], by simp [Segment.text], rfl⟩

/-- One more operand of a chain is one more segment. -/
lemma IsChain.binary {rs first : List Lexeme} {op : Operator} {r base : Phrase}
    {segments : List Segment} (h : IsChain level ls p first base segments)
    (hop : op.level? = some level) (hr : Derives level.operand rs r) (hcalls : r.CallsAllowed) :
    IsChain level (ls ++ .operator op :: rs) (.binary op p r) first base
      (segments ++ [⟨.operator op, rs, r⟩]) where
  derives := h.derives
  callsAllowed := h.callsAllowed
  areInstances := by
    have hstop : Stops level.operand [⟨.operator op, 0⟩] := .operator hop
    intro x hx
    rcases List.mem_append.1 hx with hx | hx
    · exact h.areInstances x hx
    · obtain rfl := List.mem_singleton.1 hx
      exact ⟨Stops.cons_iff.1 hstop, hr, hcalls⟩
  lexemes_eq := by
    rw [h.lexemes_eq]
    simp [Segment.text]
  phrase_eq := by
    rw [h.phrase_eq]
    simp [Segment.join]

/-- Every derived chain is an operand with some segments after it. -/
lemma Derives.exists_isChain (h : Derives (.chain level) ls p) (hcalls : p.CallsAllowed) :
    ∃ first base segments, IsChain level ls p first base segments := by
  generalize hsym : Symbol.chain level = sym at h
  induction h with
  | single h =>
    obtain rfl := Symbol.chain.inj hsym
    exact ⟨_, _, _, .single h hcalls⟩
  | binary hl hop hr ih =>
    obtain rfl := Symbol.chain.inj hsym
    obtain ⟨first, base, segments, hchain⟩ := ih hcalls.1 rfl
    exact ⟨first, base, _, hchain.binary hop hr hcalls.2⟩
  | _ => simp at hsym

/-- There is one phrase for a chain if there is one for each of its operands. -/
lemma IsChain.isOnly {first : List Lexeme} {base : Phrase} {segments : List Segment}
    (h : IsChain level ls p first base segments) (hbase : IsOnly level.operand first base)
    (hsegments : ∀ x ∈ segments, IsOnly level.operand x.lexemes x.phrase) :
    IsOnly (.chain level) ls p := by
  intro q hq hcalls
  obtain ⟨first', base', segments', h'⟩ := hq.exists_isChain hcalls
  obtain ⟨rfl, htext⟩ := h.derives.split_unique h'.derives h.callsAllowed h'.callsAllowed
    (h.lexemes_eq.symm.trans h'.lexemes_eq) h.areInstances.stopsAt h'.areInstances.stopsAt
  obtain rfl := h.areInstances.unique h'.areInstances hsegments htext
  rw [h.phrase_eq, h'.phrase_eq, hbase base' h'.derives h'.callsAllowed]

/-! ### One lemma for each rule of the grammar -/

section Rules

variable {as bs cs es : List Lexeme} {a b c e : Phrase} {op : Operator} {sign : Sign}

lemma IsOnly.plain (h : Derives (.chain .comparison) ls p) (hcalls : p.CallsAllowed)
    (honly : IsOnly (.chain .comparison) ls p) : IsOnly .conditional ls p := by
  intro q hq hqc
  cases hq with
  | plain hq => exact honly q hq hqc
  | choice hcs _ _ =>
    -- the condition would be all there is
    obtain ⟨-, hrest⟩ := h.split_unique hcs hcalls hqc.1 (List.append_nil _) stopsAt_nil
      (stopsAt_cons.2 (by simp [Lexeme.tightness, Symbol.tightness, Level.tightness]))
    simp at hrest

lemma IsOnly.choice (hc : Derives (.chain .comparison) cs c) (ha : Derives .conditional as a)
    (hcalls : (Phrase.choice c a b).CallsAllowed) (hconly : IsOnly (.chain .comparison) cs c)
    (haonly : IsOnly .conditional as a) (hbonly : IsOnly .conditional bs b) :
    IsOnly .conditional (cs ++ .question :: (as ++ .colon :: bs)) (.choice c a b) := by
  intro q hq hqc
  have hquestion : ∀ {ls}, StopsAt (.chain .comparison) (.question :: ls) :=
    stopsAt_cons.2 (by simp [Lexeme.tightness, Symbol.tightness, Level.tightness])
  have hcolon : ∀ {ls}, StopsAt .conditional (.colon :: ls) :=
    stopsAt_cons.2 (by simp [Lexeme.tightness])
  generalize htext : cs ++ .question :: (as ++ .colon :: bs) = ls at hq
  cases hq with
  | plain hq =>
    obtain ⟨-, hrest⟩ := hq.split_unique hc hqc hcalls.1 ((List.append_nil _).trans htext.symm)
      stopsAt_nil hquestion
    simp at hrest
  | choice hc' ha' hb' =>
    obtain ⟨rfl, hvalues⟩ := hc.split_unique hc' hcalls.1 hqc.1 htext hquestion hquestion
    obtain ⟨rfl, hvalue⟩ := ha.split_unique ha' hcalls.2.1 hqc.2.1 (List.cons.inj hvalues).2
      hcolon hcolon
    obtain rfl := (List.cons.inj hvalue).2
    rw [hconly _ hc' hqc.1, haonly _ ha' hqc.2.1, hbonly _ hb' hqc.2.2]

lemma IsOnly.unsigned (h : Derives .powered ls p) (honly : IsOnly .powered ls p) :
    IsOnly .signed ls p := by
  intro q hq hqc
  cases hq with
  | unsigned hq => exact honly q hq hqc
  | signed _ _ =>
    obtain ⟨l, rest, hl, hstart⟩ := h.exists_cons
    obtain ⟨rfl, -⟩ := List.cons.inj hl
    simp [Symbol.startsWith] at hstart

lemma IsOnly.signed (hsign : op.sign? = some sign) (honly : IsOnly .signed ls p) :
    IsOnly .signed (.operator op :: ls) (.signed sign p) := by
  intro q hq hqc
  cases hq with
  | unsigned hq =>
    obtain ⟨l, rest, hl, hstart⟩ := hq.exists_cons
    obtain ⟨rfl, -⟩ := List.cons.inj hl
    simp [Symbol.startsWith] at hstart
  | signed hsign' hq =>
    obtain rfl := Option.some.inj (hsign.symm.trans hsign')
    rw [honly _ hq hqc]

lemma IsOnly.base (h : Derives .primary ls p) (hcalls : p.CallsAllowed)
    (honly : IsOnly .primary ls p) : IsOnly .powered ls p := by
  intro q hq hqc
  cases hq with
  | base hq => exact honly q hq hqc
  | power hbs _ =>
    obtain ⟨-, hrest⟩ := h.split_unique hbs hcalls hqc.1 (List.append_nil _) stopsAt_nil
      (stopsAt_cons.2 (by simp [Lexeme.tightness, Symbol.tightness, Operator.level?]))
    simp at hrest

lemma IsOnly.power (hb : Derives .primary bs b) (hcalls : (Phrase.power b e).CallsAllowed)
    (hbonly : IsOnly .primary bs b) (heonly : IsOnly .signed es e) :
    IsOnly .powered (bs ++ .operator .pow :: es) (.power b e) := by
  intro q hq hqc
  have hpow : ∀ {ls}, StopsAt .primary (.operator .pow :: ls) :=
    stopsAt_cons.2 (by simp [Lexeme.tightness, Symbol.tightness, Operator.level?])
  generalize htext : bs ++ .operator .pow :: es = ls at hq
  cases hq with
  | base hq =>
    obtain ⟨-, hrest⟩ := hq.split_unique hb hqc hcalls.1 ((List.append_nil _).trans htext.symm)
      stopsAt_nil hpow
    simp at hrest
  | power hb' he' =>
    obtain ⟨rfl, hexponent⟩ := hb.split_unique hb' hcalls.1 hqc.1 htext hpow hpow
    obtain rfl := (List.cons.inj hexponent).2
    rw [hbonly _ hb' hqc.1, heonly _ he' hqc.2]

lemma IsOnly.number (digits : String) : IsOnly .primary [.number digits] (.number digits) := by
  intro q hq _
  generalize htext : [Lexeme.number digits] = ls at hq
  cases hq <;> simp_all

lemma IsOnly.word (name : String) : IsOnly .primary [.name name] (.word name) := by
  intro q hq _
  generalize htext : [Lexeme.name name] = ls at hq
  cases hq <;> simp_all

lemma IsOnly.group (honly : IsOnly .conditional ls p) :
    IsOnly .primary (.openParen :: (ls ++ [.closeParen])) (.group p) := by
  intro q hq hqc
  generalize htext : Lexeme.openParen :: (ls ++ [.closeParen]) = text at hq
  cases hq with
  | group hq =>
    obtain rfl := List.append_cancel_right (List.cons.inj htext).2
    rw [honly _ hq hqc]
  | _ => simp at htext

/-- The arguments of a call after the first one as segments. -/
def argumentSegments (args : List (List Lexeme × Phrase)) : List Segment :=
  args.map fun a => ⟨.comma, a.1, a.2⟩

/-- The first argument of a call stands by itself, and the others are segments. -/
lemma separated_cons (a : List Lexeme × Phrase) (args : List (List Lexeme × Phrase)) :
    separated ((a :: args).map (·.1)) = a.1 ++ Segment.text (argumentSegments args) := by
  simp [separated, Segment.text, argumentSegments, List.flatMap_map]

/-- Arguments with the same segments are the same. -/
lemma argumentSegments_inj {args args' : List (List Lexeme × Phrase)}
    (h : argumentSegments args = argumentSegments args') : args = args' := by
  refine (List.map_inj_right fun a a' ha => ?_).1 h
  obtain ⟨-, hlexemes, hphrase⟩ := Segment.mk.inj ha
  exact Prod.ext hlexemes hphrase

/-- Derived arguments with calls of functions only are segments. -/
lemma areInstances_argumentSegments {args : List (List Lexeme × Phrase)}
    (hargs : ∀ a ∈ args, Derives .conditional a.1 a.2) (hcalls : ∀ a ∈ args, a.2.CallsAllowed) :
    Segment.AreInstances .conditional (argumentSegments args) := by
  intro x hx
  obtain ⟨a, ha, rfl⟩ := List.mem_map.1 hx
  exact ⟨by simp [Lexeme.tightness], hargs a ha, hcalls a ha⟩

/-- The arguments of a call are the same if their lexemes are. -/
lemma arguments_unique {args args' : List (List Lexeme × Phrase)}
    (hargs : ∀ a ∈ args, Derives .conditional a.1 a.2)
    (hargs' : ∀ a ∈ args', Derives .conditional a.1 a.2)
    (hcalls : ∀ a ∈ args, a.2.CallsAllowed) (hcalls' : ∀ a ∈ args', a.2.CallsAllowed)
    (honly : ∀ a ∈ args, IsOnly .conditional a.1 a.2)
    (h : separated (args.map (·.1)) = separated (args'.map (·.1))) : args = args' := by
  -- an argument has a lexeme, so no arguments and some are different lexemes
  have hne : ∀ (a : List Lexeme × Phrase) args, Derives .conditional a.1 a.2 →
      separated ((a :: args).map (·.1)) ≠ [] := by
    intro a args ha hnil
    rw [separated_cons, List.append_eq_nil_iff] at hnil
    exact ha.ne_nil hnil.1
  cases args with
  | nil =>
    cases args' with
    | nil => rfl
    | cons a' args' => exact absurd h.symm (hne a' args' (hargs' a' List.mem_cons_self))
  | cons a args =>
    cases args' with
    | nil => exact absurd h (hne a args (hargs a List.mem_cons_self))
    | cons a' args' =>
      obtain ⟨ha, hargs⟩ := List.forall_mem_cons.1 hargs
      obtain ⟨ha', hargs'⟩ := List.forall_mem_cons.1 hargs'
      obtain ⟨hac, hcalls⟩ := List.forall_mem_cons.1 hcalls
      obtain ⟨hac', hcalls'⟩ := List.forall_mem_cons.1 hcalls'
      obtain ⟨haonly, honly⟩ := List.forall_mem_cons.1 honly
      have hsegments := areInstances_argumentSegments hargs hcalls
      have hsegments' := areInstances_argumentSegments hargs' hcalls'
      rw [separated_cons, separated_cons] at h
      obtain ⟨hlexemes, htext⟩ :=
        ha.split_unique ha' hac hac' h hsegments.stopsAt hsegments'.stopsAt
      have hphrase : a.2 = a'.2 := haonly _ (hlexemes ▸ ha') hac'
      have hrest : argumentSegments args = argumentSegments args' := by
        refine hsegments.unique hsegments' ?_ htext
        intro x hx
        obtain ⟨b, hb, rfl⟩ := List.mem_map.1 hx
        exact honly b hb
      rw [Prod.ext hlexemes hphrase, argumentSegments_inj hrest]

lemma IsOnly.call (name : String) {args : List (List Lexeme × Phrase)}
    (hargs : ∀ a ∈ args, Derives .conditional a.1 a.2) (hcalls : ∀ a ∈ args, a.2.CallsAllowed)
    (honly : ∀ a ∈ args, IsOnly .conditional a.1 a.2) :
    IsOnly .primary (.name name :: .openParen :: (separated (args.map (·.1)) ++ [.closeParen]))
      (.call name (args.map (·.2))) := by
  intro q hq hqc
  generalize htext : Lexeme.name name :: .openParen ::
    (separated (args.map (·.1)) ++ [.closeParen]) = text at hq
  cases hq with
  | call name' hargs' =>
    rw [List.cons.injEq, List.cons.injEq, Lexeme.name.injEq] at htext
    obtain ⟨rfl, -, htext⟩ := htext
    have hcalls' := Phrase.allCallsAllowed_iff.1 hqc.2
    rw [List.forall_mem_map] at hcalls'
    rw [arguments_unique hargs hargs' hcalls hcalls' honly (List.append_cancel_right htext)]
  | _ => simp at htext

end Rules

/-! ### All symbols -/

/-- There is one phrase for some lexemes; of a chain, one for each of its operands. -/
def Settles : Symbol → List Lexeme → Phrase → Prop
  | .chain level, ls, p => ∃ first base segments, IsChain level ls p first base segments ∧
      IsOnly level.operand first base ∧
      ∀ x ∈ segments, IsOnly level.operand x.lexemes x.phrase
  | sym, ls, p => IsOnly sym ls p

/-- Lexemes that are settled have one phrase. -/
lemma Settles.isOnly (h : Settles sym ls p) : IsOnly sym ls p := by
  cases sym with
  | chain level =>
    obtain ⟨first, base, segments, hchain, hbase, hsegments⟩ := h
    exact hchain.isOnly hbase hsegments
  | _ => exact h

/-- Derived lexemes are settled, if all calls are of functions.

**Proof sketch.** Induction on the derivation, with one case for each rule of the grammar. A chain
is taken apart into its operands, and each case adds one to them. -/
lemma Derives.settles (h : Derives sym ls p) (hcalls : p.CallsAllowed) : Settles sym ls p := by
  induction h with
  | plain h ih => exact IsOnly.plain h hcalls (ih hcalls).isOnly
  | choice hc ha _ ihc iha ihb =>
    exact IsOnly.choice hc ha hcalls (ihc hcalls.1).isOnly (iha hcalls.2.1).isOnly
      (ihb hcalls.2.2).isOnly
  | single h ih => exact ⟨_, _, _, .single h hcalls, (ih hcalls).isOnly, by simp⟩
  | binary _ hop hr ihl ihr =>
    obtain ⟨first, base, segments, hchain, hbase, hsegments⟩ := ihl hcalls.1
    refine ⟨first, base, _, hchain.binary hop hr hcalls.2, hbase, ?_⟩
    intro x hx
    rcases List.mem_append.1 hx with hx | hx
    · exact hsegments x hx
    · obtain rfl := List.mem_singleton.1 hx
      exact (ihr hcalls.2).isOnly
  | unsigned h ih => exact IsOnly.unsigned h (ih hcalls).isOnly
  | signed hsign _ ih => exact IsOnly.signed hsign (ih hcalls).isOnly
  | base h ih => exact IsOnly.base h hcalls (ih hcalls).isOnly
  | power hb _ ihb ihe =>
    exact IsOnly.power hb hcalls (ihb hcalls.1).isOnly (ihe hcalls.2).isOnly
  | number digits => exact IsOnly.number digits
  | word name => exact IsOnly.word name
  | group _ ih => exact IsOnly.group (ih hcalls).isOnly
  | call name hargs ih =>
    have hcalls := Phrase.allCallsAllowed_iff.1 hcalls.2
    rw [List.forall_mem_map] at hcalls
    exact IsOnly.call name hargs hcalls fun a ha => (ih a ha (hcalls a ha)).isOnly

/-- **The grammar assigns one phrase** to the lexemes of a formula whose calls are all of
functions. -/
theorem Derives.unique (hp : Derives sym ls p) (hq : Derives sym ls q) (hpc : p.CallsAllowed)
    (hqc : q.CallsAllowed) : p = q :=
  (hp.settles hpc).isOnly q hq hqc

end Tariff.Formula
