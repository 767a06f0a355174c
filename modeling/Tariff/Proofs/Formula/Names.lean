import Tariff.Proofs.Formula.Descent.Failing
import Tariff.Proofs.Formula.Words

/-!
# The names of a formula

The names that a formula calls are functions, and the other names among its tokens are the names of
its tree and the words with a meaning of their own. If a call is the reason that a formula cannot be
read, the name that is called is among its tokens.

## Main results

* `Tariff.Formula.Derives.apart` — derived lexemes are apart.
* `Tariff.Formula.Derives.occurrences_eq` — the names of the tree are those among the lexemes.
* `Tariff.Formula.Derives.isSome_ofName?` — the names that are called are functions.
* `Tariff.Formula.Raised.mem_namesIn` — a call of no function is a call among the tokens.
-/

set_option autoImplicit false

namespace Tariff.Formula

open Tariff.Text

variable {called : Bool} {as bs ls : List Lexeme} {m : Lexeme} {s : String} {sym : Symbol}
  {p : Phrase} {t : Tree}

/-! ### Names of sequences that are put together -/

/-- A mark other than the opening parenthesis separates the names before it from those after. -/
lemma namesIn_append_mark (hm : m.isMark = true) (hparen : m ≠ .openParen) :
    namesIn called (as ++ m :: bs) = namesIn called as ++ namesIn called bs := by
  induction as with
  | nil =>
    cases m with
    | number | name => simp [Lexeme.isMark] at hm
    | _ => rfl
  | cons a as ih =>
    have hnext : ((as ++ m :: bs).head? == some .openParen) = (as.head? == some .openParen) := by
      cases as with
      | nil => simpa using hparen
      | cons b as => rfl
    cases a with
    | name s =>
      rw [List.cons_append, namesIn, namesIn, hnext, ih]
      split <;> rfl
    | _ => exact ih

/-- Commas separate the names of some sequences. -/
lemma namesIn_append_flatMap_comma (ls : List Lexeme) (others : List (List Lexeme)) :
    namesIn called (ls ++ others.flatMap (.comma :: ·)) =
      namesIn called ls ++ others.flatMap (namesIn called) := by
  induction others generalizing ls with
  | nil => rw [List.flatMap_nil, List.append_nil, List.flatMap_nil, List.append_nil]
  | cons o others ih =>
    rw [List.flatMap_cons, List.cons_append, namesIn_append_mark rfl (by simp), ih,
      List.flatMap_cons]

/-- The names between the parentheses of a call are those of its arguments. -/
lemma namesIn_arguments (texts : List (List Lexeme)) :
    namesIn called (separated texts ++ [.closeParen]) = texts.flatMap (namesIn called) := by
  rw [namesIn_append_mark rfl (by simp)]
  cases texts with
  | nil => rfl
  | cons ls others =>
    rw [separated, namesIn_append_flatMap_comma, List.flatMap_cons]
    exact List.append_nil _

/-- The names after some lexemes are among those of all. -/
lemma mem_namesIn_append (h : s ∈ namesIn called bs) (as : List Lexeme) :
    s ∈ namesIn called (as ++ bs) := by
  induction as with
  | nil => exact h
  | cons a as ih =>
    cases a with
    | name n =>
      rw [List.cons_append, namesIn]
      split
      · exact List.mem_cons_of_mem _ ih
      · exact ih
    | _ => exact ih

/-- A sequence that is apart still is after a mark. -/
lemma Apart.cons_mark (hm : m.isMark = true) (hbs : Apart bs) : Apart (m :: bs) :=
  List.isChain_cons.2 ⟨fun _ _ => .inl hm, hbs⟩

/-- Two sequences that are apart still are with a mark between them. -/
lemma Apart.append_mark (hm : m.isMark = true) (has : Apart as) (hbs : Apart bs) :
    Apart (as ++ m :: bs) := by
  refine List.isChain_append.2 ⟨has, hbs.cons_mark hm, ?_⟩
  rintro x - y hy
  obtain rfl : m = y := by simpa using hy
  exact .inr hm

/-! ### Names of derived sequences -/

/-- Derived lexemes are apart. -/
theorem Derives.apart (h : Derives sym ls p) : Apart ls := by
  induction h with
  | plain _ ih | single _ ih | unsigned _ ih | base _ ih => exact ih
  | number | word => exact List.IsChain.singleton _
  | signed _ _ ih => exact ih.cons_mark rfl
  | binary _ _ _ ihl ihr | power _ _ ihl ihr => exact ihl.append_mark rfl ihr
  | choice _ _ _ ihc iha ihb => exact ihc.append_mark rfl (iha.append_mark rfl ihb)
  | group _ ih => exact (ih.append_mark rfl List.IsChain.nil).cons_mark rfl
  | @call name args _ ih =>
    have hargs : Apart (separated (args.map (·.1))) :=
      separated_induction List.IsChain.nil (fun as bs => Apart.append_mark rfl) (by simpa using ih)
    have hname : Apart [.name name] := List.IsChain.singleton _
    exact hname.append_mark rfl (hargs.append_mark rfl List.IsChain.nil)

/-- The names in a call are those in its arguments. -/
lemma Function.occurrences_of_call? {f : Function} {xs : List Tree} (h : f.call? xs = some t) :
    t.occurrences = Tree.occurrencesIn xs := by
  unfold Function.call? at h
  split at h <;> first
    | (obtain rfl := Option.some.inj h; simp [Tree.occurrences, Tree.occurrencesIn])
    | simp at h

/-- A word stands for its name, unless it has a meaning of its own. -/
lemma occurrences_meaning (s : String) :
    (Descent.meaning s).occurrences = [s].filter fun s => !isLiteralName s := by
  unfold Descent.meaning
  split <;> simp_all [Tree.occurrences, isLiteralName]

/-- The names in the trees of some arguments are those of the arguments, one after the other. -/
lemma occurrencesIn_of_trees? {args : List (List Lexeme × Phrase)} {xs : List Tree}
    (names : List Lexeme → List String)
    (h : ∀ a ∈ args, ∀ u : Tree, a.2.tree? = some u → u.occurrences = names a.1)
    (hxs : Phrase.trees? (args.map (·.2)) = some xs) :
    Tree.occurrencesIn xs = (args.map (·.1)).flatMap names := by
  induction args generalizing xs with
  | nil =>
    obtain rfl := Option.some.inj hxs
    rfl
  | cons a args ih =>
    simp only [List.map_cons, Phrase.trees?, Option.bind_eq_bind, Option.bind_eq_some_iff,
      Option.some.injEq] at hxs
    obtain ⟨x, hx, xs', hxs', rfl⟩ := hxs
    rw [Tree.occurrencesIn, List.map_cons, List.flatMap_cons, h a (by simp) x hx,
      ih (fun b hb => h b (List.mem_cons_of_mem _ hb)) hxs']

/-- The names in the tree of a derived phrase are those among its lexemes that are not called,
without the words that have a meaning of their own.

**Proof sketch.** Induction on the derivation. The lexemes are put together with marks, which
separate the names of the parts. -/
theorem Derives.occurrences_eq (h : Derives sym ls p) (ht : p.tree? = some t) :
    t.occurrences = (namesIn false ls).filter fun s => !isLiteralName s := by
  induction h generalizing t with
  | plain _ ih | single _ ih | unsigned _ ih | base _ ih => exact ih ht
  | number digits =>
    obtain rfl := Option.some.inj ht
    rfl
  | word name =>
    obtain rfl := Option.some.inj ht
    exact occurrences_meaning name
  | signed _ _ ih =>
    simp only [Phrase.tree?, Option.map_eq_some_iff] at ht
    obtain ⟨x, hx, rfl⟩ := ht
    show x.occurrences = _
    exact ih hx
  | group _ ih =>
    have hnames := ih ht
    rwa [namesIn, namesIn_append_mark rfl (by simp), namesIn, List.append_nil]
    simp
  | binary _ _ _ ihl ihr | power _ _ ihl ihr =>
    simp only [Phrase.tree?, Option.bind_eq_bind, Option.bind_eq_some_iff, Option.some.injEq] at ht
    obtain ⟨x, hx, y, hy, rfl⟩ := ht
    rw [namesIn_append_mark rfl (by simp), List.filter_append, ← ihl hx, ← ihr hy]
    rfl
  | choice _ _ _ ihc iha ihb =>
    simp only [Phrase.tree?, Option.bind_eq_bind, Option.bind_eq_some_iff, Option.some.injEq] at ht
    obtain ⟨x, hx, y, hy, z, hz, rfl⟩ := ht
    rw [namesIn_append_mark rfl (by simp), namesIn_append_mark rfl (by simp), List.filter_append,
      List.filter_append, ← ihc hx, ← iha hy, ← ihb hz, ← List.append_assoc]
    rfl
  | @call name args _ ih =>
    simp only [Phrase.tree?, Option.bind_eq_bind, Option.bind_eq_some_iff] at ht
    obtain ⟨f, -, xs, hxs, hcall⟩ := ht
    have hargs := occurrencesIn_of_trees?
      (fun text => (namesIn false text).filter fun s => !isLiteralName s)
      (fun a ha u hu => ih a ha hu) hxs
    rw [Function.occurrences_of_call? hcall, hargs, ← List.filter_flatMap, ← namesIn_arguments]
    simp [namesIn]

/-- The names that are called among the lexemes of an allowed phrase are functions. -/
theorem Derives.isSome_ofName? (h : Derives sym ls p) (hp : p.CallsAllowed) :
    ∀ s ∈ namesIn true ls, (Function.ofName? (lowerAscii s)).isSome = true := by
  induction h with
  | plain _ ih | single _ ih | unsigned _ ih | base _ ih => exact ih hp
  | number | word => simp [namesIn]
  | signed _ _ ih => exact ih hp
  | group _ ih =>
    intro s hs
    rw [namesIn, namesIn_append_mark rfl (by simp), namesIn, List.append_nil] at hs
    · exact ih hp s hs
    · simp
  | binary _ _ _ ihl ihr | power _ _ ihl ihr =>
    intro s hs
    rw [namesIn_append_mark rfl (by simp), List.mem_append] at hs
    rcases hs with hs | hs
    · exact ihl hp.1 s hs
    · exact ihr hp.2 s hs
  | choice _ _ _ ihc iha ihb =>
    intro s hs
    rw [namesIn_append_mark rfl (by simp), namesIn_append_mark rfl (by simp), List.mem_append,
      List.mem_append] at hs
    rcases hs with hs | hs | hs
    · exact ihc hp.1 s hs
    · exact iha hp.2.1 s hs
    · exact ihb hp.2.2 s hs
  | @call name args _ ih =>
    obtain ⟨⟨f, hf, -⟩, hargs⟩ := hp
    have hall : ∀ a ∈ args, a.2.CallsAllowed := by
      intro a ha
      exact Phrase.allCallsAllowed_iff.1 hargs a.2 (List.mem_map_of_mem ha)
    intro s hs
    have hs : s = name ∨ s ∈ namesIn true (separated (args.map (·.1)) ++ [.closeParen]) := by
      simpa [namesIn] using hs
    rcases hs with rfl | hs
    · rw [hf, Option.isSome_some]
    · rw [namesIn_arguments, List.mem_flatMap] at hs
      obtain ⟨text, htext, hs⟩ := hs
      obtain ⟨a, ha, rfl⟩ := List.mem_map.1 htext
      exact ih a ha (hall a ha) s hs

/-! ### Calls of no function -/

/-- If a call of no function stops the descent, that name is called among the tokens. -/
theorem Raised.mem_namesIn {d : Descent} {ts : List Token}
    (h : Raised d ts (.unknownFunction s)) :
    s ∈ namesIn true (ts.map Token.lexeme) ∧ Function.ofName? (lowerAscii s) = none := by
  generalize he : Error.unknownFunction s = e at h
  induction h with
  | later us _ ih =>
    obtain ⟨hmem, hnone⟩ := ih he
    rw [List.map_append]
    exact ⟨mem_namesIn_append hmem _, hnone⟩
  | unknownFunction hnone =>
    obtain rfl := Error.unknownFunction.inj he
    exact ⟨by simp [namesIn], hnone⟩
  | _ => simp at he

end Tariff.Formula
