import Tariff.Template
import Tariff.Value.Scalar

/-!
# Templates for a product

A template is for the products of its scope. Of several templates for a product the most special
scope wins, then the highest priority, then the latest date.

## Main definitions

* `Tariff.Product` — what is known of a product.
* `Tariff.Template.reasonFor` — why a template is for a product.
* `Tariff.Match` — a template with the reason why it is for a product.
* `Tariff.Match.all`, `Tariff.Match.best?` — the matches of a product, the best first.
-/

set_option autoImplicit false

namespace Tariff

open Tariff.Text

/-- What is known of a product. What is handed in may not be what it has to be; that comes up only
when it is asked for. -/
structure Product where
  /-- the id, if there is one -/
  id : Except Fault (Option String)
  /-- the vendor, if there is one -/
  vendor : Except Fault (Option String)
  tags : Except Fault (List String)
  collections : Except Fault (List String)

namespace Product

/-- A value as the name of a vendor. -/
def vendorOf (v : Value) : Except Fault (Option String) :=
  if v.isVoid then .ok none
  else match v with
    | .text s => .ok (some s)
    | _ => .error (.noLetters v.kind)

/-- A value as a tag. -/
def tagOf (v : Value) : Except Fault String :=
  match v with
  | .text s => .ok s
  | _ => .error (.noLetters v.kind)

/-- A value as the id of a collection, which only a text can be. -/
def collectionOf (v : Value) : Except Fault (Option String) :=
  match v with
  | .text s => .ok (some s)
  | .list _ | .object _ => .error (.notHashable v.kind)
  | _ => .ok none

/-- The product with the given facts. -/
def ofFacts (id vendor tags collections : Value) : Product where
  id := match id with
    | .null => .ok none
    | v => v.shown.map some
  vendor := vendorOf vendor
  tags := do (← tags.itemsIfAny).mapM tagOf
  collections := do
    let found ← (← collections.itemsIfAny).mapM collectionOf
    .ok (found.filterMap fun c => c)

/-- The product of a request: its id is written as text whatever it is, and its tags and
collections are listed before anything else is asked. -/
def ofRequest (id vendor tags collections : Value) : Except Fault Product := do
  let id ← id.shown
  let tags ← tags.itemsIfAny
  let collections ← collections.itemsIfAny
  .ok (ofFacts (.text id) vendor (.list tags) (.list collections))

end Product

/-- Why a template is for a product. -/
inductive Reason where
  /-- it is for all products -/
  | global
  /-- it names the product -/
  | product (id : String)
  /-- it names the vendor -/
  | vendor (name : String)
  /-- it names tags of the product -/
  | tags (names : List String)
  /-- it names collections of the product -/
  | collections (ids : List String)

/-- A reason in writing. -/
def Reason.text : Reason → String
  | global => "global"
  | product id => "product=" ++ id
  | vendor name => "vendor=" ++ name
  | tags names => "tag=" ++ ",".intercalate names
  | collections ids => "collection=" ++ ",".intercalate ids

/-- The values of a template that are also facts of a product. -/
def hits (values : List String) (isFact : String → Bool) (reason : List String → Reason) :
    Option Reason :=
  match values.filter isFact with
  | [] => none
  | found => some (reason found)

/-- Why a template is for a product, if it is. Vendors and tags are compared in small letters. -/
def Template.reasonFor (t : Template) (p : Product) : Except Fault (Option Reason) :=
  match t.scope with
  | .global => .ok (some .global)
  | .product => do
    let some id := (← p.id) | .ok none
    .ok (if t.scopeValues.contains id then some (.product id) else none)
  | .vendor => do
    let some vendor := (← p.vendor) | .ok none
    let named := t.scopeValues.any fun v => lower v == lower vendor
    .ok (if named then some (.vendor vendor) else none)
  | .tag => do
    let tags := (← p.tags).map lower
    .ok (hits t.scopeValues (fun v => tags.contains (lower v)) .tags)
  | .collection => do
    let collections ← p.collections
    .ok (hits t.scopeValues collections.contains .collections)

/-- A template that is for a product. -/
structure Match where
  template : Template
  reason : Reason
  /-- the creation of the template in seconds; a template without date is the oldest -/
  created : Float

namespace Match

/-- The creation of a template in seconds. -/
def createdSeconds (t : Template) : Except Fault Float :=
  match t.createdAt with
  | some moment => moment.timestamp
  | none => .ok (-1.0 / 0.0)

/-- Whether a match is at least as good as another one. -/
def isAtLeast (a b : Match) : Bool :=
  if a.template.scope.rank ≠ b.template.scope.rank then
    b.template.scope.rank < a.template.scope.rank
  else if a.template.priority ≠ b.template.priority then
    b.template.priority < a.template.priority
  else b.created ≤ a.created

/-- The active templates that are for a product, with the reasons. -/
def candidates (p : Product) : List Template → Except Fault (List (Template × Reason))
  | [] => .ok []
  | t :: rest => do
    let reason ← if t.isActive then t.reasonFor p else .ok none
    let others ← candidates p rest
    match reason with
    | some r => .ok ((t, r) :: others)
    | none => .ok others

/-- The matches of a product, the best first; equally good ones keep the order of the templates. -/
def all (templates : List Template) (p : Product) : Except Fault (List Match) := do
  let found ← candidates p templates
  let dated ← found.mapM fun (t, r) => do .ok (⟨t, r, ← createdSeconds t⟩ : Match)
  .ok (dated.mergeSort isAtLeast)

/-- The template that prices a product. -/
def best? (templates : List Template) (p : Product) : Except Fault (Option Template) := do
  .ok ((← all templates p).head?.map (·.template))

end Match

end Tariff
