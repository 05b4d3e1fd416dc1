import AgentIam.Basic

/-!
# The datalog of `biscuit_auth`

The part of the Biscuit token library that the capability tokens of `auth/biscuit.rs` use, as
the library evaluates it:

* a `Fact` is a predicate name and its terms; a `Check` is `check if`, `check all` or
  `reject if` over one or more queries, each a body of atoms and expressions over the variables
  the body binds;
* `solutions` joins a body against a list of facts, binding variables from left to right, and
  `Check.holds` reads a check over the facts it sees;
* a `Block` holds facts and checks; a `Biscuit` is its authority block and the blocks appended
  to it, and `Biscuit.authorize` is the authorizer with the policy `allow if true`: every check
  of a block holds over the facts it trusts, the authority block's, its own and the
  authorizer's.

Expressions are kept as their meaning, a test of the bindings. Rules, the authorizer's own
checks and policies other than `allow if true`, and the run limits are not modelled: the service
adds none of them, and a token built from its blocks carries none.

`solutions_eq_nil_of_absent`: a body naming a predicate that no visible fact has has no
solution, so a `check if` all of whose queries name one fails (`Check.holds_eq_false`).
-/

namespace AgentIam.Datalog

/-! ### Facts and checks -/

/-- A term: a string, an integer, or another value (a date, bytes, a set), by its text. -/
inductive Term where
  | str (s : String)
  | int (n : ℤ)
  | other (repr : String)
  deriving DecidableEq, Repr

/-- The `Debug` text of a term. -/
def Term.debug : Term → String
  | .str s => "Str(\"" ++ s ++ "\")"
  | .int n => "Integer(" ++ toString n ++ ")"
  | .other r => r

/-- A fact: a predicate name and its terms. -/
structure Fact where
  name : String
  terms : List Term
  deriving DecidableEq, Repr

/-- An argument of a body atom: a variable, or a term to match. -/
inductive Arg where
  | var (name : String)
  | term (t : Term)
  deriving DecidableEq, Repr

/-- A body atom. -/
structure Atom where
  name : String
  args : List Arg
  deriving DecidableEq, Repr

/-- A query: a body of atoms and the expressions over the bindings it makes. -/
structure Query where
  body : List Atom
  expressions : List (List (String × Term) → Bool)

/-- The three kinds of check. -/
inductive CheckKind where
  | checkIf
  | checkAll
  | reject
  deriving DecidableEq, Repr

/-- A check: its kind and its queries, joined by `or`. -/
structure Check where
  kind : CheckKind
  queries : List Query

/-! ### Matching a body -/

/-- Bind one argument to a term under the bindings so far. -/
def matchArg (σ : List (String × Term)) : Arg → Term → Option (List (String × Term))
  | .term t, t' => if t = t' then some σ else none
  | .var v, t' =>
    match σ.lookup v with
    | some t => if t = t' then some σ else none
    | none => some ((v, t') :: σ)

/-- Bind the arguments of an atom to the terms of a fact of its arity. -/
def matchArgs : List (String × Term) → List Arg → List Term → Option (List (String × Term))
  | σ, [], [] => some σ
  | σ, a :: as, t :: ts => (matchArg σ a t).bind fun σ' => matchArgs σ' as ts
  | _, _, _ => none

/-- The extensions of `σ` under which the atom matches a fact. -/
def matchAtom (facts : List Fact) (σ : List (String × Term)) (a : Atom) :
    List (List (String × Term)) :=
  facts.filterMap fun f => if f.name = a.name then matchArgs σ a.args f.terms else none

/-- The bindings under which a body matches the facts, from the bindings `σs`. -/
def solutions (facts : List Fact) :
    List Atom → List (List (String × Term)) → List (List (String × Term))
  | [], σs => σs
  | a :: as, σs => solutions facts as (σs.flatMap fun σ => matchAtom facts σ a)

/-- Some solution of the body satisfies the expressions. -/
def Query.holds (facts : List Fact) (q : Query) : Bool :=
  (solutions facts q.body [[]]).any fun σ => q.expressions.all (· σ)

/-- Every solution of the body satisfies the expressions. -/
def Query.holdsAll (facts : List Fact) (q : Query) : Bool :=
  (solutions facts q.body [[]]).all fun σ => q.expressions.all (· σ)

/-- Whether a check holds over the facts it sees. -/
def Check.holds (facts : List Fact) (c : Check) : Bool :=
  match c.kind with
  | .checkIf => c.queries.any (·.holds facts)
  | .checkAll => c.queries.any (·.holdsAll facts)
  | .reject => !c.queries.any (·.holds facts)

/-! ### Blocks and the authorizer -/

/-- A block: its facts and its checks. -/
structure Block where
  facts : List Fact
  checks : List Check

/-- A token: the authority block, signed by the root key, and the blocks appended to it. -/
structure Biscuit where
  authority : Block
  blocks : List Block

/-- `Authorizer::authorize` with the authorizer facts `authorizerFacts` and `allow if true`:
every check of the authority block holds over the authority facts and the authorizer's, and
every check of an appended block over those and the block's own. -/
def Biscuit.authorize (b : Biscuit) (authorizerFacts : List Fact) : Bool :=
  b.authority.checks.all (·.holds (b.authority.facts ++ authorizerFacts)) &&
    b.blocks.all fun blk => blk.checks.all (·.holds (b.authority.facts ++ blk.facts ++
      authorizerFacts))

/-- `biscuit.append(block)`. -/
def Biscuit.append (b : Biscuit) (blk : Block) : Biscuit := ⟨b.authority, b.blocks ++ [blk]⟩

/-- **Appending a block adds its checks and nothing else**: the appended token is authorized
exactly when the token is and every check of the new block holds. -/
theorem authorize_append (b : Biscuit) (blk : Block) (authorizerFacts : List Fact) :
    (b.append blk).authorize authorizerFacts =
      (b.authorize authorizerFacts &&
        blk.checks.all (·.holds (b.authority.facts ++ blk.facts ++ authorizerFacts))) := by
  simp only [Biscuit.authorize, Biscuit.append, List.all_append, List.all_cons, List.all_nil,
    Bool.and_true, Bool.and_assoc]

/-! ### Predicates no fact has -/

section Absent

variable {facts : List Fact}

@[simp] theorem solutions_nil_bindings (body : List Atom) : solutions facts body [] = [] := by
  induction body with
  | nil => rfl
  | cons a as ih => simpa [solutions] using ih

theorem matchAtom_eq_nil {a : Atom} (h : ∀ f ∈ facts, f.name ≠ a.name)
    (σ : List (String × Term)) : matchAtom facts σ a = [] := by
  simp only [matchAtom, List.filterMap_eq_nil_iff]
  intro f hf
  rw [if_neg (h f hf)]

/-- **A body naming a predicate no fact has has no solution.** -/
theorem solutions_eq_nil_of_absent {a : Atom} (h : ∀ f ∈ facts, f.name ≠ a.name) :
    ∀ {body : List Atom}, a ∈ body → ∀ σs, solutions facts body σs = []
  | b :: bs, hmem, σs => by
    rw [solutions]
    rcases List.mem_cons.1 hmem with rfl | hmem
    · rw [List.flatMap_eq_nil_iff.2 fun σ _ => matchAtom_eq_nil h σ, solutions_nil_bindings]
    · exact solutions_eq_nil_of_absent h hmem _

/-- A `check if` each of whose queries names a predicate no fact has fails. -/
theorem Check.holds_eq_false {c : Check} (hkind : c.kind = .checkIf)
    (h : ∀ q ∈ c.queries, ∃ a ∈ q.body, ∀ f ∈ facts, f.name ≠ a.name) :
    c.holds facts = false := by
  rw [Check.holds, hkind]
  simp only [List.any_eq_false]
  intro q hq
  obtain ⟨a, ha, habs⟩ := h q hq
  simp [Query.holds, solutions_eq_nil_of_absent habs ha]

end Absent

end AgentIam.Datalog
