/-!
# Comparison operators

The six comparisons of a predicate, each with the token that asks for it in a filter, the symbol
that stands for it in a statement, and its name.

* `Operator.ofToken?`, `Operator.table`: the operator of a token.
-/

namespace FindSelect

/-- A comparison of a column with a value. -/
inductive Operator
  | eq
  | ne
  | gt
  | gte
  | lt
  | lte
  deriving DecidableEq, Repr

namespace Operator

/-- The operators, in the order in which they are listed. -/
def all : List Operator := [.eq, .ne, .gt, .gte, .lt, .lte]

/-- The symbol in a statement. -/
def symbol : Operator → String
  | .eq => "="
  | .ne => "!="
  | .gt => ">"
  | .gte => ">="
  | .lt => "<"
  | .lte => "<="

/-- The token in a filter. -/
def token : Operator → String
  | .eq => "$eq"
  | .ne => "$ne"
  | .gt => "$gt"
  | .gte => "$gte"
  | .lt => "$lt"
  | .lte => "$lte"

/-- The name in a written statement. -/
def name : Operator → String
  | .eq => "Eq"
  | .ne => "Ne"
  | .gt => "Gt"
  | .gte => "Gte"
  | .lt => "Lt"
  | .lte => "Lte"

/-- The operator that a token asks for. -/
def ofToken? (token : String) : Option Operator :=
  match token with
  | "$eq" => some .eq
  | "$ne" => some .ne
  | "$gt" => some .gt
  | "$gte" => some .gte
  | "$lt" => some .lt
  | "$lte" => some .lte
  | _ => none

/-- The operator of a name. -/
def ofName? (name : String) : Option Operator := all.find? (·.name == name)

/-- The tokens with their operators, in the order in which they are listed. -/
def table : List (String × Operator) := all.map fun op => (op.token, op)

/-- The operator that stands beside a token in the table. -/
def lookup? (token : String) : Option Operator := table.lookup token

/-- Whether the table has a token. -/
def isToken (token : String) : Bool := (lookup? token).isSome

/-! ## Tokens and names -/

theorem ofToken?_token (op : Operator) : ofToken? op.token = some op := by
  cases op <;> rfl

/-- Only the token of an operator asks for it. -/
theorem token_of_ofToken? {t : String} {op : Operator} (h : ofToken? t = some op) :
    op.token = t := by
  unfold ofToken? at h
  split at h <;> simp_all [token] <;> subst h <;> rfl

theorem lookup?_eq_ofToken? (t : String) : lookup? t = ofToken? t := by
  cases h : ofToken? t with
  | some op => rw [← token_of_ofToken? h]; cases op <;> rfl
  | none =>
    have hne : ∀ op : Operator, t ≠ op.token := fun op e => by
      rw [e, ofToken?_token] at h; cases h
    have hb (op : Operator) : (t == op.token) = false := beq_eq_false_iff_ne.2 (hne op)
    simp [lookup?, table, all, List.lookup_cons, hb]

theorem token_injective {op op' : Operator} (h : op.token = op'.token) : op = op' := by
  have := ofToken?_token op
  rw [h, ofToken?_token] at this
  exact (Option.some.inj this).symm

theorem ofName?_name (op : Operator) : ofName? op.name = some op := by
  cases op <;> rfl

end Operator

end FindSelect
