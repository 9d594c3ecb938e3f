import CodeConventions.Rules.Rule

/-!
# The registry of rules

Rules are registered one after the other, each name once, until the registry is frozen.  A
registration that is refused leaves the registry as it was.  The rules are looked up by name, by
family, or by a selection that joins several conditions.

The registry keeps its rules twice: all of them in one list, and those of each family in a list of
their own, so that a family is found without a look at the other rules.
-/

namespace CodeConventions

/-- Some rules, in the order in which they were registered. -/
structure Registry where
  rules : List Rule
  /-- The same rules under their families, each family at the place of its first rule. -/
  families : List (Category × List Rule)
  isFrozen : Bool

/-- Why the registry refuses. -/
inductive RegistryError where
  | frozen (rule : String)
  | duplicate (rule : String)
  | unknown (rule : String)
  deriving DecidableEq, Repr

/-- The text of a refusal. -/
def RegistryError.message : RegistryError → String
  | .frozen rule => s!"Cannot register '{rule}': registry is frozen"
  | .duplicate rule => s!"Rule '{rule}' is already registered"
  | .unknown rule => s!"Unknown rule '{rule}'"

/-- Which rules are wanted: those of the list and the families given, where nothing given means all,
and none of those that are excluded. -/
structure Selection where
  rules : List String := []
  categories : List Category := []
  excluded : List String := []
  deriving DecidableEq, Repr

/-- The selection wants the rule. -/
def Selection.wants (s : Selection) (r : Rule) : Bool :=
  (s.rules.isEmpty || s.rules.contains r.id)
    && (s.categories.isEmpty || s.categories.contains r.category)
    && !s.excluded.contains r.id

namespace Registry

/-- The registry without rules. -/
def empty : Registry := ⟨[], [], false⟩

/-- The rule with a name. -/
def find? (g : Registry) (id : String) : Option Rule := g.rules.find? fun r => r.id == id

/-- The registry has a rule with the name. -/
def contains (g : Registry) (id : String) : Bool := g.rules.any fun r => r.id == id

/-- The rule with a name, which must be known. -/
def get (g : Registry) (id : String) : Except RegistryError Rule :=
  match g.find? id with
  | some r => .ok r
  | none => .error (.unknown id)

/-- The families with one more rule at the end of its own, which may be new. -/
def withMember (r : Rule) : List (Category × List Rule) → List (Category × List Rule)
  | [] => [(r.category, [r])]
  | (c, members) :: rest =>
    if c = r.category then (c, members ++ [r]) :: rest else (c, members) :: withMember r rest

/-- The registry with one more rule at its end. -/
def register (g : Registry) (r : Rule) : Except RegistryError Registry :=
  if g.isFrozen then .error (.frozen r.id)
  else if g.contains r.id then .error (.duplicate r.id)
  else .ok { g with rules := g.rules ++ [r], families := withMember r g.families }

/-- The registry with more rules, up to the first one that is refused, and that refusal. -/
def registerAll (g : Registry) : List Rule → Registry × Option RegistryError
  | [] => (g, none)
  | r :: rest =>
    match g.register r with
    | .ok next => next.registerAll rest
    | .error e => (g, some e)

/-- The registry that takes no more rules. -/
def freeze (g : Registry) : Registry := { g with isFrozen := true }

/-- The rules of a family. -/
def ofCategory (g : Registry) (c : Category) : List Rule := (g.families.lookup c).getD []

/-- The names of a selection that are not known. -/
def unknownIn (g : Registry) (s : Selection) : List String :=
  (s.rules ++ s.excluded).filter fun id => !g.contains id

/-- The rules that a selection wants, all names in it being known. -/
def select (g : Registry) (s : Selection) : Except RegistryError (List Rule) :=
  match g.unknownIn s with
  | [] => .ok (g.rules.filter s.wants)
  | id :: _ => .error (.unknown id)

/-- A rule is registered in both stores, where the registry is open and does not have its name. -/
theorem register_eq_ok_iff {g next : Registry} {r : Rule} :
    g.register r = .ok next ↔ g.isFrozen = false ∧ g.contains r.id = false ∧
      next = { g with rules := g.rules ++ [r], families := withMember r g.families } := by
  rw [register]
  cases g.isFrozen with
  | true => simp
  | false => cases g.contains r.id <;> simp [eq_comm]

theorem rules_register {g next : Registry} {r : Rule} (h : g.register r = .ok next) :
    next.rules = g.rules ++ [r] := by
  obtain ⟨-, -, rfl⟩ := register_eq_ok_iff.mp h
  rfl

theorem contains_eq_true_iff (g : Registry) (id : String) :
    g.contains id = true ↔ id ∈ g.rules.map Rule.id := by
  simp [contains, List.any_eq_true]

end Registry

end CodeConventions
