import CodeConventions.Options.Value

/-!
# Records of options

A record of options is read from the entries of an object and written as one.  Each of its fields
has a name in mixed case, and may also be given by the same name in small letters with underscores;
where both are given, the first one counts and the second one is unknown.  Fields that are not given
keep their defaults, and entries that name no field are issues.
-/

namespace CodeConventions

/-- A field of a record: its name, how it is set from a value, and its value. -/
structure Field (σ : Type) where
  name : String
  read : Json → Checked (σ → σ)
  write : σ → Json

/-- A name in small letters, with an underscore before each letter that was a capital. -/
def snakeCase (name : String) : String :=
  String.ofList (name.toList.flatMap fun c =>
    if Text.isLatinUpper c then ['_', c.toLower] else [c])

namespace Field

variable {σ : Type}

/-- A field that is a flag. -/
def flag (name : String) (get : σ → Bool) (set : Bool → σ → σ) : Field σ :=
  ⟨name, fun j => (Checked.flag j).map set, fun s => .bool (get s)⟩

/-- A field that is a list of texts. -/
def texts (name : String) (get : σ → List String) (set : List String → σ → σ) : Field σ :=
  ⟨name, fun j => (Checked.listOf Checked.text j).map set, fun s => Json.texts (get s)⟩

/-- A field that is one of some named values. -/
def choice {α : Type} [DecidableEq α] (name : String) (names : List (String × α))
    (get : σ → α) (set : α → σ → σ) : Field σ :=
  ⟨name, fun j => (Checked.named (.notOneOf (names.map Prod.fst)) names j).map set,
    fun s => .text (((names.find? fun n => n.2 = get s).map Prod.fst).getD "")⟩

/-- The key under which a field is given. -/
def givenKey? (entries : Json.Entries) (f : Field σ) : Option String :=
  if (entries.get? f.name).isSome then some f.name
  else if (entries.get? (snakeCase f.name)).isSome then some (snakeCase f.name)
  else none

/-- The change that the entries make to a field. -/
def change (entries : Json.Entries) (f : Field σ) : Checked (σ → σ) :=
  match f.givenKey? entries with
  | none => .good id
  | some key => ((f.read ((entries.get? key).getD .null))).under key

/-- The changes that the entries make to some fields, one after the other. -/
def changes (entries : Json.Entries) : List (Field σ) → Checked (σ → σ)
  | [] => .good id
  | f :: fs => Checked.combine (fun g h => h ∘ g) (f.change entries) (changes entries fs)

/-- The issues of the entries that give no field. -/
def unknownKeys (fields : List (Field σ)) (entries : Json.Entries) : List Issue :=
  -- a second spelling of a field that is given is unknown, too
  let given := fields.filterMap (givenKey? entries)
  ((entries.map Prod.fst).filter fun k => !given.contains k).map fun k => ⟨[k], .unknownKey⟩

/-- The record that the entries describe, beginning with its defaults. -/
def readRecord (fields : List (Field σ)) (defaults : σ) (entries : Json.Entries) : Checked σ :=
  let change := changes entries fields
  match change, unknownKeys fields entries with
  | .good f, [] => .good (f defaults)
  | c, unknown => .bad (c.issues ++ unknown)

/-- The entries that describe a record, with all of its fields. -/
def writeRecord (fields : List (Field σ)) (s : σ) : Json.Entries :=
  fields.map fun f => (f.name, f.write s)

/-- A field that is a record itself; `kind` says what is wrong with anything but an object. -/
def record {τ : Type} (name : String) (kind : IssueKind) (fields : List (Field τ)) (defaults : τ)
    (get : σ → τ) (set : τ → σ → σ) : Field σ :=
  ⟨name,
    fun j =>
      match j with
      | .object entries => (readRecord fields defaults entries).map set
      | .unkeyed .. => Checked.fail .brokenText
      | _ => Checked.fail kind,
    fun s => .object (writeRecord fields (get s))⟩

end Field

end CodeConventions
