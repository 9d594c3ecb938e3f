import CodeConventions.Proofs.Json.Overlay
import CodeConventions.Proofs.Json.RoundTrip
import CodeConventions.Proofs.Settings.Construction

/-!
# How options are spelled

A field of a record of options may be given under two keys: its name in mixed case, and the same
name in small letters with underscores.  As long as no field is given twice, it does not matter
which of the two is used, neither in the record nor in a record inside it
(`value?_readRecord_of_respelled`).  What is written of a record has all fields under their names in
mixed case, and is read back as the same record (`readRecord_writeRecord`).

Main statement: `Rule.IsBuiltin.configureWith_respelled`.

## Strategy

The two spellings of a field are read as one name (`fieldName`).  Where no two entries are read as
one name, the entry that gives a field is the first one that is read as its name (`givenKey?_eq`),
and whether an entry is unknown is a matter of that name, too.  So entries with different spellings
are compared by what they are read as.

Each kind of field has two lemmas: its values are read alike however they are spelled inside, and
what it writes is read as the setting of its value.  The records are put together from these.
-/

namespace CodeConventions

/-! ## Spellings of names -/

/-- The key is one of the two spellings of the name. -/
def spells (name key : String) : Bool := key == name || key == snakeCase name

/-- The name that a key spells, if it spells one of the names; other keys are kept as they are. -/
def fieldName (names : List String) (key : String) : String :=
  (names.find? fun name => spells name key).getD key

/-- No key spells two of the names. -/
def SpelledApart (names : List String) : Prop :=
  ∀ a ∈ names, ∀ b ∈ names, (spells a b || spells a (snakeCase b)) = true → a = b

instance (names : List String) : Decidable (SpelledApart names) :=
  inferInstanceAs (Decidable (∀ a ∈ names, ∀ b ∈ names, _ = true → a = b))

/-- No two of the entries give one field. -/
def GivesOnce (names : List String) (es : Json.Entries) : Prop :=
  (es.map fun e => fieldName names e.1).Nodup

instance (names : List String) (es : Json.Entries) : Decidable (GivesOnce names es) :=
  inferInstanceAs (Decidable (List.Nodup _))

section Names

variable {names : List String} {a b key : String} {es es' : Json.Entries} {e e' : String × Json}

theorem spells_iff : spells a key = true ↔ key = a ∨ key = snakeCase a := by
  rw [spells, Bool.or_eq_true, beq_iff_eq, beq_iff_eq]

theorem SpelledApart.eq_of_spells (hapart : SpelledApart names) (ha : a ∈ names) (hb : b ∈ names)
    (hkey : spells a key = true) (hkey' : spells b key = true) : a = b := by
  refine hapart a ha b hb (Bool.or_eq_true _ _ |>.mpr ?_)
  rcases spells_iff.mp hkey' with rfl | rfl
  · exact .inl hkey
  · exact .inr hkey

theorem SpelledApart.fieldName_eq_iff (hapart : SpelledApart names) (ha : a ∈ names) :
    fieldName names key = a ↔ spells a key = true := by
  rw [fieldName]
  cases hfind : names.find? fun name => spells name key with
  | none =>
      have hnone := List.find?_eq_none.mp hfind a ha
      refine iff_of_false (fun hkey => hnone ?_) hnone
      exact spells_iff.mpr (.inl hkey)
  | some b =>
      have hb := List.find?_some hfind
      have hmem := List.mem_of_find?_eq_some hfind
      constructor
      · rintro rfl
        exact hb
      · exact hapart.eq_of_spells hmem ha hb

theorem SpelledApart.fieldName_name (hapart : SpelledApart names) (ha : a ∈ names) :
    fieldName names a = a :=
  (hapart.fieldName_eq_iff ha).mpr (spells_iff.mpr (.inl rfl))

theorem GivesOnce.keys_nodup (honce : GivesOnce names es) : (es.map Prod.fst).Nodup := by
  refine List.Nodup.of_map (fieldName names) ?_
  rw [List.map_map]
  exact honce

/-- Entries that give one field are one entry. -/
theorem GivesOnce.eq_of_mem (honce : GivesOnce names es) (he : e ∈ es) (he' : e' ∈ es)
    (h : fieldName names e.1 = fieldName names e'.1) : e = e' :=
  List.inj_on_of_nodup_map honce he he' h

theorem GivesOnce.get?_of_mem (honce : GivesOnce names es) (he : e ∈ es) :
    es.get? e.1 = some e.2 := by
  cases hget : es.get? e.1 with
  | none => exact absurd (List.mem_map_of_mem he) (Json.Entries.get?_eq_none_iff.mp hget)
  | some v =>
      have heq := honce.eq_of_mem (Json.Entries.mem_of_get? hget) he rfl
      rw [← heq]

end Names

/-! ## Entries that give a field -/

namespace Field

variable {σ : Type} {fields : List (Field σ)} {f : Field σ} {es es' : Json.Entries}
  {defaults : σ}

/-- The names of some fields. -/
def names (fields : List (Field σ)) : List String := fields.map Field.name

/-- The entry that gives the field with the name. -/
def entryOf? (names : List String) (es : Json.Entries) (name : String) : Option (String × Json) :=
  es.find? fun e => fieldName names e.1 == name

theorem entryOf?_eq_some_iff {names : List String} {name : String} {e : String × Json}
    (honce : GivesOnce names es) :
    entryOf? names es name = some e ↔ e ∈ es ∧ fieldName names e.1 = name := by
  unfold entryOf?
  constructor
  · intro h
    have hname := List.find?_some h
    exact ⟨List.mem_of_find?_eq_some h, beq_iff_eq.mp hname⟩
  · rintro ⟨he, rfl⟩
    cases hfind : es.find? fun x => fieldName names x.1 == fieldName names e.1 with
    | none => exact absurd (beq_self_eq_true _) (List.find?_eq_none.mp hfind e he)
    | some e' =>
        have hname := List.find?_some hfind
        rw [honce.eq_of_mem (List.mem_of_find?_eq_some hfind) he (beq_iff_eq.mp hname)]

section Given

variable (hapart : SpelledApart (names fields)) (honce : GivesOnce (names fields) es)
include hapart honce

/-- A field is given under the key of the one entry that is read as its name. -/
theorem givenKey?_eq (hf : f ∈ fields) :
    f.givenKey? es = (entryOf? (names fields) es f.name).map Prod.fst := by
  have hname : f.name ∈ names fields := List.mem_map_of_mem hf
  rw [givenKey?]
  cases hentry : entryOf? (names fields) es f.name with
  | none =>
      have hnone : ∀ key, spells f.name key = true → es.get? key = none := by
        intro key hkey
        rw [Json.Entries.get?_eq_none_iff]
        intro hmem
        obtain ⟨e, he, rfl⟩ := List.mem_map.mp hmem
        exact List.find?_eq_none.mp hentry e he
          (beq_iff_eq.mpr ((hapart.fieldName_eq_iff hname).mpr hkey))
      rw [hnone _ (spells_iff.mpr (.inl rfl)), hnone _ (spells_iff.mpr (.inr rfl))]
      rfl
  | some e =>
      obtain ⟨he, hfield⟩ := (entryOf?_eq_some_iff honce).mp hentry
      have hget := honce.get?_of_mem he
      rw [Option.map_some]
      cases hplain : es.get? f.name with
      | some v =>
          -- the entry under the name itself is the one that gives the field
          have heq := honce.eq_of_mem (Json.Entries.mem_of_get? hplain) he
            ((hapart.fieldName_name hname).trans hfield.symm)
          rw [← heq]
          rfl
      | none =>
          rcases spells_iff.mp ((hapart.fieldName_eq_iff hname).mp hfield) with hkey | hkey
          · rw [hkey, hplain] at hget
            cases hget
          · rw [hkey] at hget ⊢
            rw [hget]
            rfl

/-- The change to a field is read off the entry that gives it. -/
theorem value?_change (hf : f ∈ fields) :
    (f.change es).value? =
      match entryOf? (names fields) es f.name with
      | none => some id
      | some e => (f.read e.2).value? := by
  rw [change, givenKey?_eq hapart honce hf]
  cases hentry : entryOf? (names fields) es f.name with
  | none => rfl
  | some e =>
      dsimp only [Option.map_some]
      rw [honce.get?_of_mem ((entryOf?_eq_some_iff honce).mp hentry).1, Option.getD_some]
      cases f.read e.2 <;> rfl

/-- All keys give fields exactly if all spell names of fields. -/
theorem unknownKeys_eq_nil_iff :
    unknownKeys fields es = [] ↔ ∀ e ∈ es, fieldName (names fields) e.1 ∈ names fields := by
  rw [unknownKeys, List.map_eq_nil_iff, List.filter_eq_nil_iff]
  simp only [List.forall_mem_map, Bool.not_eq_true', Bool.not_eq_false, List.contains_iff_mem,
    List.mem_filterMap]
  refine forall₂_congr fun e he => ?_
  constructor
  · rintro ⟨f, hf, hkey⟩
    rw [givenKey?_eq hapart honce hf] at hkey
    obtain ⟨e', hentry, hkey⟩ := Option.map_eq_some_iff.mp hkey
    obtain ⟨-, hname⟩ := (entryOf?_eq_some_iff honce).mp hentry
    rw [← hkey, hname]
    exact List.mem_map_of_mem hf
  · intro hmem
    obtain ⟨f, hf, hname⟩ := List.mem_map.mp hmem
    refine ⟨f, hf, ?_⟩
    rw [givenKey?_eq hapart honce hf, (entryOf?_eq_some_iff honce).mpr ⟨he, hname.symm⟩]
    rfl

end Given

end Field

/-! ## Entries with other spellings -/

/-- The second entries give the same as the first ones in the same order, under keys that spell the
same names; the values may differ in the way given. -/
def RespelledEntries (names : List String) (inner : Json → Json → Prop) :
    Json.Entries → Json.Entries → Prop :=
  List.Forall₂ fun e e' => fieldName names e.1 = fieldName names e'.1 ∧ inner e.2 e'.2

/-- The second value is the first one with other spellings of the names as keys, if it is an object
that gives no field twice; the values in it may differ in the way given.  Nothing is kept of an
object with a key that is no text, so nothing is asked of it. -/
inductive Json.Respelled (names : List String) (inner : Json → Json → Prop) : Json → Json → Prop
  | same (j : Json) : Respelled names inner j j
  | unkeyed (key key' : List Nat) (keys keys' : List (List Nat)) :
      Respelled names inner (.unkeyed key keys) (.unkeyed key' keys')
  | object {es es' : Json.Entries} (honce : GivesOnce names es)
      (h : RespelledEntries names inner es es') : Respelled names inner (.object es) (.object es')

theorem RespelledEntries.map_fieldName {names : List String} {inner : Json → Json → Prop}
    {es es' : Json.Entries} (h : RespelledEntries names inner es es') :
    (es.map fun e => fieldName names e.1) = es'.map fun e => fieldName names e.1 := by
  induction h with
  | nil => rfl
  | cons hhead _ ih => rw [List.map_cons, List.map_cons, hhead.1, ih]

theorem RespelledEntries.givesOnce {names : List String} {inner : Json → Json → Prop}
    {es es' : Json.Entries} (h : RespelledEntries names inner es es')
    (honce : GivesOnce names es) : GivesOnce names es' := by
  rwa [GivesOnce, ← h.map_fieldName]

namespace Checked

variable {α β γ : Type}

theorem value?_map (f : α → β) (a : Checked α) : (a.map f).value? = a.value?.map f := by
  cases a <;> rfl

theorem value?_combine_congr {f : α → β → γ} {a a' : Checked α} {b b' : Checked β}
    (ha : a.value? = a'.value?) (hb : b.value? = b'.value?) :
    (combine f a b).value? = (combine f a' b').value? := by
  have hcombine : ∀ (x : Checked α) (y : Checked β), (combine f x y).value? =
      x.value?.bind fun u => y.value?.map (f u) := by
    intro x y
    cases x <;> cases y <;> rfl
  rw [hcombine, hcombine, ha, hb]

end Checked

namespace Field

variable {σ : Type} {fields : List (Field σ)} {f : Field σ} {es es' : Json.Entries}
  {defaults : σ} {inner : Json → Json → Prop}

theorem entryOf?_respelled {names : List String} (h : RespelledEntries names inner es es')
    (name : String) :
    Option.Rel (fun e e' => inner e.2 e'.2) (entryOf? names es name) (entryOf? names es' name) := by
  unfold entryOf?
  induction h with
  | nil => exact .none
  | @cons e e' es es' hhead _ ih =>
      rw [List.find?_cons, List.find?_cons, hhead.1]
      cases fieldName names e'.1 == name with
      | true => exact .some hhead.2
      | false => exact ih

theorem value?_changes_congr (h : ∀ f ∈ fields, (f.change es).value? = (f.change es').value?) :
    (changes es fields).value? = (changes es' fields).value? := by
  induction fields with
  | nil => rfl
  | cons f fields ih =>
      exact Checked.value?_combine_congr (h f List.mem_cons_self)
        (ih fun g hg => h g (List.mem_cons_of_mem f hg))

theorem value?_readRecord :
    (readRecord fields defaults es).value? =
      if unknownKeys fields es = [] then (changes es fields).value?.map (· defaults) else none := by
  rw [readRecord]
  cases changes es fields <;> cases unknownKeys fields es <;> rfl

/-- Entries with other spellings describe the same record, if the fields read their values
alike. -/
theorem value?_readRecord_of_respelled (hapart : SpelledApart (names fields))
    (hinner : ∀ f ∈ fields, ∀ v v', inner v v' → (f.read v).value? = (f.read v').value?)
    (honce : GivesOnce (names fields) es) (h : RespelledEntries (names fields) inner es es') :
    (readRecord fields defaults es).value? = (readRecord fields defaults es').value? := by
  have hnames := h.map_fieldName
  have honce' := h.givesOnce honce
  have hchanges : ∀ f ∈ fields, (f.change es).value? = (f.change es').value? := by
    intro f hf
    rw [value?_change hapart honce hf, value?_change hapart honce' hf]
    have hentries := entryOf?_respelled h f.name
    generalize entryOf? (names fields) es f.name = given at hentries ⊢
    generalize entryOf? (names fields) es' f.name = given' at hentries ⊢
    cases hentries with
    | none => rfl
    | some hvalues => exact hinner f hf _ _ hvalues
  have hunknown : unknownKeys fields es = [] ↔ unknownKeys fields es' = [] := by
    rw [unknownKeys_eq_nil_iff hapart honce, unknownKeys_eq_nil_iff hapart honce']
    have hmem : ∀ xs : Json.Entries, (∀ e ∈ xs, fieldName (names fields) e.1 ∈ names fields) ↔
        ∀ name ∈ xs.map fun e => fieldName (names fields) e.1, name ∈ names fields := fun xs =>
      List.forall_mem_map.symm
    rw [hmem, hmem, hnames]
  rw [value?_readRecord, value?_readRecord, value?_changes_congr hchanges]
  exact if_congr hunknown rfl rfl

/-! ## Records that are written -/

theorem changes_eq_good {s : σ} {us : List (σ → σ)}
    (hread : List.Forall₂ (fun f u => f.read (f.write s) = .good u) fields us)
    (hchange : ∀ f ∈ fields, ∀ u, f.read (f.write s) = .good u → f.change es = .good u) :
    changes es fields = .good fun t => us.foldl (fun t u => u t) t := by
  induction hread with
  | nil => rfl
  | @cons f u fields us hhead _ ih =>
      rw [changes, hchange f List.mem_cons_self u hhead,
        ih fun g hg => hchange g (List.mem_cons_of_mem f hg)]
      rfl

section Written

variable {s : σ} (hapart : SpelledApart (names fields)) (hnodup : (names fields).Nodup)

theorem map_fst_writeRecord : (writeRecord fields s).map Prod.fst = names fields := by
  rw [writeRecord, List.map_map, names]
  rfl

include hapart

/-- What is written is read as the names that it is written under. -/
theorem map_fieldName_writeRecord :
    (writeRecord fields s).map (fun e => fieldName (names fields) e.1) = names fields := by
  rw [writeRecord, List.map_map, names]
  refine List.map_congr_left fun f hf => ?_
  exact hapart.fieldName_name (List.mem_map_of_mem hf)

include hnodup

theorem givesOnce_writeRecord : GivesOnce (names fields) (writeRecord fields s) := by
  rwa [GivesOnce, map_fieldName_writeRecord hapart]

theorem unknownKeys_writeRecord : unknownKeys fields (writeRecord fields s) = [] := by
  rw [unknownKeys_eq_nil_iff hapart (givesOnce_writeRecord hapart hnodup)]
  intro e he
  have hmem : fieldName (names fields) e.1 ∈
      (writeRecord fields s).map fun e => fieldName (names fields) e.1 :=
    List.mem_map_of_mem he
  rwa [map_fieldName_writeRecord hapart] at hmem

/-- A field is changed to what is written of it. -/
theorem change_writeRecord {f : Field σ} {u : σ → σ} (hf : f ∈ fields)
    (hu : f.read (f.write s) = .good u) : f.change (writeRecord fields s) = .good u := by
  have honce := givesOnce_writeRecord (s := s) hapart hnodup
  have hmem : (f.name, f.write s) ∈ writeRecord fields s := List.mem_map_of_mem hf
  have hname : fieldName (names fields) f.name = f.name :=
    hapart.fieldName_name (List.mem_map_of_mem hf)
  rw [change, givenKey?_eq hapart honce hf, (entryOf?_eq_some_iff honce).mpr ⟨hmem, hname⟩]
  dsimp only [Option.map_some]
  rw [honce.get?_of_mem hmem, Option.getD_some, hu]
  rfl

/-- A record that is written is read back, if the defaults with the fields set one after the other
to what the record says are the record. -/
theorem readRecord_writeRecord {us : List (σ → σ)}
    (hread : List.Forall₂ (fun f u => f.read (f.write s) = .good u) fields us)
    (hs : us.foldl (fun t u => u t) defaults = s) :
    readRecord fields defaults (writeRecord fields s) = .good s := by
  have hchanges := changes_eq_good hread fun f hf u hu => change_writeRecord hapart hnodup hf hu
  rw [readRecord, hchanges, unknownKeys_writeRecord hapart hnodup]
  exact congrArg Checked.good hs

end Written

end Field

/-! ## Kinds of fields -/

/-- The names of the fields of a family of written types. -/
def familyNames : List String := Field.names TypeFamilyOptions.fields

/-- The field reads its values alike if only families of types in them are spelled otherwise, and
of a record that it writes it reads the change that sets it. -/
structure Field.Sound {σ : Type} (f : Field σ) (s : σ) (u : σ → σ) : Prop where
  alike : ∀ v v', v.Respelled familyNames (· = ·) v' → (f.read v).value? = (f.read v').value?
  restores : f.read (f.write s) = .good u

/-- The names of the fields are spelled apart, their values are read alike however families of types
in them are spelled, and what is written of a record is read back. -/
structure Field.Lawful {σ : Type} (fields : List (Field σ)) (defaults : σ) : Prop where
  nodup : (Field.names fields).Nodup
  apart : SpelledApart (Field.names fields)
  alike : ∀ f ∈ fields, ∀ v v', v.Respelled familyNames (· = ·) v' →
    (f.read v).value? = (f.read v').value?
  restored : ∀ s, Field.readRecord fields defaults (Field.writeRecord fields s) = .good s

namespace Field

variable {σ : Type} {fields : List (Field σ)} {defaults s : σ} {name : String}

theorem exists_sound_of_mem {f : Field σ} {us : List (σ → σ)}
    (h : List.Forall₂ (fun f u => f.Sound s u) fields us) (hf : f ∈ fields) :
    ∃ u, f.Sound s u := by
  induction h with
  | nil => exact absurd hf List.not_mem_nil
  | cons hhead _ ih =>
      rcases List.mem_cons.mp hf with rfl | hf
      · exact ⟨_, hhead⟩
      · exact ih hf

/-- A record is lawful if its fields are sound and set all of it. -/
theorem Lawful.of_sound (hnodup : (names fields).Nodup) (hapart : SpelledApart (names fields))
    (h : ∀ s, ∃ us : List (σ → σ), List.Forall₂ (fun f u => f.Sound s u) fields us ∧
      us.foldl (fun t u => u t) defaults = s) : Lawful fields defaults where
  nodup := hnodup
  apart := hapart
  alike f hf := by
    obtain ⟨us, hus, _⟩ := h defaults
    obtain ⟨u, hu⟩ := exists_sound_of_mem hus hf
    exact hu.alike
  restored s := by
    obtain ⟨us, hus, hs⟩ := h s
    exact readRecord_writeRecord hapart hnodup (hus.imp fun _ _ hu => hu.restores) hs

theorem sound_flag (get : σ → Bool) (set : Bool → σ → σ) :
    (flag name get set).Sound s (set (get s)) where
  alike v v' h := by cases h <;> rfl
  restores := rfl

/-- A list of texts is read back. -/
theorem listOf_texts (xs : List String) :
    Checked.listOf Checked.text (Json.texts xs) = .good xs := by
  have hitems : ∀ items : List Json, (Checked.indexed items).map Prod.snd = items := by
    intro items
    rw [Checked.indexed, List.map_map]
    exact List.zipIdx_map_fst 0 items
  have hread : ∀ e ∈ Checked.indexed (xs.map Json.text),
      Checked.text e.2 = .good (e.2.text?.getD "") := by
    intro e he
    have hmem : e.2 ∈ (Checked.indexed (xs.map Json.text)).map Prod.snd := List.mem_map_of_mem he
    rw [hitems] at hmem
    obtain ⟨x, _, hx⟩ := List.mem_map.mp hmem
    rw [← hx]
    rfl
  have hback : (Checked.indexed (xs.map Json.text)).map (fun e => e.2.text?.getD "") = xs := by
    calc (Checked.indexed (xs.map Json.text)).map (fun e => e.2.text?.getD "")
        = ((Checked.indexed (xs.map Json.text)).map Prod.snd).map (fun j => j.text?.getD "") := by
          rw [List.map_map]; rfl
      _ = xs := by
          rw [hitems, List.map_map]
          exact List.map_id xs
  rw [Json.texts, Checked.listOf, Checked.all_good _ (fun j => j.text?.getD "") _ hread, hback]

theorem sound_texts (get : σ → List String) (set : List String → σ → σ) :
    (texts name get set).Sound s (set (get s)) where
  alike v v' h := by cases h <;> rfl
  restores := by
    simp only [texts, listOf_texts]
    rfl

theorem sound_choice {α : Type} [DecidableEq α] {choices : List (String × α)} (get : σ → α)
    (set : α → σ → σ)
    (h : ∀ a, ∃ word, (choices.find? fun n => n.2 = a).map Prod.fst = some word ∧
      choices.lookup word = some a) :
    (choice name choices get set).Sound s (set (get s)) where
  alike v v' h := by cases h <;> rfl
  restores := by
    obtain ⟨word, hword, hlookup⟩ := h (get s)
    simp only [choice, hword, Option.getD_some, Checked.named, hlookup]
    rfl

end Field

/-! ## The records of options -/

section Records

open CodeConventions.Field

theorem TypeFamilyOptions.lawful : Lawful TypeFamilyOptions.fields {} :=
  .of_sound (by decide) (by decide) fun _ =>
    ⟨_, .cons (sound_choice _ _ (by intro a; cases a <;> exact ⟨_, rfl, rfl⟩))
      (.cons (sound_texts _ _) .nil), rfl⟩

theorem sound_typeFamily {σ : Type} {s : σ} {name : String} (get : σ → TypeFamilyOptions)
    (set : TypeFamilyOptions → σ → σ) : (typeFamily name get set).Sound s (set (get s)) where
  alike v v' h := by
    cases h with
    | same => rfl
    | unkeyed => rfl
    | @object es es' honce h =>
        -- no family stands in a family, so the values of its fields are the same ones
        have halike : (readRecord TypeFamilyOptions.fields {} es).value? =
            (readRecord TypeFamilyOptions.fields {} es').value? :=
          value?_readRecord_of_respelled TypeFamilyOptions.lawful.apart
            (fun f _ v v' hv => by rw [hv]) honce h
        simp only [typeFamily, record, Checked.value?_map, halike]
  restores := by
    simp only [typeFamily, record, TypeFamilyOptions.lawful.restored]
    rfl

/-- The records of options that checks take are lawful. -/
theorem Check.lawful {c : Check} {k : Configurable} (hk : c.configurable? = some k) :
    Lawful k.fields k.defaults := by
  cases c with
  | throws | methodSignatures | rawMarkup | repeatedAttributes =>
      cases hk
      dsimp only
      exact .of_sound (by decide) (by decide) fun _ => ⟨_, .cons (sound_flag _ _) .nil, rfl⟩
  | reactivity | unknownPrefixes | joinedClasses | incompleteKeys =>
      cases hk
      dsimp only
      exact .of_sound (by decide) (by decide) fun _ => ⟨_, .cons (sound_texts _ _) .nil, rfl⟩
  | eventHandlers | undefinedNames =>
      cases hk
      dsimp only
      exact .of_sound (by decide) (by decide) fun _ =>
        ⟨_, .cons (sound_flag _ _) (.cons (sound_flag _ _) .nil), rfl⟩
  | declaredTypes | styles =>
      cases hk
      dsimp only
      exact .of_sound (by decide) (by decide) fun _ =>
        ⟨_, .cons (sound_texts _ _) (.cons (sound_flag _ _) .nil), rfl⟩
  | reassignableBindings =>
      cases hk
      dsimp only
      exact .of_sound (by decide) (by decide) fun _ =>
        ⟨_, .cons (sound_flag _ _) (.cons (sound_texts _ _) .nil), rfl⟩
  | changesToConstants =>
      cases hk
      dsimp only
      exact .of_sound (by decide) (by decide) fun _ =>
        ⟨_, .cons (sound_texts _ _) (.cons (sound_flag _ _) (.cons (sound_flag _ _) .nil)), rfl⟩
  | writtenTypes =>
      cases hk
      dsimp only
      exact .of_sound (by decide) (by decide) fun _ =>
        ⟨_, .cons (sound_typeFamily _ _) (.cons (sound_typeFamily _ _)
          (.cons (sound_typeFamily _ _) .nil)), rfl⟩
  | emptyElements =>
      cases hk
      dsimp only
      exact .of_sound (by decide) (by decide) fun _ =>
        ⟨_, .cons (sound_choice _ _ (by intro a; cases a <;> exact ⟨_, rfl, rfl⟩))
          (.cons (sound_choice _ _ (by intro a; cases a <;> exact ⟨_, rfl, rfl⟩)) .nil), rfl⟩
  | _ => cases hk

end Records

/-! ## Rules -/

namespace Check

variable {c : Check} {k : Configurable}

/-- With other options a check takes the same options. -/
theorem configurable?_make (hk : c.configurable? = some k) (o : k.Options) :
    (k.make o).configurable? = some { k with options := o } := by
  cases c <;> cases hk <;> rfl

end Check

namespace Rule

variable {q r : Rule} {c : Check} {k : Check.Configurable} {es : Json.Entries} {v : Json}

/-- The names of the options that the rule takes. -/
def optionNames (r : Rule) : List String :=
  match r.detector with
  | .custom _ => []
  | .check c => (c.configurable?.map fun k => Field.names k.fields).getD []

section Options

variable (hq : q.detector = .check c) (hk : c.configurable? = some k)
include hq hk

theorem optionNames_eq : q.optionNames = Field.names k.fields := by
  rw [optionNames, hq]
  dsimp only
  rw [hk]
  rfl

theorem writtenOptions?_eq :
    q.writtenOptions? = some (.object (Field.writeRecord k.fields k.options)) := by
  rw [writtenOptions?, hq]
  dsimp only
  rw [Check.writtenOptions?, hk]
  rfl

/-- The rule takes entries exactly if they describe its options. -/
theorem configure_eq :
    q.configure es =
      match Field.readRecord k.fields k.defaults es with
      | .good o => .ok { q with detector := .check (k.make o) }
      | .bad issues => .error (.invalid issues) := by
  rw [configure, configuredCheck?, hq]
  dsimp only
  rw [Check.configure?, hk, Option.map_some]
  cases Field.readRecord k.fields k.defaults es <;> rfl

theorem toOption_configure :
    (q.configure es).toOption = (Field.readRecord k.fields k.defaults es).value?.map fun o =>
      { q with detector := .check (k.make o) } := by
  rw [configure_eq hq hk]
  cases Field.readRecord k.fields k.defaults es <;> rfl

/-- An object gives its entries. -/
theorem configureWith_object (hkeys : (es.map Prod.fst).Nodup) :
    q.configureWith (.object es) = q.configure es := by
  have hpairs : (Json.object es).pairs? = .ok (es.map fun e => (.text e.1, e.2)) := rfl
  have htext : Json.textEntries (es.map fun e => (Json.text e.1, e.2)) = es := by
    rw [Json.textEntries, List.filterMap_map]
    have hsame : (es.filterMap fun e => some (e.1, e.2)) = es := List.filterMap_some
    exact (congrArg (Json.Entries.update []) hsame).trans (Json.Entries.update_of_nodup hkeys)
  have hall : (es.map fun e => (Json.text e.1, e.2)).all (fun p => p.1.text?.isSome) = true := by
    simp [Json.text?]
  rw [configureWith, writtenOptions?_eq hq hk, hpairs]
  simp only [Except.mapError, bind, Except.bind, htext, hall, if_true]

/-- Whatever options a rule takes are the entries of a record. -/
theorem exists_options_of_configureWith (h : q.configureWith v = .ok r) :
    ∃ o, r = { q with detector := .check (k.make o) } := by
  obtain ⟨es, hes⟩ : ∃ es, q.configure es = .ok r := by
    rw [configureWith, writtenOptions?_eq hq hk] at h
    obtain ⟨pairs, -, h⟩ := Except.bind_eq_ok_iff.mp h
    dsimp only at h
    split at h
    · exact ⟨_, h⟩
    · split at h
      · exact nomatch h
      · exact nomatch h
  rw [configure_eq hq hk] at hes
  cases hread : Field.readRecord k.fields k.defaults es with
  | good o =>
      rw [hread] at hes
      exact ⟨o, (Except.ok.inj hes).symm⟩
  | bad issues =>
      rw [hread] at hes
      cases hes

theorem configure_writeRecord (o : k.Options) :
    q.configureWith (.object (Field.writeRecord k.fields o)) =
      .ok { q with detector := .check (k.make o) } := by
  have hlawful := Check.lawful hk
  have hkeys : ((Field.writeRecord k.fields o).map Prod.fst).Nodup :=
    Field.map_fst_writeRecord ▸ hlawful.nodup
  rw [configureWith_object hq hk hkeys, configure_eq hq hk, hlawful.restored]

end Options

/-- Let a rule of the library take options.  Whether it takes an object, and what it makes of it,
does not depend on how the names of the options are spelled, nor on how those of a family of types
in it are, as long as no option is given twice.  And whatever it takes, the options of the rule that
comes of it are written under all of their names, and are taken again, by that rule and by the first
one, with the same result. -/
theorem IsBuiltin.configureWith_respelled (hq : q.IsBuiltin)
    (hoptions : q.writtenOptions?.isSome = true) :
    (∀ v v' : Json, v.Respelled q.optionNames (Json.Respelled familyNames (· = ·)) v' →
      (q.configureWith v).toOption = (q.configureWith v').toOption) ∧
    ∀ v r, q.configureWith v = .ok r →
      ∃ es, r.writtenOptions? = some (.object es) ∧ es.map Prod.fst = q.optionNames ∧
        r.configureWith (.object es) = .ok r ∧ q.configureWith (.object es) = .ok r := by
  obtain ⟨c, hdetector, -⟩ := hq
  obtain ⟨k, hk⟩ : ∃ k, c.configurable? = some k := by
    rw [writtenOptions?, hdetector] at hoptions
    dsimp only at hoptions
    rw [Check.writtenOptions?, Option.isSome_map] at hoptions
    exact Option.isSome_iff_exists.mp hoptions
  rw [optionNames_eq hdetector hk]
  have hlawful := Check.lawful hk
  constructor
  · intro v v' h
    cases h with
    | same => rfl
    | unkeyed key key' keys keys' =>
        rw [Rule.configureWith, Rule.configureWith, writtenOptions?_eq hdetector hk]
        rfl
    | object honce h =>
        rw [configureWith_object hdetector hk honce.keys_nodup,
          configureWith_object hdetector hk (h.givesOnce honce).keys_nodup,
          toOption_configure hdetector hk, toOption_configure hdetector hk,
          Field.value?_readRecord_of_respelled hlawful.apart hlawful.alike honce h]
  · intro v r h
    obtain ⟨o, rfl⟩ := exists_options_of_configureWith hdetector hk h
    have hmake := Check.configurable?_make hk o
    have hagain := configure_writeRecord (q := { q with detector := .check (k.make o) })
      (k := { k with options := o }) rfl hmake o
    exact ⟨Field.writeRecord k.fields o, writtenOptions?_eq rfl hmake, Field.map_fst_writeRecord,
      hagain, configure_writeRecord hdetector hk o⟩

/-- A family of types, and an option inside it, are given under their names in small letters. -/
theorem configureWith_respelled_returnTypes :
    (ofCheck (.writtenTypes {})).IsBuiltin ∧
      (ofCheck (.writtenTypes {})).writtenOptions?.isSome = true ∧
      Json.Respelled (ofCheck (.writtenTypes {})).optionNames (Json.Respelled familyNames (· = ·))
        (.object [("return_types", .object [("ignore_name_pattern", Json.texts ["^_"])])])
        (.object [("returnTypes", .object [("ignoreNamePattern", Json.texts ["^_"])])]) ∧
      ∃ r es, (ofCheck (.writtenTypes {})).configureWith
          (.object [("return_types", .object [("ignore_name_pattern", Json.texts ["^_"])])]) =
            .ok r ∧
        (ofCheck (.writtenTypes {})).configureWith
          (.object [("returnTypes", .object [("ignoreNamePattern", Json.texts ["^_"])])]) = .ok r ∧
        r.writtenOptions? = some (.object es) ∧
        es.map Prod.fst = ["parameters", "returnTypes", "variables"] ∧
        r.configureWith (.object es) = .ok r := by
  have hq : (ofCheck (.writtenTypes {})).IsBuiltin := isBuiltin_ofCheck _
  have hoptions : (ofCheck (.writtenTypes {})).writtenOptions?.isSome = true := rfl
  have hrespelled : Json.Respelled (ofCheck (.writtenTypes {})).optionNames
      (Json.Respelled familyNames (· = ·))
      (.object [("return_types", .object [("ignore_name_pattern", Json.texts ["^_"])])])
      (.object [("returnTypes", .object [("ignoreNamePattern", Json.texts ["^_"])])]) := by
    have hinner : Json.Respelled familyNames (· = ·)
        (.object [("ignore_name_pattern", Json.texts ["^_"])])
        (.object [("ignoreNamePattern", Json.texts ["^_"])]) :=
      .object (by decide) (.cons ⟨by decide, rfl⟩ .nil)
    exact .object (by decide) (.cons ⟨by decide, hinner⟩ .nil)
  obtain ⟨halike, hrestored⟩ := IsBuiltin.configureWith_respelled hq hoptions
  have htaken : (ofCheck (.writtenTypes {})).configureWith
      (.object [("return_types", .object [("ignore_name_pattern", Json.texts ["^_"])])]) =
        .ok (ofCheck (.writtenTypes { returnTypes := { ignoreNamePattern := ["^_"] } })) := rfl
  obtain ⟨es, hwritten, hkeys, hagain, -⟩ := hrestored _ _ htaken
  have hsame := halike _ _ hrespelled
  rw [htaken] at hsame
  exact ⟨hq, hoptions, hrespelled, _, es, htaken, Except.toOption_eq_some_iff.mp hsame.symm,
    hwritten, hkeys, hagain⟩

end Rule

end CodeConventions
