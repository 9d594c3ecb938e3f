import CodeConventions.Proofs.Json.Overlay
import CodeConventions.Proofs.Settings.Entries

/-!
# Which source a setting comes from

What the caller asks for hides what the file says, and both hide the environment; settings that are
dictionaries are joined with those of the environment instead, key by key.

A setting may be spelled with letters of any case, though, and the caller and the file are put
together under the keys as they are spelled.  Of several spellings the first one counts, and those of
the file come first.  So what the caller asks for is passed over where the file spells the setting
otherwise (`Settings.load_otherSpelling`).  Where there is one spelling, the caller has precedence
over the file.

Main statement: `Settings.load_precedence`.
-/

namespace CodeConventions

/-! ## Records -/

namespace Field

variable {σ : Type} {f g : Field σ} {fields : List (Field σ)} {entries : Json.Entries}
  {change : σ → σ} {s : σ}

/-- The record has in a field what a value says; without a value it has its default there. -/
def Holds (f : Field σ) (defaults : σ) (value : Option Json) (s : σ) : Prop :=
  match value with
  | none => f.write s = f.write defaults
  | some j => ∃ change, f.read j = .good change ∧ f.write s = f.write (change defaults)

/-- A change of a field sets this field, to what it says, and no other one. -/
structure Independent (fields : List (Field σ)) : Prop where
  names : (fields.map name).Nodup
  apart : ∀ f ∈ fields, ∀ g ∈ fields, f.name ≠ g.name → ∀ j change, g.read j = .good change →
    ∀ s, f.write (change s) = f.write s
  whole : ∀ f ∈ fields, ∀ j change, f.read j = .good change →
    ∀ s t, f.write (change s) = f.write (change t)

theorem change_eq (hname : snakeCase f.name = f.name) (entries : Json.Entries) :
    f.change entries =
      match entries.get? f.name with
      | none => .good id
      | some j => (f.read j).under f.name := by
  rw [Field.change, givenKey?, hname]
  cases hvalue : entries.get? f.name with
  | none => rfl
  | some j => simp [hvalue]

/-- The change of a field is none, or it is what the value under the name of the field says. -/
theorem change_cases (hname : snakeCase f.name = f.name) (h : f.change entries = .good change) :
    entries.get? f.name = none ∧ change = id ∨
      ∃ j, entries.get? f.name = some j ∧ f.read j = .good change := by
  rw [change_eq hname] at h
  cases hvalue : entries.get? f.name with
  | none =>
      simp only [hvalue] at h
      exact Or.inl ⟨rfl, (Checked.good.inj h).symm⟩
  | some j =>
      simp only [hvalue] at h
      cases hread : f.read j with
      | good c =>
          rw [hread] at h
          obtain rfl := Checked.good.inj h
          exact Or.inr ⟨j, rfl, hread⟩
      | bad issues =>
          rw [hread] at h
          cases h

theorem holds_of_change (hname : snakeCase f.name = f.name) (h : f.change entries = .good change)
    (s : σ) : f.Holds s (entries.get? f.name) (change s) := by
  rcases change_cases hname h with ⟨hnone, rfl⟩ | ⟨j, hvalue, hread⟩
  · rw [hnone]
    exact rfl
  · rw [hvalue]
    exact ⟨change, hread, rfl⟩

theorem Holds.of_write_eq {value : Option Json} {t defaults : σ} (h : f.Holds defaults value t)
    (hwrite : f.write s = f.write t) : f.Holds defaults value s := by
  cases value with
  | none => exact hwrite.trans h
  | some j =>
      obtain ⟨change, hread, heq⟩ := h
      exact ⟨change, hread, hwrite.trans heq⟩

/-- What the record had in a field before matters only if there is no value. -/
theorem Independent.holds_of_default (hfields : Independent fields) (hf : f ∈ fields)
    {value : Option Json} {s t u : σ} (h : f.Holds s value u) (hwrite : f.write s = f.write t) :
    f.Holds t value u := by
  cases value with
  | none => exact h.trans hwrite
  | some j =>
      obtain ⟨change, hread, heq⟩ := h
      exact ⟨change, hread, heq.trans (hfields.whole f hf j change hread s t)⟩

theorem Independent.write_change (hfields : Independent fields) (hf : f ∈ fields) (hg : g ∈ fields)
    (hne : f.name ≠ g.name) (hname : snakeCase g.name = g.name)
    (h : g.change entries = .good change) (s : σ) : f.write (change s) = f.write s := by
  rcases change_cases hname h with ⟨_, rfl⟩ | ⟨j, _, hread⟩
  · rfl
  · exact hfields.apart f hf g hg hne j change hread s

/-- After the changes to some of the fields these have what the entries say, and the others have what
they had. -/
theorem Independent.holds_of_changes (hfields : Independent fields)
    (hnames : ∀ f ∈ fields, snakeCase f.name = f.name) {gs : List (Field σ)}
    (hgs : gs.Sublist fields) (h : changes entries gs = .good change) :
    (∀ f ∈ gs, ∀ s, f.Holds s (entries.get? f.name) (change s)) ∧
      ∀ f ∈ fields, f.name ∉ gs.map name → ∀ s, f.write (change s) = f.write s := by
  induction gs generalizing change with
  | nil =>
      obtain rfl := Checked.good.inj h
      exact ⟨nofun, fun f _ _ s => rfl⟩
  | cons g gs ih =>
      have hg : g ∈ fields := hgs.subset List.mem_cons_self
      have hfresh : g.name ∉ gs.map name :=
        (List.nodup_cons.mp (hfields.names.sublist (hgs.map name))).1
      rw [changes] at h
      cases hfirst : g.change entries with
      | bad issues => cases hrest : changes entries gs <;> simp [hfirst, hrest, Checked.combine] at h
      | good first =>
          cases hrest : changes entries gs with
          | bad issues => simp [hfirst, hrest, Checked.combine] at h
          | good rest =>
              rw [hfirst, hrest] at h
              obtain rfl := Checked.good.inj h
              obtain ⟨hin, hout⟩ := ih (List.sublist_of_cons_sublist hgs) hrest
              refine ⟨fun f hf s => ?_, fun f hf hne s => ?_⟩
              · rcases List.mem_cons.mp hf with rfl | hf
                · exact (holds_of_change (hnames f hg) hfirst s).of_write_eq (hout f hg hfresh _)
                · have hmem := hgs.subset (List.mem_cons_of_mem g hf)
                  have hne : f.name ≠ g.name := fun heq =>
                    hfresh (heq ▸ List.mem_map_of_mem hf)
                  exact hfields.holds_of_default hmem (hin f hf (first s))
                    (hfields.write_change hmem hg hne (hnames g hg) hfirst s)
              · rw [List.map_cons, List.mem_cons, not_or] at hne
                exact (hout f hf hne.2 (first s)).trans
                  (hfields.write_change hf hg hne.1 (hnames g hg) hfirst s)

/-- Each field of a record that is read has what the entries say under its name. -/
theorem Independent.holds_of_readRecord (hfields : Independent fields)
    (hnames : ∀ f ∈ fields, snakeCase f.name = f.name) {defaults : σ}
    (h : readRecord fields defaults entries = .good s) (hf : f ∈ fields) :
    f.Holds defaults (entries.get? f.name) s := by
  rw [readRecord] at h
  split at h
  next change _ hchange _ =>
    obtain rfl := Checked.good.inj h
    exact (hfields.holds_of_changes hnames (List.Sublist.refl fields) hchange).1 f hf defaults
  next => cases h

end Field

namespace Settings

variable {f g : Field Settings} {entries : Json.Entries} {setting : String}

/-! ## The fields of the settings -/

/-- The settings that are dictionaries. -/
def dictionaries : List String := ["rule_options", "severity_overrides"]

private theorem exists_of_map_eq_good {α β : Type} {c : Checked α} {f : α → β} {b : β}
    (h : c.map f = .good b) : ∃ a, b = f a := by
  cases c with
  | good a => exact ⟨a, (Checked.good.inj h).symm⟩
  | bad issues => cases h

theorem independent_fields : Field.Independent fields where
  names := by decide
  apart f hf g hg hne j change hread s := by
    simp only [fields, List.mem_cons, List.not_mem_nil, or_false] at hf hg
    rcases hg with rfl | rfl | rfl | rfl | rfl | rfl | rfl | rfl | rfl <;>
      obtain ⟨x, rfl⟩ := exists_of_map_eq_good hread <;>
      rcases hf with rfl | rfl | rfl | rfl | rfl | rfl | rfl | rfl | rfl <;>
      first | rfl | exact absurd rfl hne
  whole f hf j change hread s t := by
    simp only [fields, List.mem_cons, List.not_mem_nil, or_false] at hf
    rcases hf with rfl | rfl | rfl | rfl | rfl | rfl | rfl | rfl | rfl <;>
      obtain ⟨x, rfl⟩ := exists_of_map_eq_good hread <;>
      rfl

theorem snakeCase_name : ∀ f ∈ fields, snakeCase f.name = f.name := by decide

/-- Of the settings only dictionaries are objects. -/
theorem entries?_eq_none_of_read {j : Json} {change : Settings → Settings} (hf : f ∈ fields)
    (hname : f.name ∉ dictionaries) (h : f.read j = .good change) : j.entries? = none := by
  cases j with
  | object es =>
      simp only [fields, List.mem_cons, List.not_mem_nil, or_false] at hf
      rcases hf with rfl | rfl | rfl | rfl | rfl | rfl | rfl | rfl | rfl <;>
        first | cases h | exact absurd (by decide) hname
  | _ => rfl

/-! ## Spellings -/

/-- Of the entries that name one setting the first one is kept. -/
theorem get?_named (entries : Json.Entries) (setting : String) :
    (named entries).get? setting =
      (entries.find? fun e => fieldKey e.1 == setting).map Prod.snd := by
  suffices h : ∀ kept : Json.Entries, Json.Entries.get? (entries.foldl (fun kept e =>
      if (kept.get? (fieldKey e.1)).isSome then kept else kept ++ [(fieldKey e.1, e.2)]) kept)
        setting =
      (kept.get? setting).or ((entries.find? fun e => fieldKey e.1 == setting).map Prod.snd) from
    h []
  induction entries with
  | nil => exact fun kept => (Option.or_none ..).symm
  | cons e entries ih =>
      intro kept
      rw [List.foldl_cons, ih, List.find?_cons]
      by_cases he : fieldKey e.1 = setting
      · rw [he, beq_self_eq_true]
        cases hkept : kept.get? setting with
        | some v => simp [hkept]
        | none => simp [hkept, Json.Entries.get?_append, Json.Entries.get?_cons]
      · rw [beq_false_of_ne he]
        split
        · rfl
        · rw [Json.Entries.get?_append, Json.Entries.get?_cons, if_neg (Ne.symm he),
            Json.Entries.get?_nil, Option.or_none]

theorem nodup_keys_named (entries : Json.Entries) : ((named entries).map Prod.fst).Nodup := by
  suffices h : ∀ kept : Json.Entries, (kept.map Prod.fst).Nodup →
      ((entries.foldl (fun kept e =>
        if (kept.get? (fieldKey e.1)).isSome then kept else kept ++ [(fieldKey e.1, e.2)])
          kept).map Prod.fst).Nodup from
    h [] List.nodup_nil
  induction entries with
  | nil => exact fun kept hkept => hkept
  | cons e entries ih =>
      intro kept hkept
      rw [List.foldl_cons]
      refine ih _ ?_
      split
      · exact hkept
      next hnone =>
        have hfresh : fieldKey e.1 ∉ kept.map Prod.fst :=
          Json.Entries.get?_eq_none_iff.mp (Option.not_isSome_iff_eq_none.mp hnone)
        rw [List.map_append, List.map_singleton, ← List.concat_eq_append]
        exact List.Nodup.concat hfresh hkept

theorem lower_name (hf : f ∈ fields) : Text.lower f.name = f.name := by
  have hnames : ∀ name ∈ fields.map Field.name, Text.lower name = name := by decide +kernel
  exact hnames f.name (List.mem_map_of_mem hf)

theorem fieldKey_name (hf : f ∈ fields) : fieldKey f.name = f.name := by
  rw [fieldKey, lower_name hf]
  exact ite_self _

@[simp] theorem fieldKey_fieldKey (key : String) : fieldKey (fieldKey key) = fieldKey key := by
  by_cases h : (fields.any fun f => f.name == Text.lower key) = true
  · obtain ⟨f, hf, hname⟩ := List.any_eq_true.mp h
    have hkey : fieldKey key = Text.lower key := by rw [fieldKey, if_pos h]
    rw [hkey, ← beq_iff_eq.mp hname, fieldKey_name hf]
  · have hkey : fieldKey key = key := by rw [fieldKey, if_neg h]
    rw [hkey, hkey]

theorem fieldKey_of_mem_named (h : setting ∈ (named entries).map Prod.fst) :
    fieldKey setting = setting := by
  cases hfind : entries.find? fun e => fieldKey e.1 == setting with
  | none =>
      refine absurd h (Json.Entries.get?_eq_none_iff.mp ?_)
      rw [get?_named, hfind]
      rfl
  | some e =>
      have hkey := List.find?_some hfind
      simp only [beq_iff_eq] at hkey
      rw [← hkey, fieldKey_fieldKey]

/-- Entries under the names of the fields are not changed. -/
theorem get?_named_of_fieldKey (h : ∀ k ∈ entries.map Prod.fst, fieldKey k = k)
    (setting : String) : (named entries).get? setting = entries.get? setting := by
  rw [get?_named, Json.Entries.map_find?_key fun k => fieldKey k == setting]
  cases hfind : (entries.map Prod.fst).find? fun k => fieldKey k == setting with
  | some k =>
      have hkey := List.find?_some hfind
      simp only [beq_iff_eq, h k (List.mem_of_find?_eq_some hfind)] at hkey
      rw [hkey, Option.bind_some]
  | none =>
      refine (Json.Entries.get?_eq_none_iff.mpr fun hmem => ?_).symm
      exact List.find?_eq_none.mp hfind setting hmem (beq_iff_eq.mpr (h setting hmem))

end Settings

namespace SettingsSource

variable {s : SettingsSource} {file environment : Json.Entries} {setting k : String} {v : Json}

/-! ## What the caller and the file say -/

/-- The first key that names a setting, in the file and then in what the caller asks for. -/
def spelling? (s : SettingsSource) (file : Json.Entries) (setting : String) : Option String :=
  ((file ++ s.givenEntries).map Prod.fst).find? fun k => Settings.fieldKey k == setting

/-- What the caller asks for, or else what the file says, under the first key that names the
setting. -/
def directValue? (s : SettingsSource) (file : Json.Entries) (setting : String) : Option Json :=
  (s.spelling? file setting).bind fun k => (s.givenEntries.get? k).or (file.get? k)

theorem nodup_keys_givenEntries (hgiven : (Json.object s.given).WellKeyed) :
    (s.givenEntries.map Prod.fst).Nodup :=
  hgiven.of_object.1.sublist (List.Sublist.map _ List.filter_sublist)

theorem get?_direct (hgiven : (Json.object s.given).WellKeyed) (file : Json.Entries)
    (setting : String) :
    (Settings.named (file.update s.givenEntries)).get? setting = s.directValue? file setting := by
  rw [Settings.get?_named, Json.Entries.map_find?_key fun k => Settings.fieldKey k == setting,
    Json.Entries.find?_keys_update, directValue?, spelling?]
  exact congrArg _ (funext fun k =>
    Json.Entries.get?_update (nodup_keys_givenEntries hgiven) file k)

/-- Where a setting has one spelling, the caller has precedence over the file. -/
theorem directValue?_of_spelling (hk : Settings.fieldKey k = setting)
    (hone : ∀ other ∈ (file ++ s.givenEntries).map Prod.fst,
      Settings.fieldKey other = setting → other = k) :
    s.directValue? file setting = (s.givenEntries.get? k).or (file.get? k) := by
  rw [directValue?]
  cases hspelling : s.spelling? file setting with
  | some other =>
      have hother := List.find?_some hspelling
      simp only [beq_iff_eq] at hother
      obtain rfl := hone other (List.mem_of_find?_eq_some hspelling) hother
      rfl
  | none =>
      have hnone := List.find?_eq_none.mp hspelling
      have hfresh : k ∉ (file ++ s.givenEntries).map Prod.fst := fun hmem =>
        hnone k hmem (beq_iff_eq.mpr hk)
      rw [List.map_append, List.mem_append, not_or] at hfresh
      rw [Json.Entries.get?_eq_none_iff.mpr hfresh.1, Json.Entries.get?_eq_none_iff.mpr hfresh.2]
      rfl

theorem wellKeyed_of_pairsFrom {items : List Json} {pairs : List (Json × Json)} {index : Nat}
    (hitems : ∀ item ∈ items, item.WellKeyed) (h : Json.pairsFrom index items = .ok pairs) :
    ∀ p ∈ pairs, p.2.WellKeyed := by
  fun_induction Json.pairsFrom index items generalizing pairs with
  | case1 =>
      obtain rfl := Except.ok.inj h
      exact fun p hp => absurd hp List.not_mem_nil
  | case2 => cases h
  | case3 => cases h
  | case4 index item rest key value hparts hkey ih =>
      obtain ⟨others, hothers, rfl⟩ := Except.map_eq_ok_iff.mp h
      obtain ⟨hitem, hrest⟩ := List.forall_mem_cons.mp hitems
      refine List.forall_mem_cons.mpr ⟨?_, ih hrest hothers⟩
      exact hitem.of_mem_parts? hparts (List.mem_cons_of_mem _ List.mem_cons_self)
  | case5 => cases h

/-- The entries that a value gives have each key once, at every depth. -/
theorem wellKeyed_of_entriesOf {j : Json} (hj : j.WellKeyed) (h : entriesOf j = .ok file) :
    (Json.object file).WellKeyed := by
  by_cases hshape : j.shape = .object
  · cases j with
    | object es =>
        obtain rfl := Except.ok.inj h
        exact hj
    | unkeyed key keys => cases h
    | _ => cases hshape
  rw [entriesOf_of_shape hshape, Json.pairs?_of_shape hshape] at h
  obtain ⟨pairs, hpairs, h⟩ := Except.bind_eq_ok_iff.mp h
  rw [Except.mapError_eq_ok_iff] at hpairs
  split at hpairs
  next => cases hpairs
  next items hparts =>
    have hvalues := wellKeyed_of_pairsFrom (fun item hitem => hj.of_mem_parts? hparts hitem) hpairs
    split_ifs at h
    obtain rfl := Except.ok.inj h
    refine Json.wellKeyed_ofEntries fun e he => ?_
    obtain ⟨p, hp, hkey⟩ := List.mem_filterMap.mp he
    obtain ⟨key, _, rfl⟩ := Option.map_eq_some_iff.mp hkey
    exact hvalues p hp

theorem wellKeyed_of_fileEntries (h : s.fileEntries = .ok file) : (Json.object file).WellKeyed := by
  rw [fileEntries] at h
  split at h
  · obtain rfl := Except.ok.inj h
    exact .object List.nodup_nil nofun
  next text _ =>
    split at h
    · cases h
    next j hread => exact wellKeyed_of_entriesOf (Json.wellKeyed_of_read hread) h

theorem wellKeyed_of_directValue? (hgiven : (Json.object s.given).WellKeyed)
    (hfile : s.fileEntries = .ok file) (hv : s.directValue? file setting = some v) :
    v.WellKeyed := by
  obtain ⟨k, _, hk⟩ := Option.bind_eq_some_iff.mp hv
  rcases Option.or_eq_some_iff.mp hk with hk | ⟨_, hk⟩
  · exact hgiven.of_object.2 _ (List.mem_filter.mp (Json.Entries.mem_of_get? hk)).1
  · exact (wellKeyed_of_fileEntries hfile).of_object.2 _ (Json.Entries.mem_of_get? hk)

/-! ## What the environment says -/

/-- What the environment says of a setting, if there is a variable for it that says something. -/
def environmentValue? (s : SettingsSource) (setting : String) :
    Except SettingsFault (Option Json) :=
  match s.setVariable? setting with
  | none => .ok none
  | some text => variableValue? setting text

theorem environmentEntries_cons (s : SettingsSource) (setting : String) (settings : List String) :
    s.environmentEntries (setting :: settings) = do
      let value ← s.environmentValue? setting
      let more ← s.environmentEntries settings
      return (value.map fun j => (setting, j)).toList ++ more := by
  rw [environmentEntries, environmentValue?]
  cases s.setVariable? setting with
  | none =>
      cases s.environmentEntries settings <;> simp [bind, Except.bind, pure, Except.pure]
  | some text => rfl

/-- The environment gives each setting what it says of it, and nothing else. -/
theorem get?_environmentEntries {settings : List String} (hsettings : settings.Nodup)
    (h : s.environmentEntries settings = .ok environment) :
    (∀ setting ∈ settings, s.environmentValue? setting = .ok (environment.get? setting)) ∧
      ∀ setting ∉ settings, environment.get? setting = none := by
  induction settings generalizing environment with
  | nil =>
      obtain rfl := Except.ok.inj h
      exact ⟨nofun, fun setting _ => rfl⟩
  | cons first settings ih =>
      rw [environmentEntries_cons] at h
      obtain ⟨value, hvalue, h⟩ := Except.bind_eq_ok_iff.mp h
      obtain ⟨more, hmore, h⟩ := Except.bind_eq_ok_iff.mp h
      obtain rfl := Except.ok.inj h
      obtain ⟨hfresh, hnodup⟩ := List.nodup_cons.mp hsettings
      obtain ⟨hin, hout⟩ := ih hnodup hmore
      have hother : ∀ setting, setting ≠ first → Json.Entries.get?
          ((value.map fun j => (first, j)).toList ++ more) setting = more.get? setting :=
        fun setting hne => by
          cases value with
          | none => rfl
          | some j => simp [Json.Entries.get?_cons, hne]
      refine ⟨fun setting hmem => ?_, fun setting hnot => ?_⟩
      · by_cases heq : setting = first
        · subst heq
          rw [hvalue]
          cases value with
          | none => simp [hout setting hfresh]
          | some j => simp [Json.Entries.get?_cons]
        · rw [hother setting heq]
          exact hin setting ((List.mem_cons.mp hmem).resolve_left heq)
      · rw [List.mem_cons, not_or] at hnot
        rw [hother setting hnot.1, hout setting hnot.2]

end SettingsSource

namespace Settings

variable {s : SettingsSource} {settings : Settings} {f : Field Settings}

/-! ## All sources -/

/-- A setting that is no dictionary is not joined: the value that is laid over another hides it. -/
theorem holds_of_holds_overlay (hf : f ∈ fields) (hname : f.name ∉ dictionaries)
    {direct below : Option Json}
    (h : f.Holds {} ((direct.map fun v => Json.overlay (below.getD .null) v).or below) settings) :
    f.Holds {} (direct.or below) settings := by
  cases direct with
  | none => exact h
  | some upper =>
      rw [Option.map_some, Option.some_or] at h
      obtain ⟨change, hread, heq⟩ := h
      -- what the setting accepts is no object, so nothing was joined
      have hleaf := entries?_eq_none_of_read hf hname hread
      cases hupper : upper.entries? with
      | none =>
          rw [Json.overlay_of_entries?_eq_none hupper] at hread
          exact ⟨change, hread, heq⟩
      | some es =>
          have hobject := Json.isSome_entries?_overlay (below.getD .null)
            (Option.isSome_of_eq_some hupper)
          rw [hleaf] at hobject
          cases hobject

/-- Of settings that are loaded the file gives entries, and each setting has what the environment
says with what the caller and the file say laid over it. -/
theorem holds_of_load (hgiven : (Json.object s.given).WellKeyed) (h : load s = .ok settings) :
    ∃ file, s.fileEntries = .ok file ∧ ∀ f ∈ fields, ∃ fromEnvironment,
      s.environmentValue? f.name = .ok fromEnvironment ∧
        f.Holds {} (((s.directValue? file f.name).map
          fun v => Json.overlay (fromEnvironment.getD .null) v).or fromEnvironment) settings := by
  obtain ⟨entries, hentries, h⟩ := Except.bind_eq_ok_iff.mp h
  obtain ⟨direct, hdirect, hentries⟩ := Except.bind_eq_ok_iff.mp hentries
  obtain ⟨environment, henvironment, hentries⟩ := Except.bind_eq_ok_iff.mp hentries
  obtain rfl := Except.ok.inj hentries
  obtain ⟨file, hfile, rfl⟩ := Except.map_eq_ok_iff.mp hdirect
  refine ⟨file, hfile, fun f hf => ?_⟩
  have hnames : (fields.map Field.name).Nodup := independent_fields.names
  refine ⟨environment.get? f.name,
    (SettingsSource.get?_environmentEntries hnames henvironment).1 _ (List.mem_map_of_mem hf), ?_⟩
  -- the joined entries are under the names of the fields, so that they are named once more
  -- changes nothing
  have hdirectKeys := nodup_keys_named (file.update s.givenEntries)
  have hkeys : ∀ k ∈ (Json.overlayEntries environment (named (file.update s.givenEntries))).map
      Prod.fst, fieldKey k = k := fun k hk => by
    rcases Json.mem_keys_overlayEntries hdirectKeys hk with hk | hk
    · by_cases hname : k ∈ fields.map Field.name
      · obtain ⟨g, hg, rfl⟩ := List.mem_map.mp hname
        exact fieldKey_name hg
      · refine absurd hk (Json.Entries.get?_eq_none_iff.mp ?_)
        exact (SettingsSource.get?_environmentEntries hnames henvironment).2 k hname
    · exact fieldKey_of_mem_named hk
  rw [← SettingsSource.get?_direct hgiven, ← Json.get?_overlayEntries hdirectKeys,
    ← get?_named_of_fieldKey hkeys]
  split at h
  next loaded hread =>
    obtain rfl := Except.ok.inj h
    exact independent_fields.holds_of_readRecord snakeCase_name hread hf
  next => cases h

/-- Of settings that are loaded, one that is no dictionary has what the caller or the file says of
it, or else what the environment says, or else its default.  A dictionary is joined from what the
environment says and from what the caller or the file says, which wins.  Where the setting has one
spelling, the caller has precedence over the file. -/
theorem load_precedence (hgiven : (Json.object s.given).WellKeyed) (h : load s = .ok settings) :
    ∃ file, s.fileEntries = .ok file ∧ ∀ f ∈ fields, ∃ fromEnvironment,
      s.environmentValue? f.name = .ok fromEnvironment ∧
      (f.name ∉ dictionaries →
        f.Holds {} ((s.directValue? file f.name).or fromEnvironment) settings) ∧
      (f.name ∈ dictionaries → ∃ joined, f.Holds {} joined settings ∧
        (s.directValue? file f.name = none → joined = fromEnvironment) ∧
        (fromEnvironment = none → joined = s.directValue? file f.name) ∧
        ∀ lower upper, fromEnvironment = some lower → s.directValue? file f.name = some upper →
          ∃ j, joined = some j ∧ Json.Joins lower upper j) ∧
      ∀ k, fieldKey k = f.name →
        (∀ other ∈ (file ++ s.givenEntries).map Prod.fst, fieldKey other = f.name → other = k) →
        s.directValue? file f.name = (s.givenEntries.get? k).or (file.get? k) := by
  obtain ⟨file, hfile, hholds⟩ := holds_of_load hgiven h
  refine ⟨file, hfile, fun f hf => ?_⟩
  obtain ⟨fromEnvironment, henvironment, hvalue⟩ := hholds f hf
  refine ⟨fromEnvironment, henvironment, fun hname => ?_, fun _ => ⟨_, hvalue, ?_, ?_, ?_⟩,
    fun k => SettingsSource.directValue?_of_spelling⟩
  · exact holds_of_holds_overlay hf hname hvalue
  · intro hdirect
    rw [hdirect]
    rfl
  · intro hnone
    rw [hnone, Option.or_none, Option.getD_none]
    simp
  · intro lower upper hlower hupper
    have hkeyed := SettingsSource.wellKeyed_of_directValue? hgiven hfile hupper
    refine ⟨_, by rw [hlower, hupper]; rfl, Json.joins_overlay hkeyed lower⟩

/-- A file, a caller and variables of the environment that say different things. -/
def threeSources : SettingsSource where
  file := some "\x7b\"rules\": [\"f\"], \"severity_overrides\": \x7b\"a\": \"error\"\x7d\x7d"
  given := [("rules", .list [.text "o"]), ("report_format", .null)]
  environment :=
    [("CONVLINT_SEVERITY_OVERRIDES", "\x7b\"a\": \"warning\", \"b\": \"warning\"\x7d"),
      ("CONVLINT_REPORT_FORMAT", "json")]

/-- The caller names the rules, the environment the format, and the severities are joined from the
environment and the file. -/
theorem load_precedence_threeSources :
    (Json.object threeSources.given).WellKeyed ∧ ∃ settings, load threeSources = .ok settings ∧
      settings.rules = ["o"] ∧ settings.reportFormat = "json" ∧
      settings.severityOverrides = [("a", .error), ("b", .warning)] ∧
      ∃ file fromEnvironment joined, threeSources.fileEntries = .ok file ∧
        threeSources.environmentValue? "severity_overrides" = .ok fromEnvironment ∧
        severityOverridesField.Holds {} joined settings ∧
        ∀ lower upper, fromEnvironment = some lower →
          threeSources.directValue? file "severity_overrides" = some upper →
          ∃ j, joined = some j ∧ Json.Joins lower upper j := by
  have hgiven : (Json.object threeSources.given).WellKeyed := by
    refine .object (by decide) (List.forall_mem_cons.mpr ⟨?_, ?_⟩)
    · exact .list (List.forall_mem_singleton.mpr (.leaf rfl rfl))
    · exact List.forall_mem_singleton.mpr (.leaf rfl rfl)
  have hvalues : (load threeSources).toOption.map
      (fun s => (s.rules, s.reportFormat, s.severityOverrides)) =
        some (["o"], "json", [("a", .error), ("b", .warning)]) := by decide +kernel
  obtain ⟨settings, hsettings, heq⟩ := Option.map_eq_some_iff.mp hvalues
  obtain ⟨hrules, hmore⟩ := Prod.mk.inj heq
  obtain ⟨hformat, hseverities⟩ := Prod.mk.inj hmore
  have hload := Except.toOption_eq_some_iff.mp hsettings
  obtain ⟨file, hfile, hfields⟩ := load_precedence hgiven hload
  obtain ⟨fromEnvironment, henvironment, _, hdictionary, _⟩ :=
    hfields severityOverridesField (by simp [fields])
  obtain ⟨joined, hholds, _, _, hjoins⟩ := hdictionary (by decide)
  exact ⟨hgiven, settings, hload, hrules, hformat, hseverities, file, fromEnvironment, joined,
    hfile, henvironment, hholds, hjoins⟩

/-- The file spells the setting in capitals, and the caller in small letters. -/
def otherSpelling : SettingsSource where
  file := some "\x7b\"RULES\": [\"f\"]\x7d"
  given := [("rules", .list [.text "o"])]

/-- The settings do not have what the caller asks for, although the caller asks for something. -/
theorem load_otherSpelling :
    ∃ settings, load otherSpelling = .ok settings ∧ settings.rules = ["f"] ∧
      ∃ f ∈ fields, f.name = "rules" ∧ f.name ∉ dictionaries ∧
        (otherSpelling.givenEntries.get? f.name).isSome ∧
        ¬ f.Holds {} (otherSpelling.givenEntries.get? f.name) settings := by
  have hvalue : (load otherSpelling).toOption.map (fun s => s.rules) = some ["f"] := by
    decide +kernel
  obtain ⟨settings, hsettings, hrules⟩ := Option.map_eq_some_iff.mp hvalue
  refine ⟨settings, Except.toOption_eq_some_iff.mp hsettings, hrules,
    .texts "rules" (fun s => s.rules) fun xs s => { s with rules := xs }, List.mem_cons_self, rfl,
    by decide, rfl, ?_⟩
  rintro ⟨change, hread, hwrite⟩
  obtain rfl := Checked.good.inj hread
  change Json.texts settings.rules = Json.texts ["o"] at hwrite
  rw [hrules] at hwrite
  simp [Json.texts] at hwrite

end Settings

end CodeConventions
