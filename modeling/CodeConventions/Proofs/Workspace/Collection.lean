import Mathlib
import CodeConventions.Workspace.Analysis

/-!
# The files that paths stand for

A path that leads to a directory stands for the files below it that have one of the endings and that
no directory hides which lies between the two.  The list of them has each file once and is in the
order of the names that lead there; how the path itself is written does not matter.  A path that
leads to no directory stands for itself.

What some paths stand for is what each of them stands for, put together in the order of the paths
(`gather_exact`).  But to find out whether it leads to a directory, a path is looked up, even one
that is given for itself.  If it is too long for that, no file at all is gathered
(`gather_longName`).

## Strategy

Everything below a directory is listed once, by the names that lead to it (`LeadsTo`), and names
that differ lead to different entries.  So sorting the list by the names leaves no two of them side
by side that are equal, and the order is strict.
-/

namespace CodeConventions

/-! ## What is below a directory -/

namespace Entry

/-- The names lead from an entry to one below it, or to itself if there are none. -/
inductive LeadsTo : Entry → List String → Entry → Prop
  | here (e : Entry) : LeadsTo e [] e
  | step {es : List (String × Entry)} {name : String} {e x : Entry} {names : List String} :
      (name, e) ∈ es → LeadsTo e names x → LeadsTo (.directory es) (name :: names) x

mutual

/-- No directory has two entries with the same name, here or below. -/
def isNamedApart : Entry → Bool
  | .file _ => true
  | .directory es => decide (es.map Prod.fst).Nodup && isNamedApartAll es

/-- No directory below some names has two entries with the same name. -/
def isNamedApartAll : List (String × Entry) → Bool
  | [] => true
  | (_, e) :: rest => isNamedApart e && isNamedApartAll rest

end

variable {es : List (String × Entry)} {names : List String} {e x : Entry}

theorem leadsTo_nil_iff : e.LeadsTo [] x ↔ e = x := by
  constructor
  · rintro ⟨⟩
    rfl
  · rintro rfl
    exact .here e

theorem leadsTo_cons_iff {name : String} :
    (directory es).LeadsTo (name :: names) x ↔ ∃ e, (name, e) ∈ es ∧ e.LeadsTo names x := by
  constructor
  · rintro (_ | ⟨hmem, hrest⟩)
    exact ⟨_, hmem, hrest⟩
  · rintro ⟨e, hmem, hrest⟩
    exact .step hmem hrest

mutual

theorem mem_descendants_iff :
    ∀ {e : Entry} {names : List String} {x : Entry},
      (names, x) ∈ e.descendants ↔ names ≠ [] ∧ e.LeadsTo names x
  | .file _, names, x => by
    rw [descendants]
    refine iff_of_false List.not_mem_nil ?_
    rintro ⟨hnames, hleads⟩
    cases hleads
    exact hnames rfl
  | .directory es, names, x => by
    rw [descendants, mem_descendantsAll_iff]
    cases names with
    | nil => simp
    | cons name names => simp [leadsTo_cons_iff]

theorem mem_descendantsAll_iff :
    ∀ {es : List (String × Entry)} {names : List String} {x : Entry},
      (names, x) ∈ descendantsAll es ↔
        ∃ name rest e, names = name :: rest ∧ (name, e) ∈ es ∧ e.LeadsTo rest x
  | [], names, x => by simp [descendantsAll]
  | (first, e) :: es, names, x => by
    simp only [descendantsAll, List.cons_append, List.mem_cons, List.mem_append, List.mem_map,
      Prod.exists, Prod.mk.injEq, mem_descendantsAll_iff, mem_descendants_iff]
    constructor
    · rintro (⟨rfl, rfl⟩ | ⟨rest, y, ⟨_, hleads⟩, rfl, rfl⟩ | ⟨name, rest, e', rfl, hmem, hleads⟩)
      · exact ⟨first, [], x, rfl, Or.inl ⟨rfl, rfl⟩, .here x⟩
      · exact ⟨first, rest, e, rfl, Or.inl ⟨rfl, rfl⟩, hleads⟩
      · exact ⟨name, rest, e', rfl, Or.inr hmem, hleads⟩
    · rintro ⟨name, rest, e', rfl, ⟨rfl, rfl⟩ | hmem, hleads⟩
      · cases rest with
        | nil => exact Or.inl ⟨rfl, (leadsTo_nil_iff.mp hleads).symm⟩
        | cons second rest =>
          exact Or.inr (Or.inl ⟨_, x, ⟨List.cons_ne_nil _ _, hleads⟩, rfl, rfl⟩)
      · exact Or.inr (Or.inr ⟨name, rest, e', rfl, hmem, hleads⟩)

end

mutual

/-- No two entries below a directory have the same names leading to them. -/
theorem nodup_descendants : ∀ {e : Entry}, e.isNamedApart = true →
    (e.descendants.map Prod.fst).Nodup
  | .file _, _ => List.nodup_nil
  | .directory es, h => by
    rw [isNamedApart, Bool.and_eq_true, decide_eq_true_eq] at h
    rw [descendants]
    exact nodup_descendantsAll h.1 h.2

theorem nodup_descendantsAll : ∀ {es : List (String × Entry)}, (es.map Prod.fst).Nodup →
    isNamedApartAll es = true → ((descendantsAll es).map Prod.fst).Nodup
  | [], _, _ => List.nodup_nil
  | (name, e) :: es, hes, h => by
    rw [isNamedApartAll, Bool.and_eq_true] at h
    rw [List.map_cons, List.nodup_cons] at hes
    -- what comes from the other names begins with one of them
    have hother : ∀ rest, name :: rest ∉ (descendantsAll es).map Prod.fst := by
      intro rest hrest
      obtain ⟨⟨_, x⟩, hmem, rfl⟩ := List.mem_map.mp hrest
      obtain ⟨_, _, e', hnames, hmem, _⟩ := mem_descendantsAll_iff.mp hmem
      have hname := List.mem_map_of_mem (f := Prod.fst) hmem
      rw [← (List.cons.inj hnames).1] at hname
      exact hes.1 hname
    have hbelow : (e.descendants.map fun found => name :: found.1).Nodup := by
      have := (nodup_descendants h.1).map (List.cons_injective (a := name))
      rwa [List.map_map] at this
    rw [descendantsAll, List.cons_append, List.map_cons, List.map_append, List.map_map,
      List.nodup_cons]
    refine ⟨fun hmem => ?_, hbelow.append (nodup_descendantsAll hes.2 h.2) fun names hmem => ?_⟩
    · rcases List.mem_append.mp hmem with hmem | hmem
      · obtain ⟨⟨names, x⟩, hmem, hnames⟩ := List.mem_map.mp hmem
        exact (mem_descendants_iff.mp hmem).1 (List.cons.inj hnames).2
      · exact hother [] hmem
    · obtain ⟨found, _, rfl⟩ := List.mem_map.mp hmem
      exact hother found.1

end

theorem isNamedApart_of_mem {name : String} (hes : isNamedApartAll es = true)
    (hmem : (name, e) ∈ es) : e.isNamedApart = true := by
  induction es with
  | nil => exact absurd hmem List.not_mem_nil
  | cons first rest ih =>
    rw [isNamedApartAll, Bool.and_eq_true] at hes
    rcases List.mem_cons.mp hmem with rfl | hmem
    · exact hes.1
    · exact ih hes.2 hmem

theorem isNamedApart_of_follow {above : List Entry} (habove : ∀ up ∈ above, up.isNamedApart = true)
    (he : e.isNamedApart = true) (h : e.follow above names = some x) : x.isNamedApart = true := by
  induction names generalizing above e with
  | nil =>
    unfold follow at h
    exact Option.some.inj h ▸ he
  | cons name names ih =>
    cases e with
    | file f => exact nomatch h
    | directory es =>
      unfold follow at h
      dsimp only at h
      split at h
      next =>
        cases above with
        | nil => exact nomatch h
        | cons up above =>
          rw [List.forall_mem_cons] at habove
          exact ih habove.2 habove.1 h
      next =>
        split at h
        next e' hlookup =>
          obtain ⟨before, after, rfl, _⟩ := List.lookup_eq_some_iff.mp hlookup
          have hes := he
          rw [isNamedApart, Bool.and_eq_true] at hes
          have hmem : (name, e') ∈ before ++ (name, e') :: after := by simp
          exact ih (List.forall_mem_cons.mpr ⟨he, habove⟩) (isNamedApart_of_mem hes.2 hmem) h
        next => exact nomatch h

end Entry

/-! ## Endings and hidden directories -/

namespace FilePath

/-- The ending of a name: its last dot and what follows it, but nothing if the name has no dot or
nothing stands before or behind the last one. -/
inductive HasEnding : List Char → List Char → Prop
  | dot {stem rest : List Char} :
      stem ≠ [] → rest ≠ [] → '.' ∉ rest → HasEnding (stem ++ '.' :: rest) ('.' :: rest)
  | edge {stem rest : List Char} :
      stem = [] ∨ rest = [] → '.' ∉ rest → HasEnding (stem ++ '.' :: rest) []
  | none {name : List Char} : '.' ∉ name → HasEnding name []

theorem exists_last_dot {name : List Char} (h : '.' ∈ name) :
    ∃ stem rest, name = stem ++ '.' :: rest ∧ '.' ∉ rest := by
  obtain ⟨before, after, hname, hbefore⟩ := List.eq_append_cons_of_mem (List.mem_reverse.mpr h)
  refine ⟨after.reverse, before.reverse, ?_, by simpa using hbefore⟩
  simpa using congrArg List.reverse hname

theorem splitEnding_dot {stem rest : List Char} (hrest : '.' ∉ rest) :
    (splitEnding (stem ++ '.' :: rest)).2 =
      if stem.isEmpty || rest.isEmpty then [] else '.' :: rest := by
  have hkept : ∀ c ∈ rest.reverse, (c != '.') = true := by
    intro c hc
    rw [bne_iff_ne]
    rintro rfl
    exact hrest (List.mem_reverse.mp hc)
  have hreverse : (stem ++ '.' :: rest).reverse = rest.reverse ++ '.' :: stem.reverse := by simp
  have htake : (rest.reverse ++ '.' :: stem.reverse).takeWhile (· != '.') = rest.reverse := by
    rw [List.takeWhile_append_of_pos hkept]
    simp
  have hdrop : (rest.reverse ++ '.' :: stem.reverse).dropWhile (· != '.') =
      '.' :: stem.reverse := by
    rw [List.dropWhile_append_of_pos hkept]
    simp
  rw [splitEnding, hreverse, htake, hdrop]
  simp only [List.isEmpty_reverse, List.reverse_reverse]
  split <;> rfl

theorem splitEnding_noDot {name : List Char} (h : '.' ∉ name) : (splitEnding name).2 = [] := by
  have hdrop : name.reverse.dropWhile (· != '.') = [] := by
    rw [List.dropWhile_eq_nil_iff]
    intro c hc
    rw [bne_iff_ne]
    rintro rfl
    exact h (List.mem_reverse.mp hc)
  rw [splitEnding, hdrop]

theorem hasEnding_iff {name ending : List Char} :
    HasEnding name ending ↔ (splitEnding name).2 = ending := by
  constructor
  · rintro (⟨hstem, hrest, hlast⟩ | ⟨hedge, hlast⟩ | h)
    · rw [splitEnding_dot hlast, if_neg (by simp [hstem, hrest])]
    · rw [splitEnding_dot hlast, if_pos (by simpa using hedge)]
    · exact splitEnding_noDot h
  · rintro rfl
    by_cases h : '.' ∈ name
    · obtain ⟨stem, rest, rfl, hlast⟩ := exists_last_dot h
      rw [splitEnding_dot hlast]
      split
      next hedge => exact .edge (by simpa using hedge) hlast
      next hdot =>
        simp only [Bool.or_eq_true, List.isEmpty_iff, not_or] at hdot
        exact .dot hdot.1 hdot.2 hlast
    · exact splitEnding_noDot h ▸ .none h

end FilePath

/-- A directory of the name hides what is below it. -/
def IsHiding (name : String) : Prop :=
  name = "node_modules" ∨ ∃ rest, name.toList = '.' :: rest

theorem isSkippedDirectory_iff {name : String} :
    isSkippedDirectory name = true ↔ IsHiding name := by
  have hdot : ".".toList = ['.'] := rfl
  rw [isSkippedDirectory, Bool.or_eq_true, beq_iff_eq, Text.beginsWith, hdot,
    List.isPrefixOf_iff_prefix]
  refine or_congr_right ⟨?_, ?_⟩
  · rintro ⟨rest, hrest⟩
    exact ⟨rest, hrest.symm⟩
  · rintro ⟨rest, hrest⟩
    exact ⟨rest, hrest.symm⟩

namespace Workspace

variable {w : Workspace} {extensions : List String} {p : FilePath} {settings : Settings}

/-- The names lead from an entry to a file that is collected: no directory on the way hides it, and
the name of the file has one of the endings, written in any letters. -/
structure IsSourceBelow (extensions : List String) (e : Entry) (names : List String) : Prop where
  leads : ∃ f, e.LeadsTo names (.file f)
  visible : ∀ directory ∈ names.dropLast, ¬ IsHiding directory
  ending : ∃ name ending, names.getLast? = some name ∧ FilePath.HasEnding name.toList ending ∧
    ∃ extension ∈ extensions, Text.lower (String.ofList ending) = Text.lower extension

theorem isSource_iff {names : List String} {x : Entry} (hnames : names ≠ []) :
    isSource (extensions.map Text.lower) (names, x) = true ↔
      (∃ f, x = .file f) ∧ (∀ directory ∈ names.dropLast, ¬ IsHiding directory) ∧
        ∃ name ending, names.getLast? = some name ∧ FilePath.HasEnding name.toList ending ∧
          ∃ extension ∈ extensions, Text.lower (String.ofList ending) = Text.lower extension := by
  have hfile : x.file?.isSome = true ↔ ∃ f, x = .file f := by
    cases x <;> simp [Entry.file?]
  have hvisible : (!names.dropLast.any isSkippedDirectory) = true ↔
      ∀ directory ∈ names.dropLast, ¬ IsHiding directory := by
    simp [← isSkippedDirectory_iff]
  obtain ⟨name, hname⟩ := Option.isSome_iff_exists.mp (List.getLast?_isSome.mpr hnames)
  have hending : (extensions.map Text.lower).contains (endingOf name) = true ↔
      ∃ extension ∈ extensions, endingOf name = Text.lower extension := by
    simp [eq_comm]
  simp only [isSource, Bool.and_eq_true, hfile, hvisible, hname, Option.getD_some, hending,
    and_assoc, FilePath.hasEnding_iff]
  simp [endingOf]

theorem mem_filter_descendants_iff {e : Entry} {names : List String} :
    names ∈ (e.descendants.filter (isSource (extensions.map Text.lower))).map Prod.fst ↔
      IsSourceBelow extensions e names := by
  simp only [List.mem_map, List.mem_filter, Prod.exists, exists_and_right, exists_eq_right,
    Entry.mem_descendants_iff]
  constructor
  · rintro ⟨x, ⟨hnames, hleads⟩, hsource⟩
    obtain ⟨⟨f, rfl⟩, hvisible, hending⟩ := (isSource_iff hnames).mp hsource
    exact ⟨⟨f, hleads⟩, hvisible, hending⟩
  · rintro ⟨⟨f, hleads⟩, hvisible, hending⟩
    have hnames : names ≠ [] := by
      rintro rfl
      obtain ⟨_, _, hname, _⟩ := hending
      exact nomatch hname
    exact ⟨.file f, ⟨hnames, hleads⟩, (isSource_iff hnames).mpr ⟨⟨f, rfl⟩, hvisible, hending⟩⟩

/-! ## The order of the files -/

theorem precedes_iff {a b : List String × Entry} : precedes a b = true ↔ a.1 ≤ b.1 := by
  simp [precedes]

/-- The names that lead to what is below a directory are in order, and no two are the same. -/
theorem pairwise_lt_listing (hw : (Entry.directory w).isNamedApart = true) (p : FilePath) :
    (w.listing p).Pairwise fun a b => a.1 < b.1 := by
  have htrans : ∀ a b c : List String × Entry,
      precedes a b = true → precedes b c = true → precedes a c = true := by
    intro a b c hab hbc
    rw [precedes_iff] at *
    exact hab.trans hbc
  have htotal : ∀ a b : List String × Entry, (precedes a b || precedes b a) = true := by
    intro a b
    rw [Bool.or_eq_true, precedes_iff, precedes_iff]
    exact le_total a.1 b.1
  have hsorted := List.pairwise_mergeSort htrans htotal (((w.at? p).map Entry.descendants).getD [])
  have hnodup : ((w.listing p).map Prod.fst).Nodup := by
    rw [listing, ((List.mergeSort_perm _ precedes).map Prod.fst).nodup_iff]
    cases hat : w.at? p with
    | none => exact List.nodup_nil
    | some e =>
      refine Entry.nodup_descendants ?_
      unfold at? at hat
      split at hat
      next => exact Entry.isNamedApart_of_follow (by simp) hw hat
      next => exact nomatch hat
  refine (hsorted.and (List.pairwise_map.mp hnodup)).imp fun h => ?_
  exact lt_of_le_of_ne (precedes_iff.mp h.1) h.2

/-! ## What paths stand for -/

/-- What a path stands for: itself if it leads to no directory, and otherwise the files below the
directory that are collected, each once and in the order of the names that lead to them. -/
inductive StandsFor (w : Workspace) (extensions : List String) (p : FilePath) :
    List FilePath → Prop
  | itself : (∀ es, w.at? p ≠ some (.directory es)) → StandsFor w extensions p [p]
  | below {es : List (String × Entry)} {found : List (List String)} :
      w.at? p = some (.directory es) → found.Pairwise (· < ·) →
      (∀ names, names ∈ found ↔ IsSourceBelow extensions (.directory es) names) →
      StandsFor w extensions p (found.map p.append)

theorem isDirectory_iff : w.isDirectory p = true ↔ ∃ es, w.at? p = some (.directory es) := by
  rw [isDirectory]
  cases w.at? p with
  | none => simp
  | some e => cases e <;> simp [Entry.isDirectory]

theorem standsFor_collectOne (hw : (Entry.directory w).isNamedApart = true) (p : FilePath) :
    w.StandsFor extensions p (w.collectOne (extensions.map Text.lower) p) := by
  rw [collectOne]
  split
  next hdirectory =>
    obtain ⟨es, hat⟩ := isDirectory_iff.mp hdirectory
    have hmap : ((w.listing p).filter (isSource (extensions.map Text.lower))).map
        (fun found => p.append found.1) =
        (((w.listing p).filter (isSource (extensions.map Text.lower))).map Prod.fst).map
          p.append := by
      rw [List.map_map]
      rfl
    rw [hmap]
    refine .below hat ?_ fun names => ?_
    · exact List.pairwise_map.mpr ((pairwise_lt_listing hw p).filter _)
    · have hperm : (w.listing p).Perm (Entry.directory es).descendants := by
        rw [listing, hat]
        exact List.mergeSort_perm _ _
      rw [((hperm.filter _).map Prod.fst).mem_iff, mem_filter_descendants_iff]
  next hdirectory =>
    exact .itself fun es hat => hdirectory (isDirectory_iff.mpr ⟨es, hat⟩)

end Workspace

/-! ## Paths that are too long -/

/-- No name is too long to be that of anything. -/
def AreShort (names : List String) : Prop := ∀ name ∈ names, isOverlongName name = false

theorem faultOutside_ne_tooLong {names : List String} (h : AreShort names) :
    faultOutside names ≠ .tooLong := by
  unfold faultOutside
  split
  next => exact nofun
  next name rest hrest =>
    have hname := h name (List.dropWhile_subset _ (hrest ▸ List.mem_cons_self))
    rw [hname]
    exact nofun

theorem Entry.fault?_ne_tooLong {above : List Entry} {e : Entry} {names : List String}
    (h : AreShort names) : e.fault? above names ≠ some .tooLong := by
  induction names generalizing above e with
  | nil =>
    unfold fault?
    split <;> exact nofun
  | cons name names ih =>
    obtain ⟨hname, hrest⟩ := List.forall_mem_cons.mp h
    cases e with
    | file f => exact nofun
    | directory es =>
      unfold fault?
      dsimp only
      rw [if_neg (by simp [hname])]
      split
      next =>
        cases above with
        | nil => exact fun hfault => faultOutside_ne_tooLong hrest (Option.some.inj hfault)
        | cons up above => exact ih hrest
      next =>
        split
        next => exact ih hrest
        next => exact nofun

namespace Workspace

variable {w : Workspace} {p : FilePath} {paths : List FilePath} {settings : Settings}

/-- A path is found to be too long only if it is too long as a whole or one of its names is. -/
theorem isTooLong_eq_false (hpath : p.isOverlong = false) (hnames : AreShort p.parts) :
    w.isTooLong p = false := by
  rw [isTooLong, decide_eq_false_iff_not, fault?, if_neg (by simp [hpath])]
  split
  next => exact Entry.fault?_ne_tooLong hnames
  next => exact fun hfault => faultOutside_ne_tooLong hnames (Option.some.inj hfault)

theorem gather_eq_ok_iff {files : List FilePath} :
    w.gather settings paths = .ok files ↔
      (∀ p ∈ paths, w.isTooLong p = false) ∧ files = w.collect settings paths := by
  rw [gather]
  cases h : paths.find? w.isTooLong with
  | none =>
    have hall : ∀ p ∈ paths, w.isTooLong p = false := fun p hp =>
      Bool.eq_false_iff.mpr (List.find?_eq_none.mp h p hp)
    exact ⟨fun hfiles => ⟨hall, (Except.ok.inj hfiles).symm⟩, fun hfiles => hfiles.2 ▸ rfl⟩
  | some p =>
    refine iff_of_false nofun fun hall => ?_
    have hp := hall.1 p (List.mem_of_find?_eq_some h)
    rw [List.find?_some h] at hp
    exact nomatch hp

theorem forall₂_standsFor (hw : (Entry.directory w).isNamedApart = true) :
    List.Forall₂ (w.StandsFor settings.extensions) paths
      (paths.map (w.collectOne (settings.extensions.map Text.lower))) :=
  List.forall₂_map_right_iff.mpr (List.forall₂_same.mpr fun p _ => standsFor_collectOne hw p)

/-- In a workspace in which names in one directory differ, files are gathered exactly if none of the
paths is too long to be looked up, and a path is not if neither the path nor any of its names is too
long.  The files are then those that each path stands for, in the order of the paths. -/
theorem gather_exact (hw : (Entry.directory w).isNamedApart = true) :
    ((∃ files, w.gather settings paths = .ok files) ↔ ∀ p ∈ paths, w.isTooLong p = false) ∧
    (∀ p, p.isOverlong = false → AreShort p.parts → w.isTooLong p = false) ∧
    ∀ files, w.gather settings paths = .ok files →
      ∃ groups, List.Forall₂ (w.StandsFor settings.extensions) paths groups ∧
        files = groups.flatten := by
  refine ⟨?_, fun p => isTooLong_eq_false, fun files hfiles => ?_⟩
  · simp only [gather_eq_ok_iff, exists_and_left, exists_eq, and_true]
  · obtain ⟨-, rfl⟩ := gather_eq_ok_iff.mp hfiles
    exact ⟨_, forall₂_standsFor hw, List.flatMap_def⟩

/-- The sources below a directory, and a stylesheet. -/
def sources : String × Entry :=
  ("src", .directory [("a.ts", .file default), ("b.TSX", .file default), ("c.css", .file default)])

/-- A library and a hidden directory. -/
def others : List (String × Entry) :=
  [(".cache", .directory [("d.ts", .file default)]),
    ("node_modules", .directory [("pkg", .directory [("index.ts", .file default)])])]

/-- The workspace stands for its sources, but the hidden directory for what is in it, too. -/
theorem gather_sources :
    (Entry.directory (sources :: others)).isNamedApart = true ∧
      gather (sources :: others) {} [.ofText ".", .ofText ".cache"] =
        .ok [.ofText "src/a.ts", .ofText "src/b.TSX", .ofText ".cache/d.ts"] ∧
      ∃ groups, List.Forall₂ (StandsFor (sources :: others) [".ts", ".tsx"])
        [.ofText ".", .ofText ".cache"] groups ∧ groups.flatten.length = 3 := by
  have hw : (Entry.directory (sources :: others)).isNamedApart = true := by decide
  -- the sources come last among the names
  have hlisting : listing (sources :: others) (.ofText ".") =
      Entry.descendantsAll others ++ Entry.descendantsAll [sources] := by
    refine List.Perm.eq_of_pairwise (fun a b _ _ hab hba => absurd hab hba.asymm)
      (pairwise_lt_listing hw _) (by decide +kernel) ?_
    exact (List.mergeSort_perm _ _).trans List.perm_append_comm
  have hcache : listing (sources :: others) (.ofText ".cache") = [(["d.ts"], .file default)] :=
    List.mergeSort_singleton _
  have hfiles : gather (sources :: others) {} [.ofText ".", .ofText ".cache"] =
      .ok [.ofText "src/a.ts", .ofText "src/b.TSX", .ofText ".cache/d.ts"] := by
    refine gather_eq_ok_iff.mpr ⟨by decide +kernel, ?_⟩
    rw [collect, List.flatMap_cons, List.flatMap_cons, collectOne, collectOne, hlisting, hcache]
    decide +kernel
  obtain ⟨groups, hgroups, hflatten⟩ := (gather_exact hw).2.2 _ hfiles
  exact ⟨hw, hfiles, groups, hgroups, hflatten ▸ rfl⟩

/-- The path of 256 letters. -/
def longName : FilePath := ⟨"", [String.ofList (List.replicate 256 'a')]⟩

/-- In an empty workspace the path leads to no directory, but it does not stand for itself. -/
theorem gather_longName :
    (Entry.directory []).isNamedApart = true ∧ isDirectory [] longName = false ∧
      gather [] {} [longName] = .error longName := by
  decide +kernel

end Workspace

end CodeConventions
