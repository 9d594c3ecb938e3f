import CodeConventions.Proofs.Except
import CodeConventions.Rules.EventHandler
import CodeConventions.Rules.StyleAttribute

/-!
# Names that the rules propose

The rule on event handlers proposes another name for a handler in two cases: where the name, but for
the case of its letters, is known to be that of an event, and where its third letter is small.  The
rule on styles proposes another key where a key becomes a property once its capital letters are
written as small ones behind hyphens.  A name that is proposed is accepted by the rule that proposes
it, so that no name is changed twice.

Main statement: `suggestions_accepted`.

## Strategy

A name of a common event is in order as it stands; this is a matter of the table.  A name that is
proposed for its third letter has the lower-case form of the name that it is proposed for
(`lowerFrom_toUpper`), so it is not known by another name either, and its third letter is a capital.

A remark is a text, and what it proposes is read off the text.  The texts of one rule differ where
they begin or where they end, so a text proposes one name at most.
-/

namespace CodeConventions

/-! ## Capital letters -/

namespace Text

/-- Of the characters passed before, only the next one that counts matters to what follows. -/
theorem lowerFrom_congr {p q : List Char}
    (h : ∀ s, nextIsCased (s ++ p) = nextIsCased (s ++ q)) (cs : List Char) :
    lowerFrom p cs = lowerFrom q cs := by
  induction cs generalizing p q with
  | nil => rfl
  | cons c cs ih =>
      have hnext : ∀ s, nextIsCased (s ++ c :: p) = nextIsCased (s ++ c :: q) := fun s => by
        simpa using h (s ++ [c])
      rw [lowerFrom, lowerFrom, ih hnext, show nextIsCased p = nextIsCased q from h []]

/-- Whether a character with case comes next does not depend on what follows one. -/
theorem nextIsCased_append_cased {c : Char} (hcased : isCased c = true)
    (hcounts : isCaseIgnorable c = false) (s rest : List Char) :
    nextIsCased (s ++ c :: rest) =
      ((s.find? fun x => !isCaseIgnorable x).map isCased).getD true := by
  induction s with
  | nil => simp [nextIsCased, hcounts, hcased]
  | cons x s ih =>
      cases hx : isCaseIgnorable x with
      | true => simpa [nextIsCased, hx] using ih
      | false => simp [nextIsCased, hx]

/-- Letters with case that count, of one lower-case form. -/
structure Matches (c u : Char) : Prop where
  cased : isCased c = true ∧ isCased u = true
  counts : isCaseIgnorable c = false ∧ isCaseIgnorable u = false
  lower : lowerChar c = lowerChar u
  /-- The lower-case form of neither depends on what is around it, or is longer. -/
  sigma : c ≠ Char.ofNat 0x3A3 ∧ u ≠ Char.ofNat 0x3A3
  dotted : c ≠ Char.ofNat 0x130 ∧ u ≠ Char.ofNat 0x130

/-- A text in which a letter is replaced by a matching one has the same lower-case form. -/
theorem lowerFrom_replaced {c u : Char} (h : Matches c u) (before s rest : List Char) :
    lowerFrom before (s ++ u :: rest) = lowerFrom before (s ++ c :: rest) := by
  have hnext : ∀ s rest, nextIsCased (s ++ u :: rest) = nextIsCased (s ++ c :: rest) := by
    intro s rest
    rw [nextIsCased_append_cased h.cased.1 h.counts.1,
      nextIsCased_append_cased h.cased.2 h.counts.2]
  induction s generalizing before with
  | nil =>
      rw [List.nil_append, List.nil_append, lowerFrom, lowerFrom, if_neg h.sigma.1,
        if_neg h.sigma.2, if_neg h.dotted.1, if_neg h.dotted.2, h.lower,
        lowerFrom_congr fun s => hnext s before]
  | cons x s ih => rw [List.cons_append, List.cons_append, lowerFrom, lowerFrom, ih, hnext]

/-- A letter of the Latin alphabet counts. -/
theorem isCaseIgnorable_of_letter {c : Char}
    (h : 65 ≤ c.toNat ∧ c.toNat ≤ 90 ∨ 97 ≤ c.toNat ∧ c.toNat ≤ 122) :
    isCaseIgnorable c = false := by
  have hranges : ∀ r ∈ caseIgnorableRanges.toList,
      r.2 < 65 ∨ 90 < r.1 ∧ r.2 < 97 ∨ 122 < r.1 := by decide +kernel
  rw [isCaseIgnorable, inRanges, ← Array.any_toList, List.any_eq_false]
  intro r hr
  have hr := hranges r hr
  simp only [Bool.and_eq_true, decide_eq_true_eq]
  omega

/-- The small letters of the Latin alphabet match their capital letters. -/
theorem matches_toUpper {c : Char} (h : isLatinLower c = true) :
    Matches c c.toUpper ∧ isLatinLower c.toUpper = false := by
  obtain ⟨n, hn, rfl⟩ : ∃ n < 26, Char.ofNat (97 + n) = c := by
    simp only [isLatinLower, Bool.and_eq_true, decide_eq_true_eq, Char.le_def,
      UInt32.le_iff_toNat_le] at h
    obtain ⟨n, hn⟩ := Nat.exists_eq_add_of_le h.1
    have hlast : 97 + n ≤ 122 := hn ▸ h.2
    exact ⟨n, by omega, c.ofNat_toNat ▸ congrArg Char.ofNat hn.symm⟩
  have hplace : ∀ n < 26, (Char.ofNat (97 + n)).toNat = 97 + n ∧
      (Char.ofNat (97 + n)).toUpper.toNat = 65 + n := by decide +kernel
  have hcased : ∀ n < 26, isCased (Char.ofNat (97 + n)) = true ∧
      isCased (Char.ofNat (97 + n)).toUpper = true := by decide +kernel
  have hlower : ∀ n < 26, lowerChar (Char.ofNat (97 + n)) =
      lowerChar (Char.ofNat (97 + n)).toUpper := by decide +kernel
  have hsigma : ∀ n < 26, Char.ofNat (97 + n) ≠ Char.ofNat 0x3A3 ∧
      (Char.ofNat (97 + n)).toUpper ≠ Char.ofNat 0x3A3 := by decide +kernel
  have hdotted : ∀ n < 26, Char.ofNat (97 + n) ≠ Char.ofNat 0x130 ∧
      (Char.ofNat (97 + n)).toUpper ≠ Char.ofNat 0x130 := by decide +kernel
  have hcapital : ∀ n < 26, isLatinLower (Char.ofNat (97 + n)).toUpper = false := by
    decide +kernel
  obtain ⟨hsmall, hlarge⟩ := hplace n hn
  have hcounts : isCaseIgnorable (Char.ofNat (97 + n)) = false ∧
      isCaseIgnorable (Char.ofNat (97 + n)).toUpper = false :=
    ⟨isCaseIgnorable_of_letter (by omega), isCaseIgnorable_of_letter (by omega)⟩
  exact ⟨⟨hcased n hn, hcounts, hlower n hn, hsigma n hn, hdotted n hn⟩, hcapital n hn⟩

end Text

variable {name proposed message : String}

/-! ## Names of handlers -/

/-- The names of the common events are in order. -/
theorem handlerNameFault?_of_mem_commonEvents (h : name ∈ commonEvents) :
    handlerNameFault? name = none := by
  have hall : ∀ e ∈ commonEvents, handlerNameFault? e = none := by decide +kernel
  exact hall name h

theorem mem_commonEvents_of_commonEvent? {lowered : String}
    (h : commonEvent? lowered = some proposed) : proposed ∈ commonEvents :=
  List.mem_of_find?_eq_some h

theorem mem_commonEvents_of_properHandler? (h : properHandler? name = some proposed) :
    proposed ∈ commonEvents := by
  rw [properHandler?] at h
  split at h
  next proper hproper =>
    obtain rfl := Option.some_inj.mp h
    rw [renamedEvent?] at hproper
    split_ifs at hproper
    rw [← Option.some_inj.mp hproper]
    decide
  next => exact mem_commonEvents_of_commonEvent? (Option.filter_eq_some_iff.mp h).1

/-- A handler with a small third letter is written with a capital one in its place. -/
theorem exists_letter_of_isAmbiguousHandler (h : isAmbiguousHandler name = true) :
    ∃ a b c rest, Text.isLatinLower c = true ∧ name.toList = [a, b] ++ c :: rest ∧
      (capitalizedHandler name).toList = [a, b] ++ c.toUpper :: rest := by
  rw [isAmbiguousHandler] at h
  rw [capitalizedHandler]
  match hname : name.toList with
  | [] | [_] | [_, _] => simp [hname] at h
  | a :: b :: c :: rest =>
      rw [hname] at h
      exact ⟨a, b, c, rest, h, rfl, String.toList_ofList⟩

theorem lower_capitalizedHandler (h : isAmbiguousHandler name = true) :
    Text.lower (capitalizedHandler name) = Text.lower name := by
  obtain ⟨a, b, c, rest, hc, hname, hcapital⟩ := exists_letter_of_isAmbiguousHandler h
  rw [Text.lower, Text.lower, hname, hcapital,
    Text.lowerFrom_replaced (Text.matches_toUpper hc).1]

theorem isAmbiguousHandler_capitalizedHandler (h : isAmbiguousHandler name = true) :
    isAmbiguousHandler (capitalizedHandler name) = false := by
  obtain ⟨a, b, c, rest, hc, _, hcapital⟩ := exists_letter_of_isAmbiguousHandler h
  rw [isAmbiguousHandler, hcapital]
  exact (Text.matches_toUpper hc).2

/-- A name with a small third letter that is not known by another one is that of no event. -/
theorem not_known_of_isAmbiguousHandler (hproper : properHandler? name = none)
    (h : isAmbiguousHandler name = true) :
    renamedEvent? (Text.lower name) = none ∧ commonEvent? (Text.lower name) = none := by
  have hfault : handlerNameFault? name ≠ none := by
    rw [handlerNameFault?, hproper, if_pos h]
    exact Option.some_ne_none _
  rw [properHandler?] at hproper
  split at hproper
  · cases hproper
  next hrenamed =>
    refine ⟨hrenamed, ?_⟩
    by_contra hne
    obtain ⟨event, hevent⟩ := Option.ne_none_iff_exists'.mp hne
    have hmem := mem_commonEvents_of_commonEvent? hevent
    -- an event by the same name has a capital third letter
    have hother : event ≠ name := fun heq =>
      hfault (handlerNameFault?_of_mem_commonEvents (heq ▸ hmem))
    simp [hevent, hother] at hproper

theorem handlerNameFault?_capitalizedHandler (hproper : properHandler? name = none)
    (h : isAmbiguousHandler name = true) :
    handlerNameFault? (capitalizedHandler name) = none := by
  obtain ⟨hrenamed, hcommon⟩ := not_known_of_isAmbiguousHandler hproper h
  have hcapital : properHandler? (capitalizedHandler name) = none := by
    simp only [properHandler?, lower_capitalizedHandler h, hrenamed, hcommon, Option.filter_none]
  rw [handlerNameFault?, hcapital, isAmbiguousHandler_capitalizedHandler h,
    if_neg Bool.false_ne_true]

/-! ## What a remark proposes -/

/-- The text that proposes to rename a handler. -/
def renamingRemark (name proposed : String) : String :=
  s!"The {name} prop should be renamed to {proposed} for readability."

/-- The text that proposes another name for what may or may not be a handler. -/
def ambiguityRemark (name proposed : String) : String :=
  s!"Ambiguous prop name: '{name}'. Rename to '{proposed}' to be " ++
    s!"handled as an event handler, or to 'attr:{name}' to be treated as a regular attribute."

/-- The text that proposes another key of a style. -/
def keyRemark (name proposed : String) : String := s!"Use {proposed} instead of {name}."

/-- The text proposes another name of a handler. -/
def ProposesHandler (name proposed message : String) : Prop :=
  message = renamingRemark name proposed ∨ message = ambiguityRemark name proposed

theorem renamingRemark_eq (name proposed : String) : renamingRemark name proposed =
    "The " ++ name ++ " prop should be renamed to " ++ proposed ++ " for readability." := rfl

theorem ambiguityRemark_eq (name proposed : String) : ambiguityRemark name proposed =
    "Ambiguous prop name: '" ++ name ++ "'. Rename to '" ++ proposed ++ "' to be " ++
      ("handled as an event handler, or to 'attr:" ++ name ++
        "' to be treated as a regular attribute.") := rfl

theorem keyRemark_eq (name proposed : String) :
    keyRemark name proposed = "Use " ++ proposed ++ " instead of " ++ name ++ "." := rfl

/-- Texts with different characters at one place differ, whatever follows. -/
theorem append_ne_append {a b : String} (i : Nat) {c d : Char} (ha : a.toList[i]? = some c)
    (hb : b.toList[i]? = some d) (hcd : c ≠ d) (s t : String) : a ++ s ≠ b ++ t := by
  intro h
  have hlist : a.toList ++ s.toList = b.toList ++ t.toList := by
    rw [← String.toList_append, ← String.toList_append, h]
  have hplace := congrArg (·[i]?) hlist
  rw [List.getElem?_append_left (List.getElem?_eq_some_iff.mp ha).1,
    List.getElem?_append_left (List.getElem?_eq_some_iff.mp hb).1, ha, hb] at hplace
  exact hcd (Option.some_inj.mp hplace)

theorem renamingRemark_ne_ambiguityRemark (name proposed other : String) :
    renamingRemark name proposed ≠ ambiguityRemark name other := by
  simp only [renamingRemark_eq, ambiguityRemark_eq, String.append_assoc]
  exact append_ne_append 0 (c := 'T') (d := 'A') rfl rfl (by decide) _ _

theorem exists_plainHandlerValue_eq (name : String) (value : Option String) :
    ∃ rest, Document.plainHandlerValue name value = "The " ++ (name ++
      (" prop is named as an event handler (starts with 'on'), but Solid knows its " ++ rest)) := by
  unfold Document.plainHandlerValue
  simp only [String.append_assoc]
  exact ⟨_, rfl⟩

/-- What is said of the value of a handler proposes no other name. -/
theorem not_proposesHandler_plainHandlerValue (name proposed : String) (value : Option String) :
    ¬ProposesHandler name proposed (Document.plainHandlerValue name value) := by
  obtain ⟨rest, hrest⟩ := exists_plainHandlerValue_eq name value
  rw [hrest]
  rintro (h | h)
  · simp only [renamingRemark_eq, String.append_assoc, String.append_right_inj] at h
    exact append_ne_append 6 (c := 'i') (d := 's') rfl rfl (by decide) _ _ h
  · simp only [ambiguityRemark_eq, String.append_assoc] at h
    exact append_ne_append 0 (c := 'T') (d := 'A') rfl rfl (by decide) _ _ h

/-- A remark on the name of a handler proposes the name by which the event is known, or the name
with a capital letter. -/
theorem proposed_of_handlerNameFault? (h : handlerNameFault? name = some message)
    (hproposes : ProposesHandler name proposed message) :
    properHandler? name = some proposed ∨
      properHandler? name = none ∧ isAmbiguousHandler name = true ∧
        proposed = capitalizedHandler name := by
  rw [handlerNameFault?] at h
  split at h
  next proper hproper =>
    replace h : renamingRemark name proper = message := Option.some_inj.mp h
    rcases hproposes with rfl | rfl
    · rw [renamingRemark_eq, renamingRemark_eq, String.append_left_inj,
        String.append_right_inj] at h
      exact Or.inl (h ▸ hproper)
    · exact absurd h (renamingRemark_ne_ambiguityRemark _ _ _)
  next hproper =>
    split_ifs at h with hambiguous
    replace h : ambiguityRemark name (capitalizedHandler name) = message := Option.some_inj.mp h
    rcases hproposes with rfl | rfl
    · exact absurd h.symm (renamingRemark_ne_ambiguityRemark _ _ _)
    · rw [ambiguityRemark_eq, ambiguityRemark_eq, String.append_left_inj, String.append_left_inj,
        String.append_right_inj] at h
      exact Or.inr ⟨hproper, hambiguous, h.symm⟩

/-- A name that is proposed for a handler is in order. -/
theorem handlerNameFault?_proposed (h : handlerNameFault? name = some message)
    (hproposes : ProposesHandler name proposed message) : handlerNameFault? proposed = none := by
  rcases proposed_of_handlerNameFault? h hproposes with hproper | ⟨hproper, hambiguous, rfl⟩
  · exact handlerNameFault?_of_mem_commonEvents (mem_commonEvents_of_properHandler? hproper)
  · exact handlerNameFault?_capitalizedHandler hproper hambiguous

/-! ## Attributes -/

namespace Document

variable {options : HandlerOptions} {d : Document} {attr nameNode : Node} {found : List Remark}
  {r : Remark}

/-- A remark about an attribute is about its value, or the value is no text or number and the remark
is about the name. -/
theorem handler_cases (h : d.handler options attr nameNode = .ok found) (hr : r ∈ found) :
    (∃ value, r = d.remark attr (plainHandlerValue (d.text nameNode) value)) ∨
      (∃ value, d.plainValue attr = .ok (false, value)) ∧
        ∃ message, handlerNameFault? (d.text nameNode) = some message ∧
          r = d.remark nameNode message := by
  unfold handler at h
  dsimp only at h
  split at h
  · rw [← Except.ok.inj h] at hr
    exact absurd hr List.not_mem_nil
  · obtain ⟨⟨isPlain, value⟩, hvalue, rfl⟩ := Except.map_eq_ok_iff.mp h
    cases isPlain with
    | true => exact Or.inl ⟨value, List.mem_singleton.mp hr⟩
    | false =>
        rw [if_neg Bool.false_ne_true] at hr
        split at hr
        · exact absurd hr List.not_mem_nil
        · obtain ⟨message, hmessage, rfl⟩ := Option.map_eq_some_iff.mp (Option.mem_toList.mp hr)
          exact Or.inr ⟨⟨value, hvalue⟩, message, hmessage, rfl⟩

/-- Nothing is said of an attribute whose name is in order and whose value is no text or number. -/
theorem handler_eq_nil {value : Option String} (hvalue : d.plainValue attr = .ok (false, value))
    (hname : handlerNameFault? (d.text nameNode) = none) :
    d.handler options attr nameNode = .ok [] := by
  unfold handler
  dsimp only
  split
  · rfl
  · rw [hvalue, hname, Except.map, if_neg Bool.false_ne_true, Option.map_none, Option.toList_none,
      ite_self]

/-! ## Keys of styles -/

/-- What is said of a value proposes no other key. -/
theorem unitlessLength_ne_keyRemark (name proposed : String) :
    unitlessLength ≠ keyRemark name proposed := by
  have hhead : unitlessLength.toList[0]? = some 'T' := by decide +kernel
  rw [keyRemark_eq, ← unitlessLength.append_empty]
  simp only [String.append_assoc]
  exact append_ne_append 0 hhead (d := 'U') rfl (by decide) _ _

end Document

/-- A remark on a key that is no property proposes nothing: with it comes no capital `U` beside
those of the key. -/
theorem notProperty_ne_keyRemark (name proposed : String) :
    s!"{name} is not a valid CSS property." ≠ keyRemark name proposed := by
  intro h
  have hcount := congrArg (fun s : String => s.toList.count 'U') h
  change (name ++ " is not a valid CSS property.").toList.count 'U' = _ at hcount
  have hnone : " is not a valid CSS property.".toList.count 'U' = 0 := by decide
  have hone : "Use ".toList.count 'U' = 1 := by decide
  simp only [keyRemark_eq, String.toList_append, List.count_append, hnone, hone] at hcount
  omega

/-- The key that is proposed in the place of another one is a property. -/
theorem styleKeyFault?_proposed (h : styleKeyFault? name = some message)
    (hproposes : message = keyRemark name proposed) : styleKeyFault? proposed = none := by
  rw [styleKeyFault?] at h
  dsimp only at h
  split_ifs at h with _ hproperty
  · replace h : keyRemark name (kebabCase name) = message := Option.some_inj.mp h
    rw [hproposes, keyRemark_eq, keyRemark_eq, String.append_left_inj, String.append_left_inj,
      String.append_left_inj, String.append_right_inj] at h
    rw [← h, styleKeyFault?, hproperty, Bool.or_true, if_pos rfl]
  · exact absurd ((Option.some_inj.mp h).trans hproposes) (notProperty_ne_keyRemark name proposed)

/-! ## The names are accepted -/

namespace Document

/-- What the rule on styles says of an entry whose key is in order is about its value. -/
theorem styleEntry?_eq_of_styleKeyFault?_eq_none {d : Document} {p : Property} {q : Remark}
    (hname : p.name = some name) (hkey : styleKeyFault? name = none)
    (hq : d.styleEntry? p = some q) :
    ∃ value, p.value = some value ∧ q = d.remark value unitlessLength := by
  rw [ styleEntry?, hname] at hq
  split at hq
  next name' key hname' _ =>
    obtain rfl := Option.some_inj.mp hname'
    rw [hkey] at hq
    dsimp only at hq
    split at hq
    · cases hq
    · split at hq
      next value hvalue =>
        split_ifs at hq
        exact ⟨value, hvalue, (Option.some_inj.mp hq).symm⟩
      next => cases hq
  next => cases hq

/-- What proposes another key is what is wrong about the key. -/
theorem styleKeyFault?_of_message {d : Document} {p : Property} {r : Remark}
    (hname : p.name = some name) (hr : d.styleEntry? p = some r)
    (hproposes : r.message = keyRemark name proposed) :
    styleKeyFault? name = some (keyRemark name proposed) := by
  cases hfault : styleKeyFault? name with
  | none =>
      obtain ⟨value, _, rfl⟩ := styleEntry?_eq_of_styleKeyFault?_eq_none hname hfault hr
      exact absurd hproposes (unitlessLength_ne_keyRemark name proposed)
  | some message =>
      rw [ styleEntry?, hname] at hr
      split at hr
      next name' key hname' _ =>
        obtain rfl := Option.some_inj.mp hname'
        rw [hfault] at hr
        dsimp only at hr
        split at hr
        · cases hr
        · rw [← hproposes, ← Option.some_inj.mp hr]
          rfl
      next => cases hr

/-- Where the rule on event handlers proposes another name for a handler, it proposes no other name
for an attribute by that name, of any document: all that it says of such an attribute is about a
value that is a text or a number, and it says nothing when the value is the one before.  Where the
rule on styles proposes another key, all that it says of an entry with that key is about a length
without a unit. -/
theorem suggestions_accepted :
    (∀ (options : HandlerOptions) (d : Document) (attr nameNode : Node) (found : List Remark)
        (r : Remark) (proposed : String),
      d.handler options attr nameNode = .ok found → r ∈ found →
      ProposesHandler (d.text nameNode) proposed r.message →
      ∀ (e : Document) (attr' nameNode' : Node), e.text nameNode' = proposed →
        (∀ found', e.handler options attr' nameNode' = .ok found' →
          ∀ q ∈ found', ∃ value, q = e.remark attr' (plainHandlerValue proposed value)) ∧
        (e.plainValue attr' = d.plainValue attr → e.handler options attr' nameNode' = .ok [])) ∧
    (∀ (d : Document) (p : Property) (name proposed : String) (r : Remark),
      p.name = some name → d.styleEntry? p = some r → r.message = keyRemark name proposed →
      ∀ (e : Document) (p' : Property), p'.name = some proposed →
        ∀ q, e.styleEntry? p' = some q →
          ∃ value, p'.value = some value ∧ q = e.remark value unitlessLength) := by
  refine ⟨?_, ?_⟩
  · intro options d attr nameNode found r proposed hfound hr hproposes e attr' nameNode' htext
    rcases handler_cases hfound hr with ⟨value, rfl⟩ | ⟨⟨value, hvalue⟩, message, hmessage, rfl⟩
    · exact absurd hproposes (not_proposesHandler_plainHandlerValue _ _ _)
    · have haccepted : handlerNameFault? (e.text nameNode') = none :=
        htext.symm ▸ handlerNameFault?_proposed hmessage hproposes
      refine ⟨fun found' hfound' q hq => ?_, fun hsame => ?_⟩
      · rcases handler_cases hfound' hq with ⟨value, rfl⟩ | ⟨_, message', hmessage', _⟩
        · exact ⟨value, htext ▸ rfl⟩
        · rw [haccepted] at hmessage'
          cases hmessage'
      · exact handler_eq_nil (hsame.trans hvalue) haccepted
  · intro d p name proposed r hname hr hproposes e p' hname' q hq
    have haccepted : styleKeyFault? proposed = none :=
      styleKeyFault?_proposed (styleKeyFault?_of_message hname hr hproposes) rfl
    exact styleEntry?_eq_of_styleKeyFault?_eq_none hname' haccepted hq

/-- The file `<p onfoo={f} onFoo={f} style={{ zIndex: f, 'z-index': f }} />;`. -/
def renamed : Document :=
  ⟨"a.tsx",
    .ofString
      "<p onfoo=\x7bf\x7d onFoo=\x7bf\x7d style=\x7b\x7b zIndex: f, 'z-index': f \x7d\x7d />;",
    .node ⟨"program", true, false, none, 0, 62⟩
      [.node ⟨"expression_statement", true, false, none, 0, 62⟩
        [.node ⟨"jsx_self_closing_element", true, false, none, 0, 61⟩
          [.node ⟨"<", false, false, none, 0, 1⟩ [],
            .node ⟨"identifier", true, false, some "name", 1, 2⟩ [],
            .node ⟨"jsx_attribute", true, false, some "attribute", 3, 12⟩
              [.node ⟨"property_identifier", true, false, none, 3, 8⟩ [],
                .node ⟨"=", false, false, none, 8, 9⟩ [],
                .node ⟨"jsx_expression", true, false, none, 9, 12⟩
                  [.node ⟨"\x7b", false, false, none, 9, 10⟩ [],
                    .node ⟨"identifier", true, false, none, 10, 11⟩ [],
                    .node ⟨"\x7d", false, false, none, 11, 12⟩ []]],
            .node ⟨"jsx_attribute", true, false, some "attribute", 13, 22⟩
              [.node ⟨"property_identifier", true, false, none, 13, 18⟩ [],
                .node ⟨"=", false, false, none, 18, 19⟩ [],
                .node ⟨"jsx_expression", true, false, none, 19, 22⟩
                  [.node ⟨"\x7b", false, false, none, 19, 20⟩ [],
                    .node ⟨"identifier", true, false, none, 20, 21⟩ [],
                    .node ⟨"\x7d", false, false, none, 21, 22⟩ []]],
            .node ⟨"jsx_attribute", true, false, some "attribute", 23, 58⟩
              [.node ⟨"property_identifier", true, false, none, 23, 28⟩ [],
                .node ⟨"=", false, false, none, 28, 29⟩ [],
                .node ⟨"jsx_expression", true, false, none, 29, 58⟩
                  [.node ⟨"\x7b", false, false, none, 29, 30⟩ [],
                    .node ⟨"object", true, false, none, 30, 57⟩
                      [.node ⟨"\x7b", false, false, none, 30, 31⟩ [],
                        .node ⟨"pair", true, false, none, 32, 41⟩
                          [.node ⟨"property_identifier", true, false, some "key", 32, 38⟩ [],
                            .node ⟨":", false, false, none, 38, 39⟩ [],
                            .node ⟨"identifier", true, false, some "value", 40, 41⟩ []],
                        .node ⟨",", false, false, none, 41, 42⟩ [],
                        .node ⟨"pair", true, false, none, 43, 55⟩
                          [.node ⟨"string", true, false, some "key", 43, 52⟩
                            [.node ⟨"'", false, false, none, 43, 44⟩ [],
                              .node ⟨"string_fragment", true, false, none, 44, 51⟩ [],
                              .node ⟨"'", false, false, none, 51, 52⟩ []],
                            .node ⟨":", false, false, none, 52, 53⟩ [],
                            .node ⟨"identifier", true, false, some "value", 54, 55⟩ []],
                        .node ⟨"\x7d", false, false, none, 56, 57⟩ []],
                    .node ⟨"\x7d", false, false, none, 57, 58⟩ []]],
            .node ⟨"/>", false, false, none, 59, 61⟩ []],
          .node ⟨";", false, false, none, 61, 62⟩ []]]⟩

/-- `onfoo` is to be renamed to `onFoo`, of which nothing is said, and `zIndex` to `z-index`. -/
theorem suggestions_accepted_renamed :
    (∃ attr ∈ renamed.tags.flatMap Node.namedAttributes, ∃ nameNode found r,
      renamed.handler {} attr nameNode = .ok found ∧ r ∈ found ∧
        ProposesHandler (renamed.text nameNode) "onFoo" r.message ∧
        ∃ attr' ∈ renamed.tags.flatMap Node.namedAttributes, ∃ nameNode',
          renamed.text nameNode' = "onFoo" ∧ renamed.handler {} attr' nameNode' = .ok []) ∧
    ∃ p r, p.name = some "zIndex" ∧ renamed.styleEntry? p = some r ∧
      r.message = keyRemark "zIndex" "z-index" ∧
      ∃ p', p'.name = some "z-index" ∧ ∀ q, renamed.styleEntry? p' = some q →
        ∃ value, p'.value = some value ∧ q = renamed.remark value unitlessLength := by
  obtain ⟨hhandlers, hstyles⟩ := suggestions_accepted
  refine ⟨?_, ?_⟩
  · have hsmall : ∃ attr ∈ renamed.tags.flatMap Node.namedAttributes,
        ∃ nameNode ∈ attr.firstPart?.toList,
        ∃ r ∈ (renamed.handler {} attr nameNode).toOption.getD [],
          (renamed.handler {} attr nameNode).toOption = some [r] ∧
          r.message = ambiguityRemark (renamed.text nameNode) "onFoo" ∧
          (renamed.plainValue attr).toOption = some (false, none) := by decide +kernel
    have hcapital : ∃ attr ∈ renamed.tags.flatMap Node.namedAttributes,
        ∃ nameNode ∈ attr.firstPart?.toList, renamed.text nameNode = "onFoo" ∧
          (renamed.plainValue attr).toOption = some (false, none) := by decide +kernel
    obtain ⟨attr, hattr, nameNode, -, r, -, hfound, hmessage, hvalue⟩ := hsmall
    obtain ⟨attr', hattr', nameNode', -, htext, hvalue'⟩ := hcapital
    rw [Except.toOption_eq_some_iff] at hfound hvalue hvalue'
    have hr : r ∈ [r] := List.mem_singleton_self r
    exact ⟨attr, hattr, nameNode, [r], r, hfound, hr, Or.inr hmessage, attr', hattr', nameNode',
      htext, (hhandlers {} renamed attr nameNode [r] r "onFoo" hfound hr (Or.inr hmessage) renamed
        attr' nameNode' htext).2 (hvalue'.trans hvalue.symm)⟩
  · have hkey : ∃ o ∈ renamed.root.nodes, ∃ p ∈ renamed.properties o, p.name = some "zIndex" ∧
        ( renamed.styleEntry? p).map Remark.message = some (keyRemark "zIndex" "z-index") := by
      decide +kernel
    have hproposed : ∃ o ∈ renamed.root.nodes, ∃ p ∈ renamed.properties o,
        p.name = some "z-index" := by decide +kernel
    obtain ⟨-, -, p, -, hname, hmessage⟩ := hkey
    obtain ⟨-, -, p', -, hname'⟩ := hproposed
    obtain ⟨r, hr, hmessage⟩ := Option.map_eq_some_iff.mp hmessage
    exact ⟨p, r, hname, hr, hmessage, p', hname',
      hstyles renamed p "zIndex" "z-index" r hname hr hmessage renamed p' hname'⟩

end Document

end CodeConventions
