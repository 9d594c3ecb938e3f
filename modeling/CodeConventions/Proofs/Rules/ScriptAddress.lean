import CodeConventions.Proofs.Except
import CodeConventions.Proofs.Json.Scalar
import CodeConventions.Proofs.Scope.Constant
import CodeConventions.Rules.Check

/-!
# Addresses of scripts

An attribute must not be an address that runs a script.  The rule looks at the text that the value
of the attribute is known to be, and this is what stands between the quotes of a literal.  A script
that runs sees something else: the *value* of the literal, in which escapes are the characters that
they stand for.  `Reads` gives the characters of a value, one constructor for each form in which
they are written.

Main statement: `scriptAddresses_exact`.  An attribute is shown exactly if the scheme of the address
is complete before the first backslash.  What is shown has a value that runs a script, but a value
that runs a script is sure to be shown only if it is written without escapes; `unshown_escaped` is
one that is not.

## Strategy

No character of a scheme is written as a backslash, so looking for a scheme ends at a backslash, as
it does at the end of the text (`isScriptAddress_escape`).  Before the first backslash each
character stands for itself, so the value begins with what stands there (`Reads.append_plain`), and
a text that begins with the address of a script is one (`isScriptAddress_append`).
-/

namespace CodeConventions

variable {c : Char} {cs plain rest tail : List Char} {ps : List Nat}

/-! ## Texts that begin with a scheme -/

theorem dropWhile_append_of_cons {p : Char → Bool} (h : cs.dropWhile p = c :: rest)
    (tail : List Char) : (cs ++ tail).dropWhile p = c :: (rest ++ tail) := by
  rw [List.dropWhile_append, h]
  rfl

theorem dropWhile_append_of_nil {p : Char → Bool} (h : cs.dropWhile p = [])
    (hc : p c = false) (tail : List Char) : (cs ++ c :: tail).dropWhile p = c :: tail := by
  rw [List.dropWhile_append, h, List.isEmpty_nil, if_pos rfl, List.dropWhile_cons, hc]
  rfl

/-- The letters of a word are found again in a longer text. -/
theorem afterScattered?_append {ws : List Char} (h : afterScattered? ws cs = some rest)
    (tail : List Char) : afterScattered? ws (cs ++ tail) = some (rest ++ tail) := by
  induction ws generalizing cs with
  | nil =>
      rw [afterScattered?] at h ⊢
      rw [Option.some_inj.mp h]
  | cons w ws ih =>
      rw [afterScattered?] at h
      split at h
      next c more hskip =>
        split at h
        next hletter =>
          rw [afterScattered?, dropWhile_append_of_cons hskip]
          exact (if_pos hletter).trans (ih h)
        next => cases h
      next => cases h

theorem foldCase_backslash : Text.foldCase '\\' = '\\' := rfl

/-- No letter of a word is found at a backslash or beyond. -/
theorem afterScattered?_escape {ws : List Char} (hws : '\\' ∉ ws)
    (cs tail : List Char) : afterScattered? ws (cs ++ '\\' :: tail) =
      (afterScattered? ws cs).map (· ++ '\\' :: tail) := by
  induction ws generalizing cs with
  | nil => rfl
  | cons w ws ih =>
      have hw : ¬Text.foldCase '\\' = w := fun h =>
        hws (h ▸ foldCase_backslash ▸ List.mem_cons_self)
      cases hskip : cs.dropWhile fun c => c == '\r' || c == '\n' || c == '\t' with
      | nil =>
          simp only [afterScattered?, hskip, dropWhile_append_of_nil hskip (c := '\\') rfl,
            if_neg hw, Option.map_none]
      | cons c more =>
          simp only [afterScattered?, hskip, dropWhile_append_of_cons hskip,
            ih fun hmem => hws (List.mem_cons_of_mem w hmem)]
          split
          · rfl
          · rfl

/-- The characters after the letters of a scheme end it. -/
theorem head?_dropWhile_append {p : Char → Bool} (h : (cs.dropWhile p).head? = some c)
    (tail : List Char) : ((cs ++ tail).dropWhile p).head? = some c := by
  obtain ⟨more, hskip⟩ := List.head?_eq_some_iff.mp h
  rw [dropWhile_append_of_cons hskip, List.head?_cons]

/-- A text that begins with the address of a script is one. -/
theorem isScriptAddress_append (h : isScriptAddress (String.ofList cs) = true)
    (tail : List Char) : isScriptAddress (String.ofList (cs ++ tail)) = true := by
  rw [isScriptAddress, String.toList_ofList] at h ⊢
  split at h
  next c more hskip =>
    rw [dropWhile_append_of_cons hskip]
    dsimp only
    rw [Bool.and_eq_true, Option.any_eq_true] at h ⊢
    obtain ⟨hletter, colon, hword, hcolon⟩ := h
    refine ⟨hletter, colon ++ tail, afterScattered?_append hword tail, ?_⟩
    rw [beq_iff_eq] at hcolon ⊢
    exact head?_dropWhile_append hcolon tail
  next => cases h

/-- What stands from a backslash on does not make a text the address of a script. -/
theorem isScriptAddress_escape (cs tail : List Char) :
    isScriptAddress (String.ofList (cs ++ '\\' :: tail)) =
      isScriptAddress (String.ofList cs) := by
  have htoList : ∀ l, (String.ofList l).toList = l := fun l => String.toList_ofList
  rw [isScriptAddress, isScriptAddress, htoList (cs ++ _), htoList cs]
  cases hskip : cs.dropWhile fun c => c.toNat ≤ 32 with
  | nil =>
      rw [dropWhile_append_of_nil hskip (c := '\\') rfl]
      dsimp only
      rw [foldCase_backslash]
      rfl
  | cons c more =>
      rw [dropWhile_append_of_cons hskip]
      dsimp only
      rw [afterScattered?_escape (by decide), Option.any_map]
      congr 2
      funext rest
      cases hend : rest.dropWhile fun c => c == '\r' || c == '\n' || c == '\t' with
      | nil =>
          rw [dropWhile_append_of_nil hend (c := '\\') rfl]
          rfl
      | cons c more => rw [dropWhile_append_of_cons hend, List.head?_cons, List.head?_cons]

/-! ## Values of literals -/

namespace Literal

/-- The number written as some hexadecimal digits. -/
def hexadecimal? (digits : List Char) : Option Nat :=
  digits.foldlM (fun n c => (Digits.value? c).map (n * 16 + ·)) 0

/-- The ends of lines. -/
def lineEnds : List (List Char) :=
  [['\n'], ['\r', '\n'], ['\r'], [Char.ofNat 0x2028], [Char.ofNat 0x2029]]

/-- The character that a backslash before one stands for: a letter for a control character, and any
other character that begins no longer escape for itself. -/
def escaped? (c : Char) : Option Nat :=
  match c with
  | 'b' => some 8
  | 't' => some 9
  | 'n' => some 10
  | 'v' => some 11
  | 'f' => some 12
  | 'r' => some 13
  | _ =>
    if c = 'x' || c = 'u' || Digits.isDecimal c || lineEnds.contains [c] then none
    else some c.toNat

/-- The value of a string whose content is as given, character by character. -/
inductive Reads : List Char → List Nat → Prop
  | nil : Reads [] []
  | plain {c : Char} {cs : List Char} {ps : List Nat} (hc : c ≠ '\\') (h : Reads cs ps) :
      Reads (c :: cs) (c.toNat :: ps)
  | escaped {c : Char} {p : Nat} {cs : List Char} {ps : List Nat} (hp : escaped? c = some p)
      (h : Reads cs ps) : Reads ('\\' :: c :: cs) (p :: ps)
  /-- A zero, where no other digit follows. -/
  | zero {cs : List Char} {ps : List Nat} (hend : ∀ c ∈ cs.head?, Digits.isDecimal c = false)
      (h : Reads cs ps) : Reads ('\\' :: '0' :: cs) (0 :: ps)
  | two {a b : Char} {p : Nat} {cs : List Char} {ps : List Nat} (hp : hexadecimal? [a, b] = some p)
      (h : Reads cs ps) : Reads ('\\' :: 'x' :: a :: b :: cs) (p :: ps)
  | four {a b c d : Char} {p : Nat} {cs : List Char} {ps : List Nat}
      (hp : hexadecimal? [a, b, c, d] = some p) (h : Reads cs ps) :
      Reads ('\\' :: 'u' :: a :: b :: c :: d :: cs) (p :: ps)
  /-- A code point between braces. -/
  | braced {digits : List Char} {p : Nat} {cs : List Char} {ps : List Nat} (hdigits : digits ≠ [])
      (hp : hexadecimal? digits = some p) (hlast : p ≤ 0x10FFFF) (h : Reads cs ps) :
      Reads ('\\' :: 'u' :: '\x7b' :: digits ++ '\x7d' :: cs) (p :: ps)
  /-- The end of a line behind a backslash stands for nothing. -/
  | continued {e : List Char} {cs : List Char} {ps : List Nat} (he : e ∈ lineEnds)
      (hwhole : e = ['\r'] → cs.head? ≠ some '\n') (h : Reads cs ps) :
      Reads ('\\' :: e ++ cs) ps

theorem Reads.eq_nil (h : Reads [] ps) : ps = [] := by
  cases h with
  | nil => rfl

/-- A text without a backslash stands for itself. -/
theorem reads_plain (hplain : '\\' ∉ cs) : Reads cs (cs.map Char.toNat) := by
  induction cs with
  | nil => exact .nil
  | cons c cs ih =>
      rw [List.mem_cons, not_or] at hplain
      exact .plain (fun h => hplain.1 h.symm) (ih hplain.2)

/-- Before the first backslash each character stands for itself. -/
theorem Reads.append_plain (hplain : '\\' ∉ plain) (h : Reads (plain ++ rest) ps) :
    ∃ qs, ps = plain.map Char.toNat ++ qs ∧ Reads rest qs := by
  induction plain generalizing ps with
  | nil => exact ⟨ps, rfl, h⟩
  | cons c plain ih =>
      rw [List.mem_cons, not_or] at hplain
      rw [List.cons_append] at h
      generalize htext : plain ++ rest = text at h
      cases h with
      | plain hc h =>
          obtain ⟨qs, rfl, hrest⟩ := ih hplain.2 (htext ▸ h)
          exact ⟨qs, rfl, hrest⟩
      | escaped | zero | two | four | braced | continued => exact absurd rfl hplain.1

end Literal

open Text.Surrogate

theorem joined_toNat_append (plain : List Char) (qs : List Nat) :
    joined (plain.map Char.toNat ++ qs) = plain.map Char.toNat ++ joined qs := by
  induction plain with
  | nil => rfl
  | cons c plain ih =>
      rw [List.map_cons, List.cons_append, joined_cons_of_not_isHigh (isHigh_toNat c), ih,
        List.cons_append]

theorem repaired_toNat_append (plain : List Char) (qs : List Nat) :
    repaired (plain.map Char.toNat ++ qs) = String.ofList (plain ++ (repaired qs).toList) := by
  have hplain := congrArg String.toList (repaired_toNat (String.ofList plain))
  rw [repaired, String.toList_ofList, String.toList_ofList] at hplain
  rw [repaired, repaired, List.map_append, hplain, String.toList_ofList]

namespace Document

variable {d : Document} {e literal : Node} {value : String} {j : Nat}

/-- What stands between the quotes of a literal. -/
def quotedContent (d : Document) (literal : Node) : List Char :=
  (withoutQuotes (d.text literal)).toList

/-- The value that the string has in an expression is the text.  Halves of a character that stand
together are joined. -/
def Denotes (d : Document) (literal : Node) (value : String) : Prop :=
  ∃ ps, Literal.Reads (d.quotedContent literal) ps ∧ value = repaired (joined ps)

/-- What stands before the first backslash is the address of a script. -/
def BeginsScript (d : Document) (literal : Node) : Prop :=
  isScriptAddress (String.ofList ((d.quotedContent literal).takeWhile (· != '\\'))) = true

/-- A value begins with what stands before the first backslash. -/
theorem Denotes.exists_append (h : d.Denotes literal value) : ∃ tail,
    value = String.ofList ((d.quotedContent literal).takeWhile (· != '\\') ++ tail) := by
  obtain ⟨ps, hps, rfl⟩ := h
  have hplain : '\\' ∉ (d.quotedContent literal).takeWhile (· != '\\') := fun hmem => by
    simpa using List.mem_takeWhile_imp hmem
  rw [← List.takeWhile_append_dropWhile (p := (· != '\\')) (l := d.quotedContent literal)] at hps
  obtain ⟨qs, hqs, _⟩ := hps.append_plain hplain
  refine ⟨(repaired (joined qs)).toList, ?_⟩
  rw [hqs, joined_toNat_append, repaired_toNat_append]

/-- A string without a backslash stands for what stands between its quotes. -/
theorem Denotes.eq_of_plain (h : d.Denotes literal value)
    (hplain : '\\' ∉ d.quotedContent literal) :
    value = String.ofList (d.quotedContent literal) := by
  obtain ⟨ps, hps, rfl⟩ := h
  rw [← List.append_nil (d.quotedContent literal)] at hps
  obtain ⟨qs, hqs, hnone⟩ := hps.append_plain hplain
  rw [hqs, hnone.eq_nil, joined_toNat_append, repaired_toNat_append]
  exact congrArg String.ofList (List.append_nil _)

theorem isScriptAddress_takeWhile (cs : List Char) :
    isScriptAddress (String.ofList (cs.takeWhile (· != '\\'))) =
      isScriptAddress (String.ofList cs) := by
  conv_rhs => rw [← List.takeWhile_append_dropWhile (p := (· != '\\')) (l := cs)]
  cases hrest : cs.dropWhile (· != '\\') with
  | nil => rw [List.append_nil]
  | cons c rest =>
      have hc : c = '\\' := by
        have hhead := List.head?_dropWhile_not (· != '\\') cs
        simpa [hrest] using hhead
      rw [hc, isScriptAddress_escape]

/-! ## What is shown -/

/-- A string, or a template into which nothing is put. -/
def IsQuoted (literal : Node) : Prop :=
  literal.kind = "string" ∨
    literal.kind = "template_string" ∧ ∀ p ∈ literal.parts, p.kind ≠ "template_substitution"

/-- A literal without wrappers has a text for its value exactly if it is a quoted one. -/
theorem stringValue?_eq_some_iff (hunwrap : literal.unwrap = literal) :
    d.stringValue? literal = some value ↔
      IsQuoted literal ∧ String.ofList (d.quotedContent literal) = value := by
  rw [stringValue?, hunwrap, quotedContent, String.ofList_toList]
  split_ifs with hstring htemplate hput
  · rw [Option.some_inj]
    exact ⟨fun h => ⟨Or.inl hstring, h⟩, And.right⟩
  · refine iff_of_false not_false ?_
    rintro ⟨hkind | ⟨_, hplain⟩, _⟩
    · exact hstring hkind
    · obtain ⟨p, hp, hkind⟩ := List.any_eq_true.mp hput
      exact hplain p hp (beq_iff_eq.mp hkind)
  · rw [Option.some_inj]
    refine ⟨fun h => ⟨Or.inr ⟨htemplate, fun p hp hkind => hput ?_⟩, h⟩, And.right⟩
    exact List.any_eq_true.mpr ⟨p, hp, beq_iff_eq.mpr hkind⟩
  · refine iff_of_false not_false ?_
    rintro ⟨hkind | ⟨hkind, _⟩, _⟩
    · exact hstring hkind
    · exact htemplate hkind

theorem beginsScript_iff : d.BeginsScript literal ↔
    isScriptAddress (String.ofList (d.quotedContent literal)) = true := by
  rw [BeginsScript, isScriptAddress_takeWhile]

/-- The text of an attribute is the address of a script if what it leads to begins with one. -/
theorem attributeText?_iff {a : Node} :
    (d.attributeText? a).any isScriptAddress = true ↔
      ∃ e, a.attributeExpression? = some e ∧ IsQuoted (d.trace e) ∧ d.BeginsScript (d.trace e) := by
  rw [Option.any_eq_true]
  constructor
  · rintro ⟨s, hs, hscript⟩
    obtain ⟨v, hv, htext⟩ := Option.bind_eq_some_iff.mp hs
    obtain ⟨e, he, hv⟩ := Option.bind_eq_some_iff.mp hv
    cases v with
    | text t =>
        obtain rfl := Option.some_inj.mp htext
        obtain ⟨hquoted, hcontent⟩ :=
          (stringValue?_eq_some_iff (unwrap_trace e)).mp (staticValue?_eq_text_iff.mp hv)
        exact ⟨e, he, hquoted, beginsScript_iff.mpr (hcontent ▸ hscript)⟩
    | number | truth | null => cases htext
  · rintro ⟨e, he, hquoted, hbegins⟩
    have hv := staticValue?_eq_text_iff.mpr
      ((stringValue?_eq_some_iff (unwrap_trace e)).mpr ⟨hquoted, rfl⟩)
    refine ⟨_, ?_, beginsScript_iff.mp hbegins⟩
    rw [attributeText?, he, Option.bind_some, hv, Option.bind_some, StaticValue.text?]

/-- A chain of constants that leads to a string is the trace. -/
theorem Chain.eq_trace (h : d.Chain j e literal) (hj : j ≤ traceLimit)
    (hkind : literal.kind = "string") : literal = d.trace e :=
  traces_iff.mp ⟨j, hj, h, fun _ value hvalue => by
    have hname := hvalue.1
    rw [h.unwrap_eq, hkind] at hname
    exact absurd hname (by decide)⟩

/-- Attributes are shown in order, and exactly those whose value leads to a quoted text that begins,
before any backslash, with the scheme of a script.  Where a chain of constants leads from an
attribute to a string, then this string decides: what is shown has a value that runs a script, and
so has nothing that is not shown and written without a backslash. -/
theorem scriptAddresses_exact (d : Document) :
    ∃ reports : Node → Bool,
      Check.scriptAddresses.findings d =
        .ok (((d.tags.flatMap Node.namedAttributes).filter reports).map fun a =>
          ⟨"solid/jsx-no-script-url", d.spanOf a, "For security, don't use javascript: URLs. " ++
            "Use event handlers instead if you can."⟩) ∧
      (∀ a, reports a = true ↔ ∃ e, a.attributeExpression? = some e ∧
        IsQuoted (d.trace e) ∧ d.BeginsScript (d.trace e)) ∧
      ∀ a e j literal value, a.attributeExpression? = some e → d.Chain j e literal →
        j ≤ traceLimit → literal.kind = "string" → d.Denotes literal value →
        (reports a = true ↔ d.BeginsScript literal) ∧
        (reports a = true → isScriptAddress value = true) ∧
        ('\\' ∉ d.quotedContent literal → isScriptAddress value = true → reports a = true) := by
  refine ⟨fun a => (d.attributeText? a).any isScriptAddress, ?_, fun a => attributeText?_iff, ?_⟩
  · rw [Check.findings, Check.remarks, scriptAddresses, Except.map, List.map_map]
    rfl
  · intro a e j literal value he hchain hj hkind hvalue
    have hreports : (d.attributeText? a).any isScriptAddress = true ↔ d.BeginsScript literal := by
      rw [attributeText?_iff, hchain.eq_trace hj hkind]
      constructor
      · rintro ⟨e', he', _, hbegins⟩
        rwa [Option.some_inj.mp (he.symm.trans he')]
      · intro hbegins
        exact ⟨e, he, Or.inl (hchain.eq_trace hj hkind ▸ hkind), hbegins⟩
    refine ⟨hreports, fun hshown => ?_, fun hplain hscript => ?_⟩
    · obtain ⟨tail, rfl⟩ := hvalue.exists_append
      exact isScriptAddress_append (hreports.mp hshown) tail
    · rw [hvalue.eq_of_plain hplain] at hscript
      exact hreports.mpr (beginsScript_iff.mpr hscript)

/-- The file `<a href={'\x6aavascript:f()'} />;`. -/
def escapedScheme : Document :=
  ⟨"a.tsx", .ofString "<a href=\x7b'\\x6aavascript:f()'\x7d />;",
    .node ⟨"program", true, false, none, 0, 33⟩ [
      .node ⟨"expression_statement", true, false, none, 0, 33⟩ [
        .node ⟨"jsx_self_closing_element", true, false, none, 0, 32⟩ [
          .node ⟨"<", false, false, none, 0, 1⟩ [],
          .node ⟨"identifier", true, false, some "name", 1, 2⟩ [],
          .node ⟨"jsx_attribute", true, false, some "attribute", 3, 29⟩ [
            .node ⟨"property_identifier", true, false, none, 3, 7⟩ [],
            .node ⟨"=", false, false, none, 7, 8⟩ [],
            .node ⟨"jsx_expression", true, false, none, 8, 29⟩ [
              .node ⟨"\x7b", false, false, none, 8, 9⟩ [],
              .node ⟨"string", true, false, none, 9, 28⟩ [
                .node ⟨"'", false, false, none, 9, 10⟩ [],
                .node ⟨"escape_sequence", true, false, none, 10, 14⟩ [],
                .node ⟨"string_fragment", true, false, none, 14, 27⟩ [],
                .node ⟨"'", false, false, none, 27, 28⟩ []],
              .node ⟨"\x7d", false, false, none, 28, 29⟩ []]],
          .node ⟨"/>", false, false, none, 30, 32⟩ []],
        .node ⟨";", false, false, none, 32, 33⟩ []]]⟩

/-- The value of the attribute runs a script, but its first letter is written as an escape, and
nothing is shown. -/
theorem unshown_escaped :
    escapedScheme.hasErrors = false ∧
      (∃ a ∈ escapedScheme.tags.flatMap Node.namedAttributes, ∃ e,
        a.attributeExpression? = some e ∧ escapedScheme.Chain 0 e e.unwrap ∧
        e.unwrap.kind = "string" ∧ escapedScheme.Denotes e.unwrap "javascript:f()") ∧
      isScriptAddress "javascript:f()" = true ∧
      Check.scriptAddresses.findings escapedScheme = .ok [] := by
  have hattribute : ∃ a ∈ escapedScheme.tags.flatMap Node.namedAttributes,
      ∃ e ∈ a.attributeExpression?.toList, e.unwrap.kind = "string" ∧
        escapedScheme.quotedContent e.unwrap =
          '\\' :: 'x' :: '6' :: 'a' :: "avascript:f()".toList := by
    decide +kernel
  have hfindings : (Check.scriptAddresses.findings escapedScheme).toOption = some [] := by
    decide +kernel
  refine ⟨by decide, ?_, by decide +kernel, Except.toOption_eq_some_iff.mp hfindings⟩
  obtain ⟨a, ha, e, he, hkind, hcontent⟩ := hattribute
  refine ⟨a, ha, e, Option.mem_toList.mp he, .here e, hkind,
    0x6A :: "avascript:f()".toList.map Char.toNat, ?_, ?_⟩
  · rw [hcontent]
    exact .two (by decide) (Literal.reads_plain (by decide))
  · decide +kernel

end Document

end CodeConventions
