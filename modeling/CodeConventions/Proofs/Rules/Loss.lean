import CodeConventions.Proofs.Diagnostic.Merge
import CodeConventions.Proofs.Rules.Attribute
import CodeConventions.Proofs.Rules.Component
import CodeConventions.Proofs.Rules.Functional
import CodeConventions.Proofs.Rules.Markup
import CodeConventions.Proofs.Rules.Query
import CodeConventions.Proofs.Rules.Reactivity.Read
import CodeConventions.Proofs.Rules.RoutePath
import CodeConventions.Rules.Check

/-!
# What a merge may lose of the findings of a check

A merge keeps one finding for each rule and range.  All checks but two give their findings different
ranges in every document that is as the grammar makes it, and the merge loses nothing of them.  The
two others may have two things to say about one range.  An attribute for the children of an element
may be repeated while the element has children besides.  Reads of several variables may be lost in
one call, and a use of a name that is bound twice is a use of two variables.  Then the merge keeps
one of the two findings only.
-/

namespace CodeConventions

/-- The range that the finding shows. -/
def Finding.spot (f : Finding) : Int × Int := (f.span.start, f.span.stop)

/-- What the rule had to say. -/
def Finding.remark (f : Finding) : Remark := ⟨f.span, f.message⟩

/-- What the check may say twice of one range of the document. -/
def Check.MayRepeat (d : Document) : Check → Remark → Remark → Prop
  | .repeatedAttributes _ => Document.childrenRepeated
  | .reactivity _ => d.reactivityRepeated
  | _ => fun _ _ => False

/-- The check gives all of its findings different ranges. -/
def Check.keepsApart : Check → Bool
  | .repeatedAttributes _ => false
  | .reactivity _ => false
  | _ => true

variable {d : Document} {c : Check}

/-- Most checks keep all of their remarks apart. -/
theorem Document.Regular.apart_remarks (hd : d.Regular) (hc : c.keepsApart = true)
    {rs : List Remark} (h : c.remarks d = .ok rs) : Apart rs := by
  cases c with
  | reassignableBindings options => exact hd.apart_reassignableBindings h
  | throws options => exact Except.ok.inj h ▸ hd.apart_throws options
  | rejections => exact Except.ok.inj h ▸ hd.apart_rejections
  | changesToConstants options => exact hd.apart_changesToConstants h
  | writableMembers => exact Except.ok.inj h ▸ hd.apart_writableMembers
  | methodSignatures options => exact Except.ok.inj h ▸ hd.apart_methodSignatures options
  | writtenTypes options => exact hd.apart_writtenTypes h
  | declaredTypes options => exact hd.apart_declaredTypes h
  | componentReturns => exact Except.ok.inj h ▸ hd.apart_componentReturns
  | destructuredComponents => exact Except.ok.inj h ▸ hd.apart_destructuredComponents
  | reactivity options => cases hc
  | dependencyLists => exact Except.ok.inj h ▸ hd.apart_dependencyLists
  | mappedLists => exact Except.ok.inj h ▸ hd.apart_mappedLists
  | conditionalMarkup => exact Except.ok.inj h ▸ hd.apart_conditionalMarkup
  | misplacedImports => exact Except.ok.inj h ▸ hd.apart_misplacedImports
  | proxies => exact Except.ok.inj h ▸ hd.apart_proxies
  | rawMarkup options => exact Except.ok.inj h ▸ hd.apart_rawMarkup options
  | repeatedAttributes options => cases hc
  | scriptAddresses => exact Except.ok.inj h ▸ hd.apart_scriptAddresses
  | foreignNames => exact Except.ok.inj h ▸ hd.apart_foreignNames
  | unknownPrefixes options => exact Except.ok.inj h ▸ hd.apart_unknownPrefixes options
  | eventHandlers options => exact hd.apart_eventHandlers h
  | arrayHandlers => exact hd.apart_arrayHandlers h
  | undefinedNames options => exact hd.apart_undefinedNames h
  | emptyElements options => exact Except.ok.inj h ▸ hd.apart_emptyElements options
  | styles options => exact Except.ok.inj h ▸ hd.apart_styles options
  | joinedClasses options => exact Except.ok.inj h ▸ hd.apart_joinedClasses options
  | incompleteKeys options => exact Except.ok.inj h ▸ hd.apart_incompleteKeys options
  | infiniteQueryOptions => exact Except.ok.inj h ▸ hd.apart_infiniteQueryOptions
  | mutationOptions => exact Except.ok.inj h ▸ hd.apart_mutationOptions
  | gatheredResults => exact Except.ok.inj h ▸ hd.apart_gatheredResults
  | unstableDependencies => exact Except.ok.inj h ▸ hd.apart_unstableDependencies
  | renderedClients => exact Except.ok.inj h ▸ hd.apart_renderedClients
  | routeOptions => exact Except.ok.inj h ▸ hd.apart_routeOptions
  | routeParameters => exact Except.ok.inj h ▸ hd.apart_routeParameters

theorem Document.Regular.pairwise_remarks (hd : d.Regular) {rs : List Remark}
    (h : c.remarks d = .ok rs) : rs.Pairwise fun r q => r.spot = q.spot → c.MayRepeat d r q := by
  cases hc : c.keepsApart with
  | true =>
      exact (List.pairwise_map.mp (hd.apart_remarks hc h)).imp fun hne hspot => absurd hspot hne
  | false =>
      cases c with
      | repeatedAttributes options => exact hd.pairwise_repeatedAttributes h
      | reactivity options => exact Except.ok.inj h ▸ hd.pairwise_reactivity options
      | _ => cases hc

/-- A merge of findings with different ranges keeps all of them. -/
theorem Diagnostic.merge_perm {ds : List Diagnostic} (h : (ds.map key).Nodup) :
    (merge ds).Perm ds := by
  refine (List.perm_ext_iff_of_nodup (merge_keys_nodup ds).of_map h.of_map).mpr fun e => ?_
  rw [mem_merge_iff, isKept_iff_mem h]

/-- A node that the grammar names, with or without a role. -/
private def branch (kind : String) (start stop : Nat) (children : List ParseTree)
    (role : Option String := none) : ParseTree :=
  .node ⟨kind, true, false, role, start, stop⟩ children

/-- A token. -/
private def bare (text : String) (start stop : Nat) (role : Option String := none) : ParseTree :=
  .node ⟨text, false, false, role, start, stop⟩ []

/-- The file `let a, b;`, in which the declarators are nothing but names. -/
def Document.twoBindings : Document :=
  ⟨"a.ts", .ofString "let a, b;",
    branch "program" 0 9
      [branch "lexical_declaration" 0 9
        [bare "let" 0 3 "kind",
          branch "variable_declarator" 4 5 [branch "identifier" 4 5 [] "name"], bare "," 5 6,
          branch "variable_declarator" 7 8 [branch "identifier" 7 8 [] "name"], bare ";" 8 9]]⟩

/-- A quoted text of one character. -/
private def quotedLetter (start : Nat) : ParseTree :=
  branch "string" start (start + 3)
    [bare "\"" start (start + 1), branch "string_fragment" (start + 1) (start + 2) [],
      bare "\"" (start + 2) (start + 3)]

/-- The file `<a attr:children="x" children="y">k</a>`. -/
def Document.repeatedChildren : Document :=
  ⟨"a.tsx", .ofString "<a attr:children=\"x\" children=\"y\">k</a>",
    branch "program" 0 39
      [branch "expression_statement" 0 39
        [branch "jsx_element" 0 39
          [branch "jsx_opening_element" 0 34
            [bare "<" 0 1, branch "identifier" 1 2 [] "name",
              branch "jsx_attribute" 3 20
                [branch "jsx_namespace_name" 3 16
                  [branch "identifier" 3 7 [], bare ":" 7 8, branch "identifier" 8 16 []],
                  bare "=" 16 17, quotedLetter 17] "attribute",
              branch "jsx_attribute" 21 33
                [branch "property_identifier" 21 29 [], bare "=" 29 30, quotedLetter 30]
                "attribute",
              bare ">" 33 34] "open_tag",
            branch "jsx_text" 34 35 [],
            branch "jsx_closing_element" 35 39
              [bare "</" 35 37, branch "identifier" 37 38 [] "name", bare ">" 38 39]
              "close_tag"]]]⟩

/-- The statement `const [x] = createSignal(0);`, where the name has one letter. -/
private def signalAt (start : Nat) : ParseTree :=
  branch "lexical_declaration" start (start + 28)
    [bare "const" start (start + 5) "kind",
      branch "variable_declarator" (start + 6) (start + 27)
        [branch "array_pattern" (start + 6) (start + 9)
          [bare "[" (start + 6) (start + 7), branch "identifier" (start + 7) (start + 8) [],
            bare "]" (start + 8) (start + 9)] "name",
          bare "=" (start + 10) (start + 11),
          branch "call_expression" (start + 12) (start + 27)
            [branch "identifier" (start + 12) (start + 24) [] "function",
              branch "arguments" (start + 24) (start + 27)
                [bare "(" (start + 24) (start + 25), branch "number" (start + 25) (start + 26) [],
                  bare ")" (start + 26) (start + 27)] "arguments"] "value"],
      bare ";" (start + 27) (start + 28)]

/-- The file `const [a] = createSignal(0); const [b] = createSignal(0); f(a, b);`. -/
def Document.twoSignals : Document :=
  ⟨"a.tsx", .ofString "const [a] = createSignal(0); const [b] = createSignal(0); f(a, b);",
    branch "program" 0 66
      [signalAt 0, signalAt 29,
        branch "expression_statement" 58 66
          [branch "call_expression" 58 65
            [branch "identifier" 58 59 [] "function",
              branch "arguments" 59 65
                [bare "(" 59 60, branch "identifier" 60 61 [], bare "," 61 62,
                  branch "identifier" 63 64 [], bare ")" 64 65] "arguments"],
            bare ";" 65 66]]⟩

/-- The file `const [a, a] = splitProps(p); a.b;`. -/
def Document.repeatedName : Document :=
  ⟨"a.tsx", .ofString "const [a, a] = splitProps(p); a.b;",
    branch "program" 0 34
      [branch "lexical_declaration" 0 29
        [bare "const" 0 5 "kind",
          branch "variable_declarator" 6 28
            [branch "array_pattern" 6 12
              [bare "[" 6 7, branch "identifier" 7 8 [], bare "," 8 9, branch "identifier" 10 11 [],
                bare "]" 11 12] "name",
              bare "=" 13 14,
              branch "call_expression" 15 28
                [branch "identifier" 15 25 [] "function",
                  branch "arguments" 25 28
                    [bare "(" 25 26, branch "identifier" 26 27 [], bare ")" 27 28]
                    "arguments"] "value"],
          bare ";" 28 29],
        branch "expression_statement" 30 34
          [branch "member_expression" 30 33
            [branch "identifier" 30 31 [] "object", bare "." 31 32,
              branch "property_identifier" 32 33 [] "property"],
            bare ";" 33 34]]⟩

end CodeConventions
