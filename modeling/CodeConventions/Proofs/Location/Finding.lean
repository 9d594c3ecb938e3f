import CodeConventions.Proofs.Location.Attribute
import CodeConventions.Proofs.Location.Component
import CodeConventions.Proofs.Location.Functional
import CodeConventions.Proofs.Location.RoutePath
import CodeConventions.Proofs.Rules.Builtin

/-!
# Where findings are

All checks but one show nodes, whatever the document is like; the one on route paths shows ranges
between quotes.  In a well-formed document the ranges of nodes and those between quotes are ranges
of the source.  So whatever a rule of the library returns is a finding of its own, about a part of
the source that the finding gives the lines and columns of.
-/

namespace CodeConventions

open Document

variable {d : Document} {c : Check} {r : Rule}

/-- All checks but the one on route paths show nodes. -/
theorem Check.onNodes_of_ne_routeParameters {rs : List Remark} (h : c.remarks d = .ok rs)
    (hc : c ≠ .routeParameters) : d.OnNodes rs := by
  cases c with
  | reassignableBindings options => exact onNodes_reassignableBindings h
  | throws options => exact Except.ok.inj h ▸ onNodes_throws d options
  | rejections => exact Except.ok.inj h ▸ onNodes_rejections d
  | changesToConstants options => exact onNodes_changesToConstants h
  | writableMembers => exact Except.ok.inj h ▸ onNodes_writableMembers d
  | methodSignatures options => exact Except.ok.inj h ▸ onNodes_methodSignatures d options
  | writtenTypes options => exact onNodes_writtenTypes h
  | declaredTypes options => exact onNodes_declaredTypes h
  | componentReturns => exact Except.ok.inj h ▸ onNodes_componentReturns d
  | destructuredComponents => exact Except.ok.inj h ▸ onNodes_destructuredComponents d
  | reactivity options => exact Except.ok.inj h ▸ onNodes_reactivity d options
  | dependencyLists => exact Except.ok.inj h ▸ onNodes_dependencyLists d
  | mappedLists => exact Except.ok.inj h ▸ onNodes_mappedLists d
  | conditionalMarkup => exact Except.ok.inj h ▸ onNodes_conditionalMarkup d
  | misplacedImports => exact Except.ok.inj h ▸ onNodes_misplacedImports d
  | proxies => exact Except.ok.inj h ▸ onNodes_proxies d
  | rawMarkup options => exact Except.ok.inj h ▸ onNodes_rawMarkup d options
  | repeatedAttributes options => exact onNodes_repeatedAttributes h
  | scriptAddresses => exact Except.ok.inj h ▸ onNodes_scriptAddresses d
  | foreignNames => exact Except.ok.inj h ▸ onNodes_foreignNames d
  | unknownPrefixes options => exact Except.ok.inj h ▸ onNodes_unknownPrefixes d options
  | eventHandlers options => exact onNodes_eventHandlers h
  | arrayHandlers => exact onNodes_arrayHandlers h
  | undefinedNames options => exact onNodes_undefinedNames h
  | emptyElements options => exact Except.ok.inj h ▸ onNodes_emptyElements d options
  | styles options => exact Except.ok.inj h ▸ onNodes_styles d options
  | joinedClasses options => exact Except.ok.inj h ▸ onNodes_joinedClasses d options
  | incompleteKeys options => exact Except.ok.inj h ▸ onNodes_incompleteKeys d options
  | infiniteQueryOptions => exact Except.ok.inj h ▸ onNodes_infiniteQueryOptions d
  | mutationOptions => exact Except.ok.inj h ▸ onNodes_mutationOptions d
  | gatheredResults => exact Except.ok.inj h ▸ onNodes_gatheredResults d
  | unstableDependencies => exact Except.ok.inj h ▸ onNodes_unstableDependencies d
  | renderedClients => exact Except.ok.inj h ▸ onNodes_renderedClients d
  | routeOptions => exact Except.ok.inj h ▸ onNodes_routeOptions d
  | routeParameters => exact absurd rfl hc

/-- A rule that does not crash returns the findings of its check. -/
theorem Rule.eq_of_run_eq_returned (hdetector : r.detector = .check c) {items : List Item}
    (h : r.run d = .returned items) : ∃ rs, c.remarks d = .ok rs ∧
      items = rs.map fun remark => .finding (remark.toFinding c.info.id) := by
  unfold run Check.findings at h
  rw [hdetector] at h
  dsimp only at h
  cases hremarks : c.remarks d with
  | error crash =>
    rw [hremarks] at h
    cases h
  | ok rs =>
    rw [hremarks] at h
    cases h
    exact ⟨rs, rfl, List.map_map⟩

namespace Document

/-- The rule may show the span: it is the span of a node, or for the rule on route paths that of a
range between quotes. -/
def Shows (d : Document) (id : String) (s : Span) : Prop :=
  (∃ n ∈ d.root.nodes, s = d.spanOf n) ∨
    (id = "router/route-param-names" ∧
      ∃ n, ∃ a b : Nat, d.BetweenQuotes n a b ∧ s = d.source.spanOf a b)

theorem WellFormed.shows_of_mem_remarks (hd : d.WellFormed) {rs : List Remark}
    (h : c.remarks d = .ok rs) {remark : Remark} (hremark : remark ∈ rs) :
    d.Shows c.info.id remark.span := by
  by_cases hc : c = .routeParameters
  · subst hc
    obtain rfl := Except.ok.inj h
    exact Or.inr ⟨rfl, hd.betweenQuotes_of_mem_routeParameters hremark⟩
  · exact Or.inl (Check.onNodes_of_ne_routeParameters h hc remark hremark)

theorem WellFormed.locates_of_shows (hd : d.WellFormed) {id : String} {s : Span}
    (h : d.Shows id s) : d.source.Locates s := by
  rcases h with ⟨n, hn, rfl⟩ | ⟨_, n, a, b, hquotes, rfl⟩
  · exact hd.locates_spanOf hn
  · exact hd.locates_betweenQuotes hquotes

/-- The file `createLazyRoute("/é/$a-b");`, where `é` takes two bytes. -/
def routed : Document :=
  ⟨"a.ts", .ofString "createLazyRoute(\"/é/$a-b\");",
    .node ⟨"program", true, false, none, 0, 28⟩
      [.node ⟨"expression_statement", true, false, none, 0, 28⟩
        [.node ⟨"call_expression", true, false, none, 0, 27⟩
          [.node ⟨"identifier", true, false, some "function", 0, 15⟩ [],
            .node ⟨"arguments", true, false, some "arguments", 15, 27⟩
              [.node ⟨"(", false, false, none, 15, 16⟩ [],
                .node ⟨"string", true, false, none, 16, 26⟩
                  [.node ⟨"\"", false, false, none, 16, 17⟩ [],
                    .node ⟨"string_fragment", true, false, none, 17, 25⟩ [],
                    .node ⟨"\"", false, false, none, 25, 26⟩ []],
                .node ⟨")", false, false, none, 26, 27⟩ []]],
          .node ⟨";", false, false, none, 27, 28⟩ []]]⟩

end Document

end CodeConventions
