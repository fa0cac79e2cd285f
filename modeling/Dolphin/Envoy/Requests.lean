import Dolphin.Envoy.Types
import Dolphin.Go.Strings
import Dolphin.Selection.Shares
import Mathlib.Data.Prod.Lex

/-!
# Requests

What Envoy does with requests, for the configurations that translation writes: which of them its
matchers accept, which path it forwards, and where it sends them.

Envoy looks for the authority of a request among the domains of virtual hosts. A domain with a star
in front stands for what ends in the rest of it, one with a star at its end for what begins with
the rest, in both cases with something in place of the star; other domains only stand for
themselves. Only one star counts, and the one in front is looked for first. Of the domains that
match, Envoy takes the one that says most (`domainRank`).
-/

namespace Envoy

open Go List

/-! ## Matchers

How a regular expression is matched is left to an engine, of which it is only known that the empty
expression matches nothing but the empty string.
-/

/-- An engine that matches regular expressions with the whole of a string. -/
structure RegexEngine where
  fullMatch : String → String → Bool
  fullMatch_empty : ∀ s, fullMatch "" s = true ↔ s = ""

/-- A request as matchers see it: its path without the query, which is never empty, and the
    values of its headers and query parameters by name. -/
structure Request where
  method : String
  path : String
  header : String → Option String
  queryParameter : String → Option String
  path_ne : path ≠ ""

/-- The value of a header, where the method is a header too. -/
def Request.headerValue (req : Request) (name : String) : Option String :=
  if name = ":method" then some req.method else req.header name

section

variable (engine : RegexEngine)

def StringMatcher.accepts : StringMatcher → String → Bool
  | .exact s, value => value == s
  | .prefixed s, value => hasPrefix value s
  | .safeRegex regex, value => engine.fullMatch regex value

/-- A header is there and its value is accepted. Envoy rejects a matcher without a pattern. -/
def HeaderMatcher.accepts (matcher : HeaderMatcher) (req : Request) : Bool :=
  matcher.stringMatch.any fun sm => (req.headerValue matcher.name).any (sm.accepts engine)

def QueryParameterMatcher.accepts (matcher : QueryParameterMatcher) (req : Request) : Bool :=
  matcher.stringMatch.any fun sm => (req.queryParameter matcher.name).any (sm.accepts engine)

def PathSpecifier.accepts : PathSpecifier → String → Bool
  | .path s, q => q == s
  | .prefixed s, q => hasPrefix q s
  | .pathSeparatedPrefix s, q => q == s || hasPrefix q (s ++ "/")
  | .safeRegex regex, q => engine.fullMatch regex q

/-- A route matches a request when all of its matchers accept it. -/
def RouteMatch.accepts (m : RouteMatch) (req : Request) : Bool :=
  m.pathSpecifier.accepts engine req.path && m.headers.all (·.accepts engine req) &&
    m.queryParameters.all (·.accepts engine req)

end

/-! ## Rewritten paths

The path that Envoy forwards for a route action that translation writes (`forwardedPath`):
either the prefix that the route matched is replaced, or a regular expression. A redirect may
replace the prefix that was matched, too, or the whole path (`redirectedPath`). How a regular
expression is replaced is left to a rewriter, of which it is only known what it does for a
text at the begin of a path, a slash that may follow, and the rest.
-/

/-- What replaces a match of a regular expression in a path. -/
structure RegexRewriter where
  replace : (regex substitution path : String) → String
  replace_quoted : ∀ text path,
    replace ("^" ++ quoteMeta text ++ "(/?)(.*)") "/\\2" path =
      if hasPrefix path text then "/" ++ trimPrefix (trimPrefix path text) "/" else path

/-- The part of a path that a path specifier matched. -/
def PathSpecifier.matchedPart (path : String) : PathSpecifier → String
  | .path s | .prefixed s | .pathSeparatedPrefix s => s
  | .safeRegex _ => path

/-- The path that is forwarded for a path that was matched. -/
def forwardedPath (rewriter : RegexRewriter) (specifier : PathSpecifier) (action : RouteAction)
    (path : String) : String :=
  match action.regexRewrite with
  | some rewrite => rewriter.replace rewrite.regex rewrite.substitution path
  | none =>
    if action.prefixRewriteTo = "" then path
    else action.prefixRewriteTo ++ trimPrefix path (specifier.matchedPart path)

/-- The path of the location that a redirect gives for a path that was matched. -/
def redirectedPath (specifier : PathSpecifier) (action : RedirectAction) (path : String) : String :=
  match action.pathRewrite with
  | none => path
  | some (.pathRedirect full) => full
  | some (.prefixRewriteTo replacement) =>
    if replacement = "" then path
    else replacement ++ trimPrefix path (specifier.matchedPart path)

/-- The text that was quoted. -/
def unquote : List Char → List Char
  | '\\' :: c :: cs => c :: unquote cs
  | c :: cs => c :: unquote cs
  | [] => []

theorem unquote_quoteMeta (text : String) : unquote (quoteMeta text).toList = text.toList := by
  rw [quoteMeta, String.toList_ofList]
  induction text.toList with
  | nil => rfl
  | cons c cs ih =>
    rw [flatMap_cons]
    split_ifs with hc
    · rw [cons_append, singleton_append, unquote, ih]
    · -- a backslash is quoted
      have hne : c ≠ '\\' := by
        rintro rfl
        exact hc (by decide)
      rw [singleton_append, unquote.eq_def]
      split
      · rename_i heq
        exact absurd (cons.inj heq).1 hne
      · rename_i heq
        obtain ⟨rfl, rfl⟩ := cons.inj heq
        rw [ih]
      · rename_i heq
        cases heq

/-- A rewriter that knows no other regular expressions. -/
def quotedRewriter : RegexRewriter where
  replace regex _ path :=
    let text := String.ofList (unquote ((regex.toList.drop 1).take (regex.toList.length - 9)))
    if hasPrefix path text then "/" ++ trimPrefix (trimPrefix path text) "/" else path
  replace_quoted text path := by
    have htext : (("^" ++ quoteMeta text ++ "(/?)(.*)").toList.drop 1).take
        (("^" ++ quoteMeta text ++ "(/?)(.*)").toList.length - 9) = (quoteMeta text).toList := by
      simp [String.toList_append]
    simp only [htext, unquote_quoteMeta, String.ofList_toList]

/-! ## Where traffic is sent

The clusters that Envoy selects from, with their weights, for a request that a route matches
and for a connection to a listener. A redirect or a response selects none, and so does a list
of clusters whose weights are all zero, which Envoy does not accept.

A connection with TLS is for a server name, or a pattern of them, and is handled by the filter
chain that lists it; one without server names is for all others, which are written `*`. Envoy
does not accept a listener in which several chains list the same server name. For a server name
that a client sends, the patterns of a chain stand for the names below them (`admits`).
-/

def ClusterSpecifier.weights : ClusterSpecifier → List (String × ℕ)
  | .cluster name => [(name, 1)]
  | .weightedClusters clusters => clusters.map fun c => (c.name, c.weight)

def Action.weights : Action → List (String × ℕ)
  | .route action => action.clusterSpecifier.weights
  | .redirect _ | .directResponse _ => []

def Route.weights : Option Route → List (String × ℕ)
  | some route => route.action.weights
  | none => []

def Filter.weights : Filter → List (String × ℕ)
  | .httpConnectionManager .. => []
  | .tcpProxy _ cluster => [(cluster, 1)]

/-- The chain is for connections with TLS to the server name. -/
def FilterChain.lists (chain : FilterChain) (n : String) : Bool :=
  chain.transportProtocol == "tls" &&
    (chain.serverNames.contains n || (chain.serverNames.isEmpty && n == "*"))

/-- The server name is the pattern, or below it. -/
def serverNameMatches (pattern n : String) : Bool :=
  n == pattern || (hasPrefix pattern "*." && hasSuffix n (trimPrefix pattern "*"))

/-- The chain matches connections with TLS that carry the server name. -/
def FilterChain.admits (chain : FilterChain) (n : String) : Bool :=
  chain.transportProtocol == "tls" &&
    (chain.serverNames.isEmpty || chain.serverNames.any (serverNameMatches · n))

/-- The clusters for connections with TLS to a server name. -/
def Listener.tlsWeights (l : Listener) (n : String) : List (String × ℕ) :=
  match l.filterChains.filter (·.lists n) with
  | [chain] => chain.filter.weights
  | _ => []

/-- The clusters for connections to a listener with a single filter chain. -/
def Listener.weights (l : Listener) : List (String × ℕ) :=
  match l.filterChains with
  | [chain] => chain.filter.weights
  | _ => []

/-! ## Domains of virtual hosts -/

def domainMatches (domain authority : String) : Bool :=
  if domain = "*" then true
  else if hasPrefix domain "*" then
    hasSuffix authority (trimPrefix domain "*") && authority ≠ trimPrefix domain "*"
  else if hasSuffix domain "*" then
    hasPrefix authority (trimSuffix domain "*") && authority ≠ trimSuffix domain "*"
  else authority = domain

section

variable {domain authority : String} {rest : List Char}

theorem domainMatches_star_cons (hdomain : domain.toList = '*' :: rest) (hrest : rest ≠ []) :
    domainMatches domain authority = true ↔ ∃ p, p ≠ [] ∧ authority.toList = p ++ rest := by
  have hne : domain ≠ "*" := by
    rintro rfl
    exact hrest (List.cons.inj hdomain).2.symm
  have hprefix : hasPrefix domain "*" = true := hasPrefix_iff.2 ⟨rest, hdomain.symm⟩
  have htrim : (trimPrefix domain "*").toList = rest := toList_trimPrefix hdomain
  rw [domainMatches, if_neg hne, if_pos hprefix, Bool.and_eq_true, hasSuffix_iff, htrim,
    decide_eq_true_eq, ne_eq, ← String.toList_inj, htrim]
  constructor
  · rintro ⟨⟨p, hp⟩, hne⟩
    refine ⟨p, ?_, hp.symm⟩
    rintro rfl
    exact hne hp.symm
  · rintro ⟨p, hp, heq⟩
    rw [heq]
    exact ⟨⟨p, rfl⟩, fun hself => hp (append_left_eq_self.1 hself)⟩

theorem domainMatches_concat_star (hdomain : domain.toList = rest ++ ['*']) (hrest : rest ≠ [])
    (hstar : '*' ∉ rest) :
    domainMatches domain authority = true ↔ ∃ p, p ≠ [] ∧ authority.toList = rest ++ p := by
  have hne : domain ≠ "*" := by
    rintro rfl
    exact hrest (append_left_eq_self.1 hdomain.symm)
  have hprefix : ¬ hasPrefix domain "*" = true := by
    intro h
    obtain ⟨c, rest, rfl⟩ := exists_cons_of_ne_nil hrest
    obtain ⟨t, ht⟩ := hasPrefix_iff.1 h
    exact hstar ((List.cons.inj (ht.trans hdomain)).1 ▸ mem_cons_self)
  have hsuffix : hasSuffix domain "*" = true := hasSuffix_iff.2 ⟨rest, hdomain.symm⟩
  have htrim : (trimSuffix domain "*").toList = rest := toList_trimSuffix hdomain
  rw [domainMatches, if_neg hne, if_neg hprefix, if_pos hsuffix, Bool.and_eq_true, hasPrefix_iff,
    htrim, decide_eq_true_eq, ne_eq, ← String.toList_inj, htrim]
  constructor
  · rintro ⟨⟨p, hp⟩, hne⟩
    refine ⟨p, ?_, hp.symm⟩
    rintro rfl
    exact hne (hp.symm.trans (append_nil rest))
  · rintro ⟨p, hp, heq⟩
    rw [heq]
    exact ⟨⟨p, rfl⟩, fun hself => hp (append_right_eq_self.1 hself)⟩

theorem domainMatches_of_not_star (hstar : '*' ∉ domain.toList) :
    domainMatches domain authority = true ↔ authority = domain := by
  have hne : domain ≠ "*" := by
    rintro rfl
    exact hstar (by decide)
  have hprefix : ¬ hasPrefix domain "*" = true := fun h =>
    hstar ((hasPrefix_iff.1 h).subset mem_cons_self)
  have hsuffix : ¬ hasSuffix domain "*" = true := fun h =>
    hstar ((hasSuffix_iff.1 h).subset mem_cons_self)
  rw [domainMatches, if_neg hne, if_neg hprefix, if_neg hsuffix, decide_eq_true_eq]

end

/-! ## Selection -/

/-- Envoy looks for a domain without a star first, then for one with a star in front and for one
    with a star at the end, the longer ones first. -/
def domainRank (domain : String) : ℕ ×ₗ ℕ :=
  if domain = "*" then toLex (0, 0)
  else if hasPrefix domain "*" then toLex (2, domain.toList.length)
  else if hasSuffix domain "*" then toLex (1, domain.toList.length)
  else toLex (3, 0)

theorem domainRank_le (domain : String) : domainRank domain ≤ toLex (3, 0) := by
  rw [domainRank]
  split_ifs <;> simp [Prod.Lex.toLex_le_toLex]

/-- Of the candidates, the one with the domain that Envoy finds first for the authority. -/
def Selects {ι : Type} (candidates : ι → Prop) (domains : ι → List String) (authority : String)
    (i : ι) : Prop :=
  candidates i ∧ ∃ d ∈ domains i, domainMatches d authority = true ∧
    ∀ j, candidates j → ∀ d' ∈ domains j, domainMatches d' authority = true →
      domainRank d' ≤ domainRank d

end Envoy
