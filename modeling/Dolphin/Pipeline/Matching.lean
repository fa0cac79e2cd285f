import Dolphin.Envoy.Requests
import Dolphin.Ingestion.Routes
import Dolphin.Translation.Routes

/-!
# Matches, from the HTTPRoute to Envoy

The match of a rule says which requests the rule is for (`Satisfies`). Ingestion makes a
model route from it and translation a route match, which Envoy takes for the same question
(`RouteMatch.accepts`). The answers should be the same.

They are for the conditions on path, headers and query parameters: a path prefix, which is
one of elements, becomes a path-separated prefix without its trailing slash
(`accepts_getPathSpecifier`), and the other conditions keep their form (`all_headerMatchers`,
`all_queryMatchers`). But ingestion drops the condition on the method, and an empty regular
expression for the path is taken for one that is not set. `matchPreserved_iff` says on which
requests it makes no difference.
-/

namespace Pipeline

open Gatewayv1 Ingestion Translation Go Model List

/-! ## What a match means -/

/-- The elements of a path. -/
def pathElements (path : String) : List (List Char) := path.toList.splitOn '/'

section

variable (engine : Envoy.RegexEngine)

/-- The condition on the path. A trailing slash of a prefix is ignored. -/
def PathSatisfied (path : HTTPPathMatch) (q : String) : Prop :=
  match path.type.getD .pathPrefix with
  | .exact => q = path.value.getD "/"
  | .pathPrefix => pathElements (trimSuffix (path.value.getD "/") "/") <+: pathElements q
  | .regularExpression => engine.fullMatch (path.value.getD "/") q = true
  | .other _ => False

/-- The condition on the value of a header or query parameter. -/
def ValueSatisfied (m : ValueMatch) (value : Option String) : Prop :=
  match m.type.getD .exact with
  | .exact => value = some m.value
  | .regularExpression => ∃ v, value = some v ∧ engine.fullMatch m.value v = true
  | .other _ => False

/-- The conditions on headers and query parameters. -/
structure ValuesSatisfied (m : HTTPRouteMatch) (req : Envoy.Request) : Prop where
  headers : ∀ h ∈ m.headers, ValueSatisfied engine h (req.header h.name)
  queryParams : ∀ q ∈ m.queryParams, ValueSatisfied engine q (req.queryParameter q.name)

/-- The request satisfies all conditions of the match. -/
structure Satisfies (m : HTTPRouteMatch) (req : Envoy.Request) : Prop
    extends ValuesSatisfied engine m req where
  path : PathSatisfied engine (m.path.getD {}) req.path
  method : ∀ method, m.method = some method → req.method = method

end

/-- What the API server admits, with the default set for the type and a value. -/
structure AdmittedValue (m : ValueMatch) : Prop where
  type : m.type = some .exact ∨ m.type = some .regularExpression
  value : m.value ≠ ""

/-- Paths and path prefixes start with a slash, regular expressions may be anything. -/
inductive AdmittedPath : HTTPPathMatch → Prop
  | exact (v : String) (h : hasPrefix v "/" = true) : AdmittedPath ⟨some .exact, some v⟩
  | pathPrefix (v : String) (h : hasPrefix v "/" = true) : AdmittedPath ⟨some .pathPrefix, some v⟩
  | regularExpression (v : String) : AdmittedPath ⟨some .regularExpression, some v⟩

/-- A match as the API server admits it, with defaults applied. -/
structure AdmittedMatch (m : HTTPRouteMatch) : Prop where
  path : ∃ path, m.path = some path ∧ AdmittedPath path
  headers : ∀ h ∈ m.headers, AdmittedValue h ∧ ':' ∉ h.name.toList
  queryParams : ∀ q ∈ m.queryParams, AdmittedValue q

/-! ## Where it gets to -/

/-- The route match that translation makes from a model route, with host suffix matching. -/
def routeMatchOf (hostnames : List String) (x : Model.HTTPRoute) : Envoy.RouteMatch :=
  getRouteMatch hostnames true x.sorted.pathMatch x.sorted.headersMatch x.sorted.queryParamsMatch
    x.sorted.method

/-- The model route made from the `i`-th match of a rule becomes a route match that accepts the
    request exactly when the request satisfies the match. -/
def MatchPreserved (engine : Envoy.RegexEngine) (hostnames : List String)
    (xs : List Model.HTTPRoute) (i : Nat) (m : HTTPRouteMatch) (req : Envoy.Request) : Prop :=
  ∃ x, xs[i]? = some x ∧
    ((routeMatchOf hostnames x).accepts engine req = true ↔ Satisfies engine m req)

/-- The condition on the path is the empty regular expression. -/
def EmptyRegex (m : HTTPRouteMatch) : Prop := m.path = some ⟨some .regularExpression, some ""⟩

/-- A request for which nothing is lost: if it satisfies the other conditions, it has the
    method of the match, and it does not satisfy them all but an empty regular expression. -/
structure NothingLost (engine : Envoy.RegexEngine) (m : HTTPRouteMatch) (req : Envoy.Request) :
    Prop where
  method : ValuesSatisfied engine m req → PathSatisfied engine (m.path.getD {}) req.path →
    ∀ method, m.method = some method → req.method = method
  regex : EmptyRegex m → hasPrefix req.path "/" = true → ¬ ValuesSatisfied engine m req

section

variable (engine : Envoy.RegexEngine) {m : HTTPRouteMatch} (req : Envoy.Request)

theorem ne_empty_of_slash {v : String} (hv : hasPrefix v "/" = true) : v ≠ "" := by
  rintro rfl
  exact absurd hv (by decide)

theorem accepts_prefixed {v q : String} (hv : hasPrefix v "/" = true) (hq : q ≠ "") :
    (getPathSpecifier { prefixed := v }).accepts engine q = true ↔
      pathElements (trimSuffix v "/") <+: pathElements q := by
  have helements : pathElements (trimSuffix v "/") <+: pathElements q ↔
      q.toList = (trimSuffix v "/").toList ∨ (trimSuffix v "/").toList ++ ['/'] <+: q.toList :=
    splitOn_isPrefix_iff
  rw [helements]
  by_cases hroot : v = "/"
  · -- the root is a prefix of its own, which no empty path has
    have hempty : q.toList ≠ [] := fun h => hq (String.toList_eq_nil_iff.1 h)
    have htrim : (trimSuffix "/" "/").toList = [] := by decide
    simp [getPathSpecifier, hroot, Envoy.PathSpecifier.accepts, hasPrefix_iff, htrim, hempty]
  · simp [getPathSpecifier, hroot, ne_empty_of_slash hv, Envoy.PathSpecifier.accepts, hasPrefix_iff,
      String.toList_inj]

/-- The path specifier accepts what satisfies the condition on the path, or is that for all
    paths in place of an empty regular expression. -/
theorem accepts_getPathSpecifier (hadm : AdmittedMatch m) {sm : StringMatch}
    (hsm : toPathMatch m = .ok sm) :
    (getPathSpecifier sm).accepts engine req.path = true ↔
      PathSatisfied engine (m.path.getD {}) req.path ∨
        EmptyRegex m ∧ hasPrefix req.path "/" = true := by
  obtain ⟨path, hpath, hadm⟩ := hadm.path
  rw [toPathMatch, hpath] at hsm
  rw [EmptyRegex, hpath, Option.getD_some]
  cases hadm with
  | exact v hv =>
    obtain rfl : ({ exact := v } : StringMatch) = sm := pure_eq_ok.1 hsm
    simp [getPathSpecifier, ne_empty_of_slash hv, Envoy.PathSpecifier.accepts, PathSatisfied]
  | pathPrefix v hv =>
    obtain rfl : ({ prefixed := v } : StringMatch) = sm := pure_eq_ok.1 hsm
    rw [accepts_prefixed engine hv req.path_ne]
    simp [PathSatisfied]
  | regularExpression v =>
    obtain rfl : ({ regex := v } : StringMatch) = sm := pure_eq_ok.1 hsm
    by_cases hempty : v = ""
    · have hno : ¬ PathSatisfied engine ⟨some .regularExpression, some ""⟩ req.path := fun h =>
        req.path_ne ((engine.fullMatch_empty _).1 h)
      simp [getPathSpecifier, hempty, Envoy.PathSpecifier.accepts, hno]
    · simp [getPathSpecifier, hempty, Envoy.PathSpecifier.accepts, PathSatisfied]

/-- A header or query parameter match becomes one string matcher, for the same values. -/
theorem exists_stringMatcher {h : ValueMatch} (hadm : AdmittedValue h) :
    ∃ sm, toKeyValueMatch (h.type.getD .exact) h = [⟨h.name, sm⟩] ∧ ∀ value : Option String,
      ((getEnvoyStringMatcher sm).any fun s => value.any (s.accepts engine)) = true ↔
        ValueSatisfied engine h value := by
  have hvalue := hadm.value
  rcases hadm.type with htype | htype
  · refine ⟨_, by rw [htype]; rfl, fun value => ?_⟩
    cases value <;>
      simp [getEnvoyStringMatcher, hvalue, ValueSatisfied, htype, Envoy.StringMatcher.accepts]
  · refine ⟨_, by rw [htype]; rfl, fun value => ?_⟩
    cases value <;>
      simp [getEnvoyStringMatcher, hvalue, ValueSatisfied, htype, Envoy.StringMatcher.accepts]

/-- The matchers made from admitted matches, sorted in whatever way, all accept when all
    conditions are satisfied. -/
theorem all_matchers {hs : List ValueMatch} (hadm : ∀ h ∈ hs, AdmittedValue h)
    (lookup : String → Option String) :
    (∀ kv ∈ sortMatches (hs.flatMap fun h => toKeyValueMatch (h.type.getD .exact) h),
      ((getEnvoyStringMatcher kv.valueMatch).any fun s =>
        (lookup kv.key).any (s.accepts engine)) = true) ↔
      ∀ h ∈ hs, ValueSatisfied engine h (lookup h.name) := by
  simp only [sortMatches, mem_insertionSort, mem_flatMap]
  constructor
  · intro hall h hh
    obtain ⟨sm, hsm, haccepts⟩ := exists_stringMatcher engine (hadm h hh)
    exact (haccepts _).1 (hall ⟨h.name, sm⟩ ⟨h, hh, hsm ▸ mem_singleton_self _⟩)
  · intro hall kv hkv
    obtain ⟨h, hh, hkv⟩ := hkv
    obtain ⟨sm, hsm, haccepts⟩ := exists_stringMatcher engine (hadm h hh)
    rw [hsm] at hkv
    obtain rfl := mem_singleton.1 hkv
    exact (haccepts _).2 (hall h hh)

/-- The type of a header match is set, so that it is the same as with the default. -/
theorem toHeaderMatch_eq (hadm : ∀ h ∈ m.headers, AdmittedValue h) :
    toHeaderMatch m = .ok (m.headers.flatMap fun h => toKeyValueMatch (h.type.getD .exact) h) := by
  refine collect_eq_flatMap fun h hh => ?_
  rcases (hadm h hh).type with htype | htype
  · rw [htype]
    rfl
  · rw [htype]
    rfl

theorem all_headerMatchers (hadm : AdmittedMatch m) (hostnames : List String)
    {hs : List KeyValueMatch} (hhs : toHeaderMatch m = .ok hs) :
    (getHeaderMatchers hostnames true (sortMatches hs) none).all (·.accepts engine req) = true ↔
      ∀ h ∈ m.headers, ValueSatisfied engine h (req.header h.name) := by
  have hvalues : ∀ h ∈ m.headers, AdmittedValue h := fun h hh => (hadm.headers h hh).1
  obtain rfl := Except.ok.inj ((toHeaderMatch_eq hvalues).symm.trans hhs)
  -- no header of a match is the one for the method
  have hname : ∀ h ∈ m.headers, req.headerValue h.name = req.header h.name := by
    intro h hh
    refine if_neg fun hmethod => (hadm.headers h hh).2 ?_
    rw [hmethod]
    decide
  have hall := all_matchers engine hvalues req.headerValue
  simp only [getHeaderMatchers, if_true, nil_append, Option.toList_none, map_nil,
    append_nil, all_map, all_eq_true, Function.comp_apply,
    Envoy.HeaderMatcher.accepts]
  rw [hall]
  exact forall₂_congr fun h hh => by rw [hname h hh]

theorem all_queryMatchers (hadm : AdmittedMatch m) :
    (getQueryMatchers (sortMatches (toQueryMatch m))).all (·.accepts engine req) = true ↔
      ∀ q ∈ m.queryParams, ValueSatisfied engine q (req.queryParameter q.name) := by
  simp only [getQueryMatchers, all_map, all_eq_true, Function.comp_apply,
    Envoy.QueryParameterMatcher.accepts]
  exact all_matchers engine hadm.queryParams req.queryParameter

/-- What Envoy accepts for a match. -/
theorem accepts_routeMatchOf (hadm : AdmittedMatch m) (hostnames : List String)
    {x : Model.HTTPRoute} (hpath : toPathMatch m = .ok x.pathMatch)
    (hheaders : toHeaderMatch m = .ok x.headersMatch) (hquery : x.queryParamsMatch = toQueryMatch m)
    (hmethod : x.method = none) :
    (routeMatchOf hostnames x).accepts engine req = true ↔ ValuesSatisfied engine m req ∧
      (PathSatisfied engine (m.path.getD {}) req.path ∨
        EmptyRegex m ∧ hasPrefix req.path "/" = true) := by
  have hp := accepts_getPathSpecifier engine req hadm hpath
  have hh := all_headerMatchers engine req hadm hostnames hheaders
  have hq := all_queryMatchers engine req hadm
  rw [Envoy.RouteMatch.accepts, Bool.and_eq_true, Bool.and_eq_true]
  simp only [routeMatchOf, getRouteMatch, HTTPRoute.sorted, hmethod, hquery, hp, hh, hq]
  constructor
  · intro h
    obtain ⟨⟨hpath, hheaders⟩, hquery⟩ := h
    exact ⟨⟨hheaders, hquery⟩, hpath⟩
  · intro h
    obtain ⟨⟨hheaders, hquery⟩, hpath⟩ := h
    exact ⟨⟨hpath, hheaders⟩, hquery⟩

theorem EmptyRegex.not_satisfied (h : EmptyRegex m) :
    ¬ PathSatisfied engine (m.path.getD {}) req.path := by
  rw [h]
  exact fun hmatch => req.path_ne ((engine.fullMatch_empty _).1 hmatch)

end

/-- The match of a rule is preserved exactly for the requests for which nothing is lost. -/
theorem matchPreserved_iff (engine : Envoy.RegexEngine) {listener : Listener}
    {services : List Corev1.Service} {grants : List ReferenceGrant} {hosts : List String}
    {r : Gatewayv1.HTTPRoute} {rule : HTTPRouteRule} {xs : List Model.HTTPRoute}
    (hxs : ingestHTTPRule listener services grants hosts r rule = .ok xs) {i : Nat}
    {m : HTTPRouteMatch} (hi : rule.routeMatches[i]? = some m) (hadm : AdmittedMatch m)
    (hostnames : List String) (req : Envoy.Request) :
    MatchPreserved engine hostnames xs i m req ↔ NothingLost engine m req := by
  obtain ⟨x, hx, hpath, hheaders, hquery, hmethod⟩ := ingestHTTPRule_match hxs hi
  have haccepts := accepts_routeMatchOf engine req hadm hostnames hpath
    hheaders hquery hmethod
  have hpreserved : MatchPreserved engine hostnames xs i m req ↔
      ((routeMatchOf hostnames x).accepts engine req = true ↔ Satisfies engine m req) := by
    simp only [MatchPreserved, hx, Option.some_inj, exists_eq_left']
  rw [hpreserved, haccepts]
  constructor
  · intro h
    refine ⟨fun hvalues hpath => (h.1 ⟨hvalues, .inl hpath⟩).method,
      fun hregex hslash hvalues => ?_⟩
    exact hregex.not_satisfied engine req (h.1 ⟨hvalues, .inr ⟨hregex, hslash⟩⟩).path
  · intro h
    refine ⟨fun haccepted => ?_, fun hsatisfied => ⟨hsatisfied.1, .inl hsatisfied.path⟩⟩
    obtain ⟨hvalues, hpath | ⟨hregex, hslash⟩⟩ := haccepted
    · exact ⟨hvalues, hpath, h.method hvalues hpath⟩
    · exact absurd hvalues (h.regex hregex hslash)

/-- An engine that takes regular expressions literally. -/
def literalEngine : Envoy.RegexEngine where
  fullMatch regex s := regex == s
  fullMatch_empty _ := beq_iff_eq.trans eq_comm

/-- A match on a path prefix and a header, for requests of any method or of one. -/
def shopMatch (method : Option String) : HTTPRouteMatch where
  path := some ⟨some .pathPrefix, some "/shop/"⟩
  headers := [⟨some .exact, "env", "test"⟩]
  method := method

theorem shopMatch_admitted (method : Option String) : AdmittedMatch (shopMatch method) := by
  refine ⟨⟨_, rfl, .pathPrefix _ (by decide)⟩, fun h hh => ?_, fun q hq => ?_⟩
  · obtain rfl := mem_singleton.1 hh
    exact ⟨⟨.inl rfl, by decide⟩, by decide⟩
  · cases hq

/-- A request with this path and header. -/
def shopRequest : Envoy.Request where
  method := "GET"
  path := "/shop/cart"
  header := fun name => if name = "env" then some "test" else none
  queryParameter := fun _ => none
  path_ne := by decide

def plainListener : Listener where
  name := "web"
  port := 80
  protocol := .http

def shopRule (method : Option String) : HTTPRouteRule where
  routeMatches := [shopMatch method]

def shopMatchRoute (method : Option String) : Gatewayv1.HTTPRoute where
  name := "shop"
  ns := "team"
  rules := [shopRule method]

/-- What ingestion makes of the rule, with or without a method. -/
def shopModelRoute : Model.HTTPRoute where
  hostnames := ["shop.example"]
  pathMatch := { prefixed := "/shop/" }
  headersMatch := [⟨"env", { exact := "test" }⟩]
  directResponse := some { statusCode := 500 }

theorem shopRule_ingested (method : Option String) :
    ingestHTTPRule plainListener [] [] ["shop.example"] (shopMatchRoute method) (shopRule method) =
      .ok [shopModelRoute] :=
  rfl

theorem shopModelRoute_accepts :
    (routeMatchOf ["shop.example"] shopModelRoute).accepts literalEngine shopRequest = true :=
  rfl

/-- Without a method, the request is accepted, as it should be. -/
theorem matchPreserved_shopMatch :
    (routeMatchOf ["shop.example"] shopModelRoute).accepts literalEngine shopRequest = true ∧
      MatchPreserved literalEngine ["shop.example"] [shopModelRoute] 0 (shopMatch none)
        shopRequest := by
  refine ⟨shopModelRoute_accepts, (matchPreserved_iff literalEngine (shopRule_ingested none) rfl
    (shopMatch_admitted none) _ _).2 ⟨?_, ?_⟩⟩
  · intro _ _ method hmethod
    cases hmethod
  · intro hregex
    simp [EmptyRegex, shopMatch] at hregex

/-- A match for the method POST accepts a request with the method GET. -/
theorem method_lost :
    AdmittedMatch (shopMatch (some "POST")) ∧
      ∃ xs, ingestHTTPRule plainListener [] [] ["shop.example"] (shopMatchRoute (some "POST"))
        (shopRule (some "POST")) = .ok xs ∧
      ¬ MatchPreserved literalEngine ["shop.example"] xs 0 (shopMatch (some "POST"))
        shopRequest := by
  refine ⟨shopMatch_admitted _, _, shopRule_ingested _, fun hpreserved => ?_⟩
  obtain ⟨x, hx, haccepts⟩ := hpreserved
  obtain rfl := Option.some_inj.1 hx
  have hsatisfied := haccepts.1 shopModelRoute_accepts
  exact absurd (hsatisfied.method "POST" rfl) (by decide)

end Pipeline
