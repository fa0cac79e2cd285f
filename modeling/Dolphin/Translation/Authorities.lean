import Dolphin.DNS.Names
import Dolphin.Envoy.Requests
import Dolphin.Regexp.Fragment
import Dolphin.Translation.MatchGroups

/-!
# Authorities of requests

A virtual host is for the requests whose authority is the host name, with or without a port. It has
a domain for each, and where a wildcard stands for a single label, its routes have a matcher for
the authority (`addedMatchers`).

The domain for authorities with a port is `host:*`. For a wildcard this is a domain with two stars,
of which Envoy only takes the first as one, and the matcher does not expect a port at all. So a
wildcard does not match an authority with a port (`matchesAuthority_iff`).
-/

namespace Translation

open Go Envoy List

/-- An authority: a name, and a port in digits. -/
structure Authority where
  name : DNS.Name
  port : Option (List Char)
  port_ne : ∀ p ∈ port, p ≠ []
  port_digits : ∀ p ∈ port, ∀ c ∈ p, c.isDigit = true

variable {a : Authority} {m : DNS.Name}

/-- Whether a port is in digits. -/
def validPort (p : List Char) : Bool := !p.isEmpty && p.all Char.isDigit

theorem validPort_iff {p : List Char} :
    validPort p = true ↔ p ≠ [] ∧ ∀ c ∈ p, c.isDigit = true := by
  simp [validPort]

/-- The authority with a port that passes the test. -/
def Authority.ofPort (name : DNS.Name) (p : List Char) (h : validPort p = true) : Authority where
  name := name
  port := some p
  port_ne _ hq := Option.some.inj hq ▸ (validPort_iff.1 h).1
  port_digits _ hq := Option.some.inj hq ▸ (validPort_iff.1 h).2

/-- The authority without a port. -/
def Authority.ofName (name : DNS.Name) : Authority where
  name := name
  port := none
  port_ne _ h := absurd h (Option.not_mem_none _)
  port_digits _ h := absurd h (Option.not_mem_none _)

def Authority.text (a : Authority) : String :=
  String.ofList (a.name.text ++ a.port.elim [] (':' :: ·))

/-- The matchers that routes get for the host of their virtual host. -/
def addedMatchers (h : String) (suffixMatch : Bool) : List HeaderMatcher :=
  getHeaderMatchers [h] suffixMatch [] none

/-- The virtual host is one for the authority, and the matchers that its routes get for the
    host accept it, exactly when the host name matches the name of the authority. -/
def MatchesAuthority (engine : RegexEngine) (vh : VirtualHost) (p : DNS.Pattern)
    (suffixMatch : Bool) (a : Authority) (req : Request) : Prop :=
  ((∃ d ∈ vh.domains, domainMatches d a.text = true) ∧
    ∀ matcher ∈ addedMatchers (String.ofList p.text) suffixMatch,
      matcher.accepts engine req = true) ↔
  p.Matches suffixMatch a.name

/-! ## Characters -/

section

variable {n : DNS.Name}

theorem not_mem_name {c : Char} (hplain : DNS.isPlain c = false) (hdot : c ≠ '.') : c ∉ n.text := by
  intro hmem
  rcases DNS.Name.plain_of_mem_text hmem with h | h
  · exact Bool.false_ne_true (hplain.symm.trans h)
  · exact hdot h

theorem toList_text (a : Authority) : a.text.toList = a.name.text ++ a.port.elim [] (':' :: ·) :=
  String.toList_ofList

theorem not_star_mem_authority (a : Authority) : '*' ∉ a.text.toList := by
  have hname : '*' ∉ a.name.text := not_mem_name rfl (by decide)
  rw [toList_text, mem_append, not_or]
  refine ⟨hname, ?_⟩
  cases hport : a.port with
  | none => exact not_mem_nil
  | some p =>
    intro hmem
    rcases mem_cons.1 hmem with h | h
    · exact absurd h (by decide)
    · exact absurd (a.port_digits p hport '*' h) (by decide)

end

/-! ## Domains -/

/-- The domains of a host name that is not just a star, with what they match. -/
theorem exists_domain_iff {h : String} (hstar : h ≠ "*") (hcolon : ':' ∉ h.toList) :
    (∃ d ∈ hostDomains h, domainMatches d a.text = true) ↔
      domainMatches h a.text = true ∨ domainMatches (h ++ ":" ++ "*") a.text = true := by
  rw [hostDomains, if_neg hstar, joinHostPort_of_not_mem hcolon]
  simp

theorem exact_ne_star : String.ofList m.text ≠ "*" := by
  intro heq
  have hstar : '*' ∉ m.text := not_mem_name rfl (by decide)
  have hlist : m.text = ['*'] := String.toList_ofList.symm.trans (congrArg String.toList heq)
  exact hstar (hlist ▸ mem_cons_self)

theorem exists_domain_exact :
    (∃ d ∈ hostDomains (String.ofList m.text), domainMatches d a.text = true) ↔
      a.name.labels = m.labels := by
  have hstar : '*' ∉ m.text := not_mem_name rfl (by decide)
  have hcolon (n : DNS.Name) : ':' ∉ n.text := not_mem_name rfl (by decide)
  have hm : (String.ofList m.text).toList = m.text := String.toList_ofList
  have hport : (String.ofList m.text ++ ":" ++ "*").toList = (m.text ++ [':']) ++ ['*'] := by
    rw [String.toList_append, String.toList_append, hm]
    rfl
  rw [exists_domain_iff exact_ne_star (hm.symm ▸ hcolon m), domainMatches_of_not_star (hm.symm ▸ hstar),
    domainMatches_concat_star hport (by simp) (by simp [hstar]), ← String.toList_inj, hm,
    toList_text, ← DNS.Name.text_inj]
  cases hp : a.port with
  | none =>
    rw [Option.elim_none, append_nil, or_iff_left]
    rintro ⟨q, _, hq⟩
    exact hcolon a.name (hq ▸ by simp)
  | some p =>
    have hself : ¬ a.name.text ++ ':' :: p = m.text := fun heq => hcolon m (heq ▸ by simp)
    rw [Option.elim_some, or_iff_right hself]
    constructor
    · rintro ⟨q, _, hq⟩
      rw [append_assoc] at hq
      exact (append_sep_inj (hcolon a.name) (hcolon m) hq).1
    · intro heq
      exact ⟨p, a.port_ne p hp, by rw [heq, append_assoc]; rfl⟩

theorem not_suffix_port {x p : List Char} (hp : ∀ c ∈ p, c.isDigit = true) :
    ¬ '.' :: m.text <:+ x ++ ':' :: p := by
  intro hsuffix
  have hcolon : ':' ∉ '.' :: m.text := by
    rw [mem_cons, not_or]
    exact ⟨by decide, not_mem_name rfl (by decide)⟩
  rcases suffix_or_suffix_of_suffix hsuffix (suffix_append x (':' :: p)) with h | h
  · rcases suffix_cons_iff.1 h with heq | h
    · exact absurd (List.cons.inj heq).1 (by decide)
    · exact absurd (hp '.' (h.subset mem_cons_self)) (by decide)
  · exact hcolon (h.subset mem_cons_self)

theorem below_ne_star : String.ofList (DNS.Pattern.below m).text ≠ "*" := by
  intro heq
  have hlist : '*' :: '.' :: m.text = ['*'] :=
    String.toList_ofList.symm.trans (congrArg String.toList heq)
  exact cons_ne_nil _ _ (List.cons.inj hlist).2

theorem pattern_ne_star (p : DNS.Pattern) : String.ofList p.text ≠ "*" := by
  cases p with
  | exact n => exact exact_ne_star
  | below n => exact below_ne_star

theorem not_colon_mem_pattern (p : DNS.Pattern) : ':' ∉ (String.ofList p.text).toList := by
  have hname (n : DNS.Name) : ':' ∉ n.text := not_mem_name rfl (by decide)
  rw [String.toList_ofList]
  cases p with
  | exact n => exact hname n
  | below n =>
    simp only [DNS.Pattern.text, mem_cons, not_or]
    exact ⟨by decide, by decide, hname n⟩

theorem toList_below :
    (String.ofList (DNS.Pattern.below m).text).toList = '*' :: '.' :: m.text := String.toList_ofList

/-- Of the domains of a wildcard, only the one without a port matches anything. -/
theorem exists_domain_below : (∃ d ∈ hostDomains (String.ofList (DNS.Pattern.below m).text),
      domainMatches d a.text = true) ↔
      a.port = none ∧ (DNS.Pattern.below m).Matches true a.name := by
  have hport : (String.ofList (DNS.Pattern.below m).text ++ ":" ++ "*").toList =
      '*' :: ('.' :: m.text ++ [':', '*']) := by
    rw [String.toList_append, String.toList_append, toList_below]
    simp
  rw [exists_domain_iff below_ne_star (not_colon_mem_pattern _),
    domainMatches_star_cons toList_below (cons_ne_nil _ _), domainMatches_star_cons hport (by simp),
    or_iff_left]
  · rw [toList_text, DNS.matches_below_iff]
    cases hp : a.port with
    | none => simp
    | some p =>
      refine iff_of_false ?_ fun h => Option.some_ne_none p h.1
      rintro ⟨q, _, hq⟩
      exact not_suffix_port (a.port_digits p hp) ⟨q, hq.symm⟩
  · -- a second star would have to be in the authority
    rintro ⟨q, _, hq⟩
    exact not_star_mem_authority a (hq ▸ by simp)

/-! ## Matchers -/

section

variable {engine : RegexEngine} {suffixMatch : Bool}

theorem addedMatchers_exact : addedMatchers (String.ofList m.text) suffixMatch = [] := by
  have hstar : containsChar (String.ofList m.text) '*' = false := by
    rw [containsChar, String.toList_ofList, ← Bool.not_eq_true, contains_iff_mem]
    exact not_mem_name rfl (by decide)
  simp [addedMatchers, getHeaderMatchers, hstar]

theorem getMatchingHeaderRegex_below :
    getMatchingHeaderRegex (String.ofList (DNS.Pattern.below m).text) =
      Regexp.expression (.notDots :: .dot :: Regexp.literal m.text) := by
  have hh : (String.ofList (DNS.Pattern.below m).text).toList = "*.".toList ++ m.text :=
    String.toList_ofList
  have hprefix : hasPrefix (String.ofList (DNS.Pattern.below m).text) "*." = true :=
    hasPrefix_iff.2 ⟨m.text, hh.symm⟩
  have htrim := toList_trimPrefix hh
  rw [getMatchingHeaderRegex, if_pos hprefix, ← String.toList_inj, Regexp.expression,
    String.toList_ofList, replaceChar, htrim, flatMap_cons, flatMap_cons,
    Regexp.text_literal]
  simp [Regexp.Piece.text]

theorem matches_wildcard_iff {s : List Char} :
    Regexp.Matches (.notDots :: .dot :: Regexp.literal m.text) s ↔
      ∃ p, p ≠ [] ∧ '.' ∉ p ∧ s = p ++ '.' :: m.text := by
  rw [Regexp.matches_notDots_iff]
  simp only [Regexp.matches_dot_iff, Regexp.matches_literal_iff, exists_eq_right]
  constructor
  · rintro ⟨p, _, hne, hdot, rfl, rfl⟩
    exact ⟨p, hne, hdot, rfl⟩
  · rintro ⟨p, hne, hdot, rfl⟩
    exact ⟨p, _, hne, hdot, rfl, rfl⟩

/-- The matcher for a wildcard accepts the names with one more label, without a port. -/
theorem addedMatchers_below (hengine : Regexp.Conforms engine.fullMatch) {req : Request}
    (hreq : req.header ":authority" = some a.text) :
    (∀ matcher ∈ addedMatchers (String.ofList (DNS.Pattern.below m).text) suffixMatch,
      matcher.accepts engine req = true) ↔
      suffixMatch = true ∨ ∃ p, p ≠ [] ∧ '.' ∉ p ∧ a.text.toList = p ++ '.' :: m.text := by
  cases suffixMatch with
  | true => simp [addedMatchers, getHeaderMatchers]
  | false =>
    have hplain (c : Char) (hc : .char c ∈ Regexp.Piece.notDots :: .dot :: Regexp.literal m.text) :
        Regexp.isPlain c = true := by
      obtain ⟨c', hc', heq⟩ : ∃ c' ∈ m.text,
          (if c' = '.' then Regexp.Piece.dot else .char c') = .char c := by
        simpa [Regexp.literal] using hc
      split_ifs at heq with hdot
      rw [← Regexp.Piece.char.inj heq]
      exact (DNS.Name.plain_of_mem_text hc').resolve_right hdot
    have hadded : addedMatchers (String.ofList (DNS.Pattern.below m).text) false =
        [⟨":authority", some (.safeRegex
          (Regexp.expression (.notDots :: .dot :: Regexp.literal m.text)))⟩] := by
      have hempty : String.ofList (DNS.Pattern.below m).text ≠ "" := fun heq =>
        absurd (toList_below.symm.trans (congrArg String.toList heq)) (cons_ne_nil _ _)
      have hcontains : containsChar (String.ofList (DNS.Pattern.below m).text) '*' = true := by
        rw [containsChar, toList_below]
        rfl
      have hfilter : ([String.ofList (DNS.Pattern.below m).text].filter fun host =>
          host ≠ "" && host ≠ "*" && containsChar host '*') =
            [String.ofList (DNS.Pattern.below m).text] := by
        simp [hempty, below_ne_star, hcontains]
      rw [addedMatchers, getHeaderMatchers, hfilter, ← getMatchingHeaderRegex_below]
      rfl
    have hheader : req.headerValue ":authority" = some a.text := hreq
    simp only [hadded, mem_singleton, forall_eq, HeaderMatcher.accepts, hheader,
      Option.any_some, StringMatcher.accepts, hengine _ hplain, matches_wildcard_iff,
      Bool.false_eq_true, false_or]

/-- A domain of the host and the matchers for it accept the authorities whose name the host
    matches, but a wildcard none with a port. -/
theorem accepted_iff (hengine : Regexp.Conforms engine.fullMatch) (p : DNS.Pattern) {req : Request}
    (hreq : req.header ":authority" = some a.text) :
    ((∃ d ∈ hostDomains (String.ofList p.text), domainMatches d a.text = true) ∧
      ∀ matcher ∈ addedMatchers (String.ofList p.text) suffixMatch,
        matcher.accepts engine req = true) ↔
      p.Matches suffixMatch a.name ∧ (a.port = none ∨ p.isWildcard = false) := by
  cases p with
  | exact m =>
    have hexact : (∃ d ∈ hostDomains (String.ofList (DNS.Pattern.exact m).text),
        domainMatches d a.text = true) ↔ (DNS.Pattern.exact m).Matches suffixMatch a.name :=
      exists_domain_exact
    have hadded : addedMatchers (String.ofList (DNS.Pattern.exact m).text) suffixMatch = [] :=
      addedMatchers_exact
    rw [hexact, hadded, and_iff_left fun _ h => (by cases h)]
    exact (and_iff_left (.inr rfl)).symm
  | below m =>
    rw [exists_domain_below, addedMatchers_below hengine hreq]
    cases hport : a.port with
    | some q => simp [DNS.Pattern.isWildcard]
    | none =>
      have htext : a.text.toList = a.name.text := by
        rw [toList_text, hport, Option.elim_none, append_nil]
      rw [htext, DNS.matches_below_iff, DNS.matches_below_iff]
      refine Iff.trans ?_ (and_iff_left (.inl rfl)).symm
      cases suffixMatch with
      | true => simp
      | false =>
        constructor
        · rintro ⟨_, hone | ⟨p, hne, hdot, heq⟩⟩
          · exact absurd hone Bool.false_ne_true
          · exact ⟨p, hne, .inr hdot, heq⟩
        · rintro ⟨p, hne, hdot, heq⟩
          exact ⟨⟨rfl, p, hne, .inl rfl, heq⟩,
            .inr ⟨p, hne, hdot.resolve_left Bool.false_ne_true, heq⟩⟩

end

/-! ## Virtual hosts -/

/-- A virtual host matches authorities as its host name says, but for those with a port that a
    wildcard should match. -/
theorem matchesAuthority_iff {engine : RegexEngine}
    (hengine : Regexp.Conforms engine.fullMatch) {httpRoutes : List Model.HTTPRoute}
    {p : DNS.Pattern} {redirect suffixMatch : Bool} {port : Nat} {vh : VirtualHost}
    (hvh : newVirtualHost httpRoutes ⟨[String.ofList p.text], redirect, suffixMatch, port⟩ =
      .ok vh) (a : Authority) {req : Request} (hreq : req.header ":authority" = some a.text) :
    MatchesAuthority engine vh p suffixMatch a req ↔
      a.port = none ∨ p.isWildcard = false ∨ ¬ p.Matches suffixMatch a.name := by
  rw [MatchesAuthority, (name_newVirtualHost hvh).2, accepted_iff hengine p hreq,
    and_iff_left_iff_imp, imp_iff_or_not, or_assoc]

/-! ## A wildcard and a port -/

/-- The engine that reads the pieces of an expression. -/
def pieceEngine : RegexEngine where
  fullMatch := Regexp.fullMatch
  fullMatch_empty := Regexp.fullMatch_empty_iff

def exampleName : DNS.Name := .ofLabels ["example".toList, "com".toList] rfl

def shopName : DNS.Name := .ofLabels ["shop".toList, "example".toList, "com".toList] rfl

def requestTo (a : Authority) : Request where
  method := "GET"
  path := "/"
  header _ := some a.text
  queryParameter _ := none
  path_ne := by decide

def answering : Model.HTTPRoute := { directResponse := some ⟨404, ""⟩ }

theorem matchesAuthority_shop : ∃ vh,
    newVirtualHost [answering]
      ⟨[String.ofList (DNS.Pattern.below exampleName).text], false, false, 80⟩ = .ok vh ∧
    MatchesAuthority pieceEngine vh (.below exampleName) false (.ofName shopName)
      (requestTo (.ofName shopName)) := by
  have hvh : newVirtualHost [answering]
      ⟨[String.ofList (DNS.Pattern.below exampleName).text], false, false, 80⟩ = .ok _ := rfl
  exact ⟨_, hvh, (matchesAuthority_iff Regexp.conforms_fullMatch hvh (.ofName shopName)
    rfl).2 (.inl rfl)⟩

/-- Whatever a wildcard stands for, no virtual host for it is one for `shop.example.com:8080`. -/
theorem not_matchesAuthority_shop {httpRoutes : List Model.HTTPRoute} {suffixMatch : Bool}
    {vh : VirtualHost} (hvh : newVirtualHost httpRoutes
      ⟨[String.ofList (DNS.Pattern.below exampleName).text], false, suffixMatch, 80⟩ = .ok vh) :
    ¬ MatchesAuthority pieceEngine vh (.below exampleName) suffixMatch
      (.ofPort shopName "8080".toList rfl) (requestTo (.ofPort shopName "8080".toList rfl)) := by
  intro h
  have hmatches : (DNS.Pattern.below exampleName).Matches suffixMatch shopName :=
    ⟨["shop".toList], rfl, by cases suffixMatch <;> decide⟩
  obtain ⟨d, hd, hmatch⟩ := (h.2 hmatches).1
  rw [(name_newVirtualHost hvh).2] at hd
  exact Option.some_ne_none _ (exists_domain_below.1 ⟨d, hd, hmatch⟩).1

/-- The virtual hosts for `*.example.com`, with either setting. -/
theorem not_matchesAuthority_port :
    (∃ vh, newVirtualHost [answering]
        ⟨[String.ofList (DNS.Pattern.below exampleName).text], false, false, 80⟩ = .ok vh ∧
      ¬ MatchesAuthority pieceEngine vh (.below exampleName) false
        (.ofPort shopName "8080".toList rfl) (requestTo (.ofPort shopName "8080".toList rfl))) ∧
    ∃ vh, newVirtualHost [answering]
        ⟨[String.ofList (DNS.Pattern.below exampleName).text], false, true, 80⟩ = .ok vh ∧
      ¬ MatchesAuthority pieceEngine vh (.below exampleName) true
        (.ofPort shopName "8080".toList rfl) (requestTo (.ofPort shopName "8080".toList rfl)) := by
  have hvh (suffixMatch : Bool) : newVirtualHost [answering]
      ⟨[String.ofList (DNS.Pattern.below exampleName).text], false, suffixMatch, 80⟩ =
        .ok _ := rfl
  exact ⟨⟨_, hvh false, not_matchesAuthority_shop (hvh false)⟩,
    ⟨_, hvh true, not_matchesAuthority_shop (hvh true)⟩⟩

end Translation
