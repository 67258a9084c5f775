import BuyAnAnswer.Core.Percent
import BuyAnAnswer.Web.Handle

/-!
# Boards

The public page of a creator: a path of the site goes past the proxy and through
the route table to the loader, which asks the API for the profile.  Every profile
has its page under its handle, in any spelling but the one that names an endpoint of
the router, and there is no other.
-/

namespace BuyAnAnswer.Web

open Text Api Workers Percent

/-! ## The proxy -/

/-- What the site's worker does with a path. -/
structure ProxyDecision where
  proxy : Bool
  stripPrefix : Bool
  deriving DecidableEq

def startsWith (text : Text) (start : String) : Bool := start.toList.isPrefixOf text

def proxyDecisionFor (pathname : Text) : ProxyDecision :=
  if pathname = "/api".toList || startsWith pathname "/api/" then
    { proxy := true, stripPrefix := true }
  else if startsWith pathname "/avatars/" then { proxy := true, stripPrefix := false }
  else { proxy := false, stripPrefix := false }

def rewritePath (pathname : Text) (stripPrefix : Bool) : Text :=
  if stripPrefix = false then pathname
  else
    let rest := if startsWith pathname "/api" then pathname.drop 4 else pathname
    if rest = [] then "/".toList else rest

/-! ## The route table -/

inductive Page where
  | landing
  | farcasterManifest
  | home
  | dashboard
  | onboarding
  | settingsProfile
  | ask
  | question
  | board
  deriving DecidableEq

inductive Segment where
  | literal (text : String)
  | dynamic
  deriving DecidableEq

structure Route where
  path : List Segment
  page : Page
  deriving DecidableEq

def routes : List Route := [
  ⟨[], .landing⟩,
  ⟨[.literal ".well-known", .literal "farcaster.json"], .farcasterManifest⟩,
  ⟨[.literal "app"], .home⟩,
  ⟨[.literal "dashboard"], .dashboard⟩,
  ⟨[.literal "onboarding"], .onboarding⟩,
  ⟨[.literal "settings", .literal "profile"], .settingsProfile⟩,
  ⟨[.literal "ask", .dynamic], .ask⟩,
  ⟨[.literal "questions", .dynamic], .question⟩,
  ⟨[.dynamic], .board⟩]

/-- The parameters of a path that fits, from its decoded components; literals in any
casing of their ASCII letters. -/
def captures : List Segment → List Text → Option (List Text)
  | [], [] => some []
  | .literal text :: path, component :: components =>
    if component.map Char.toLower = text.toList then captures path components else none
  | .dynamic :: path, component :: components =>
    (captures path components).map (component :: ·)
  | _, _ => none

def Route.literals (route : Route) : ℕ :=
  route.path.countP fun segment => segment ≠ .dynamic

/-- The path of these components. -/
def pathOf (components : List Text) : Text :=
  components.flatMap fun component => '/' :: encodeURIComponent component

/-- A component without the characters that mean something to the readers of a path
even where they are encoded. -/
structure Plain (component : Text) : Prop where
  nonempty : component ≠ []
  marks : ∀ char ∈ component, char ∉ ['/', '%', '.']

/-- The two routers that the code is written for: one for the pages of the site,
one for what can be read from the API. -/
structure Routers where
  matchRoutes : Text → Option (Page × List Text)
  dispatch : Text → Option Request

/-- A page is chosen by the fitting route with the most literals; the parameter of
a board is decoded. -/
structure Routers.Documented (routers : Routers) : Prop where
  ranked : ∀ components : List Text, (∀ component ∈ components, Plain component) →
    ∀ route ∈ routes, ∀ params, captures route.path components = some params →
      (∀ other ∈ routes, other ≠ route → (captures other.path components).isSome = true →
        other.literals < route.literals) →
      routers.matchRoutes (pathOf components) = some (route.page, params)
  board : ∀ component : Text, Plain component →
    routers.dispatch ("/board/".toList ++ encodeURIComponent component) =
      some (.board component)

/-- Where React Router answers a page that discovers its routes. -/
def manifestPath : Text := "/__manifest".toList

/-- The paths that React Router answers with no page: that of its manifest, and those of
the data of a page. -/
def isEndpoint (pathname : Text) : Bool :=
  pathname = manifestPath || ".data".toList.isSuffixOf pathname

/-! ## The loader of a board -/

/-- The HTTP status of an error. -/
def statusOf : Failure → ℕ
  | .api error => error.status
  | .validation _ => 422
  | .rateLimited _ => 429
  | .internal => 500

/-- Where the site is reached. -/
structure Site where
  SITE_ORIGIN : Option Text
  requestOrigin : Text
  /-- Whether the worker is bound to the API. -/
  API : Bool

def dropSlashes (text : Text) : Text := (text.reverse.dropWhile (· = '/')).reverse

def siteOrigin (site : Site) : Text :=
  let env := trim (site.SITE_ORIGIN.getD [])
  dropSlashes (if env = [] then site.requestOrigin else env)

/-- Without the label of its button. -/
structure MiniAppEmbed where
  imageUrl : Text
  url : Text
  splashImageUrl : Text
  deriving DecidableEq

def absolute (origin path : Text) : Text := dropSlashes origin ++ path

def buildMiniAppEmbed (origin launchPath : Text) : MiniAppEmbed where
  imageUrl := absolute origin "/miniapp/embed.png".toList
  url := absolute origin launchPath
  splashImageUrl := absolute origin "/miniapp/splash.png".toList

structure BoardPage where
  creator : PublicCreator
  canonicalUrl : Text
  ogImageUrl : Text
  miniAppEmbed : MiniAppEmbed
  deriving DecidableEq

/-- The creator in a response, or the status of the error that is shown instead;
`none` is a network failure. -/
def creatorOf : Option Response → Except ℕ PublicCreator
  | none => .error 503
  | some response =>
    match response.outcome with
    | .ok (.board creator) => .ok creator
    | .ok _ => .error 500
    | .error failure => .error (statusOf failure)

def fetchBoard (fetch : Text → Option Response) (handle : Text) :
    Except ℕ PublicCreator :=
  creatorOf (fetch ("/board/".toList ++ encodeURIComponent handle))

/-- The page of a creator. -/
def boardPage (site : Site) (handle : Text) (creator : PublicCreator) : BoardPage where
  creator := creator
  canonicalUrl := siteOrigin site ++ '/' :: handle
  ogImageUrl := siteOrigin site ++ "/og.png".toList
  miniAppEmbed := buildMiniAppEmbed (siteOrigin site) ("/ask/".toList ++ handle)

/-- The loader of `/:handle`. -/
def loader (site : Site) (fetch : Text → Option Response) (param : Text) :
    Except ℕ BoardPage :=
  match Handle.validateHandle param with
  | .error _ => .error 404
  | .ok handle => (fetchBoard fetch handle).map (boardPage site handle)

/-! ## The deployed site -/

/-- What a visitor gets. -/
inductive Served where
  | api (response : Response)
  | board (loaded : Except ℕ BoardPage)
  | page (page : Page) (params : List Text)
  | endpoint
  | notFound

section Deployed

variable (routers : Routers) (runtime : Runtime) (cloud : Cloud) (context : RequestContext)
variable (site : Site)

/-- An error that carries no message. -/
def errorResponse (status : ℕ) (code : String) : Response where
  rateLimit := none
  outcome := .error (.api { status, code, message := "" })

/-- The API, reached directly. -/
def readApi (path : Text) : Response :=
  match routers.dispatch path with
  | none => errorResponse 404 "not_found"
  | some request => (cloud.answer runtime context request).1

def proxyToApi (pathname : Text) (stripPrefix : Bool) : Response :=
  if site.API then readApi routers runtime cloud context (rewritePath pathname stripPrefix)
  else errorResponse 503 "api_unavailable"

/-- The `fetch` of the site's worker. -/
def visit (pathname : Text) : Served :=
  let decision := proxyDecisionFor pathname
  if decision.proxy then
    .api (proxyToApi routers runtime cloud context site pathname decision.stripPrefix)
  else if isEndpoint pathname then .endpoint
  else
    match routers.matchRoutes pathname with
    | some (.board, [param]) =>
      .board (loader site (fun path => some (readApi routers runtime cloud context path))
        param)
    | some (page, params) => .page page params
    | none => .notFound

/-- A call from the browser, under `/api`. -/
def request (path : Text) : Option Response :=
  match visit routers runtime cloud context site ("/api".toList ++ path) with
  | .api response => some response
  | _ => none

/-- `/ask/:handle` before anyone is asked. -/
inductive AskPage where
  | notFound
  | unreachable
  | gate (creator : PublicCreator)
  deriving DecidableEq

def Ask (param : Text) : AskPage :=
  match Handle.validateHandle param with
  | .error _ => .notFound
  | .ok handle =>
    match fetchBoard (request routers runtime cloud context site) handle with
    | .ok creator => .gate creator
    | .error status => if status = 404 then .notFound else .unreachable

end Deployed

/-! ## Paths -/

section Paths

variable {raw handle : Text}

theorem startsWith_slash {start : String} {text : Text} (hslash : '/' ∈ start.toList.tail)
    (hfree : '/' ∉ text) : startsWith ('/' :: text) start = false := by
  rw [startsWith, ← Bool.not_eq_true, List.isPrefixOf_iff_prefix]
  rintro ⟨rest, hsplit⟩
  cases hstart : start.toList with
  | nil =>
      rw [hstart] at hslash
      cases hslash
  | cons first others =>
      rw [hstart] at hslash hsplit
      obtain ⟨_, htail⟩ := List.cons.inj hsplit
      exact hfree (htail ▸ List.mem_append_left _ hslash)

/-- A handle is spelled in a URL as it is. -/
theorem encode_handle (hformat : HANDLE_RE handle = true) :
    encodeURIComponent handle = handle := by
  apply encode_eq_self
  intro char hchar
  obtain ⟨hleast, hmost⟩ | hdigit | rfl := handle_char hformat hchar
  · simp [isUnreserved, hleast, hmost]
  · simp [isUnreserved, hdigit]
  · decide

theorem mark_toNat {char : Char} (hmark : char ∈ ['/', '%', '.']) :
    char.toNat = 47 ∨ char.toNat = 37 ∨ char.toNat = 46 := by
  simp only [List.mem_cons, List.not_mem_nil, or_false] at hmark
  obtain rfl | rfl | rfl := hmark <;> decide

theorem plain_handle (hformat : HANDLE_RE handle = true) : Plain handle := by
  constructor
  · rintro rfl
    revert hformat
    decide
  · intro char hchar hmark
    have hcode := mark_toNat hmark
    have hrange := handle_char_toNat hformat hchar
    omega

/-- A handle, in whatever spelling, has no character with a meaning in a path. -/
theorem plain_spelling (hnormal : Api.normalizeHandle raw = handle)
    (hclaimable : Claimable handle) : Plain raw := by
  constructor
  · rintro rfl
    exact (plain_handle hclaimable.format).nonempty hnormal.symm
  · intro char hchar hmark
    have hcode := mark_toNat hmark
    have hkept : char ∈ handle := by
      rw [← hnormal, Api.normalizeHandle, toLowerCase, List.mem_map]
      refine ⟨char, mem_trim hchar (isSpace_visible (by omega) (by omega)), ?_⟩
      rw [if_neg, toLower_eq_self (by omega)]
      rintro rfl
      revert hcode
      decide
    have hrange := handle_char_toNat hclaimable.format hkept
    omega

/-- A reserved name is no spelling of a handle. -/
theorem reserved_ne (hnormal : Api.normalizeHandle raw = handle)
    (hclaimable : Claimable handle) (literal : String)
    (hreserved : literal ∈ RESERVED_HANDLES) (hformat : HANDLE_RE literal.toList = true) :
    raw.map Char.toLower ≠ literal.toList := by
  intro hliteral
  have hlower : toLowerCase raw = literal.toList := by
    rw [← hliteral]
    apply List.map_congr_left
    intro char hchar
    rw [if_neg]
    rintro rfl
    have hkelvin : '\u212a' ∈ literal.toList := by
      rw [← hliteral, List.mem_map]
      exact ⟨_, hchar, by decide⟩
    have hcode := handle_char_toNat hformat hkelvin
    revert hcode
    decide
  have hspace : ∀ char ∈ literal.toList, isSpace char = false := by
    intro char hchar
    have hcode := handle_char_toNat hformat hchar
    exact isSpace_visible (by omega) (by omega)
  have hsame := (normalizeHandle_of_lower hlower hspace).symm.trans hnormal
  have htaken : isReservedHandle handle = true := by
    rw [isReservedHandle, List.any_eq_true]
    exact ⟨literal, hreserved, decide_eq_true hsame⟩
  rw [hclaimable.free] at htaken
  cases htaken

/-- The path of a board is not the API's. -/
theorem board_not_proxied (hnormal : Api.normalizeHandle raw = handle)
    (hclaimable : Claimable handle) :
    (proxyDecisionFor ('/' :: encodeURIComponent raw)).proxy = false := by
  have hslash := slash_notMem_encode raw
  have hname : '/' :: encodeURIComponent raw ≠ "/api".toList := by
    intro hsame
    have hself : encodeURIComponent "api".toList = "api".toList :=
      encode_handle (by decide)
    have hraw : raw = "api".toList :=
      encodeURIComponent_injective ((List.cons.inj hsame).2.trans hself.symm)
    refine reserved_ne hnormal hclaimable "api" (by decide) (by decide) ?_
    rw [hraw]
    decide
  rw [proxyDecisionFor, if_neg, if_neg]
  · rw [startsWith_slash (by decide) hslash]
    exact Bool.false_ne_true
  · rw [startsWith_slash (by decide) hslash]
    simpa using hname

/-- What is encoded has a dot only where there was one. -/
theorem dot_notMem_encode (hplain : Plain raw) : '.' ∉ encodeURIComponent raw := by
  intro hdot
  obtain ⟨source, hsource, hdot⟩ := List.mem_flatMap.mp hdot
  split at hdot
  · rw [← List.mem_singleton.mp hdot] at hsource
    exact hplain.marks '.' hsource (by decide)
  · obtain ⟨octet, _, hspelled⟩ := List.mem_flatMap.mp hdot
    exact dot_notMem_spell octet hspelled

theorem not_endpoint {pathname : Text} (hdot : '.' ∉ pathname)
    (hmanifest : pathname ≠ manifestPath) : isEndpoint pathname = false := by
  rw [isEndpoint, Bool.or_eq_false_iff, decide_eq_false_iff_not]
  refine ⟨hmanifest, ?_⟩
  rw [← Bool.not_eq_true, List.isSuffixOf_iff_suffix]
  intro hsuffix
  exact hdot (hsuffix.subset (by decide))

theorem encode_ne_manifestPath (hmanifest : raw ≠ "__manifest".toList) :
    '/' :: encodeURIComponent raw ≠ manifestPath := by
  intro hsame
  have hself : encodeURIComponent "__manifest".toList = "__manifest".toList :=
    encode_handle (by decide)
  exact hmanifest (encodeURIComponent_injective ((List.cons.inj hsame).2.trans hself.symm))

theorem captures_length {path : List Segment} {components params : List Text}
    (hfits : captures path components = some params) : path.length = components.length := by
  induction path generalizing components params with
  | nil =>
      cases components with
      | nil => rfl
      | cons component components => cases hfits
  | cons segment path ih =>
      cases components with
      | nil => cases segment <;> cases hfits
      | cons component components =>
          rw [List.length_cons, List.length_cons, Nat.add_right_cancel_iff]
          cases segment with
          | literal text =>
              rw [captures] at hfits
              split at hfits
              · exact ih hfits
              · cases hfits
          | dynamic =>
              rw [captures, Option.map_eq_some_iff] at hfits
              obtain ⟨rest, hrest, _⟩ := hfits
              exact ih hrest

/-- A route whose first literal is another one does not fit. -/
theorem captures_literal_ne {text : String} {path : List Segment} {component : Text}
    {components : List Text} (hne : component.map Char.toLower ≠ text.toList) :
    captures (.literal text :: path) (component :: components) = none := by
  rw [captures, if_neg hne]

/-- The pages with one component, besides the boards, have reserved names. -/
theorem one_component : ∀ route ∈ routes, route.path.length = 1 →
    route ≠ ⟨[.dynamic], .board⟩ → ∃ literal ∈ ["app", "dashboard", "onboarding"],
      route.path = [.literal literal] := by decide

theorem two_components : ∀ route ∈ routes, route.path.length = 2 →
    route ≠ ⟨[.literal "ask", .dynamic], .ask⟩ →
    ∃ literal ∈ [".well-known", "settings", "questions"],
      route.path = .literal literal :: route.path.tail := by decide

/-- The board is the only page with one component that no route names. -/
theorem match_board {routers : Routers} (hrouters : routers.Documented)
    (hnormal : Api.normalizeHandle raw = handle) (hclaimable : Claimable handle) :
    routers.matchRoutes ('/' :: encodeURIComponent raw) = some (.board, [raw]) := by
  have hpath : pathOf [raw] = '/' :: encodeURIComponent raw := List.append_nil _
  rw [← hpath]
  refine hrouters.ranked [raw] ?_ ⟨[.dynamic], .board⟩ (by decide) [raw] rfl ?_
  · intro component hcomponent
    rw [List.mem_singleton.mp hcomponent]
    exact plain_spelling hnormal hclaimable
  · intro other hother hne hfits
    obtain ⟨params, hparams⟩ := Option.isSome_iff_exists.mp hfits
    obtain ⟨literal, hliteral, hnamed⟩ :=
      one_component other hother (captures_length hparams) hne
    have hdiffers : raw.map Char.toLower ≠ literal.toList := by
      simp only [List.mem_cons, List.not_mem_nil, or_false] at hliteral
      obtain rfl | rfl | rfl := hliteral
      · exact reserved_ne hnormal hclaimable "app" (by decide) (by decide)
      · exact reserved_ne hnormal hclaimable "dashboard" (by decide) (by decide)
      · exact reserved_ne hnormal hclaimable "onboarding" (by decide) (by decide)
    rw [hnamed, captures_literal_ne hdiffers] at hparams
    cases hparams

/-- The page on which the creator is asked. -/
theorem match_ask {routers : Routers} (hrouters : routers.Documented)
    (hplain : Plain raw) :
    routers.matchRoutes ("/ask/".toList ++ encodeURIComponent raw) = some (.ask, [raw]) := by
  have hself : encodeURIComponent "ask".toList = "ask".toList := encode_handle (by decide)
  have hpath : pathOf ["ask".toList, raw] = "/ask/".toList ++ encodeURIComponent raw := by
    rw [pathOf, List.flatMap_cons, List.flatMap_cons, List.flatMap_nil, hself,
      List.append_nil]
    rfl
  rw [← hpath]
  refine hrouters.ranked ["ask".toList, raw] ?_ ⟨[.literal "ask", .dynamic], .ask⟩
    (by decide) [raw] rfl ?_
  · intro component hcomponent
    simp only [List.mem_cons, List.not_mem_nil, or_false] at hcomponent
    obtain rfl | rfl := hcomponent
    · exact plain_handle (by decide)
    · exact hplain
  · intro other hother hne hfits
    obtain ⟨params, hparams⟩ := Option.isSome_iff_exists.mp hfits
    obtain ⟨literal, hliteral, hnamed⟩ :=
      two_components other hother (captures_length hparams) hne
    have hdiffers : "ask".toList.map Char.toLower ≠ literal.toList := by
      simp only [List.mem_cons, List.not_mem_nil, or_false] at hliteral
      obtain rfl | rfl | rfl := hliteral <;> decide
    rw [hnamed, captures_literal_ne hdiffers] at hparams
    cases hparams

end Paths

/-! ## Reading a board -/

section Reading

variable {routers : Routers} {runtime : Runtime} {cloud : Cloud} {context : RequestContext}
variable {site : Site} {raw handle : Text}

theorem answer_board (hformat : HANDLE_RE handle = true) :
    creatorOf (some (cloud.answer runtime context (.board handle)).1) =
      match Table.lookup Shared.Creator.handle cloud.database.creators handle with
      | some row => .ok (presentPublicCreator row)
      | none => .error 404 := by
  have hhandler : (cloud.finish (handler runtime context (.board handle))).1 =
      match Table.lookup Shared.Creator.handle cloud.database.creators handle with
      | some row => .ok (.board (presentPublicCreator row))
      | none => .error (.api {
          status := 404, code := "not_found", message := "not_found" }) := by
    rw [handler, getBoard, normalizeHandle_handle hformat]
    simp only [hformat, Bool.true_eq_false, if_false]
    rw [Cloud.finish_read rfl rfl]
    simp only [Statement.reply]
    cases Table.lookup Shared.Creator.handle cloud.database.creators handle <;> rfl
  have hanswer : cloud.finish (handleRequest runtime context (.board handle)) =
      cloud.finish (respond none (handler runtime context (.board handle))) := rfl
  rw [Cloud.answer, hanswer, Cloud.finish_respond, creatorOf]
  simp only [hhandler]
  cases Table.lookup Shared.Creator.handle cloud.database.creators handle <;> rfl

/-- The API finds the profile by its handle. -/
theorem readApi_board (hrouters : routers.Documented) (hformat : HANDLE_RE handle = true) :
    creatorOf (some (readApi routers runtime cloud context
        ("/board/".toList ++ encodeURIComponent handle))) =
      match Table.lookup Shared.Creator.handle cloud.database.creators handle with
      | some row => .ok (presentPublicCreator row)
      | none => .error 404 := by
  rw [readApi, hrouters.board handle (plain_handle hformat)]
  exact answer_board hformat

/-- A call of the browser reaches the API with the prefix gone. -/
theorem request_board (hbound : site.API = true) :
    request routers runtime cloud context site
        ("/board/".toList ++ encodeURIComponent handle) =
      some (readApi routers runtime cloud context
        ("/board/".toList ++ encodeURIComponent handle)) := by
  have hproxied : visit routers runtime cloud context site
      ("/api".toList ++ ("/board/".toList ++ encodeURIComponent handle)) =
        .api (proxyToApi routers runtime cloud context site
          ("/api".toList ++ ("/board/".toList ++ encodeURIComponent handle)) true) := rfl
  have hstripped : rewritePath
      ("/api".toList ++ ("/board/".toList ++ encodeURIComponent handle)) true =
        "/board/".toList ++ encodeURIComponent handle := rfl
  rw [request, hproxied, proxyToApi, if_pos hbound, hstripped]

theorem dropSlashes_idem (text : Text) : dropSlashes (dropSlashes text) = dropSlashes text := by
  rw [dropSlashes, dropSlashes, List.reverse_reverse, List.dropWhile_idempotent]

/-- A board in any spelling is looked up by the handle. -/
theorem visit_board (hrouters : routers.Documented)
    (hnormal : Api.normalizeHandle raw = handle) (hclaimable : Claimable handle)
    (hmanifest : raw ≠ "__manifest".toList) :
    visit routers runtime cloud context site ('/' :: encodeURIComponent raw) =
      .board (loader site (fun path => some (readApi routers runtime cloud context path))
        raw) := by
  have hdot : '.' ∉ '/' :: encodeURIComponent raw :=
    List.not_mem_cons_of_ne_of_not_mem (by decide)
      (dot_notMem_encode (plain_spelling hnormal hclaimable))
  rw [visit]
  simp only [board_not_proxied hnormal hclaimable,
    not_endpoint hdot (encode_ne_manifestPath hmanifest),
    Bool.false_eq_true, if_false]
  rw [match_board hrouters hnormal hclaimable]

theorem loader_claimable (hrouters : routers.Documented)
    (hnormal : Api.normalizeHandle raw = handle) (hclaimable : Claimable handle) :
    loader site (fun path => some (readApi routers runtime cloud context path)) raw =
      match Table.lookup Shared.Creator.handle cloud.database.creators handle with
      | some row => .ok (boardPage site handle (presentPublicCreator row))
      | none => .error 404 := by
  rw [loader, validateHandle_ok.mpr ⟨hnormal, hclaimable⟩]
  simp only
  rw [fetchBoard, readApi_board hrouters hclaimable.format]
  cases Table.lookup Shared.Creator.handle cloud.database.creators handle <;> rfl

theorem Ask_claimable (hrouters : routers.Documented) (hbound : site.API = true)
    (hnormal : Api.normalizeHandle raw = handle) (hclaimable : Claimable handle) :
    Ask routers runtime cloud context site raw =
      match Table.lookup Shared.Creator.handle cloud.database.creators handle with
      | some row => .gate (presentPublicCreator row)
      | none => .notFound := by
  rw [Ask, validateHandle_ok.mpr ⟨hnormal, hclaimable⟩]
  simp only
  rw [fetchBoard, request_board hbound, readApi_board hrouters hclaimable.format]
  cases Table.lookup Shared.Creator.handle cloud.database.creators handle <;> rfl

/-- The page of a creator under a spelling of the handle, and where its links lead. -/
structure Opens (routers : Routers) (runtime : Runtime) (cloud : Cloud)
    (context : RequestContext) (site : Site) (creator : PublicCreator) (raw : Text) :
    Prop where
  page : raw ≠ "__manifest".toList →
    visit routers runtime cloud context site ('/' :: encodeURIComponent raw) =
      .board (.ok (boardPage site creator.handle creator))
  /-- The canonical path is one of the page's own. -/
  canonical : (boardPage site creator.handle creator).canonicalUrl =
    siteOrigin site ++ '/' :: encodeURIComponent creator.handle
  /-- The mini app is launched where the creator is asked. -/
  launch : (boardPage site creator.handle creator).miniAppEmbed.url =
    siteOrigin site ++ ("/ask/".toList ++ encodeURIComponent creator.handle)
  asked : visit routers runtime cloud context site
    ("/ask/".toList ++ encodeURIComponent raw) = .page .ask [raw]
  gate : Ask routers runtime cloud context site raw = .gate creator

theorem opens_of_row (hrouters : routers.Documented) (hbound : site.API = true)
    {row : Shared.Creator} (hrow : row ∈ cloud.database.creators)
    (hclaimable : Claimable row.handle) (hnormal : Api.normalizeHandle raw = row.handle) :
    Opens routers runtime cloud context site (presentPublicCreator row) raw := by
  have hlookup : Table.lookup Shared.Creator.handle cloud.database.creators row.handle =
      some row :=
    (Table.lookup_eq_some cloud.database.consistent.creators_handle_unique).mpr ⟨hrow, rfl⟩
  have hself := encode_handle hclaimable.format
  have hplain := plain_spelling hnormal hclaimable
  constructor
  · intro hmanifest
    rw [visit_board hrouters hnormal hclaimable hmanifest,
      loader_claimable hrouters hnormal hclaimable, hlookup]
    rfl
  · change siteOrigin site ++ '/' :: row.handle = _
    rw [← hself]
    rfl
  · change dropSlashes (siteOrigin site) ++ ("/ask/".toList ++ row.handle) = _
    rw [siteOrigin, dropSlashes_idem, ← hself]
    rfl
  · have hproxied : (proxyDecisionFor
        ("/ask/".toList ++ encodeURIComponent raw)).proxy = false := rfl
    have hdot : '.' ∉ "/ask/".toList ++ encodeURIComponent raw := by
      rw [List.mem_append, not_or]
      exact ⟨by decide, dot_notMem_encode hplain⟩
    have hmanifest : "/ask/".toList ++ encodeURIComponent raw ≠ manifestPath := by
      rintro ⟨⟩
    rw [visit]
    simp only [hproxied, not_endpoint hdot hmanifest, Bool.false_eq_true, if_false]
    rw [match_ask hrouters hplain]
  · rw [Ask_claimable hrouters hbound hnormal hclaimable, hlookup]

/-- No creator, no page. -/
theorem closed_of_free (hrouters : routers.Documented) (hbound : site.API = true)
    (hfree : ∀ row ∈ cloud.database.creators, row.handle ≠ Api.normalizeHandle raw) :
    loader site (fun path => some (readApi routers runtime cloud context path)) raw =
        .error 404 ∧
      Ask routers runtime cloud context site raw = .notFound := by
  have hlookup : Table.lookup Shared.Creator.handle cloud.database.creators
      (Api.normalizeHandle raw) = none := Table.lookup_eq_none.mpr hfree
  cases hvalid : Handle.validateHandle raw with
  | error reason =>
      rw [loader, Ask, hvalid]
      exact ⟨rfl, rfl⟩
  | ok handle =>
      obtain ⟨hnormal, hclaimable⟩ := validateHandle_ok.mp hvalid
      rw [loader_claimable hrouters hnormal hclaimable,
        Ask_claimable hrouters hbound hnormal hclaimable, ← hnormal, hlookup]
      exact ⟨rfl, rfl⟩

end Reading

/-! ## Every schedule -/

/-- Whatever the API and the indexer did and go on doing, a profile keeps its page:
every spelling of its handle leads past the proxy and the other pages to it, its
links lead to it again and to the page where the creator is asked, and a handle that
nobody has leads nowhere.  Only the spelling `__manifest` is taken by the router. -/
theorem boards_stay_open {routers : Routers} (hrouters : routers.Documented)
    (network : Network) (runtime : Runtime) (cloud : Cloud)
    (hhandles : Tables.HandlesClaimable cloud.database.toTables)
    (past future : List WorkerSchedule) (context : RequestContext) (site : Site)
    (hbound : site.API = true) :
    let pool := (system network runtime).run (idle cloud) past
    let later := ((system network runtime).run pool future).state
    (∀ row ∈ pool.state.database.creators, ∃ new ∈ later.database.creators,
      Continues row new ∧ ∀ raw, Api.normalizeHandle raw = row.handle →
        Opens routers runtime later context site (presentPublicCreator new) raw) ∧
      (∀ raw, (∀ row ∈ later.database.creators, row.handle ≠ Api.normalizeHandle raw) →
        loader site (fun path => some (readApi routers runtime later context path)) raw =
            .error 404 ∧
          Ask routers runtime later context site raw = .notFound) ∧
      visit routers runtime later context site manifestPath = .endpoint := by
  intro pool later
  have hidle : (system network runtime).Orderly profilesProtocol ToldBy (idle cloud) :=
    System.Orderly.empty hhandles
  obtain ⟨hpool, _⟩ := hidle.run admits_profiles (Machine.meets_always past)
  obtain ⟨hlater, hstay⟩ := hpool.run admits_profiles (Machine.meets_always future)
  refine ⟨?_, ?_, rfl⟩
  · intro row hrow
    obtain ⟨new, hnew, hcontinues⟩ := hstay row hrow
    refine ⟨new, hnew, hcontinues, ?_⟩
    intro raw hnormal
    exact opens_of_row hrouters hbound hnew (hlater.invariant new hnew)
      (hnormal.trans hcontinues.handle.symm)
  · intro raw hfree
    exact closed_of_free hrouters hbound hfree

/-- That spelling is a handle that can be claimed. -/
example : Claimable "__manifest".toList := ⟨by decide, by decide⟩

namespace Sample

/-- Routers that take the first route that fits. -/
def routers : Routers where
  matchRoutes := fun pathname =>
    ((pathname.splitOn '/').tail.mapM decodeURIComponent).bind fun components =>
      routes.findSome? fun route =>
        (captures route.path components).map (route.page, ·)
  dispatch := fun path =>
    if startsWith path "/board/" then (decodeURIComponent (path.drop 7)).map .board else none

theorem splitOn_pathOf (components : List Text) :
    (pathOf components).splitOn '/' = [] :: components.map encodeURIComponent := by
  have hjoin (component : Text) (components : List Text) :
      (encodeURIComponent component ++ pathOf components).splitOn '/' =
        encodeURIComponent component :: components.map encodeURIComponent := by
    have hslash (component : Text) (char : Char)
        (hchar : char ∈ encodeURIComponent component) : (char == '/') = false := by
      rw [beq_eq_false_iff_ne]
      rintro rfl
      exact slash_notMem_encode component hchar
    induction components generalizing component with
    | nil =>
        rw [pathOf, List.flatMap_nil, List.append_nil, List.splitOn_eq_splitOnP,
          List.splitOnP_eq_singleton (hslash component), List.map_nil]
    | cons next components ih =>
        have hrest := ih next
        rw [List.splitOn_eq_splitOnP] at hrest ⊢
        have hpath : encodeURIComponent component ++ pathOf (next :: components) =
            encodeURIComponent component ++
              '/' :: (encodeURIComponent next ++ pathOf components) := rfl
        rw [hpath, List.splitOnP_append_cons_of_forall_mem (hslash component) '/' rfl, hrest,
          List.map_cons]
  cases components with
  | nil => rfl
  | cons component components =>
      have hpath : pathOf (component :: components) =
          '/' :: (encodeURIComponent component ++ pathOf components) := rfl
      have hrest := hjoin component components
      rw [List.splitOn_eq_splitOnP] at hrest ⊢
      have hempty : ∀ char ∈ ([] : Text), (char == '/') = false := by
        rintro char ⟨⟩
      have hsplit := List.splitOnP_append_cons_of_forall_mem hempty '/' rfl
        (encodeURIComponent component ++ pathOf components)
      rw [hpath, List.map_cons, ← hrest]
      exact hsplit

theorem mapM_decode (components : List Text) :
    (components.map encodeURIComponent).mapM decodeURIComponent = some components := by
  induction components with
  | nil => rfl
  | cons component components ih =>
      rw [List.map_cons, List.mapM_cons, decode_encode, ih]
      rfl

/-- No route comes before one of the same length with more literals. -/
theorem routes_sorted : routes.Pairwise fun first second =>
    first.path.length = second.path.length → second.literals ≤ first.literals := by decide

theorem routers_documented : routers.Documented where
  ranked := by
    intro components _ route hroute params hfits hbest
    obtain ⟨before, after, htable⟩ := List.append_of_mem hroute
    have hearlier : ∀ other ∈ before, captures other.path components = none := by
      intro other hother
      by_contra hsome
      obtain ⟨found, hfound⟩ := Option.ne_none_iff_exists'.mp hsome
      have hsorted := routes_sorted
      rw [htable, List.pairwise_append] at hsorted
      have hmore := hsorted.2.2 other hother route List.mem_cons_self
        ((captures_length hfound).trans (captures_length hfits).symm)
      have hne : other ≠ route := by
        rintro rfl
        have hnodup : routes.Nodup := by decide
        rw [htable, List.nodup_append] at hnodup
        exact hnodup.2.2 other hother other List.mem_cons_self rfl
      have hless := hbest other (htable ▸ List.mem_append_left _ hother) hne
        (Option.isSome_iff_ne_none.mpr hsome)
      omega
    change ((((pathOf components).splitOn '/').tail.mapM decodeURIComponent).bind
      fun components => routes.findSome? fun route =>
        (captures route.path components).map (route.page, ·)) = _
    rw [splitOn_pathOf, List.tail_cons, mapM_decode, Option.bind_some, htable,
      List.findSome?_append, List.findSome?_eq_none_iff.mpr, Option.none_or,
      List.findSome?_cons, hfits]
    · rfl
    · intro other hother
      rw [hearlier other hother]
      rfl
  board := by
    intro component _
    change (decodeURIComponent (encodeURIComponent component)).map Request.board = _
    rw [decode_encode]
    rfl

def site : Site where
  SITE_ORIGIN := some "https://buyananswer.com/".toList
  requestOrigin := "http://localhost:5173".toList
  API := true

def visitor : RequestContext where
  clientIp := []
  wallet := none
  now := 9

end Sample

/-- While others claim handles, the page of a creator opens under a handle in capitals. -/
theorem boards_stay_open_sample :
    let cloud := ((system Workers.Sample.network Workers.Sample.runtime).run
      (idle Workers.Sample.cloud) Workers.Sample.race).state
    ∃ new ∈ cloud.database.creators, Continues Workers.Sample.creator new ∧
      Opens Sample.routers Workers.Sample.runtime cloud Sample.visitor Sample.site
        (presentPublicCreator new) (Workers.Sample.creator.handle.map Char.toUpper) :=
  have hopen := boards_stay_open Sample.routers_documented Workers.Sample.network
    Workers.Sample.runtime Workers.Sample.cloud Workers.Sample.handlesClaimable []
    Workers.Sample.race Sample.visitor Sample.site rfl
  have ⟨new, hnew, hcontinues, hspellings⟩ :=
    hopen.1 Workers.Sample.creator List.mem_cons_self
  ⟨new, hnew, hcontinues, hspellings _ (by decide)⟩

end BuyAnAnswer.Web
