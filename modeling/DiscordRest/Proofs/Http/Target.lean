import DiscordRest.Http.Router
import DiscordRest.Paging.Request
import DiscordRest.Proofs.Url.Below

/-!
Where requests go. A relative path of a router with a plain base leads to a URL of the base's
user, host and port number, and a page of a listing only adds its parameters to the query.
-/

namespace DiscordRest.Http

open Paging

namespace Router

/-- A path that does not start like a scheme is no URL of its own. -/
theorem isAbsolute_eq_false {path : String} (other : path.toList.head? ≠ some 'h')
    : isAbsolute path = false := by
  have not_prefix : ∀ {scheme : List Char}, ¬('h' :: scheme) <+: path.toList := by
    rintro scheme ⟨rest, whole⟩
    rw [← whole] at other
    exact other rfl
  simp only [isAbsolute, Bool.or_eq_false_iff]
  refine ⟨?_, ?_⟩
  · exact String.startsWith_string_eq_false_iff.mpr not_prefix
  · exact String.startsWith_string_eq_false_iff.mpr not_prefix

variable {router : Router} {host : Url.Host} {path : String}

/-- The URL of a relative path is the base up to its own path, a slash, and more. -/
theorem fullUrl_eq (web : router.base.IsPlainWeb host) (relative : isAbsolute path = false)
    : ∃ rest, (router.fullUrl path).toList = router.base.frontWith host ++ '/' :: rest := by
  obtain ⟨rest, root, slash⟩ := web.dropEndWhile_chars
  have text : (router.fullUrl path).toList
      = Text.dropEndWhile (· == '/') router.base.chars ++ ['/']
        ++ path.toList.dropWhile (· == '/') := by
    rw [fullUrl, relative, if_neg Bool.false_ne_true, String.toList_ofList]
    rfl
  -- The path of the base may have been dropped with its slashes; one is put in anyway.
  rw [text, root]
  rcases slash with rfl | ⟨more, rfl⟩
  · exact ⟨path.toList.dropWhile (· == '/'), by simp⟩
  · exact ⟨more ++ ['/'] ++ path.toList.dropWhile (· == '/'), by simp⟩

/-- The URL of a relative path can be read, and lies below the base. -/
theorem ofText_fullUrl (web : router.base.IsPlainWeb host) (relative : isAbsolute path = false)
    : ∃ rest, Url.ofText (router.fullUrl path) = .ok (router.base.below rest) := by
  obtain ⟨rest, written⟩ := fullUrl_eq web relative
  exact ⟨rest, by rw [Url.ofText, written, web.ofChars_front_append]⟩

/--
A router has its settings and the base that they name, which is fit for paths; its user agent is
fit for a header.
-/
theorem ofSettings_eq_ok_iff {settings : RouterSettings}
    : ofSettings settings = .ok router
      ↔ Url.ofText settings.baseUrl = .ok router.base
        ∧ router.settings = settings
        ∧ router.base.cannotBeBase = false
        ∧ Header.isValue settings.userAgent = true := by
  unfold ofSettings
  constructor
  · intro made
    split at made
    · contradiction
    · rename_i base read
      split at made
      · contradiction
      · rename_i fit
        split at made
        · rename_i agent
          obtain rfl := Except.ok.inj made
          exact ⟨read, rfl, Bool.eq_false_iff.mpr fit, agent⟩
        · contradiction
  · rintro ⟨read, rfl, fit, agent⟩
    rw [read]
    simp only [fit, agent, Bool.false_eq_true, if_false, if_true]

end Router

------------------------------------------------------------------------------------------
-- The query of a page
------------------------------------------------------------------------------------------

/-- What a page adds to a query: its cursor under the name of the direction, and its limit. -/
def pageQuery (page : PageRequest) : List Char :=
  (page.direction.name ++ "=" ++ page.cursor.text ++ "&" ++ limitName ++ "="
    ++ Text.decimal page.limit.toNat).toList

theorem encode_of_plain {text : String} (plain : ∀ c ∈ text.toList, Form.isPlain c = true)
    : Form.encode text = text.toList := by
  rw [Form.encode]
  generalize text.toList = chars at plain
  induction chars with
  | nil => rfl
  | cons c rest ih =>
      have first := plain c List.mem_cons_self
      have noSpace : c ≠ ' ' := by
        rintro rfl
        exact absurd first (by decide)
      rw [List.flatMap_cons, ih fun d member => plain d (List.mem_cons_of_mem c member),
        if_neg noSpace, if_pos first]
      rfl

theorem encode_decimal (n : Nat) : Form.encode (Text.decimal n) = (Text.decimal n).toList := by
  refine encode_of_plain fun c member => ?_
  rw [Text.decimal, String.toList_ofList] at member
  exact Text.forall_mem_toDigits (by decide) (by decide) (by decide) member

/-- The parameters of a page are its cursor and its limit, in this order. -/
theorem entries_parameters (page : PageRequest)
    : page.parameters.entries
      = [(page.direction.name, page.cursor.text), (limitName, Text.decimal page.limit.toNat)] := by
  obtain ⟨direction, cursor, limit⟩ := page
  have later : ∀ direction : Direction, ¬Text.Before limitName direction.name := by
    intro direction
    cases direction <;> decide
  have other : ∀ direction : Direction, limitName ≠ direction.name := by
    intro direction
    cases direction <;> decide
  simp only [PageRequest.parameters, TextMap.put, TextMap.empty, Keyed.put, if_neg (later direction),
    if_neg (other direction)]

/-- A URL with a page's cursor and limit behind the query that there is. -/
def withPage (url : Url) (page : PageRequest) : Url :=
  let before := match url.query with
    | none | some [] => []
    | some query => query ++ ['&']
  { url with query := some (before ++ pageQuery page) }

/-- The parameters of a page are added to a query as its cursor and its limit. -/
theorem addQuery_parameters (url : Url) (page : PageRequest)
    : Request.addQuery url page.parameters = withPage url page := by
  have names : ∀ direction : Direction, Form.encode direction.name = direction.name.toList := by
    intro direction
    cases direction <;> exact encode_of_plain (List.all_eq_true.mp (by decide))
  have limit : Form.encode limitName = limitName.toList :=
    encode_of_plain (List.all_eq_true.mp (by decide))
  have cursor : Form.encode page.cursor.text = page.cursor.text.toList := encode_decimal _
  have present : page.parameters.isEmpty = false := by
    rw [TextMap.isEmpty, entries_parameters]
    rfl
  have text : Form.encodePair (page.direction.name, page.cursor.text)
      ++ ['&'] ++ Form.encodePair (limitName, Text.decimal page.limit.toNat) = pageQuery page := by
    simp only [Form.encodePair, names, limit, cursor, encode_decimal, pageQuery, String.toList_append,
      List.append_assoc]
    rfl
  have extended : ∀ query,
      Form.extend query page.parameters.entries
        = query ++ (if query.isEmpty then [] else ['&']) ++ pageQuery page := by
    intro query
    have filled : (query ++ (if query.isEmpty then [] else ['&'])
        ++ Form.encodePair (page.direction.name, page.cursor.text)).isEmpty = false := by
      simp [Form.encodePair]
    rw [entries_parameters, Form.extend, Form.extend, filled, ← text]
    simp [Form.extend]
  rw [Request.addQuery, present, if_neg Bool.false_ne_true, extended, withPage]
  rcases url.query with _ | _ | ⟨c, rest⟩ <;> simp

------------------------------------------------------------------------------------------
-- Requests
------------------------------------------------------------------------------------------

/-- A URL without user and password, where these are sent as a header. -/
def bare (url : Url) : Url :=
  if (Request.credentials? url).isSome then url.withoutUser else url

/-- Taking the user out of a URL leaves all else in it. -/
theorem bare_eq (url : Url)
    : bare url = { url with username := (bare url).username, password := (bare url).password } := by
  unfold bare
  split <;> rfl

theorem scheme_bare (url : Url) : (bare url).scheme = url.scheme := by
  rw [bare_eq]

/-- Adding pairs to a URL changes its query alone. -/
theorem addQuery_eq (url : Url) (pairs : TextMap)
    : Request.addQuery url pairs = { url with query := (Request.addQuery url pairs).query } := by
  unfold Request.addQuery
  split <;> rfl

theorem scheme_addQuery (url : Url) (pairs : TextMap)
    : (Request.addQuery url pairs).scheme = url.scheme := by
  rw [addQuery_eq]

/-- A request is made for a plain web address wherever this can be sent with the query. -/
theorem make_of_ofText {settings : RouterSettings} {always extra : Headers} {fullUrl : String}
    {url : Url} (read : Url.ofText fullUrl = .ok url) (hasHost : url.hasHost = true)
    (plain : url.scheme = Url.httpScheme) {options : RequestOptions}
    (headers : Request.headersOf? settings.headers = some always)
    (further : Request.headersOf? options.headers = some extra) (method : String)
    : Request.make settings method fullUrl options
      = let target := Request.addQuery (bare url) options.query
        if Request.isSendable target then
          .ok ⟨method, target,
            Request.sentHeaders settings (Request.credentials? url) (always ++ extra)
              options.body.isSome,
            options.body.map Json.Value.text⟩
        else .error (.invalidRequest (some target)) := by
  have fetchable : Request.isFetchable (Request.addQuery (bare url) options.query) = true := by
    rw [Request.isFetchable, scheme_addQuery, scheme_bare, plain]
    rfl
  rw [Request.make, read]
  simp only [hasHost, headers, further, Bool.not_true, Bool.false_eq_true, if_false]
  rw [← bare, fetchable]
  cases Request.isSendable (Request.addQuery (bare url) options.query) <;> rfl

------------------------------------------------------------------------------------------
-- The request for a page
------------------------------------------------------------------------------------------

/-- The URL of a page of the listing at a URL. -/
def pageTarget (url : Url) (page : PageRequest) : Url :=
  withPage (bare url) page

/-- The request for a page of the listing at a URL. -/
def pageRequest (settings : RouterSettings) (always : Headers) (url : Url) (page : PageRequest)
    : Request :=
  ⟨"GET", pageTarget url page,
    Request.sentHeaders settings (Request.credentials? url) always false, none⟩

/-- What a router is asked for with a page. -/
def pageOptions (page : PageRequest) : RequestOptions :=
  { query := page.parameters, headers := .empty, body := none }

theorem scheme_pageTarget (url : Url) (page : PageRequest)
    : (pageTarget url page).scheme = url.scheme :=
  scheme_bare url

/-- The request for a page is made wherever its URL can be sent. -/
theorem make_page {settings : RouterSettings} {always : Headers} {fullUrl : String} {url : Url}
    (read : Url.ofText fullUrl = .ok url) (hasHost : url.hasHost = true)
    (plain : url.scheme = Url.httpScheme)
    (headers : Request.headersOf? settings.headers = some always) (page : PageRequest)
    : Request.make settings "GET" fullUrl (pageOptions page)
      = if Request.isSendable (pageTarget url page) then .ok (pageRequest settings always url page)
        else .error (.invalidRequest (some (pageTarget url page))) := by
  have noHeaders : Request.headersOf? (pageOptions page).headers = some [] := rfl
  have target : Request.addQuery (bare url) (pageOptions page).query = pageTarget url page :=
    addQuery_parameters _ _
  rw [make_of_ofText read hasHost plain headers noHeaders, target, List.append_nil]
  rfl

end DiscordRest.Http
