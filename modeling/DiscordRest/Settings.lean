import DiscordRest.Error
import DiscordRest.Http.RouterSettings
import DiscordRest.Json.Layout
import DiscordRest.Paging.Paginator
import DiscordRest.Url.Reader
import DiscordRest.Yaml.Typed

/-!
Settings of a client: read from a YAML document, overridden by variables of the environment, and
checked. They never show the token.
-/

namespace DiscordRest

/-- Settings of a client. -/
structure Settings where
  /-- The root of the service. -/
  baseUrl : String
  /-- The token that signs requests. -/
  token : Option String
  /-- After how many seconds a request is given up. -/
  timeout : UInt64
  /-- How requests name the program; the default if it is missing. -/
  userAgent : Option String
  /-- The number of records on a page of a listing. -/
  pageSize : UInt32
  /-- Further headers of all requests. -/
  headers : TextMap
  deriving DecidableEq

namespace Settings

/-- The number of seconds after which a request is given up unless something else is said. -/
def defaultTimeout : UInt64 := 30

/-- The settings that hold unless something else is said. -/
instance : Inhabited Settings :=
  ⟨⟨Http.defaultBaseUrl, none, defaultTimeout, none, Paging.defaultPageSize, .empty⟩⟩

/-! ### Reading and writing JSON -/

open Json in
/-- Words of 64 bits. -/
def wordCodec : Codec UInt64 :=
  (Codec.natural "u64" greatestWord (by decide)).convert (fun n => .ofNat n.val)
    fun n => ⟨n.toNat, Nat.le_pred_of_lt n.toNat_lt⟩

open Json in
/-- Words of 32 bits. -/
def halfWordCodec : Codec UInt32 :=
  (Codec.natural "u32" greatestHalfWord (by decide)).convert (fun n => .ofNat n.val)
    fun n => ⟨n.toNat, Nat.le_pred_of_lt n.toNat_lt⟩

/-- The layout of settings; headers are written only if there are any. -/
def layout : Json.Layout :=
  ⟨"RestConfig",
    [.withDefault "base_url" .string Http.defaultBaseUrl, .optional "token" .string,
      .withDefault "timeout_secs" wordCodec defaultTimeout, .optional "user_agent" .string,
      .withDefault "page_size" halfWordCodec Paging.defaultPageSize,
      ⟨"headers", TextMap, .textMap, some .empty, TextMap.isEmpty⟩]⟩

/-- How settings are read and written as JSON. -/
def codec : Json.Codec Settings :=
  layout.closedCodec.convert
    (fun (baseUrl, token, timeout, userAgent, pageSize, headers, ()) =>
      ⟨baseUrl, token, timeout, userAgent, pageSize, headers⟩)
    fun settings =>
      (settings.baseUrl, settings.token, settings.timeout, settings.userAgent,
        settings.pageSize, settings.headers, ())

/-! ### Reading YAML -/

open Yaml in
/--
Reads one entry of a mapping into settings, where `seen` lists the keys that were read before. A
key without meaning is passed over; a mapping with a key twice has no value at all.
-/
def addEntry (document : Document) (path : List Step) : Settings × List String → Node → Node
    → Except Failure (Settings × List String)
  | (settings, seen), key, value => do
    let name ← Reader.textFor "field identifier" document path key
    if seen.contains name then .error .malformed
    else
      let path := path ++ [.ofKey key]
      let settings ← match name with
        | "base_url" => do
          .ok { settings with baseUrl := ← Reader.text document path value }
        | "token" => do
          .ok { settings with token := ← Reader.text.optional document path value }
        | "timeout_secs" => do
          let seconds ← Reader.natural "u64" greatestWord document path value
          .ok { settings with timeout := .ofNat seconds.val }
        | "user_agent" => do
          .ok { settings with userAgent := ← Reader.text.optional document path value }
        | "page_size" => do
          let size ← Reader.natural "u32" greatestHalfWord document path value
          .ok { settings with pageSize := .ofNat size.val }
        | "headers" => do
          .ok { settings with headers := ← Reader.textMap document path value }
        | _ => .ok settings
      .ok (settings, if layout.fields.any (·.name == name) then name :: seen else seen)

/-- Reads settings from a node of a document. -/
def reader : Yaml.Reader Settings := fun document path node =>
  (Yaml.Reader.mapping layout.words (default, []) addEntry document path node).map Prod.fst

/-! ### Checking -/

/-- Checks that requests can be made: the URL first, then the page size, then the timeout. -/
def check (settings : Settings) : Except Error Unit :=
  match Url.ofText settings.baseUrl with
  | .error fault => .error (.invalidUrl fault)
  | .ok _ =>
    if settings.pageSize = 0 then .error (.invalidPageSize settings.pageSize)
    else if settings.timeout = 0 then
      .error (.configuration "timeout_secs must be greater than zero")
    else .ok ()

/-- Reads settings from a YAML document and checks them; no content stands for the defaults. -/
def ofYaml (text : String) : Except Error Settings :=
  match Yaml.Document.read text reader (.ok default) with
  | .error failure => .error (.invalidYaml failure)
  | .ok settings => settings.check.map fun () => settings

/-! ### Using -/

/-- The variable of the environment that holds the token. -/
def tokenVariable : String := "CORDREST_TOKEN"

/-- The variable of the environment that holds the root of the service. -/
def baseUrlVariable : String := "CORDREST_BASE_URL"

/-- The settings with the variables of an environment in effect; an empty one changes nothing. -/
def override (settings : Settings) (lookup : String → Option String) : Settings :=
  let given := fun name => (lookup name).filter fun value => !value.isEmpty
  { settings with
    token := (given tokenVariable).or settings.token
    baseUrl := (given baseUrlVariable).getD settings.baseUrl }

/-- The value of the authorization header for a token. -/
def authorization (token : String) : String :=
  "Bot " ++ token

/-- The settings of a router that follow; the token comes last and overrides a header. -/
def router (settings : Settings) : Http.RouterSettings :=
  let plain : Http.RouterSettings :=
    { baseUrl := settings.baseUrl
      timeout := settings.timeout.toNat * 1000
      headers := settings.headers
      userAgent := settings.userAgent.getD Http.defaultUserAgent }
  match settings.token with
  | none => plain
  | some token => plain.withAuthorization (authorization token)

/-- Words for settings with the names of their headers, which hide the token and all values. -/
def wordsWith (settings : Settings) (names : List String) : String :=
  "RestConfig \x7b base_url: " ++ Text.quoted settings.baseUrl
    ++ ", token: " ++ Text.quotedOption (settings.token.map fun _ => "<redacted>")
    ++ ", timeout_secs: " ++ Text.decimal settings.timeout.toNat
    ++ ", user_agent: " ++ Text.quotedOption settings.userAgent
    ++ ", page_size: " ++ Text.decimal settings.pageSize.toNat
    ++ ", headers: ["
    ++ String.intercalate ", " (names.map Text.quoted)
    ++ "] \x7d"

/-- Words for settings; their headers are listed in the order of the map that holds them. -/
def words (settings : Settings) (order : Arrangement := .asGiven) : String :=
  settings.wordsWith (order.arrange (settings.headers.entries.map Prod.fst))

end Settings

end DiscordRest
