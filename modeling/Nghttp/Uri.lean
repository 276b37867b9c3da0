-- The URI helpers of nghttp.cc: the fields that `http_parser_parse_url`
-- finds, how `fieldeq`, `porteq` and `get_default_port` compare them, and
-- `strip_fragment`, which cuts a raw URI at its first '#'.
import Mathlib.Data.List.Basic

namespace nghttp2

/-! ## The parsed URL -/

/-- The fields of `http_parser_url` that the client reads. -/
inductive http_parser_url_fields
  | UF_SCHEMA
  | UF_HOST
  | UF_PORT
  | UF_PATH
  | UF_QUERY
deriving DecidableEq, Repr

open http_parser_url_fields

/-- A parsed URL: the text of each field that `field_set` holds, and the port number that
the parser reads out of the `UF_PORT` field. -/
structure http_parser_url where
  schema : Option String
  host : Option String
  port? : Option UInt16
  path : Option String
  query : Option String
deriving DecidableEq, Repr

/-- The text `uri + field_data[field].off` of length `field_data[field].len`. The client
never reads the text of the port, only `u.port`; it is given as its decimal. -/
def http_parser_url.field (u : http_parser_url) : http_parser_url_fields → Option String
  | UF_SCHEMA => u.schema
  | UF_HOST => u.host
  | UF_PORT => u.port?.map fun p => toString p.toNat
  | UF_PATH => u.path
  | UF_QUERY => u.query

/-- `u.port`: the parser sets it to 0 before it looks for a port. -/
def http_parser_url.port (u : http_parser_url) : UInt16 := u.port?.getD 0

def has_uri_field (u : http_parser_url) (field : http_parser_url_fields) : Bool :=
  (u.field field).isSome

/-- `fieldeq` of two URLs: both fields absent, or both present with the same bytes. -/
def fieldeq (u1 u2 : http_parser_url) (field : http_parser_url_fields) : Bool :=
  match u1.field field, u2.field field with
  | none, none => true
  | some a, some b => a == b
  | _, _ => false

/-- `fieldeq` of a URL and a C string: an absent field equals only the empty string, a present
one never does. -/
def fieldeqCstr (u : http_parser_url) (field : http_parser_url_fields) (t : String) : Bool :=
  match u.field field with
  | none => t == ""
  | some p => t != "" && p == t

def get_default_port (u : http_parser_url) : UInt16 :=
  if fieldeqCstr u UF_SCHEMA "https" then 443
  else if fieldeqCstr u UF_SCHEMA "http" then 80
  else 443

def get_uri_field (u : http_parser_url) (field : http_parser_url_fields) : String :=
  (u.field field).getD ""

/-- The port a URL names: its own, else the default of its scheme. `porteq` and `run` both
compute it. -/
def effectivePort (u : http_parser_url) : UInt16 :=
  if has_uri_field u UF_PORT then u.port else get_default_port u

def porteq (u1 u2 : http_parser_url) : Bool :=
  effectivePort u1 == effectivePort u2

/-- `Request::make_reqpath`: the path, `/` when there is none, then `?` and the query. -/
def make_reqpath (u : http_parser_url) : String :=
  let path := if has_uri_field u UF_PATH then get_uri_field u UF_PATH else "/"
  if has_uri_field u UF_QUERY then path ++ "?" ++ get_uri_field u UF_QUERY else path

/-- `Request::is_ipv6_literal_addr`: the host holds a `:`. -/
def is_ipv6_literal_addr (u : http_parser_url) : Bool :=
  match u.host with
  | some h => h.data.contains ':'
  | none => false

theorem has_uri_field_port (u : http_parser_url) :
    has_uri_field u UF_PORT = u.port?.isSome := by
  simp [has_uri_field, http_parser_url.field]

theorem port_of_not_has_port {u : http_parser_url} (h : has_uri_field u UF_PORT = false) :
    u.port = 0 := by
  cases hp : u.port? <;> simp_all [has_uri_field_port, http_parser_url.port]

theorem effectivePort_of_has_port {u : http_parser_url} (h : has_uri_field u UF_PORT = true) :
    effectivePort u = u.port := by
  simp [effectivePort, h]

theorem porteq_iff {u1 u2 : http_parser_url} :
    porteq u1 u2 = true ↔ effectivePort u1 = effectivePort u2 := by
  simp [porteq]

theorem get_uri_field_eq_of_fieldeq {u1 u2 : http_parser_url} {field : http_parser_url_fields}
    (h : fieldeq u1 u2 field = true) : get_uri_field u1 field = get_uri_field u2 field := by
  unfold fieldeq at h
  unfold get_uri_field
  split at h <;> simp_all

theorem get_uri_field_eq_of_fieldeqCstr {u : http_parser_url} {field : http_parser_url_fields}
    {t : String} (h : fieldeqCstr u field t = true) : get_uri_field u field = t := by
  unfold fieldeqCstr at h
  unfold get_uri_field
  split at h <;> simp_all

/-! ## Fragments -/

/-- `strip_fragment`: the bytes of `raw_uri` before its first `#`, or before its NUL. -/
def strip_fragment (raw_uri : String) : String :=
  ⟨raw_uri.data.takeWhile fun c => c != '\x00' && c != '#'⟩

theorem strip_fragment_idem (x : String) :
    strip_fragment (strip_fragment x) = strip_fragment x := by
  simp [strip_fragment, List.takeWhile_idem]

theorem hash_not_mem_strip_fragment (x : String) : '#' ∉ (strip_fragment x).data := by
  intro h
  have := List.mem_takeWhile_imp h
  simp at this

/-- `strip_fragment` keeps the longest prefix with neither `#` nor NUL: what it cuts off is
empty or starts with one of them. -/
theorem strip_fragment_longest (x : String) :
    '\x00' ∉ (strip_fragment x).data ∧ ∃ rest, x.data = (strip_fragment x).data ++ rest ∧
      ∀ c ∈ rest.head?, c = '#' ∨ c = '\x00' := by
  refine ⟨fun h => by simpa using List.mem_takeWhile_imp h, _,
    (List.takeWhile_append_dropWhile _ _).symm, fun c hc => ?_⟩
  have := List.head?_dropWhile_not (fun c => c != '\x00' && c != '#') x.data
  rw [Option.mem_def.1 hc] at this
  simp only [Bool.and_eq_false_iff, bne_eq_false_iff_eq] at this
  exact this.symm

/-! ## A parser for the examples -/

/-- The decimal digits of a port, refused past 65535 as `http_parser` does. -/
def parsePort : List Char → Nat → Option UInt16
  | [], n => if n < 65536 then some n.toUInt16 else none
  | c :: cs, n => if c.isDigit then parsePort cs (n * 10 + (c.toNat - '0'.toNat)) else none

/-- Modelled from the spec: `http_parser_parse_url` on the URIs `scheme://host[:port][path]`
of the examples; the theorems over all runs take the parser as a parameter. -/
def parseUrl (s : String) : Option http_parser_url :=
  let scheme := s.data.takeWhile (· != ':')
  match s.data.drop scheme.length with
  | ':' :: '/' :: '/' :: rest =>
    let auth := rest.takeWhile fun c => c != '/' && c != '?'
    let host := auth.takeWhile (· != ':')
    let path := (rest.drop auth.length).takeWhile (· != '?')
    let query := (rest.drop auth.length).drop path.length
    let port : Option (Option UInt16) :=
      match auth.drop host.length with
      | [] => some none
      | _ :: [] => none
      | _ :: ds => (parsePort ds 0).map some
    if scheme.isEmpty || host.isEmpty then none
    else port.map fun p =>
      { schema := some ⟨scheme⟩, host := some ⟨host⟩, port? := p,
        path := if path.isEmpty then none else some ⟨path⟩,
        query := match query with
          | _ :: q => some ⟨q⟩
          | [] => none }
  | _ => none

example : parseUrl "https://h:8443/a/b?x=1" =
    some ⟨some "https", some "h", some 8443, some "/a/b", some "x=1"⟩ := by decide

example : parseUrl "http://h" = some ⟨some "http", some "h", none, none, none⟩ := by decide

end nghttp2
