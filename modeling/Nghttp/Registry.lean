-- The requests of one `HttpClient` and how `add_request` admits them: with
-- `multiply == 1` the URIs of `reqvec` stay distinct and `path_cache` holds
-- exactly them, and with any other `multiply` every admission appends.
import Mathlib.Data.List.Nodup
import Nghttp.Config

namespace nghttp2

open http_parser_url_fields

/-! ## The libraries the client calls -/

/-- The library functions the client calls and the source does not hold, over the states of
the link extractor `H` and the inflater `I`: the URL parser, the inflater and `HtmlParser`. -/
structure Lib (H I : Type) where
  http_parser_parse_url : String → Option http_parser_url
  nghttp2_gzip_inflate_new : I
  nghttp2_gzip_inflate : I → List UInt8 → Option (I × Nat × List UInt8)
  htmlparser_new : String → H
  parse_chunk : H → List UInt8 → Bool → H
  get_links : H → List String
  clear_links : H → H
  NGHTTP2_VERSION : String
  NGHTTP2_PROTO_VERSION_ID : String

instance : Inhabited http_parser_url := ⟨⟨none, none, none, none, none⟩⟩

variable {H I : Type}

/-! ## Requests and the client -/

/-- A `Request`, its upload offsets in bytes. `data_prd` says whether the shared data
provider of `-d` is attached. -/
structure Request (H I : Type) where
  uri : String
  u : http_parser_url
  inflater : Option I
  htmlparser : Option H
  data_prd : Bool
  data_length : Nat
  data_offset : Nat
  level : Nat
  status : String

/-- The constructor `Request(uri, u, data_prd, data_length, level)`. -/
def Request.new (uri : String) (u : http_parser_url) (data_prd : Bool) (data_length : Nat)
    (level : Nat) : Request H I :=
  { uri, u, inflater := none, htmlparser := none, data_prd, data_length, data_offset := 0,
    level, status := "" }

inductive client_state
  | STATE_IDLE
  | STATE_CONNECTED
deriving DecidableEq, Repr

/-- The request registry of `HttpClient`. A `Request*` is its index in `reqvec`, which only
grows, so `streams` maps a stream id to an index. -/
structure HttpClient (H I : Type) where
  state : client_state
  reqvec : List (Request H I)
  streams : List (Nat × Nat)
  path_cache : List String
  complete : Nat
  hostport : String

/-- The constructor: no request, no stream, nothing complete. -/
def HttpClient.new : HttpClient H I :=
  { state := .STATE_IDLE, reqvec := [], streams := [], path_cache := [], complete := 0,
    hostport := "" }

def all_requests_processed (c : HttpClient H I) : Bool := c.complete == c.reqvec.length

/-- `HttpClient::update_hostport`: the host of the first request, in brackets when it holds a
`:`, and its port when it names one other than the default of its scheme. -/
def update_hostport (c : HttpClient H I) : HttpClient H I :=
  match c.reqvec with
  | [] => c
  | r :: _ =>
    let host := get_uri_field r.u UF_HOST
    let host := if is_ipv6_literal_addr r.u then "[" ++ host ++ "]" else host
    let port :=
      if has_uri_field r.u UF_PORT && r.u.port != get_default_port r.u then
        ":" ++ toString r.u.port.toNat
      else ""
    { c with hostport := host ++ port }

section update_hostport

variable (c : HttpClient H I)

@[simp] theorem update_hostport_reqvec : (update_hostport c).reqvec = c.reqvec := by
  unfold update_hostport; split <;> rfl
@[simp] theorem update_hostport_streams : (update_hostport c).streams = c.streams := by
  unfold update_hostport; split <;> rfl
@[simp] theorem update_hostport_complete : (update_hostport c).complete = c.complete := by
  unfold update_hostport; split <;> rfl
@[simp] theorem update_hostport_path_cache : (update_hostport c).path_cache = c.path_cache := by
  unfold update_hostport; split <;> rfl

end update_hostport

/-! ## Admission -/

/-- `HttpClient::add_request`: a URI already in `path_cache` is refused; any other is
appended, and kept in `path_cache` only when `multiply == 1`. -/
def add_request (cfg : Config) (L : Lib H I) (c : HttpClient H I) (uri : String)
    (data_prd : Bool) (data_length : Nat) (level : Nat) : Bool × HttpClient H I :=
  let u := (L.http_parser_parse_url uri).getD default
  if uri ∈ c.path_cache then (false, c)
  else
    (true, { c with
      path_cache := if cfg.multiply = 1 then uri :: c.path_cache else c.path_cache
      reqvec := c.reqvec ++ [Request.new uri u data_prd data_length level] })

section add_request

variable (cfg : Config) (L : Lib H I) (c : HttpClient H I) (uri : String) (data_prd : Bool)
  (data_length level : Nat)

@[simp] theorem add_request_fst :
    (add_request cfg L c uri data_prd data_length level).1 = !decide (uri ∈ c.path_cache) := by
  unfold add_request; split <;> simp_all

theorem add_request_reqvec :
    (add_request cfg L c uri data_prd data_length level).2.reqvec =
      if uri ∈ c.path_cache then c.reqvec
      else c.reqvec ++ [Request.new uri ((L.http_parser_parse_url uri).getD default)
        data_prd data_length level] := by
  unfold add_request; split <;> simp

@[simp] theorem add_request_streams :
    (add_request cfg L c uri data_prd data_length level).2.streams = c.streams := by
  unfold add_request; split <;> rfl

@[simp] theorem add_request_complete :
    (add_request cfg L c uri data_prd data_length level).2.complete = c.complete := by
  unfold add_request; split <;> rfl

@[simp] theorem add_request_hostport :
    (add_request cfg L c uri data_prd data_length level).2.hostport = c.hostport := by
  unfold add_request; split <;> rfl

theorem add_request_reqvec_uri :
    ((add_request cfg L c uri data_prd data_length level).2.reqvec.map Request.uri) =
      if uri ∈ c.path_cache then c.reqvec.map Request.uri
      else c.reqvec.map Request.uri ++ [uri] := by
  rw [add_request_reqvec]; split <;> simp [Request.new]

end add_request

/-- What `add_request` keeps of `path_cache` beside the URIs of `reqvec`: with
`multiply == 1`, those URIs, each once; with any other `multiply`, nothing. -/
structure Admitted (multiply : Int) (uris path_cache : List String) : Prop where
  nodup : multiply = 1 → uris.Nodup
  cache : multiply = 1 → ∀ x, x ∈ path_cache ↔ x ∈ uris
  empty : multiply ≠ 1 → path_cache = []

theorem admitted_nil (multiply : Int) : Admitted multiply [] [] :=
  ⟨fun _ => List.nodup_nil, fun _ _ => Iff.rfl, fun _ => rfl⟩

theorem Admitted.snoc {multiply : Int} {uris path_cache : List String} {uri : String}
    (h : Admitted multiply uris path_cache) (hu : uri ∉ path_cache) :
    Admitted multiply (uris ++ [uri])
      (if multiply = 1 then uri :: path_cache else path_cache) := by
  refine ⟨fun hm => ?_, fun hm x => ?_, fun hm => by simp [hm, h.empty hm]⟩
  · have hn : uri ∉ uris := fun hx => hu ((h.cache hm uri).2 hx)
    simpa [List.nodup_append, hn] using h.nodup hm
  · simp [hm, h.cache hm x, or_comm]

theorem admitted_add_request {cfg : Config} {c : HttpClient H I} (L : Lib H I) (uri : String)
    (data_prd : Bool) (data_length level : Nat)
    (h : Admitted cfg.multiply (c.reqvec.map Request.uri) c.path_cache) :
    Admitted cfg.multiply ((add_request cfg L c uri data_prd data_length level).2.reqvec.map
      Request.uri) (add_request cfg L c uri data_prd data_length level).2.path_cache := by
  unfold add_request
  split
  · exact h
  · simpa [Request.new] using h.snoc ‹_›

theorem add_request_of_cache_nil {cfg : Config} {c : HttpClient H I} (L : Lib H I)
    (uri : String) (data_prd : Bool) (data_length level : Nat) (h : c.path_cache = []) :
    (add_request cfg L c uri data_prd data_length level).1 = true ∧
      (add_request cfg L c uri data_prd data_length level).2.reqvec.map Request.uri =
        c.reqvec.map Request.uri ++ [uri] := by
  simp [add_request_reqvec_uri, h]

/-! ## The admission loop of `communicate` -/

/-- The inner loop of `communicate`: `add_request` of one request, `n` times. -/
def addRequestTimes (cfg : Config) (L : Lib H I) (r : String × Bool × Nat) :
    Nat → HttpClient H I → HttpClient H I
  | 0, c => c
  | n + 1, c => addRequestTimes cfg L r n (add_request cfg L c r.1 r.2.1 r.2.2 0).2

/-- The admission loop of `communicate`: each request `multiply` times, in order. -/
def addRequests (cfg : Config) (L : Lib H I) (c : HttpClient H I)
    (requests : List (String × Bool × Nat)) : HttpClient H I :=
  requests.foldl (fun c r => addRequestTimes cfg L r cfg.multiply.toNat c) c

theorem addRequests_cons (cfg : Config) (L : Lib H I) (c : HttpClient H I)
    (r : String × Bool × Nat) (rs : List (String × Bool × Nat)) :
    addRequests cfg L c (r :: rs) =
      addRequests cfg L (addRequestTimes cfg L r cfg.multiply.toNat c) rs := rfl

/-- Each string of a list at its first occurrence, in order. -/
def firstOccurrences : List String → List String
  | [] => []
  | x :: l => x :: (firstOccurrences l).filter (· != x)

@[simp] theorem addRequestTimes_streams (cfg : Config) (L : Lib H I) (r : String × Bool × Nat)
    (n : Nat) (c : HttpClient H I) : (addRequestTimes cfg L r n c).streams = c.streams := by
  induction n generalizing c with
  | zero => rfl
  | succ n ih => simp [addRequestTimes, ih]

@[simp] theorem addRequestTimes_complete (cfg : Config) (L : Lib H I) (r : String × Bool × Nat)
    (n : Nat) (c : HttpClient H I) : (addRequestTimes cfg L r n c).complete = c.complete := by
  induction n generalizing c with
  | zero => rfl
  | succ n ih => simp [addRequestTimes, ih]

@[simp] theorem addRequests_streams (cfg : Config) (L : Lib H I) (c : HttpClient H I)
    (requests : List (String × Bool × Nat)) :
    (addRequests cfg L c requests).streams = c.streams := by
  induction requests generalizing c with
  | nil => rfl
  | cons r rs ih => simp [addRequests_cons, ih]

@[simp] theorem addRequests_complete (cfg : Config) (L : Lib H I) (c : HttpClient H I)
    (requests : List (String × Bool × Nat)) :
    (addRequests cfg L c requests).complete = c.complete := by
  induction requests generalizing c with
  | nil => rfl
  | cons r rs ih => simp [addRequests_cons, ih]

theorem admitted_addRequestTimes {cfg : Config} (L : Lib H I) (r : String × Bool × Nat)
    (n : Nat) {c : HttpClient H I}
    (h : Admitted cfg.multiply (c.reqvec.map Request.uri) c.path_cache) :
    Admitted cfg.multiply ((addRequestTimes cfg L r n c).reqvec.map Request.uri)
      (addRequestTimes cfg L r n c).path_cache := by
  induction n generalizing c with
  | zero => exact h
  | succ n ih => exact ih (admitted_add_request L _ _ _ _ h)

theorem admitted_addRequests {cfg : Config} (L : Lib H I)
    (requests : List (String × Bool × Nat)) {c : HttpClient H I}
    (h : Admitted cfg.multiply (c.reqvec.map Request.uri) c.path_cache) :
    Admitted cfg.multiply ((addRequests cfg L c requests).reqvec.map Request.uri)
      (addRequests cfg L c requests).path_cache := by
  induction requests generalizing c with
  | nil => exact h
  | cons r rs ih => exact ih (admitted_addRequestTimes L r _ h)

theorem mem_addRequests (cfg : Config) (L : Lib H I) {requests : List (String × Bool × Nat)}
    {c : HttpClient H I} {r : Request H I} (h : r ∈ (addRequests cfg L c requests).reqvec) :
    r ∈ c.reqvec ∨ ∃ x ∈ requests,
      r = Request.new x.1 ((L.http_parser_parse_url x.1).getD default) x.2.1 x.2.2 0 := by
  have times : ∀ x n (c : HttpClient H I), r ∈ (addRequestTimes cfg L x n c).reqvec →
      r ∈ c.reqvec ∨
        r = Request.new x.1 ((L.http_parser_parse_url x.1).getD default) x.2.1 x.2.2 0 := by
    intro x n
    induction n with
    | zero => exact fun _ => .inl
    | succ n ih =>
      intro c hr
      rcases ih _ hr with hr | hr
      · rw [add_request_reqvec] at hr
        split at hr
        · exact .inl hr
        · simpa using hr
      · exact .inr hr
  induction requests generalizing c with
  | nil => exact .inl h
  | cons x rs ih =>
    rcases ih h with hr | ⟨y, hy, rfl⟩
    · exact (times x _ c hr).imp_right fun e => ⟨x, List.mem_cons_self _ _, e⟩
    · exact .inr ⟨y, List.mem_cons_of_mem _ hy, rfl⟩

theorem addRequestTimes_uri_of_cache_nil {cfg : Config} (L : Lib H I)
    (r : String × Bool × Nat) (n : Nat) {c : HttpClient H I} (hm : cfg.multiply ≠ 1)
    (h : Admitted cfg.multiply (c.reqvec.map Request.uri) c.path_cache) :
    (addRequestTimes cfg L r n c).reqvec.map Request.uri =
      c.reqvec.map Request.uri ++ List.replicate n r.1 := by
  induction n generalizing c with
  | zero => simp [addRequestTimes]
  | succ n ih =>
    rw [addRequestTimes, ih (admitted_add_request L _ _ _ _ h),
      (add_request_of_cache_nil L _ _ _ _ (h.empty hm)).2, List.append_assoc,
      List.singleton_append, List.replicate_succ]

theorem addRequests_uri_of_ne_one {cfg : Config} (L : Lib H I)
    (requests : List (String × Bool × Nat)) {c : HttpClient H I} (hm : cfg.multiply ≠ 1)
    (h : Admitted cfg.multiply (c.reqvec.map Request.uri) c.path_cache) :
    (addRequests cfg L c requests).reqvec.map Request.uri =
      c.reqvec.map Request.uri ++
        requests.flatMap fun r => List.replicate cfg.multiply.toNat r.1 := by
  induction requests generalizing c with
  | nil => simp [addRequests]
  | cons r rs ih =>
    rw [addRequests_cons, ih (admitted_addRequestTimes L r _ h),
      addRequestTimes_uri_of_cache_nil L r _ hm h]
    simp

theorem addRequests_uri_of_one {cfg : Config} (L : Lib H I)
    (requests : List (String × Bool × Nat)) {c : HttpClient H I} (hm : cfg.multiply = 1)
    (h : Admitted cfg.multiply (c.reqvec.map Request.uri) c.path_cache) :
    (addRequests cfg L c requests).reqvec.map Request.uri =
      c.reqvec.map Request.uri ++ (firstOccurrences (requests.map (·.1))).filter
        fun x => !decide (x ∈ c.reqvec.map Request.uri) := by
  induction requests generalizing c with
  | nil => simp [addRequests, firstOccurrences]
  | cons r rs ih =>
    have h1 : cfg.multiply.toNat = 1 := by simp [hm]
    rw [addRequests_cons, h1,
      ih (admitted_addRequestTimes L r _ h), addRequestTimes, addRequestTimes,
      add_request_reqvec_uri]
    simp only [List.map_cons, firstOccurrences, List.filter_cons, List.filter_filter,
      h.cache hm]
    by_cases hr : r.1 ∈ c.reqvec.map Request.uri
    · simp only [hr, if_true, decide_True, Bool.not_true, Bool.false_eq_true, if_false]
      congr 1
      exact List.filter_congr fun x _ => by by_cases hx : x = r.1 <;> simp [hx, hr]
    · simp only [hr, if_false, decide_False, Bool.not_false, if_true, List.append_assoc,
        List.singleton_append, List.cons_append, List.mem_append, List.mem_singleton]
      congr 2
      exact List.filter_congr fun x _ => by by_cases hx : x = r.1 <;> simp [hx, hr]

/-- The URIs that the admission loop of `communicate` puts in the `reqvec` of a new client:
each request `multiply` times, or with `multiply == 1` the first occurrence of each. -/
theorem addRequests_new_uris (cfg : Config) (L : Lib H I)
    (requests : List (String × Bool × Nat)) :
    (addRequests cfg L HttpClient.new requests).reqvec.map Request.uri =
      if cfg.multiply = 1 then firstOccurrences (requests.map Prod.fst)
      else requests.flatMap fun r => List.replicate cfg.multiply.toNat r.1 := by
  have h := admitted_nil cfg.multiply
  split_ifs with hm
  · simpa [HttpClient.new] using addRequests_uri_of_one L requests (c := HttpClient.new) hm h
  · simpa [HttpClient.new] using addRequests_uri_of_ne_one L requests (c := HttpClient.new) hm h

end nghttp2
