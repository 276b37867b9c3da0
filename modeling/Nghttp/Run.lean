-- How `run` splits the command line into sessions: the admissible URIs, in
-- order, each in exactly one block, and every request of a session, asset or
-- not, with the host that `communicate` connects to.
import Nghttp.Admission

namespace nghttp2

open http_parser_url_fields

variable {H I : Type}

/-! ## The grouping loop -/

/-- A call of `communicate`: the host and port to connect to, and the requests, each with
the upload provider attached or not, and `data_stat.st_size`. -/
structure Call where
  host : String
  port : UInt16
  requests : List (String × Bool × Nat)
deriving DecidableEq, Repr

/-- The locals of the loop of `run`: `prev_host`, `prev_port`, the pending `requests`, and
the calls of `communicate` made so far. -/
structure RunState where
  prev_host : String
  prev_port : UInt16
  requests : List (String × Bool × Nat)
  calls : List Call

/-- `communicate` on the pending requests, when there are any. -/
def RunState.flush (s : RunState) : List Call :=
  if s.requests.isEmpty then s.calls else s.calls ++ [⟨s.prev_host, s.prev_port, s.requests⟩]

/-- One turn of the loop of `run`. A URI with a scheme starts a new block when its host is
not `prev_host` or its `u.port`, 0 when it names none, is not `prev_port`. -/
def runUri (L : Lib H I) (data_prd : Bool) (st_size : Nat) (s : RunState) (raw : String) :
    RunState :=
  let uri := strip_fragment raw
  match L.http_parser_parse_url uri with
  | none => s
  | some u =>
    if has_uri_field u UF_SCHEMA then
      let s :=
        if !fieldeqCstr u UF_HOST s.prev_host || u.port != s.prev_port then
          ⟨get_uri_field u UF_HOST, effectivePort u, [], s.flush⟩
        else s
      { s with requests := s.requests ++ [(uri, data_prd, st_size)] }
    else s

/-- `run` on `uris`: its calls of `communicate`, with the file of `-d` as `datafile`.
`st_size` is what the uninitialised `data_stat.st_size` holds, which `fstat` sets under `-d`. -/
def run (L : Lib H I) (datafile : Option (List UInt8)) (st_size : Nat) (uris : List String) :
    List Call :=
  (uris.foldl (runUri L datafile.isSome ((datafile.map List.length).getD st_size))
    ⟨"", 0, [], []⟩).flush

/-- Two URIs of one host and effective port go to two sessions when the second names no port:
`run` compares its `u.port`, 0, with the first's 443. -/
theorem run_splits_default_port :
    (parseUrl "https://h/a").map effectivePort = some 443 ∧
      (parseUrl "https://h/b").map effectivePort = some 443 ∧
      run passLib none 0 ["https://h/a", "https://h/b"] =
        [⟨"h", 443, [("https://h/a", false, 0)]⟩, ⟨"h", 443, [("https://h/b", false, 0)]⟩] := by
  decide

/-! ## What `run` keeps -/

/-- The URIs that `run` admits, in order: after `strip_fragment`, those that parse with a
scheme. -/
def admissible (L : Lib H I) (uris : List String) : List String :=
  (uris.map strip_fragment).filter fun uri =>
    match L.http_parser_parse_url uri with
    | some u => has_uri_field u UF_SCHEMA
    | none => false

/-- The requests handed on so far or pending. -/
def RunState.handed (s : RunState) : List (String × Bool × Nat) :=
  s.calls.flatMap Call.requests ++ s.requests

theorem RunState.flush_requests (s : RunState) :
    s.flush.flatMap Call.requests = s.handed := by
  unfold RunState.flush RunState.handed
  split <;> simp_all

theorem admissible_cons (L : Lib H I) (raw : String) (uris : List String) :
    admissible L (raw :: uris) = admissible L [raw] ++ admissible L uris := by
  simp only [admissible, List.map_cons, List.map_nil, ← List.filter_append, List.singleton_append]

theorem runUri_handed (L : Lib H I) (data_prd : Bool) (st_size : Nat) (s : RunState)
    (raw : String) :
    (runUri L data_prd st_size s raw).handed =
      s.handed ++ ((admissible L [raw]).map fun uri => (uri, data_prd, st_size)) := by
  rcases hu : L.http_parser_parse_url (strip_fragment raw) with _ | u
  · simp [runUri, admissible, hu]
  by_cases hs : has_uri_field u UF_SCHEMA = true
  · by_cases hn : (!fieldeqCstr u UF_HOST s.prev_host || u.port != s.prev_port) = true
    · simp only [runUri, admissible, hu, hs, hn, if_true]
      simp [RunState.handed, s.flush_requests, List.filter_cons, hu, hs]
    · simp only [runUri, admissible, hu, hs, hn, if_true, Bool.false_eq_true, if_false]
      simp [RunState.handed, List.filter_cons, hu, hs]
  · simp [runUri, admissible, hu, hs]

theorem foldl_runUri_handed (L : Lib H I) (data_prd : Bool) (st_size : Nat) (s : RunState)
    (uris : List String) :
    (uris.foldl (runUri L data_prd st_size) s).handed =
      s.handed ++ (admissible L uris).map fun uri => (uri, data_prd, st_size) := by
  induction uris generalizing s with
  | nil => simp [admissible]
  | cons raw uris ih =>
    rw [List.foldl_cons, ih, runUri_handed, List.append_assoc, ← List.map_append,
      ← admissible_cons]

theorem run_request_stripped (L : Lib H I) (datafile : Option (List UInt8)) (st_size : Nat)
    (uris : List String) {c : Call} (hc : c ∈ run L datafile st_size uris)
    {x : String × Bool × Nat} (hx : x ∈ c.requests) : ∃ raw ∈ uris, x.1 = strip_fragment raw := by
  have h : x ∈ (run L datafile st_size uris).flatMap Call.requests := List.mem_flatMap.2 ⟨c, hc, hx⟩
  rw [run, RunState.flush_requests, foldl_runUri_handed] at h
  simp only [RunState.handed, List.flatMap_nil, List.nil_append, List.mem_map, admissible,
    List.mem_filter] at h
  obtain ⟨_, ⟨⟨raw, hraw, rfl⟩, -⟩, rfl⟩ := h
  exact ⟨raw, hraw, rfl⟩

/-- A request in the block of `host` and `port`: its URI parses with a scheme to that host and,
unless `port` is 0, that port, and it carries the upload as `run` attaches it. -/
def InBlock (L : Lib H I) (data_prd : Bool) (st_size : Nat) (host : String) (port : UInt16)
    (x : String × Bool × Nat) : Prop :=
  ∃ u, L.http_parser_parse_url x.1 = some u ∧ has_uri_field u UF_SCHEMA = true ∧
    get_uri_field u UF_HOST = host ∧ (port ≠ 0 → effectivePort u = port) ∧
    x.2 = (data_prd, st_size)

/-- A call of `communicate` as `run` makes it: some requests, each in the block of the call. -/
def GoodCall (L : Lib H I) (data_prd : Bool) (st_size : Nat) (c : Call) : Prop :=
  c.requests ≠ [] ∧ ∀ x ∈ c.requests, InBlock L data_prd st_size c.host c.port x

/-- The invariant of the loop of `run`. -/
structure RunState.Good (L : Lib H I) (data_prd : Bool) (st_size : Nat) (s : RunState) :
    Prop where
  calls : ∀ c ∈ s.calls, GoodCall L data_prd st_size c
  requests : ∀ x ∈ s.requests, InBlock L data_prd st_size s.prev_host s.prev_port x

section good

variable {L : Lib H I} {data_prd : Bool} {st_size : Nat} {s : RunState}

theorem RunState.Good.flush (h : s.Good L data_prd st_size) :
    ∀ c ∈ s.flush, GoodCall L data_prd st_size c := by
  unfold RunState.flush
  split
  · exact h.calls
  · rename_i hn
    simp only [List.mem_append, List.mem_singleton]
    rintro c (hc | rfl)
    · exact h.calls c hc
    · exact ⟨by simpa using hn, h.requests⟩

theorem in_block_of_same {u : http_parser_url} {x : String × Bool × Nat}
    (hx : L.http_parser_parse_url x.1 = some u) (hs : has_uri_field u UF_SCHEMA = true)
    (hh : fieldeqCstr u UF_HOST s.prev_host = true) (hp : u.port = s.prev_port)
    (hd : x.2 = (data_prd, st_size)) : InBlock L data_prd st_size s.prev_host s.prev_port x := by
  refine ⟨u, hx, hs, get_uri_field_eq_of_fieldeqCstr hh, fun h0 => ?_, hd⟩
  cases hport : has_uri_field u UF_PORT
  · exact absurd (hp ▸ port_of_not_has_port hport) h0
  · rw [effectivePort_of_has_port hport, hp]

theorem RunState.Good.runUri (h : s.Good L data_prd st_size) (raw : String) :
    (runUri L data_prd st_size s raw).Good L data_prd st_size := by
  rcases hu : L.http_parser_parse_url (strip_fragment raw) with _ | u
  · simpa [nghttp2.runUri, hu] using h
  by_cases hs : has_uri_field u UF_SCHEMA = true
  · by_cases hn : (!fieldeqCstr u UF_HOST s.prev_host || u.port != s.prev_port) = true
    · simp only [nghttp2.runUri, hu, hs, hn, if_true]
      refine ⟨h.flush, ?_⟩
      simp only [List.nil_append, List.mem_singleton]
      rintro x rfl
      exact ⟨u, hu, hs, rfl, fun _ => rfl, rfl⟩
    · simp only [Bool.or_eq_true, Bool.not_eq_true', bne_iff_ne, ne_eq, not_or,
        Bool.not_eq_false, Decidable.not_not] at hn
      simp only [nghttp2.runUri, hu, hs, hn, if_true, Bool.not_true, Bool.false_or,
        bne_self_eq_false, Bool.false_eq_true, if_false]
      refine ⟨h.calls, ?_⟩
      simp only [List.mem_append, List.mem_singleton]
      rintro x (hx | rfl)
      · exact h.requests x hx
      · exact in_block_of_same hu hs hn.1 hn.2 rfl
  · simpa [nghttp2.runUri, hu, hs] using h

end good

theorem run_calls_good (L : Lib H I) (datafile : Option (List UInt8)) (st_size : Nat)
    (uris : List String) :
    ∀ c ∈ run L datafile st_size uris,
      GoodCall L datafile.isSome ((datafile.map List.length).getD st_size) c := by
  have key : ∀ (s : RunState) (uris : List String),
      s.Good L datafile.isSome ((datafile.map List.length).getD st_size) →
      (uris.foldl (runUri L datafile.isSome ((datafile.map List.length).getD st_size)) s).Good L
        datafile.isSome ((datafile.map List.length).getD st_size) := by
    intro s uris
    induction uris generalizing s with
    | nil => exact id
    | cons raw uris ih => exact fun h => ih _ (h.runUri raw)
  exact (key _ uris ⟨by simp, by simp⟩).flush

/-! ## The requests of a session -/

/-- Every request of every world of a session `run` starts has the host `communicate` connects
to and, unless that port is 0, its port. -/
theorem session_requests_share_host_port (cfg : Config) (L : Lib H I)
    (datafile : Option (List UInt8)) (st_size : Nat) (uris : List String) (c : Call)
    (hc : c ∈ run L datafile st_size uris) (w : World H I)
    (hw : Reachable cfg L (datafile.getD []) c.requests w) :
    ∀ r ∈ w.client.reqvec, get_uri_field r.u UF_HOST = c.host ∧
      (c.port ≠ 0 → effectivePort r.u = c.port) := by
  have key := hw.registry_induction (P := fun g => ∀ r ∈ g.reqvec,
    get_uri_field r.u UF_HOST = c.host ∧ (c.port ≠ 0 → effectivePort r.u = c.port)) ?_ ?_
  · intro r hr
    simpa using key r.origin (List.mem_map_of_mem _ hr)
  · simp only [sessionStart_registry, List.mem_map]
    rintro _ ⟨r, hr, rfl⟩
    rcases mem_addRequests cfg L (update_hostport_reqvec _ ▸ hr) with hr | ⟨x, hx, rfl⟩
    · simp [HttpClient.new] at hr
    obtain ⟨u, hu, -, hh, hp, -⟩ := (run_calls_good L datafile st_size uris c hc).2 x hx
    simpa [Request.new, hu] using ⟨hh, hp⟩
  · rintro _ _ ⟨hpar, -, -, hh, hp, -⟩ h
    intro r hr
    rcases List.mem_append.1 hr with hr | hr
    · exact h r hr
    rw [List.mem_singleton.1 hr]
    obtain ⟨h1, h2⟩ := h _ hpar
    exact ⟨(get_uri_field_eq_of_fieldeq hh).trans h1,
      fun h0 => ((porteq_iff.1 hp).trans (h2 h0))⟩

theorem session_requests_share_host_port_after_close :
    (⟨"h", 443, [("https://h/a", false, 0)]⟩ : Call) ∈ run passLib none 0 ["https://h/a"] ∧
      ∃ w : World Unit Unit, Reachable {} passLib [] [("https://h/a", false, 0)] w ∧
        w.session.closed = [1] ∧ w.client.complete = 1 ∧
        ∀ r ∈ w.client.reqvec, get_uri_field r.u UF_HOST = "h" ∧
          ((443 : UInt16) ≠ 0 → effectivePort r.u = 443) := by
  have hc : (⟨"h", 443, [("https://h/a", false, 0)]⟩ : Call) ∈
      run passLib none 0 ["https://h/a"] := by decide
  obtain ⟨w, hw, -, hcl, hcomplete, -⟩ := one_request_completes
  exact ⟨hc, w, hw, hcl, hcomplete,
    session_requests_share_host_port {} passLib none 0 ["https://h/a"] _ hc w hw⟩

/-- `run` puts `http://h:443/a` and `https://h:443/b` in one session, whose two requests then
differ in scheme: it compares the host and the port, never the scheme. -/
theorem run_joins_schemes :
    run passLib none 0 ["http://h:443/a", "https://h:443/b"] =
        [⟨"h", 443, [("http://h:443/a", false, 0), ("https://h:443/b", false, 0)]⟩] ∧
      Reachable {} passLib [] [("http://h:443/a", false, 0), ("https://h:443/b", false, 0)]
        (sessionStart {} passLib [("http://h:443/a", false, 0), ("https://h:443/b", false, 0)]) ∧
      (sessionStart ({} : Config) passLib
          [("http://h:443/a", false, 0), ("https://h:443/b", false, 0)]).client.reqvec.map
        (fun r => get_uri_field r.u UF_SCHEMA) = ["http", "https"] :=
  ⟨by decide, .refl, by decide⟩

end nghttp2
