-- Setting up the connection of a session: the server name and host that
-- `initiate_connection` uses, the protocol selector of the TLS handshake, and
-- what `eventcb` does once the transport reports an event.
import Nghttp.Admission

namespace nghttp2

variable {H I : Type}

/-! ## The server name -/

/-- What `initiate_connection` sets up: the TLS server name, the host it resolves and
connects to with the port, and the read and write timeouts in seconds. -/
structure Connection where
  sni : Option String
  connect_host : String
  port : UInt16
  timeouts : Option Int
deriving DecidableEq, Repr

/-- `initiate_connection`: with TLS the value of the header stored under exactly `Host`, else
`host`, is the server name and the host connected to. -/
def initiate_connection (cfg : Config) (host : String) (port : UInt16) : Connection :=
  let timeouts := if cfg.timeout != -1 then some cfg.timeout else none
  if cfg.no_tls then ⟨none, host, port, timeouts⟩
  else
    let host_string := (cfg.headers.find "Host").getD host
    ⟨some host_string, host_string, port, timeouts⟩

/-! ## `:host` against the server name -/

theorem lastValue_of_no_match {l : List (String × String)} {name : String}
    (h : ∀ e ∈ l, strieq e.1 name = false) (d : String) : lastValue l name d = d := by
  induction l generalizing d with
  | nil => rfl
  | cons e l ih =>
    simp only [lastValue, List.foldl_cons, h e (List.mem_cons_self _ _), Bool.false_eq_true,
      if_false] at ih ⊢
    exact ih (fun e' he' => h e' (List.mem_cons_of_mem _ he')) d

/-- With one key `key` among the names equal to `name` up to case, and keys distinct, the
last such header is the one stored under `key`. -/
theorem lastValue_of_unique {l : List (String × String)} {name key : String}
    (hkey : strieq key name = true) (hnd : (l.map Prod.fst).Nodup)
    (h : ∀ e ∈ l, strieq e.1 name = true → e.1 = key) (d : String) :
    lastValue l name d = (l.lookup key).getD d := by
  induction l generalizing d with
  | nil => rfl
  | cons e l ih =>
    simp only [List.map_cons, List.nodup_cons] at hnd
    have ht : ∀ e' ∈ l, strieq e'.1 name = true → e'.1 = key :=
      fun e' he' => h e' (List.mem_cons_of_mem _ he')
    by_cases he : strieq e.1 name = true
    · have hek : e.1 = key := h e (List.mem_cons_self _ _) he
      have hnone : ∀ e' ∈ l, strieq e'.1 name = false := fun e' he' => by
        by_contra hc
        exact hnd.1 (hek ▸ ht e' he' (by simpa using hc) ▸ List.mem_map_of_mem _ he')
      simp only [lastValue, List.foldl_cons, he, if_true] at ih ⊢
      rw [← lastValue, lastValue_of_no_match hnone, List.lookup_cons, ← hek]
      simp
    · have hek : e.1 ≠ key := fun hk => he (hk ▸ hkey)
      simp only [lastValue, Bool.not_eq_true] at he ih ⊢
      rw [List.foldl_cons, he, if_neg Bool.false_ne_true, ih hnd.2 ht, List.lookup_cons,
        beq_false_of_ne (Ne.symm hek)]

/-- When the user headers name the host only as `Host`, spelled so, the server name of a TLS
session is the `:host` of every request that a world of its runs has submitted. -/
theorem sni_eq_host_header_of_exact_case (cfg : Config) (L : Lib H I) (file : List UInt8)
    (requests : List (String × Bool × Nat)) (host : String) (port : UInt16) (v : String)
    (hv : cfg.headers.find "Host" = some v) (hno : cfg.no_tls = false)
    (hcase : ∀ e ∈ cfg.headers.entries, strieq e.1 "host" = true → e.1 = "Host")
    (w : World H I) (hw : Reachable cfg L file requests w) :
    ∀ s ∈ w.session.submitted, s.nv.cells[7]? = some ((initiate_connection cfg host port).sni) := by
  intro s hs
  rw [(Reachable.host_header cfg L file requests hw).2 s hs,
    lastValue_of_unique (by decide) cfg.headers.keys_nodup hcase, ← HeaderMap.find, hv]
  simp [initiate_connection, hno, hv]

/-- A user header `Host`, spelled so. -/
def exactHostConfig : Config :=
  { headers := ⟨[("Host", "example.org")], List.chain'_singleton _⟩ }

theorem sni_eq_host_header_at_start :
    (sessionStart exactHostConfig passLib [("https://h/a", false, 0)]).session.submitted.all
      fun s => s.nv.cells[7]? == some ((initiate_connection exactHostConfig "h" 443).sni) :=
  List.all_eq_true.2 fun s hs => beq_iff_eq.2 (sni_eq_host_header_of_exact_case exactHostConfig
    passLib [] _ "h" 443 "example.org" (by decide) rfl (by decide) _ .refl s hs)

/-- A user header `host`, in lower case: the server name is the host of the URI, the `:host`
of every request the header's value. -/
def hostHeaderConfig : Config :=
  { headers := ⟨[("host", "example.org")], List.chain'_singleton _⟩ }

theorem sni_ignores_lowercase_host :
    (initiate_connection hostHeaderConfig "h" 443).sni = some "h" ∧
      0 < (sessionStart hostHeaderConfig passLib [("https://h/a", false, 0)]).session.submitted.length ∧
      ∀ w, Reachable hostHeaderConfig passLib [] [("https://h/a", false, 0)] w →
        ∀ s ∈ w.session.submitted, s.nv.cells[7]? = some (some "example.org") := by
  refine ⟨by decide, by decide, fun w hw s hs => ?_⟩
  have h : strieq "host" "host" = true := by decide
  rw [(Reachable.host_header _ _ _ _ hw).2 s hs]
  simp [lastValue, hostHeaderConfig, h]

theorem sni_ignores_lowercase_host_at_start :
    Reachable hostHeaderConfig passLib [] [("https://h/a", false, 0)]
        (sessionStart hostHeaderConfig passLib [("https://h/a", false, 0)]) ∧
      ∀ s ∈ (sessionStart hostHeaderConfig passLib [("https://h/a", false, 0)]).session.submitted,
        s.nv.cells[7]? = some (some "example.org") :=
  ⟨.refl, sni_ignores_lowercase_host.2.2 _ .refl⟩

/-! ## Protocol negotiation -/

/-- `SSL_TLSEXT_ERR_OK` of OpenSSL: the handshake goes on. -/
def SSL_TLSEXT_ERR_OK : Int := 0

/-- Modelled from the spec (the library is not in the source): the HTTP/2 name if offered,
with 1; else `http/1.1`, with 0; else no name, with -1. -/
def nghttp2_select_next_protocol (L : Lib H I) (offered : List String) : Option String × Int :=
  if L.NGHTTP2_PROTO_VERSION_ID ∈ offered then (some L.NGHTTP2_PROTO_VERSION_ID, 1)
  else if "http/1.1" ∈ offered then (some "http/1.1", 0)
  else (none, -1)

/-- `client_select_next_proto_cb`: the name it leaves in `*out`, what it writes to standard
error, and its result. -/
def client_select_next_proto_cb (L : Lib H I) (offered : List String) :
    Option String × List String × Int :=
  let (out, rv) := nghttp2_select_next_protocol L offered
  (out, if rv ≤ 0 then ["Server did not advertise HTTP/2.0 protocol."] else [],
    SSL_TLSEXT_ERR_OK)

/-- How OpenSSL ends the handshake after the selector: with the protocol it copies from
`*out`, failed, or undefined when `*out` was left unset and it copies uninitialised memory. -/
inductive Handshake
  | negotiated (proto : String)
  | failed
  | undefined
deriving DecidableEq, Repr

/-- The handshake as OpenSSL runs it with the selector: on `SSL_TLSEXT_ERR_OK` it completes
with the name in `*out`, and the transport reports `BEV_EVENT_CONNECTED`. -/
def npnHandshake (L : Lib H I) (offered : List String) : Handshake :=
  let (out, _, rv) := client_select_next_proto_cb L offered
  if rv = SSL_TLSEXT_ERR_OK then
    match out with
    | some proto => .negotiated proto
    | none => .undefined
  else .failed

/-! ## Transport events -/

def BEV_EVENT_EOF : UInt16 := 0x10
def BEV_EVENT_ERROR : UInt16 := 0x20
def BEV_EVENT_TIMEOUT : UInt16 := 0x40
def BEV_EVENT_CONNECTED : UInt16 := 0x80

/-- What `eventcb` does: the state it leaves, whether it calls `on_connect` or `disconnect`,
and what it writes to standard error. -/
structure EventOutcome where
  state : client_state
  on_connect : Bool
  disconnect : Bool
  stderr : List String
deriving DecidableEq, Repr

def eventcb (state : client_state) (events : UInt16) : EventOutcome :=
  if events &&& BEV_EVENT_CONNECTED != 0 then ⟨.STATE_CONNECTED, true, false, []⟩
  else if events &&& BEV_EVENT_EOF != 0 then ⟨.STATE_IDLE, false, true, ["EOF"]⟩
  else if events &&& (BEV_EVENT_ERROR ||| BEV_EVENT_TIMEOUT) != 0 then
    ⟨.STATE_IDLE, false, true,
      [if events &&& BEV_EVENT_ERROR != 0 then
        if state = .STATE_IDLE then "Could not connect to the host" else "Network error"
       else "Timeout"]⟩
  else ⟨state, false, false, []⟩

/-- A TLS session of `communicate` up to its first world: the handshake on the server's
offer, then `eventcb` on `BEV_EVENT_CONNECTED`, whose `on_connect` submits every request. -/
def tlsSessionStart (cfg : Config) (L : Lib H I) (requests : List (String × Bool × Nat))
    (offered : List String) : Option (World H I) :=
  match npnHandshake L offered with
  | .negotiated _ =>
    if (eventcb .STATE_IDLE BEV_EVENT_CONNECTED).on_connect then some (sessionStart cfg L requests)
    else none
  | .failed | .undefined => none

/-- The selector always lets the handshake go on: an offer of the HTTP/2 name or of
`http/1.1` is negotiated and the requests are submitted; on neither `*out` is unset. -/
theorem select_next_proto_always_ok (cfg : Config) (L : Lib H I)
    (requests : List (String × Bool × Nat)) (offered : List String) :
    (client_select_next_proto_cb L offered).2.2 = SSL_TLSEXT_ERR_OK ∧
      ((client_select_next_proto_cb L offered).1 = some L.NGHTTP2_PROTO_VERSION_ID ↔
        L.NGHTTP2_PROTO_VERSION_ID ∈ offered) ∧
      (client_select_next_proto_cb L offered).2.1 =
        (if L.NGHTTP2_PROTO_VERSION_ID ∈ offered then []
         else ["Server did not advertise HTTP/2.0 protocol."]) ∧
      ((L.NGHTTP2_PROTO_VERSION_ID ∈ offered ∨ "http/1.1" ∈ offered) →
        npnHandshake L offered = .negotiated
          (if L.NGHTTP2_PROTO_VERSION_ID ∈ offered then L.NGHTTP2_PROTO_VERSION_ID
           else "http/1.1") ∧
        tlsSessionStart cfg L requests offered = some (sessionStart cfg L requests)) ∧
      (L.NGHTTP2_PROTO_VERSION_ID ∉ offered → "http/1.1" ∉ offered →
        npnHandshake L offered = .undefined) := by
  have hc : (eventcb .STATE_IDLE BEV_EVENT_CONNECTED).on_connect = true := by decide
  unfold tlsSessionStart npnHandshake client_select_next_proto_cb nghttp2_select_next_protocol
  split_ifs with h1 h2
  · simp [h1, hc]
  · exact ⟨rfl, iff_of_false (fun h => h1 (Option.some.inj h ▸ h2)) h1, rfl,
      fun _ => ⟨rfl, by simp [hc]⟩, fun _ h => absurd h2 h⟩
  · exact ⟨rfl, iff_of_false nofun h1, rfl, fun h => absurd h (by simp [h1, h2]),
      fun _ _ => rfl⟩

/-- A server offering only `http/1.1`: the handshake completes on it, and `on_connect`
submits the request there. -/
theorem http11_server_reaches_on_connect :
    client_select_next_proto_cb passLib ["http/1.1"] =
        (some "http/1.1", ["Server did not advertise HTTP/2.0 protocol."], SSL_TLSEXT_ERR_OK) ∧
      npnHandshake passLib ["http/1.1"] = .negotiated "http/1.1" ∧
      (eventcb .STATE_IDLE BEV_EVENT_CONNECTED).on_connect = true ∧
      (tlsSessionStart {} passLib [("https://h/a", false, 0)] ["http/1.1"]).map
        (fun w => w.session.submitted.length) = some 1 := by
  decide

end nghttp2
