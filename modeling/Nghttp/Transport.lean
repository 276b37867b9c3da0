-- The life of a session's connection: `eventcb`, `readcb` and `writecb` run the pumps
-- `on_connect`, `on_read` and `on_write` against the engine, and `disconnect` frees.
import Nghttp.Connect

namespace nghttp2

/-! ## What the client holds -/

/-- What `HttpClient` holds that the pumps and `disconnect` touch; `session` is false also
after `nghttp2_session_client_new` failed. -/
structure Transport where
  state : client_state
  session : Bool
  bev : Bool
  ssl : Bool
  dnsbase : Bool
deriving DecidableEq, Repr

/-- The client once `initiate_connection` has succeeded: idle, with a bufferevent, and an
`SSL` object unless `--no-tls`. -/
def Transport.start (cfg : Config) : Transport :=
  ⟨.STATE_IDLE, false, true, !cfg.no_tls, true⟩

/-- `disconnect` on what the client holds: it goes back to idle and frees everything; what it
does to the socket is `disconnectEvents`. -/
def Transport.disconnect (_ : Transport) : Transport :=
  ⟨.STATE_IDLE, false, false, false, false⟩

/-! ## The pumps -/

/-- What the engine answers one pump: `nghttp2_session_client_new`, `submit_settings`,
`session_recv`, `session_send`, `want_read` and `want_write`. -/
structure Answers where
  client_new : Int
  submit_settings : Int
  recv : Int
  send : Int
  want_read : Bool
  want_write : Bool
deriving DecidableEq, Repr

/-- The end of `on_read` and `on_write`: a result of 0 becomes -1 when the engine wants
neither to read nor to write. -/
def quiescentCheck (a : Answers) (rv : Int) : Int :=
  if rv = 0 ∧ a.want_read = false ∧ a.want_write = false then -1 else rv

/-- `on_write`: `nghttp2_session_send`, then the check for quiescence; `none` without a
session, which the engine would dereference. -/
def on_write (t : Transport) (a : Answers) : Option (Transport × Int) :=
  if t.session then some (t, quiescentCheck a a.send) else none

/-- `on_read`: `nghttp2_session_recv`, and `nghttp2_session_send` when that did not fail,
then the check for quiescence; `none` when the client holds no session. -/
def on_read (t : Transport) (a : Answers) : Option (Transport × Int) :=
  if t.session then some (t, quiescentCheck a (if a.recv < 0 then a.recv else a.send))
  else none

/-- `on_connect`: a new session, the connection header, the settings, the requests, then
`on_write`. It returns -1 when the session or the settings could not be made. -/
def on_connect (t : Transport) (a : Answers) : Option (Transport × Int) :=
  if a.client_new ≠ 0 then some ({ t with session := false }, -1)
  else
    let t := { t with session := true }
    if a.submit_settings ≠ 0 then some (t, -1) else on_write t a

/-! ## The settings -/

inductive settings_id
  | NGHTTP2_SETTINGS_INITIAL_WINDOW_SIZE
deriving DecidableEq, Repr

structure nghttp2_settings_entry where
  settings_id : settings_id
  value : Nat
deriving DecidableEq, Repr

/-- `NGHTTP2_MAX_WINDOW_SIZE` of `nghttp2.h`, the largest flow-control window. -/
def NGHTTP2_MAX_WINDOW_SIZE : Nat := 2 ^ 31 - 1

/-- The settings of `on_connect`: a window of `1 << window_bits` unless `window_bits` is -1;
`none` where that shift of an `int` is undefined. -/
def onConnectSettings (cfg : Config) : Option (List nghttp2_settings_entry) :=
  if cfg.window_bits != -1 then
    if 0 ≤ cfg.window_bits ∧ cfg.window_bits ≤ 30 then
      some [⟨.NGHTTP2_SETTINGS_INITIAL_WINDOW_SIZE, 2 ^ cfg.window_bits.toNat⟩]
    else none
  else some []

/-! ## The handlers -/

/-- `readcb`: `on_read`, and `disconnect` when it returns anything but 0. -/
def readcb (t : Transport) (a : Answers) : Option Transport :=
  (on_read t a).map fun (t, rv) => if rv ≠ 0 then t.disconnect else t

/-- `writecb`: nothing while the output buffer holds bytes; then `on_write`, and `disconnect`
when it returns anything but 0. -/
def writecb (t : Transport) (output : Nat) (a : Answers) : Option Transport :=
  if output > 0 then some t
  else (on_write t a).map fun (t, rv) => if rv ≠ 0 then t.disconnect else t

/-- `eventcb` with its calls: on `BEV_EVENT_CONNECTED` `on_connect`, whose result it ignores;
on EOF, an error or a timeout `disconnect`. -/
def eventcbRun (t : Transport) (events : UInt16) (a : Answers) : Option Transport :=
  let o := eventcb t.state events
  let t := { t with state := o.state }
  if o.on_connect then (on_connect t a).map Prod.fst
  else if o.disconnect then some t.disconnect
  else some t

/-! ## The event loop -/

/-- A handler the event loop runs on a live bufferevent, `readcb` and `writecb` only once
connected, and what it leaves: `none` when it handed the engine no session. -/
inductive LoopStep : Transport → Option Transport → Prop
  | event {t : Transport} (events : UInt16) (a : Answers) :
      t.bev = true → LoopStep t (eventcbRun t events a)
  | readable {t : Transport} (a : Answers) :
      t.bev = true → t.state = .STATE_CONNECTED → LoopStep t (readcb t a)
  | writable {t : Transport} (output : Nat) (a : Answers) :
      t.bev = true → t.state = .STATE_CONNECTED → LoopStep t (writecb t output a)

/-- The clients that `event_base_loop` reaches from `start`. -/
def LoopReachable (cfg : Config) (t : Transport) : Prop :=
  Relation.ReflTransGen (fun t t' => LoopStep t (some t')) (Transport.start cfg) t

/-! ## The pumps' failures -/

section pumps

variable {t t' : Transport} {a : Answers} {rv : Int}

theorem on_read_session (h : on_read t a = some (t', rv)) : t' = t := by
  unfold on_read at h
  split at h
  · exact (Prod.mk.inj (Option.some.inj h)).1.symm
  · cases h

theorem on_write_session (h : on_write t a = some (t', rv)) : t' = t := by
  unfold on_write at h
  split at h
  · exact (Prod.mk.inj (Option.some.inj h)).1.symm
  · cases h

end pumps

/-- Whatever `on_connect` returns, `eventcb` leaves the client connected; after a failed
`nghttp2_session_client_new` the next `readcb` hands the engine no session. -/
theorem on_connect_failure_keeps_client_connected (t t' : Transport) (a : Answers) (rv : Int)
    (hb : t.bev = true) (h : on_connect { t with state := .STATE_CONNECTED } a = some (t', rv))
    (hrv : rv ≠ 0) :
    eventcbRun t BEV_EVENT_CONNECTED a = some t' ∧ t'.state = .STATE_CONNECTED ∧
      t'.bev = true ∧ LoopStep t (some t') ∧
      (a.client_new ≠ 0 → ∀ a', LoopStep t' (readcb t' a') ∧ readcb t' a' = none) := by
  have he : eventcbRun t BEV_EVENT_CONNECTED a = some t' := by
    have hc : (eventcb t.state BEV_EVENT_CONNECTED).on_connect = true := by
      cases t.state <;> decide
    have hs : (eventcb t.state BEV_EVENT_CONNECTED).state = .STATE_CONNECTED := by
      cases t.state <;> decide
    simp only [eventcbRun, hc, hs, if_true, h, Option.map_some']
  have hk : t'.state = .STATE_CONNECTED ∧ t'.bev = true := by
    unfold on_connect at h
    split_ifs at h
    · cases h; exact ⟨rfl, hb⟩
    · cases h; exact ⟨rfl, hb⟩
    · rw [on_write_session h]; exact ⟨rfl, hb⟩
  refine ⟨he, hk.1, hk.2, he ▸ .event _ a hb, fun hn a' => ?_⟩
  have hs : t'.session = false := by
    simp only [on_connect, hn, ne_eq, not_false_eq_true, if_true, Option.some.injEq,
      Prod.mk.injEq] at h
    rw [← h.1]
  exact ⟨.readable a' hk.2 hk.1, by simp [readcb, on_read, hs]⟩

def noSessionAnswers : Answers := ⟨-901, 0, 0, 0, true, true⟩

theorem on_connect_failure_at_start :
    (Transport.start {}).bev = true ∧
      on_connect { Transport.start {} with state := .STATE_CONNECTED } noSessionAnswers =
        some (⟨.STATE_CONNECTED, false, true, true, true⟩, -1) ∧ (-1 : Int) ≠ 0 ∧
      LoopReachable {} ⟨.STATE_CONNECTED, false, true, true, true⟩ ∧
      LoopStep ⟨.STATE_CONNECTED, false, true, true, true⟩ none := by
  have h := on_connect_failure_keeps_client_connected (Transport.start {})
    ⟨.STATE_CONNECTED, false, true, true, true⟩ noSessionAnswers (-1) rfl (by decide) (by decide)
  have hr := h.2.2.2.2 (by decide) noSessionAnswers
  exact ⟨rfl, by decide, by decide, .single h.2.2.2.1, hr.2 ▸ hr.1⟩

end nghttp2
