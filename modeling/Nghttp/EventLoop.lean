-- The client's connection as `event_base_loop` drives it: a refinement of the handlers and
-- of the bufferevent, no disconnect that flushes, and the connection header first.
import Nghttp.Bufferevent

namespace nghttp2

/-! ## `eventcb` on the bufferevent -/

/-- What `on_connect` does to the bufferevent: without a session nothing; else the header's
write, then the events `es`, calls of the engine only once the settings are submitted. -/
def onConnectEvents (ssl : Bool) (a : Answers) (add_ok : Bool) (es : List PipeEvent) :
    Option (List PipeEvent) :=
  if a.client_new ≠ 0 then if es = [] then some [] else none
  else if es.all (PipeEvent.inHandler ssl) = true ∧
      (a.submit_settings ≠ 0 → es.all (fun e => !e.callback) = true) then
    some (.connect add_ok :: es)
  else none

/-- `eventcb` on the bufferevent: on `BEV_EVENT_CONNECTED` what `on_connect` does, on EOF, an
error or a timeout what `disconnect` does. -/
def eventcbPipe (cfg : Config) (t : Transport) (events : UInt16) (a : Answers) (add_ok : Bool)
    (es : List PipeEvent) (p : Pipe) : Option (Transport × Pipe) :=
  (eventcbRun t events a).bind fun t' =>
    if (eventcb t.state events).on_connect then
      (onConnectEvents t.ssl a add_ok es).bind fun es => (p.run cfg es).map fun p => (t', p)
    else if (eventcb t.state events).disconnect then
      (p.run cfg (disconnectEvents t)).map fun p => (t', p)
    else some (t', p)

/-! ## The event loop with the bufferevent -/

structure Conn where
  client : Transport
  pipe : Pipe
deriving DecidableEq, Repr

def Conn.start (cfg : Config) : Conn := ⟨Transport.start cfg, Pipe.start⟩

/-- What `event_base_loop` does: move bytes between the socket and the bufferevent, or call a
handler with the engine's answers and the handler's events on the bufferevent. -/
inductive LoopEvent
  | socket_write (n : Nat)
  | socket_read (bytes : List UInt8)
  | event (events : UInt16) (a : Answers) (add_ok : Bool) (es : List PipeEvent)
  | readable (a : Answers) (es : List PipeEvent)
  | writable (a : Answers) (es : List PipeEvent)
deriving DecidableEq, Repr

/-- One turn of the event loop: a handler runs only while the client holds its bufferevent,
`readcb` and `writecb` only once connected; `none` for what cannot happen. -/
def Conn.step (cfg : Config) (c : Conn) : LoopEvent → Option Conn
  | .socket_write n => (c.pipe.step cfg (.write n)).map fun p => { c with pipe := p }
  | .socket_read bytes => (c.pipe.step cfg (.read bytes)).map fun p => { c with pipe := p }
  | .event events a add_ok es =>
    if c.client.bev then
      (eventcbPipe cfg c.client events a add_ok es c.pipe).map fun r => ⟨r.1, r.2⟩
    else none
  | .readable a es =>
    if c.client.bev ∧ c.client.state = .STATE_CONNECTED then
      (readcbPipe cfg c.client a es c.pipe).map fun r => ⟨r.1, r.2⟩
    else none
  | .writable a es =>
    if c.client.bev ∧ c.client.state = .STATE_CONNECTED then
      (writecbPipe cfg c.client a es c.pipe).map fun r => ⟨r.1, r.2⟩
    else none

def ConnReachable (cfg : Config) (c : Conn) : Prop :=
  Relation.ReflTransGen (fun c c' => ∃ e, c.step cfg e = some c') (Conn.start cfg) c

def Conn.run (cfg : Config) (c : Conn) : List LoopEvent → Option Conn
  | [] => some c
  | e :: es => (c.step cfg e).bind fun c => Conn.run cfg c es

theorem ConnReachable.run {cfg : Config} {c c' : Conn} {es : List LoopEvent}
    (hr : ConnReachable cfg c) (h : Conn.run cfg c es = some c') : ConnReachable cfg c' := by
  induction es generalizing c with
  | nil => cases h; exact hr
  | cons e es ih =>
    obtain ⟨q, hq, h⟩ := Option.bind_eq_some.1 h
    exact ih (hr.tail ⟨e, hq⟩) h

/-! ## What the handlers leave -/

section handlers

variable {cfg : Config} {t t' : Transport} {a : Answers} {p p' : Pipe}

theorem on_connect_client (t : Transport) (a : Answers) :
    (on_connect t a).map Prod.fst = some { t with session := decide (a.client_new = 0) } := by
  unfold on_connect on_write
  split_ifs <;> simp_all

theorem readcb_cases (h : readcb t a = some t') : t' = t ∨ t' = t.disconnect := by
  obtain ⟨⟨t0, rv⟩, hr, rfl⟩ := Option.map_eq_some'.1 h
  rw [on_read_session hr]
  dsimp only
  split_ifs
  exacts [.inr rfl, .inl rfl]

theorem writecb_cases {output : Nat} (h : writecb t output a = some t') :
    t' = t ∨ t' = t.disconnect := by
  unfold writecb at h
  split_ifs at h
  · exact .inl (Option.some.inj h).symm
  obtain ⟨⟨t0, rv⟩, hr, rfl⟩ := Option.map_eq_some'.1 h
  rw [on_write_session hr]
  dsimp only
  split_ifs
  exacts [.inr rfl, .inl rfl]

theorem eventcbRun_cases {events : UInt16} (h : eventcbRun t events a = some t') :
    (t'.bev = t.bev ∧ t'.ssl = t.ssl) ∨ t' = t.disconnect := by
  simp only [eventcbRun] at h
  split_ifs at h
  · rw [on_connect_client, Option.some.injEq] at h
    exact .inl (by rw [← h]; exact ⟨rfl, rfl⟩)
  · exact .inr (Option.some.inj h).symm
  · exact .inl (by rw [← Option.some.inj h]; exact ⟨rfl, rfl⟩)

theorem LoopStep.keeps {o : Option Transport} (hs : LoopStep t o) (ho : o = some t') :
    (t'.bev = t.bev ∧ t'.ssl = t.ssl) ∨ t' = t.disconnect := by
  have keep : t' = t ∨ t' = t.disconnect → (t'.bev = t.bev ∧ t'.ssl = t.ssl) ∨ t' = t.disconnect :=
    Or.imp (fun h => by rw [h]; exact ⟨rfl, rfl⟩) id
  cases hs with
  | event => exact eventcbRun_cases ho
  | readable => exact keep (readcb_cases ho)
  | writable => exact keep (writecb_cases ho)

/-- While the client holds its bufferevent, it holds an `SSL` object exactly without
`--no-tls`. -/
theorem LoopReachable.ssl (h : LoopReachable cfg t) (hb : t.bev = true) : t.ssl = !cfg.no_tls := by
  induction h with
  | refl => rfl
  | tail _ hs ih =>
    rcases LoopStep.keeps hs rfl with ⟨hb2, hs2⟩ | rfl
    · rw [hs2]; exact ih (hb2 ▸ hb)
    · simp [Transport.disconnect] at hb

theorem onConnectEvents_mem {ssl add_ok : Bool} {es es' : List PipeEvent}
    (h : onConnectEvents ssl a add_ok es = some es') :
    (a.client_new = 0 → .connect add_ok ∈ es') ∧ ∀ e ∈ es', e ≠ .free ∧ e ≠ .shutdown := by
  unfold onConnectEvents at h
  split_ifs at h with hn hes hok <;> cases h
  · exact ⟨fun h0 => absurd h0 hn, nofun⟩
  · refine ⟨fun _ => List.mem_cons_self _ _, fun e he => ?_⟩
    rcases List.mem_cons.1 he with rfl | he
    · exact ⟨nofun, nofun⟩
    · exact PipeEvent.inHandler_ne (List.all_eq_true.1 hok.1 e he)

theorem eventcbPipe_cases {events : UInt16} {add_ok : Bool} {es : List PipeEvent}
    (h : eventcbPipe cfg t events a add_ok es p = some (t', p')) :
    eventcbRun t events a = some t' ∧
      ((t'.bev = t.bev ∧ t'.session = decide (a.client_new = 0) ∧
          ∃ es', onConnectEvents t.ssl a add_ok es = some es' ∧ p.run cfg es' = some p') ∨
        (t' = t.disconnect ∧ p.run cfg (disconnectEvents t) = some p') ∨
        (t'.bev = t.bev ∧ t'.session = t.session ∧ p' = p)) := by
  obtain ⟨t0, ht0, h⟩ := Option.bind_eq_some.1 h
  have hrun := ht0
  simp only [eventcbRun] at ht0
  split_ifs at h ht0
  · obtain ⟨es', hes, h⟩ := Option.bind_eq_some.1 h
    obtain ⟨q, hq, ⟨⟩⟩ := Option.map_eq_some'.1 h
    rw [on_connect_client, Option.some.injEq] at ht0
    subst ht0
    exact ⟨hrun, .inl ⟨rfl, rfl, es', hes, hq⟩⟩
  · obtain ⟨q, hq, ⟨⟩⟩ := Option.map_eq_some'.1 h
    cases ht0
    exact ⟨hrun, .inr (.inl ⟨rfl, hq⟩)⟩
  · cases h
    cases ht0
    exact ⟨hrun, .inr (.inr ⟨rfl, rfl, rfl⟩)⟩

end handlers

/-! ## What every run keeps -/

/-- What every state of the event loop keeps: each part is one it reaches alone, the client
holds the bufferevent while it lives, and only the `disconnect` that frees it shuts TLS down. -/
structure ConnOk (cfg : Config) (c : Conn) : Prop where
  loop : LoopReachable cfg c.client
  pipe : PipeReachable cfg c.pipe
  live : c.client.bev = !c.pipe.freed
  engine : c.client.session = true → c.client.bev = true ∧ c.pipe.session = true
  notify : c.pipe.close_notify = true → c.pipe.freed = true

section run

variable {cfg : Config} {c c' : Conn}

theorem ConnOk.socket {e : PipeEvent} {p' : Pipe} (h : ConnOk cfg c)
    (hs : c.pipe.step cfg e = some p') (he : e ≠ .free) (he' : e ≠ .shutdown) :
    ConnOk cfg { c with pipe := p' } := by
  have hf : p'.freed = c.pipe.freed := by rw [Pipe.step_freed hs he, Pipe.step_live hs]
  refine ⟨h.loop, h.pipe.tail ⟨e, hs⟩, hf ▸ h.live, fun hsess => ?_, fun hn => ?_⟩
  · obtain ⟨hb, hp⟩ := h.engine hsess
    exact ⟨hb, (Pipe.step_session hs).2 (.inl hp)⟩
  · rw [Pipe.step_notify hs he'] at hn
    exact hf ▸ h.notify hn

theorem ConnOk.event {events : UInt16} {a : Answers} {add_ok : Bool} {es : List PipeEvent}
    {t' : Transport} {p' : Pipe} (h : ConnOk cfg c) (hb : c.client.bev = true)
    (hs : eventcbPipe cfg c.client events a add_ok es c.pipe = some (t', p')) :
    ConnOk cfg ⟨t', p'⟩ := by
  obtain ⟨ht, hcase⟩ := eventcbPipe_cases hs
  have hloop : LoopReachable cfg t' := h.loop.tail (ht ▸ .event events a hb)
  have hf : c.pipe.freed = false := by simpa [hb] using h.live.symm
  rcases hcase with ⟨hb', hsess, es', hes, hrun⟩ | ⟨rfl, hdisc⟩ | ⟨hb', hsess, rfl⟩
  · obtain ⟨hconn, hne⟩ := onConnectEvents_mem hes
    have hpf := Pipe.run_freed hrun (fun hm => (hne _ hm).1 rfl) hf
    refine ⟨hloop, h.pipe.run hrun, by simp [hb', hb, hpf], fun hs' => ?_, fun hn => ?_⟩
    · have hnew : a.client_new = 0 := by simpa [hsess] using hs'
      exact ⟨hb' ▸ hb, (Pipe.run_session hrun).2 (.inr ⟨add_ok, hconn hnew⟩)⟩
    · rw [Pipe.run_notify hrun (fun hm => (hne _ hm).2 rfl)] at hn
      simp [h.notify hn] at hf
  · have hr := h.pipe.run hdisc
    rw [Pipe.run_disconnect hdisc] at hr ⊢
    exact ⟨hloop, hr, rfl, nofun, fun _ => rfl⟩
  · exact ⟨hloop, h.pipe, hb' ▸ h.live, fun hs' => hb' ▸ h.engine (hsess ▸ hs'), h.notify⟩

theorem ConnOk.handler {o : Option Transport} {es : List PipeEvent} {t' : Transport} {p' : Pipe}
    (h : ConnOk cfg c) (hb : c.client.bev = true) (hstep : LoopStep c.client o)
    (hcases : o = some t' → t' = c.client ∨ t' = c.client.disconnect)
    (hs : handlerPipe cfg c.client o es c.pipe = some (t', p')) : ConnOk cfg ⟨t', p'⟩ := by
  obtain ⟨rfl, hes, q, hq, hcase⟩ := handlerPipe_cases hs
  have hloop : LoopReachable cfg t' := h.loop.tail hstep
  have hm := Pipe.HandlerMove.run hes hq
  rcases hcase with ⟨hb', rfl⟩ | ⟨hb', hdisc⟩
  · rcases hcases rfl with rfl | rfl
    · refine ⟨hloop, h.pipe.run hq, hm.freed ▸ h.live, fun hs' => ⟨hb, ?_⟩, fun hn => ?_⟩
      · exact (Pipe.run_session hq).2 (.inl (h.engine hs').2)
      · exact hm.freed ▸ h.notify (hm.notify ▸ hn)
    · simp [Transport.disconnect] at hb'
  · have hsess : t'.session = false := by
      rcases hcases rfl with rfl | rfl
      · simp [hb] at hb'
      · rfl
    have hr := (h.pipe.run hq).run hdisc
    rw [Pipe.run_disconnect hdisc] at hr ⊢
    exact ⟨hloop, hr, by simp [hb'], by simp [hsess], fun _ => rfl⟩

theorem ConnOk.step {e : LoopEvent} (h : ConnOk cfg c) (hs : c.step cfg e = some c') :
    ConnOk cfg c' := by
  cases e with
  | socket_write | socket_read =>
    obtain ⟨p', hp, rfl⟩ := Option.map_eq_some'.1 hs
    exact h.socket hp nofun nofun
  | event =>
    simp only [Conn.step] at hs
    split_ifs at hs with hb
    obtain ⟨r, hr, rfl⟩ := Option.map_eq_some'.1 hs
    exact h.event hb hr
  | readable a =>
    simp only [Conn.step] at hs
    split_ifs at hs with hg
    obtain ⟨r, hr, rfl⟩ := Option.map_eq_some'.1 hs
    exact h.handler hg.1 (.readable a hg.1 hg.2) readcb_cases hr
  | writable a =>
    simp only [Conn.step] at hs
    split_ifs at hs with hg
    obtain ⟨r, hr, rfl⟩ := Option.map_eq_some'.1 hs
    exact h.handler hg.1 (.writable _ a hg.1 hg.2) writecb_cases hr

theorem ConnReachable.connOk (hr : ConnReachable cfg c) : ConnOk cfg c := by
  induction hr with
  | refl => exact ⟨.refl, .refl, rfl, nofun, nofun⟩
  | tail _ hs ih =>
    obtain ⟨e, he⟩ := hs
    exact ih.step he

theorem ConnOk.final (h : ConnOk cfg c) (hb : c.client.bev = false) (e : LoopEvent) :
    c.step cfg e = none := by
  have hf : c.pipe.freed = true := by simpa [hb] using h.live.symm
  cases e <;> simp [Conn.step, Pipe.step, hf, hb]

end run

/-- The event loop with the bufferevent refines both parts: its client is one the handlers
reach alone, its bufferevent one its own events reach; a disconnected client is final. -/
theorem event_loop_refines_components (cfg : Config) (c : Conn) (hr : ConnReachable cfg c) :
    LoopReachable cfg c.client ∧ PipeReachable cfg c.pipe ∧ c.client.bev = !c.pipe.freed ∧
      (c.client.session = true → c.pipe.freed = false ∧ c.pipe.session = true) ∧
      (c.client.bev = false → ∀ e, c.step cfg e = none) := by
  have h := hr.connOk
  refine ⟨h.loop, h.pipe, h.live, fun hs => ?_, h.final⟩
  obtain ⟨hb, hp⟩ := h.engine hs
  exact ⟨by simpa [hb] using h.live.symm, hp⟩

def emptySettings : List UInt8 := [0, 0, 0, 4, 0, 0, 0, 0, 0]

def okAnswers : Answers := ⟨0, 0, 0, 0, true, false⟩

def doneAnswers : Answers := ⟨0, 0, 0, 0, false, false⟩

/-- A TLS connection from start to end: on connect the header and `SETTINGS` go out at once,
the server's `SETTINGS` is read, and `readcb` disconnects. -/
def connectRun : List LoopEvent :=
  [.event BEV_EVENT_CONNECTED okAnswers true [.send emptySettings true, .write 33],
    .socket_read emptySettings, .readable doneAnswers [.recv 9 true]]

theorem event_loop_refines_components_connect_run :
    ∃ c, Conn.run {} (Conn.start {}) connectRun = some c ∧ c.client.bev = false ∧
      c.pipe.close_notify = true ∧
      (LoopReachable {} c.client ∧ PipeReachable {} c.pipe ∧ c.client.bev = !c.pipe.freed ∧
        (c.client.session = true → c.pipe.freed = false ∧ c.pipe.session = true) ∧
        (c.client.bev = false → ∀ e, c.step {} e = none)) := by
  refine ⟨_, rfl, rfl, rfl, ?_⟩
  exact event_loop_refines_components {} _ (@ConnReachable.run {} _ _ connectRun .refl rfl)

/-! ## Disconnecting -/

theorem Conn.step_disconnect {cfg : Config} {c c' : Conn} {e : LoopEvent}
    (hs : c.step cfg e = some c') (hb : c.client.bev = true) (hb' : c'.client.bev = false) :
    ∃ q, c.pipe.HandlerMove c.client.ssl q ∧
      q.run cfg (disconnectEvents c.client) = some c'.pipe := by
  cases e with
  | socket_write | socket_read =>
    obtain ⟨p', -, rfl⟩ := Option.map_eq_some'.1 hs
    simp [hb] at hb'
  | event =>
    simp only [Conn.step, hb, if_true] at hs
    obtain ⟨r, hr, rfl⟩ := Option.map_eq_some'.1 hs
    obtain ⟨-, ⟨hbr, -⟩ | ⟨-, hdisc⟩ | ⟨hbr, -⟩⟩ := eventcbPipe_cases hr
    · simp [hbr, hb] at hb'
    · exact ⟨_, .refl _ _, hdisc⟩
    · simp [hbr, hb] at hb'
  | readable | writable =>
    simp only [Conn.step] at hs
    split_ifs at hs
    obtain ⟨r, hr, rfl⟩ := Option.map_eq_some'.1 hs
    obtain ⟨-, hes, q, hq, ⟨hbr, -⟩ | ⟨-, hdisc⟩⟩ := handlerPipe_cases hr
    · simp [hbr] at hb'
    · exact ⟨q, .run hes hq, hdisc⟩

/-- No disconnect flushes the output buffer: its turn frees the bufferevent with what it
still holds, writing nothing without TLS, and sends `close_notify` on a connected TLS session. -/
theorem disconnect_never_flushes (cfg : Config) (c c' : Conn) (e : LoopEvent)
    (hr : ConnReachable cfg c) (hs : c.step cfg e = some c') (hb : c.client.bev = true)
    (hb' : c'.client.bev = false) :
    c'.pipe.freed = true ∧ c.pipe.wire <+: c'.pipe.wire ∧
      (cfg.no_tls = true → c'.pipe.wire = c.pipe.wire) ∧
      c'.pipe.sent.flatten = c'.pipe.wire ++ c'.pipe.buffers.output ∧
      c.pipe.sent <+: c'.pipe.sent ∧
      (c'.pipe.close_notify = true ↔ cfg.no_tls = false ∧ c.client.state = .STATE_CONNECTED) ∧
      ∀ e', c'.step cfg e' = none := by
  have h := hr.connOk
  have h' : ConnOk cfg c' := ConnReachable.connOk (.tail hr ⟨e, hs⟩)
  have hssl := h.loop.ssl hb
  have hf : c.pipe.freed = false := by simpa [hb] using h.live.symm
  have hn : c.pipe.close_notify = false := by
    cases hc : c.pipe.close_notify
    · rfl
    · simp [h.notify hc] at hf
  obtain ⟨q, hm, hdisc⟩ := Conn.step_disconnect hs hb hb'
  have hq := Pipe.run_disconnect hdisc
  refine ⟨by simpa [hb'] using h'.live.symm, hq ▸ hm.wire, fun hno => hq ▸ hm.plain (by
    simp [hssl, hno]), h'.pipe.pipeOk.sent_in_order.symm, hq ▸ hm.sent, ?_, h'.final hb'⟩
  rw [hq, hm.notify, hn, hssl]
  cases cfg.no_tls <;> simp

/-- With `--no-tls`, the engine's last block after the server's `SETTINGS` is accepted by
`sendcb` and dropped by the `disconnect` of `readcb`: it never reaches the socket. -/
theorem disconnect_never_flushes_last_block :
    ∃ c c', Conn.run { no_tls := true } (Conn.start { no_tls := true })
        [.event BEV_EVENT_CONNECTED okAnswers true [.send emptySettings true], .socket_write 33,
          .socket_read emptySettings] = some c ∧
      c.step { no_tls := true } (.readable doneAnswers [.recv 9 true, .send [7] true]) = some c' ∧
      c.client.bev = true ∧ c'.client.bev = false ∧ c'.pipe.buffers.output = [7] ∧
      (c'.pipe.freed = true ∧ c.pipe.wire <+: c'.pipe.wire ∧
        (({ no_tls := true } : Config).no_tls = true → c'.pipe.wire = c.pipe.wire) ∧
        c'.pipe.sent.flatten = c'.pipe.wire ++ c'.pipe.buffers.output ∧
        c.pipe.sent <+: c'.pipe.sent ∧
        (c'.pipe.close_notify = true ↔
          ({ no_tls := true } : Config).no_tls = false ∧ c.client.state = .STATE_CONNECTED) ∧
        ∀ e', c'.step { no_tls := true } e' = none) := by
  obtain ⟨c, hc⟩ : ∃ c, Conn.run { no_tls := true } (Conn.start { no_tls := true })
      [.event BEV_EVENT_CONNECTED okAnswers true [.send emptySettings true], .socket_write 33,
        .socket_read emptySettings] = some c := ⟨_, rfl⟩
  obtain ⟨c', hc'⟩ : ∃ c', c.step { no_tls := true }
      (.readable doneAnswers [.recv 9 true, .send [7] true]) = some c' := by
    cases hc
    exact ⟨_, rfl⟩
  have hb : c.client.bev = true := by cases hc; rfl
  have hb' : c'.client.bev = false := by cases hc; cases hc'; rfl
  refine ⟨c, c', hc, hc', hb, hb', by cases hc; cases hc'; rfl, ?_⟩
  exact disconnect_never_flushes _ c c' _ (ConnReachable.run .refl hc) hc' hb hb'

/-! ## The connection header -/

theorem Pipe.run_through_connect {cfg : Config} {es es' : List PipeEvent} {add_ok : Bool}
    {p : Pipe} (h : Pipe.run cfg Pipe.start (es ++ .connect add_ok :: es') = some p) :
    ∃ q, PipeReachable cfg q ∧ q.session = true ∧
      q.sent = (if add_ok then [NGHTTP2_CLIENT_CONNECTION_HEADER] else []) ∧
      q.run cfg es' = some p := by
  rw [Pipe.run_append] at h
  obtain ⟨q, hq, h⟩ := Option.bind_eq_some.1 h
  obtain ⟨q1, hq1, h⟩ := Option.bind_eq_some.1 h
  have hr : PipeReachable cfg q := PipeReachable.run .refl hq
  have hn : q.session = false := by
    by_contra hs
    simp [Pipe.step, Pipe.deliver, Pipe.step_live hq1, hs] at hq1
  refine ⟨q1, hr.tail ⟨_, hq1⟩, (Pipe.step_session hq1).2 (.inr ⟨add_ok, rfl⟩), ?_, h⟩
  cases add_ok <;>
    simp only [Pipe.step, Pipe.step_live hq1, Pipe.deliver, hn, Bool.false_eq_true, if_false,
      if_true, Option.some.injEq] at hq1 <;>
    simp [← hq1, hr.sent_of_no_session hn]

/-- When the write of the connection header succeeds, the blocks queued for the socket are
the header and then blocks the engine handed `sendcb` afterwards: no frame goes before it. -/
theorem connection_header_first (cfg : Config) (es es' : List PipeEvent) (p : Pipe)
    (h : Pipe.run cfg Pipe.start (es ++ .connect true :: es') = some p) :
    ∃ bs, p.sent = NGHTTP2_CLIENT_CONNECTION_HEADER :: bs ∧
      bs.Sublist (es'.filterMap PipeEvent.sentBlock) ∧
      (p.wire <+: NGHTTP2_CLIENT_CONNECTION_HEADER ∨ NGHTTP2_CLIENT_CONNECTION_HEADER <+: p.wire) := by
  obtain ⟨q, hr, hs, hsent, h⟩ := Pipe.run_through_connect h
  obtain ⟨bs, hbs, hsub⟩ := Pipe.run_sent hs h
  rw [hsent, if_pos rfl, List.singleton_append] at hbs
  refine ⟨bs, hbs, hsub, List.prefix_or_prefix_of_prefix ⟨_, (hr.run h).pipeOk.sent_in_order⟩ ?_⟩
  exact ⟨bs.flatten, by rw [hbs, List.flatten_cons]⟩

theorem connection_header_first_back_pressure :
    ∃ p, Pipe.run { output_upper_thres := 4 } Pipe.start backPressureRun = some p ∧
      ∃ bs, p.sent = NGHTTP2_CLIENT_CONNECTION_HEADER :: bs ∧
        bs.Sublist ((backPressureRun.drop 1).filterMap PipeEvent.sentBlock) ∧
        (p.wire <+: NGHTTP2_CLIENT_CONNECTION_HEADER ∨
          NGHTTP2_CLIENT_CONNECTION_HEADER <+: p.wire) := by
  obtain ⟨p, hp⟩ : ∃ p, Pipe.run { output_upper_thres := 4 } Pipe.start backPressureRun =
      some p := ⟨_, rfl⟩
  exact ⟨p, hp, connection_header_first _ [] (backPressureRun.drop 1) p hp⟩

/-- `on_connect` ignores a failed write of the connection header: the session goes on, and
only the engine's later blocks are queued, with no header before them. -/
theorem connection_header_write_unchecked (cfg : Config) (es es' : List PipeEvent) (p : Pipe)
    (h : Pipe.run cfg Pipe.start (es ++ .connect false :: es') = some p) :
    p.session = true ∧ p.sent.Sublist (es'.filterMap PipeEvent.sentBlock) := by
  obtain ⟨q, -, hs, hsent, h⟩ := Pipe.run_through_connect h
  obtain ⟨bs, hbs, hsub⟩ := Pipe.run_sent hs h
  refine ⟨(Pipe.run_session h).2 (.inl hs), ?_⟩
  rwa [hbs, hsent, if_neg Bool.false_ne_true, List.nil_append]

/-- The header's write fails and the engine's empty `SETTINGS` frame is the first thing the
socket gets. -/
theorem connection_header_write_unchecked_settings :
    ∃ p, Pipe.run {} Pipe.start
        ([] ++ PipeEvent.connect false :: [PipeEvent.send emptySettings true, PipeEvent.write 9]) =
        some p ∧ p.wire = emptySettings ∧
      (p.session = true ∧ p.sent.Sublist
        ([PipeEvent.send emptySettings true, PipeEvent.write 9].filterMap
          PipeEvent.sentBlock)) :=
  ⟨_, rfl, rfl, connection_header_write_unchecked {} [] _ _ rfl⟩

end nghttp2
