-- The bufferevent between the framing engine and the socket, its events in any order: no
-- byte is lost, doubled or reordered while it lives, and a handler that disconnects frees
-- it with what its output buffer still holds.
import Nghttp.Transport

namespace nghttp2

/-! ## The callbacks -/

/-- The values of `NGHTTP2_ERR_WOULDBLOCK` and `NGHTTP2_ERR_CALLBACK_FAILURE` in `nghttp2.h`. -/
def NGHTTP2_ERR_WOULDBLOCK : Int := -504
def NGHTTP2_ERR_CALLBACK_FAILURE : Int := -902

/-- `NGHTTP2_CLIENT_CONNECTION_HEADER` of `nghttp2.h`, which `on_connect` writes first. -/
def NGHTTP2_CLIENT_CONNECTION_HEADER : List UInt8 :=
  "PRI * HTTP/2.0\r\n\r\nSM\r\n\r\n".toUTF8.data.toList

structure Buffers where
  input : List UInt8
  output : List UInt8
deriving DecidableEq, Repr

/-- `sendcb`: `NGHTTP2_ERR_WOULDBLOCK` while the output buffer is over `output_upper_thres`;
else `evbuffer_add` of `data`, and `len`, or `NGHTTP2_ERR_CALLBACK_FAILURE` when it fails. -/
def sendcb (cfg : Config) (b : Buffers) (data : List UInt8) (add_ok : Bool) : Buffers × Int :=
  if b.output.length > cfg.output_upper_thres then (b, NGHTTP2_ERR_WOULDBLOCK)
  else if add_ok then ({ b with output := b.output ++ data }, (data.length : Int))
  else (b, NGHTTP2_ERR_CALLBACK_FAILURE)

/-- `recvcb`: `evbuffer_remove` of at most `len` bytes, and their number; none gives
`NGHTTP2_ERR_WOULDBLOCK`, and a failure `NGHTTP2_ERR_CALLBACK_FAILURE`. -/
def recvcb (b : Buffers) (len : Nat) (remove_ok : Bool) : Buffers × List UInt8 × Int :=
  if remove_ok then
    let buf := b.input.take len
    if buf.length = 0 then (b, [], NGHTTP2_ERR_WOULDBLOCK)
    else ({ b with input := b.input.drop len }, buf, (buf.length : Int))
  else (b, [], NGHTTP2_ERR_CALLBACK_FAILURE)

section callbacks

variable (cfg : Config) (b : Buffers)

theorem sendcb_cases (data : List UInt8) (add_ok : Bool) :
    (cfg.output_upper_thres < b.output.length ∧
        sendcb cfg b data add_ok = (b, NGHTTP2_ERR_WOULDBLOCK)) ∨
      (b.output.length ≤ cfg.output_upper_thres ∧ add_ok = true ∧
        sendcb cfg b data add_ok = ({ b with output := b.output ++ data }, (data.length : Int))) ∨
      (b.output.length ≤ cfg.output_upper_thres ∧ add_ok = false ∧
        sendcb cfg b data add_ok = (b, NGHTTP2_ERR_CALLBACK_FAILURE)) := by
  unfold sendcb
  split_ifs with hover hadd
  · exact .inl ⟨hover, rfl⟩
  · exact .inr (.inl ⟨Nat.le_of_not_lt hover, hadd, rfl⟩)
  · exact .inr (.inr ⟨Nat.le_of_not_lt hover, eq_false_of_ne_true hadd, rfl⟩)

theorem recvcb_cases (len : Nat) (remove_ok : Bool) :
    (remove_ok = false ∧ recvcb b len remove_ok = (b, [], NGHTTP2_ERR_CALLBACK_FAILURE)) ∨
      (remove_ok = true ∧ (b.input = [] ∨ len = 0) ∧
        recvcb b len remove_ok = (b, [], NGHTTP2_ERR_WOULDBLOCK)) ∨
      (remove_ok = true ∧ 0 < (b.input.take len).length ∧
        recvcb b len remove_ok =
          ({ b with input := b.input.drop len }, b.input.take len,
            ((b.input.take len).length : Int))) := by
  cases remove_ok
  · exact .inl ⟨rfl, rfl⟩
  · by_cases h0 : (b.input.take len).length = 0
    · exact .inr (.inl ⟨rfl, by simpa [or_comm] using h0, by simp only [recvcb, h0]; rfl⟩)
    · exact .inr (.inr ⟨rfl, Nat.pos_of_ne_zero h0, by simp only [recvcb, h0]; rfl⟩)

end callbacks

/-! ## The bufferevent between the engine and the socket -/

/-- What can happen to the bufferevent and its socket; `add_ok` and `remove_ok` say whether
`evbuffer_add` and `evbuffer_remove` succeed. -/
inductive PipeEvent
  /-- `on_connect`'s `bufferevent_write` of the connection header. -/
  | connect (add_ok : Bool)
  /-- The engine's `sendcb` and `recvcb`. -/
  | send (data : List UInt8) (add_ok : Bool)
  | recv (len : Nat) (remove_ok : Bool)
  /-- The first `n` bytes of the output buffer go to the socket, or `bytes` come from it. -/
  | write (n : Nat)
  | read (bytes : List UInt8)
  /-- `SSL_shutdown` sends `close_notify`. -/
  | shutdown
  /-- `bufferevent_free`, which does not flush the output buffer. -/
  | free
deriving DecidableEq, Repr

/-- The bufferevent with what a run moved through it: the blocks `sent` to it, the bytes
written to and `arrived` from the socket, and those `delivered` to the engine. -/
structure Pipe where
  buffers : Buffers
  session : Bool
  freed : Bool
  sent : List (List UInt8)
  wire : List UInt8
  arrived : List UInt8
  delivered : List UInt8
  close_notify : Bool
deriving DecidableEq, Repr

def Pipe.start : Pipe := ⟨⟨[], []⟩, false, false, [], [], [], [], false⟩

/-- One event on a live bufferevent; `none` for a second `on_connect`, or a callback before
it. The engine takes the first `rv` bytes as sent or received. -/
def Pipe.deliver (cfg : Config) (p : Pipe) : PipeEvent → Option Pipe
  | .connect add_ok =>
    if p.session then none
    else if add_ok then
      some { p with
        buffers := { p.buffers with
          output := p.buffers.output ++ NGHTTP2_CLIENT_CONNECTION_HEADER }
        session := true
        sent := p.sent ++ [NGHTTP2_CLIENT_CONNECTION_HEADER] }
    else some { p with session := true }
  | .send data add_ok =>
    if p.session then
      let (b, rv) := sendcb cfg p.buffers data add_ok
      some { p with
        buffers := b
        sent := if 0 ≤ rv then p.sent ++ [data.take rv.toNat] else p.sent }
    else none
  | .recv len remove_ok =>
    if p.session then
      let (b, buf, rv) := recvcb p.buffers len remove_ok
      some { p with
        buffers := b
        delivered := if 0 < rv then p.delivered ++ buf.take rv.toNat else p.delivered }
    else none
  | .write n =>
    some { p with
      buffers := { p.buffers with output := p.buffers.output.drop n }
      wire := p.wire ++ p.buffers.output.take n }
  | .read bytes =>
    some { p with
      buffers := { p.buffers with input := p.buffers.input ++ bytes }
      arrived := p.arrived ++ bytes }
  | .shutdown => some { p with close_notify := true }
  | .free => some { p with freed := true }

def Pipe.step (cfg : Config) (p : Pipe) (e : PipeEvent) : Option Pipe :=
  if p.freed then none else p.deliver cfg e

theorem Pipe.deliver_send {cfg : Config} {p p' : Pipe} {data : List UInt8} {add_ok : Bool}
    (hs : p.deliver cfg (.send data add_ok) = some p') :
    p.session = true ∧ p' = { p with
      buffers := (sendcb cfg p.buffers data add_ok).1
      sent := if 0 ≤ (sendcb cfg p.buffers data add_ok).2 then
        p.sent ++ [data.take (sendcb cfg p.buffers data add_ok).2.toNat] else p.sent } := by
  by_cases hsess : p.session = true
  · rw [Pipe.deliver, if_pos hsess] at hs
    exact ⟨hsess, (Option.some.inj hs).symm⟩
  · simp [Pipe.deliver, hsess] at hs

theorem Pipe.deliver_recv {cfg : Config} {p p' : Pipe} {len : Nat} {remove_ok : Bool}
    (hs : p.deliver cfg (.recv len remove_ok) = some p') :
    p.session = true ∧ p' = { p with
      buffers := (recvcb p.buffers len remove_ok).1
      delivered := if 0 < (recvcb p.buffers len remove_ok).2.2 then
        p.delivered ++ (recvcb p.buffers len remove_ok).2.1.take
          (recvcb p.buffers len remove_ok).2.2.toNat
        else p.delivered } := by
  by_cases hsess : p.session = true
  · rw [Pipe.deliver, if_pos hsess] at hs
    exact ⟨hsess, (Option.some.inj hs).symm⟩
  · simp [Pipe.deliver, hsess] at hs

def PipeReachable (cfg : Config) (p : Pipe) : Prop :=
  Relation.ReflTransGen (fun p p' => ∃ e, p.step cfg e = some p') Pipe.start p

def Pipe.run (cfg : Config) (p : Pipe) : List PipeEvent → Option Pipe
  | [] => some p
  | e :: es => (p.step cfg e).bind fun p => Pipe.run cfg p es

theorem PipeReachable.run {cfg : Config} {p p' : Pipe} {es : List PipeEvent}
    (hr : PipeReachable cfg p) (h : Pipe.run cfg p es = some p') : PipeReachable cfg p' := by
  induction es generalizing p with
  | nil => cases h; exact hr
  | cons e es ih =>
    obtain ⟨q, hq, h⟩ := Option.bind_eq_some.1 h
    exact ih (hr.tail ⟨e, hq⟩) h

def longest (bs : List (List UInt8)) : Nat := bs.foldl (fun m b => max m b.length) 0

@[simp] theorem longest_append_singleton (bs : List (List UInt8)) (b : List UInt8) :
    longest (bs ++ [b]) = max (longest bs) b.length := by
  simp [longest]

/-! ## What every run keeps -/

/-- What every state of a run keeps: each direction holds its bytes in order, and the output
buffer is bounded, and empty until the session is made. -/
structure PipeOk (cfg : Config) (p : Pipe) : Prop where
  sent_in_order : p.wire ++ p.buffers.output = p.sent.flatten
  received_in_order : p.delivered ++ p.buffers.input = p.arrived
  bounded : p.buffers.output.length ≤ cfg.output_upper_thres + longest p.sent
  idle : p.session = false → p.buffers.output = []

section run

variable {cfg : Config} {p p' : Pipe}

theorem PipeOk.connect {add_ok : Bool} (h : PipeOk cfg p)
    (hs : p.deliver cfg (.connect add_ok) = some p') : PipeOk cfg p' := by
  simp only [Pipe.deliver] at hs
  split_ifs at hs with hsess hadd <;> cases hs
  · have hout := h.idle (eq_false_of_ne_true hsess)
    refine ⟨?_, h.received_in_order, ?_, nofun⟩
    · simp [hout, ← h.sent_in_order]
    · simp only [hout, List.nil_append, longest_append_singleton]
      exact le_add_left (le_max_right _ _)
  · exact ⟨h.sent_in_order, h.received_in_order, h.bounded, nofun⟩

theorem PipeOk.send {data : List UInt8} {add_ok : Bool} (h : PipeOk cfg p)
    (hs : p.deliver cfg (.send data add_ok) = some p') : PipeOk cfg p' := by
  obtain ⟨hsess, rfl⟩ := Pipe.deliver_send hs
  rcases sendcb_cases cfg p.buffers data add_ok with ⟨-, he⟩ | ⟨hle, -, he⟩ | ⟨-, -, he⟩ <;>
    simp only [he]
  · simpa [NGHTTP2_ERR_WOULDBLOCK] using h
  · refine ⟨by simp [Int.natCast_nonneg, ← h.sent_in_order], h.received_in_order, ?_,
      by simp [hsess]⟩
    have := le_max_right (longest p.sent) data.length
    simp only [Int.natCast_nonneg, if_true, Int.toNat_natCast, List.take_length,
      List.length_append, longest_append_singleton]
    omega
  · simpa [NGHTTP2_ERR_CALLBACK_FAILURE] using h

theorem PipeOk.recv {len : Nat} {remove_ok : Bool} (h : PipeOk cfg p)
    (hs : p.deliver cfg (.recv len remove_ok) = some p') : PipeOk cfg p' := by
  obtain ⟨-, rfl⟩ := Pipe.deliver_recv hs
  rcases recvcb_cases p.buffers len remove_ok with ⟨-, he⟩ | ⟨-, -, he⟩ | ⟨-, hpos, he⟩ <;>
    simp only [he]
  · simpa [NGHTTP2_ERR_CALLBACK_FAILURE] using h
  · simpa [NGHTTP2_ERR_WOULDBLOCK] using h
  · have hp : (0 : Int) < (p.buffers.input.take len).length := by exact_mod_cast hpos
    refine ⟨h.sent_in_order, ?_, h.bounded, h.idle⟩
    dsimp only
    rw [if_pos hp, Int.toNat_natCast, List.take_length, List.append_assoc, List.take_append_drop]
    exact h.received_in_order

theorem PipeOk.write {n : Nat} (h : PipeOk cfg p)
    (hs : p.deliver cfg (.write n) = some p') : PipeOk cfg p' := by
  cases hs
  refine ⟨?_, h.received_in_order, ?_, fun hi => by simp [h.idle hi]⟩
  · simp [← h.sent_in_order]
  · simpa using le_trans (Nat.sub_le _ _) h.bounded

theorem PipeOk.read {bytes : List UInt8} (h : PipeOk cfg p)
    (hs : p.deliver cfg (.read bytes) = some p') : PipeOk cfg p' := by
  cases hs
  exact ⟨h.sent_in_order, by simp [← h.received_in_order], h.bounded, h.idle⟩


theorem PipeOk.step {e : PipeEvent} (h : PipeOk cfg p) (hs : p.step cfg e = some p') :
    PipeOk cfg p' := by
  unfold Pipe.step at hs
  split_ifs at hs
  cases e with
  | connect => exact h.connect hs
  | send => exact h.send hs
  | recv => exact h.recv hs
  | write => exact h.write hs
  | read => exact h.read hs
  | shutdown | free => cases hs; exact ⟨h.sent_in_order, h.received_in_order, h.bounded, h.idle⟩

theorem PipeReachable.pipeOk (hr : PipeReachable cfg p) : PipeOk cfg p := by
  induction hr with
  | refl => exact ⟨rfl, rfl, Nat.zero_le _, fun _ => rfl⟩
  | tail _ hs ih =>
    obtain ⟨e, he⟩ := hs
    exact ih.step he

end run

/-- Whatever the order of the events and whatever `evbuffer_add` and `evbuffer_remove` do, no
byte is lost, doubled or reordered either way while the bufferevent lives. -/
theorem bufferevent_keeps_byte_order (cfg : Config) (p : Pipe) (hr : PipeReachable cfg p) :
    p.wire ++ p.buffers.output = p.sent.flatten ∧ p.delivered ++ p.buffers.input = p.arrived :=
  ⟨hr.pipeOk.sent_in_order, hr.pipeOk.received_in_order⟩

/-- With `output_upper_thres` 4 the connection header fills the buffer over it, a first block
is refused, and after the socket takes the buffer the block is queued. -/
def backPressureRun : List PipeEvent :=
  [.connect true, .send [1, 2, 3] true, .write 20, .read [9, 8], .recv 1 true, .write 4,
    .send [1, 2, 3] true, .recv 5 true, .write 1]

theorem bufferevent_keeps_byte_order_back_pressure :
    ∃ p, Pipe.run { output_upper_thres := 4 } Pipe.start backPressureRun = some p ∧
      p.wire ++ p.buffers.output = p.sent.flatten ∧ p.delivered ++ p.buffers.input = p.arrived := by
  obtain ⟨p, hp⟩ : ∃ p, Pipe.run { output_upper_thres := 4 } Pipe.start backPressureRun =
      some p := ⟨_, rfl⟩
  exact ⟨p, hp, bufferevent_keeps_byte_order _ p (PipeReachable.run Relation.ReflTransGen.refl hp)⟩

/-- The back pressure of `sendcb`: the output buffer never holds more than
`output_upper_thres` bytes and the longest block queued. -/
theorem output_buffer_bounded (cfg : Config) (p : Pipe) (hr : PipeReachable cfg p) :
    p.buffers.output.length ≤ cfg.output_upper_thres + longest p.sent :=
  hr.pipeOk.bounded

theorem output_buffer_bounded_back_pressure :
    ∃ p, Pipe.run { output_upper_thres := 4 } Pipe.start backPressureRun = some p ∧
      p.buffers.output.length ≤ 4 + longest p.sent := by
  obtain ⟨p, hp⟩ : ∃ p, Pipe.run { output_upper_thres := 4 } Pipe.start backPressureRun =
      some p := ⟨_, rfl⟩
  exact ⟨p, hp, output_buffer_bounded _ p (PipeReachable.run Relation.ReflTransGen.refl hp)⟩

/-! ## What one step does to the session and the blocks -/

/-- The block a `sendcb` call queues when `evbuffer_add` succeeds. -/
def PipeEvent.sentBlock : PipeEvent → Option (List UInt8)
  | .send data true => some data
  | _ => none

section steps

variable {cfg : Config} {p p' : Pipe} {e : PipeEvent}

theorem Pipe.step_live (hs : p.step cfg e = some p') : p.freed = false := by
  by_contra h
  simp [Pipe.step, h] at hs

theorem Pipe.step_session (hs : p.step cfg e = some p') :
    p'.session = true ↔ p.session = true ∨ ∃ add_ok, e = .connect add_ok := by
  rw [Pipe.step, if_neg (by simp [Pipe.step_live hs])] at hs
  cases e with
  | connect add_ok =>
    simp only [Pipe.deliver] at hs
    split_ifs at hs <;> cases hs <;> simp
  | send =>
    obtain ⟨hsess, rfl⟩ := Pipe.deliver_send hs
    simp [hsess]
  | recv =>
    obtain ⟨hsess, rfl⟩ := Pipe.deliver_recv hs
    simp [hsess]
  | write | read | shutdown | free => cases hs; simp

theorem Pipe.step_freed (hs : p.step cfg e = some p') (he : e ≠ .free) : p'.freed = false := by
  have hf := Pipe.step_live hs
  rw [Pipe.step, if_neg (by simp [hf])] at hs
  cases e with
  | connect add_ok =>
    simp only [Pipe.deliver] at hs
    split_ifs at hs <;> cases hs <;> exact hf
  | send => obtain ⟨-, rfl⟩ := Pipe.deliver_send hs; exact hf
  | recv => obtain ⟨-, rfl⟩ := Pipe.deliver_recv hs; exact hf
  | write | read | shutdown => cases hs; exact hf
  | free => exact absurd rfl he

theorem Pipe.step_notify (hs : p.step cfg e = some p') (he : e ≠ .shutdown) :
    p'.close_notify = p.close_notify := by
  rw [Pipe.step, if_neg (by simp [Pipe.step_live hs])] at hs
  cases e with
  | connect add_ok =>
    simp only [Pipe.deliver] at hs
    split_ifs at hs <;> cases hs <;> rfl
  | send => obtain ⟨-, rfl⟩ := Pipe.deliver_send hs; rfl
  | recv => obtain ⟨-, rfl⟩ := Pipe.deliver_recv hs; rfl
  | write | read | free => cases hs; rfl
  | shutdown => exact absurd rfl he

/-- A step queues the connection header before the session exists, or a block `sendcb`
accepted once it does, or nothing. -/
theorem Pipe.step_sent (hs : p.step cfg e = some p') :
    p'.sent = p.sent ∨
      (p.session = false ∧ e = .connect true ∧
        p'.sent = p.sent ++ [NGHTTP2_CLIENT_CONNECTION_HEADER]) ∨
      (p.session = true ∧ ∃ b, e.sentBlock = some b ∧ p'.sent = p.sent ++ [b]) := by
  rw [Pipe.step, if_neg (by simp [Pipe.step_live hs])] at hs
  cases e with
  | connect add_ok =>
    simp only [Pipe.deliver] at hs
    split_ifs at hs with hsess hadd <;> cases hs
    · exact .inr (.inl ⟨eq_false_of_ne_true hsess, hadd ▸ rfl, rfl⟩)
    · exact .inl rfl
  | send data add_ok =>
    obtain ⟨hsess, rfl⟩ := Pipe.deliver_send hs
    rcases sendcb_cases cfg p.buffers data add_ok with ⟨-, he⟩ | ⟨-, rfl, he⟩ | ⟨-, -, he⟩ <;>
      simp only [he]
    · exact .inl (by simp [NGHTTP2_ERR_WOULDBLOCK])
    · exact .inr (.inr ⟨hsess, data, rfl, by simp⟩)
    · exact .inl (by simp [NGHTTP2_ERR_CALLBACK_FAILURE])
  | recv => obtain ⟨-, rfl⟩ := Pipe.deliver_recv hs; exact .inl rfl
  | write | read | shutdown | free => cases hs; exact .inl rfl

theorem Pipe.run_append (es es' : List PipeEvent) :
    p.run cfg (es ++ es') = (p.run cfg es).bind fun q => q.run cfg es' := by
  induction es generalizing p with
  | nil => rfl
  | cons e es ih =>
    simp only [List.cons_append, Pipe.run, Option.bind_assoc]
    exact congrArg _ (funext fun q => ih)

theorem Pipe.run_session {es : List PipeEvent} (h : p.run cfg es = some p') :
    p'.session = true ↔ p.session = true ∨ ∃ add_ok, .connect add_ok ∈ es := by
  induction es generalizing p with
  | nil => cases h; simp
  | cons e es ih =>
    obtain ⟨q, hq, h⟩ := Option.bind_eq_some.1 h
    rw [ih h, Pipe.step_session hq]
    simp only [List.mem_cons]
    constructor
    · rintro ((hs | ⟨a, rfl⟩) | ⟨a, ha⟩)
      exacts [.inl hs, .inr ⟨a, .inl rfl⟩, .inr ⟨a, .inr ha⟩]
    · rintro (hs | ⟨a, rfl | ha⟩)
      exacts [.inl (.inl hs), .inl (.inr ⟨a, rfl⟩), .inr ⟨a, ha⟩]

theorem Pipe.run_freed {es : List PipeEvent} (h : p.run cfg es = some p') (he : .free ∉ es)
    (hf : p.freed = false) : p'.freed = false := by
  induction es generalizing p with
  | nil => cases h; exact hf
  | cons e es ih =>
    obtain ⟨q, hq, h⟩ := Option.bind_eq_some.1 h
    simp only [List.mem_cons, not_or] at he
    exact ih h he.2 (Pipe.step_freed hq (Ne.symm he.1))

theorem Pipe.run_notify {es : List PipeEvent} (h : p.run cfg es = some p') (he : .shutdown ∉ es) :
    p'.close_notify = p.close_notify := by
  induction es generalizing p with
  | nil => cases h; rfl
  | cons e es ih =>
    obtain ⟨q, hq, h⟩ := Option.bind_eq_some.1 h
    simp only [List.mem_cons, not_or] at he
    rw [ih h he.2, Pipe.step_notify hq (Ne.symm he.1)]

/-- Once the session exists, a run queues for the socket, in order, some of the blocks that
the engine handed `sendcb` and `evbuffer_add` took. -/
theorem Pipe.run_sent {es : List PipeEvent} (hsess : p.session = true)
    (h : p.run cfg es = some p') :
    ∃ bs, p'.sent = p.sent ++ bs ∧ bs.Sublist (es.filterMap PipeEvent.sentBlock) := by
  induction es generalizing p with
  | nil => cases h; exact ⟨[], by simp, List.nil_sublist _⟩
  | cons e es ih =>
    obtain ⟨q, hq, h⟩ := Option.bind_eq_some.1 h
    obtain ⟨bs, hbs, hsub⟩ := ih ((Pipe.step_session hq).2 (.inl hsess)) h
    rcases Pipe.step_sent hq with hs | ⟨hn, -⟩ | ⟨-, b, hb, hs⟩
    · refine ⟨bs, hs ▸ hbs, hsub.trans ?_⟩
      rw [List.filterMap_cons]
      split
      · exact List.Sublist.refl _
      · exact List.sublist_cons_self _ _
    · simp [hsess] at hn
    · refine ⟨b :: bs, by simp [hbs, hs], ?_⟩
      rw [List.filterMap_cons_some hb]
      exact hsub.cons₂ _

theorem PipeReachable.sent_of_no_session (hr : PipeReachable cfg p) (hn : p.session = false) :
    p.sent = [] := by
  induction hr with
  | refl => rfl
  | tail _ hs ih =>
    obtain ⟨e, he⟩ := hs
    have hold := mt (Pipe.step_session he).2
    simp only [hn, Bool.false_eq_true, not_false_eq_true, not_or, not_exists, forall_const] at hold
    rcases Pipe.step_sent he with h | ⟨-, rfl, -⟩ | ⟨h, -⟩
    · rw [h, ih (eq_false_of_ne_true hold.1)]
    · exact absurd rfl (hold.2 true)
    · exact absurd h hold.1

end steps

/-! ## The handlers on the buffers -/

def PipeEvent.callback : PipeEvent → Bool
  | .send .. | .recv .. => true
  | _ => false

/-- The events a handler makes while the engine runs: its callbacks and, with TLS, writes to
the socket, which the openssl bufferevent makes as soon as `evbuffer_add` queues bytes. -/
def PipeEvent.inHandler (ssl : Bool) : PipeEvent → Bool
  | .send .. | .recv .. => true
  | .write _ => ssl
  | _ => false

/-- What `disconnect` does to the socket of client `t`: `SSL_shutdown` on a connected TLS
session, then `bufferevent_free`. -/
def disconnectEvents (t : Transport) : List PipeEvent :=
  if t.ssl = true ∧ t.state = .STATE_CONNECTED then [.shutdown, .free] else [.free]

/-- A handler of client `t` on the bufferevent: the events `es` while the engine runs, then,
when the handler leaves `t'` disconnected, those of `disconnect`. -/
def handlerPipe (cfg : Config) (t : Transport) (t' : Option Transport) (es : List PipeEvent)
    (p : Pipe) : Option (Transport × Pipe) :=
  if es.all (PipeEvent.inHandler t.ssl) then
    t'.bind fun t' => (p.run cfg es).bind fun p =>
      if t'.bev then some (t', p) else (p.run cfg (disconnectEvents t)).map fun p => (t', p)
  else none

def readcbPipe (cfg : Config) (t : Transport) (a : Answers) (es : List PipeEvent) (p : Pipe) :
    Option (Transport × Pipe) :=
  handlerPipe cfg t (readcb t a) es p

/-- `writecb` on the bufferevent: the engine runs only once the output buffer is empty. -/
def writecbPipe (cfg : Config) (t : Transport) (a : Answers) (es : List PipeEvent) (p : Pipe) :
    Option (Transport × Pipe) :=
  handlerPipe cfg t (writecb t p.buffers.output.length a)
    (if p.buffers.output.length > 0 then [] else es) p

/-- What the events of a handler do: they add to what was written and queued, write nothing
without TLS, and neither free the bufferevent nor shut the TLS session down. -/
structure Pipe.HandlerMove (ssl : Bool) (p p' : Pipe) : Prop where
  wire : p.wire <+: p'.wire
  plain : ssl = false → p'.wire = p.wire
  sent : p.sent <+: p'.sent
  freed : p'.freed = p.freed
  notify : p'.close_notify = p.close_notify

section handlers

variable {cfg : Config} {ssl : Bool} {p p' : Pipe}

theorem Pipe.HandlerMove.refl (ssl : Bool) (p : Pipe) : p.HandlerMove ssl p :=
  ⟨List.prefix_refl _, fun _ => rfl, List.prefix_refl _, rfl, rfl⟩

theorem Pipe.HandlerMove.trans {q : Pipe} (h : p.HandlerMove ssl q) (h' : q.HandlerMove ssl p') :
    p.HandlerMove ssl p' :=
  ⟨h.wire.trans h'.wire, fun hs => (h'.plain hs).trans (h.plain hs), h.sent.trans h'.sent,
    h'.freed.trans h.freed, h'.notify.trans h.notify⟩

theorem PipeEvent.inHandler_ne {e : PipeEvent} (he : e.inHandler ssl = true) :
    e ≠ .free ∧ e ≠ .shutdown := by
  cases e <;> simp_all [PipeEvent.inHandler]

theorem Pipe.HandlerMove.step {e : PipeEvent} (he : e.inHandler ssl = true)
    (hs : p.step cfg e = some p') : p.HandlerMove ssl p' := by
  rw [Pipe.step, if_neg (by simp [Pipe.step_live hs])] at hs
  cases e with
  | send data add_ok =>
    obtain ⟨-, rfl⟩ := Pipe.deliver_send hs
    refine ⟨List.prefix_refl _, fun _ => rfl, ?_, rfl, rfl⟩
    split
    exacts [List.prefix_append _ _, List.prefix_refl _]
  | recv =>
    obtain ⟨-, rfl⟩ := Pipe.deliver_recv hs
    exact ⟨List.prefix_refl _, fun _ => rfl, List.prefix_refl _, rfl, rfl⟩
  | write n =>
    cases hs
    exact ⟨List.prefix_append _ _, fun h => by simp [PipeEvent.inHandler, h] at he,
      List.prefix_refl _, rfl, rfl⟩
  | _ => cases he

theorem Pipe.HandlerMove.run {es : List PipeEvent} (he : es.all (PipeEvent.inHandler ssl) = true)
    (h : p.run cfg es = some p') : p.HandlerMove ssl p' := by
  induction es generalizing p with
  | nil => cases h; exact .refl ssl _
  | cons e es ih =>
    rw [List.all_cons, Bool.and_eq_true] at he
    obtain ⟨q, hq, h⟩ := Option.bind_eq_some.1 h
    exact (Pipe.HandlerMove.step he.1 hq).trans (ih he.2 h)

/-- `disconnect` frees a live bufferevent as it is, after `close_notify` on a connected TLS
session. -/
theorem Pipe.run_disconnect {t : Transport} (h : p.run cfg (disconnectEvents t) = some p') :
    p' = { p with
      freed := true
      close_notify := if t.ssl = true ∧ t.state = .STATE_CONNECTED then true else p.close_notify } := by
  unfold disconnectEvents at h
  split_ifs at h with hc
  all_goals
    obtain ⟨q, hq, h⟩ := Option.bind_eq_some.1 h
    simp only [Pipe.step, Pipe.step_live hq, Pipe.deliver, Bool.false_eq_true, if_false,
      Option.some.injEq] at hq
    subst hq
  · simp only [Pipe.run, Pipe.step, Pipe.deliver, Bool.false_eq_true, if_false, Option.some_bind,
      Option.some.injEq] at h
    simp [← h, hc]
  · simp only [Pipe.run, Option.some.injEq] at h
    simp [← h, hc]

theorem handlerPipe_cases {t : Transport} {o : Option Transport} {es : List PipeEvent}
    {t' : Transport} (h : handlerPipe cfg t o es p = some (t', p')) :
    o = some t' ∧ es.all (PipeEvent.inHandler t.ssl) = true ∧ ∃ q, p.run cfg es = some q ∧
      ((t'.bev = true ∧ p' = q) ∨ (t'.bev = false ∧ q.run cfg (disconnectEvents t) = some p')) := by
  unfold handlerPipe at h
  split_ifs at h with hes
  obtain ⟨t0, ht0, h⟩ := Option.bind_eq_some.1 h
  obtain ⟨q, hq, h⟩ := Option.bind_eq_some.1 h
  split_ifs at h with hb
  · cases h
    exact ⟨ht0, hes, _, hq, .inl ⟨hb, rfl⟩⟩
  · obtain ⟨q', hq', he⟩ := Option.map_eq_some'.1 h
    cases he
    exact ⟨ht0, hes, q, hq, .inr ⟨eq_false_of_ne_true hb, hq'⟩⟩

end handlers

end nghttp2
