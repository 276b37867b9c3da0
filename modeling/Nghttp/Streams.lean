-- The laws of the stream map over every run of a session: each request is
-- submitted once and in order, bound to at most one fresh stream, `complete`
-- counts the closed streams of the map, and GOAWAY goes out once, at the end.
import Mathlib.Data.List.Perm.Basic
import Nghttp.Effects

namespace nghttp2

variable {H I : Type}

/-! ## Appending requests -/

/-- `w'` is `w` with `k` requests appended to `reqvec` and submitted in order, and the streams,
the count of complete requests and the engine's streams as they were. -/
def Appends (w w' : World H I) : Prop :=
  ∃ k, w'.client.reqvec.length = w.client.reqvec.length + k ∧
    w'.session.queue = w.session.queue ++ List.range' w.client.reqvec.length k ∧
    w'.session.submitted.map Submission.req =
      w.session.submitted.map Submission.req ++ List.range' w.client.reqvec.length k ∧
    w'.client.streams = w.client.streams ∧ w'.client.complete = w.client.complete ∧
    w'.session.stream_user_data = w.session.stream_user_data ∧
    w'.session.closed = w.session.closed ∧ w'.session.goaway = w.session.goaway

theorem appends_of_eq {w w' : World H I} (h1 : w'.client.reqvec.length = w.client.reqvec.length)
    (h2 : w'.session.queue = w.session.queue) (h3 : w'.session.submitted = w.session.submitted)
    (h4 : w'.client.streams = w.client.streams) (h5 : w'.client.complete = w.client.complete)
    (h6 : w'.session.stream_user_data = w.session.stream_user_data)
    (h7 : w'.session.closed = w.session.closed) (h8 : w'.session.goaway = w.session.goaway) :
    Appends w w' :=
  ⟨0, h1, by simp [h2], by simp [h3], h4, h5, h6, h7, h8⟩

theorem appends_closed (cfg : Config) (L : Lib H I) :
    Closed cfg L (Appends : World H I → World H I → Prop) where
  refl w := appends_of_eq rfl rfl rfl rfl rfl rfl rfl rfl
  trans := by
    rintro a b c ⟨k1, h1, h2, h3, h4, h5, h6, h7, h8⟩ ⟨k2, g1, g2, g3, g4, g5, g6, g7, g8⟩
    refine ⟨k1 + k2, by omega, ?_, ?_, by rw [g4, h4], by rw [g5, h5], by rw [g6, h6],
      by rw [g7, h7], by rw [g8, h8]⟩
    · rw [g2, h2, h1, List.append_assoc, List.range'_append_1, Nat.add_comm k2]
    · rw [g3, h3, h1, List.append_assoc, List.range'_append_1, Nat.add_comm k2]
  setReq w j r r' _ _ := appends_of_eq (by simp) rfl rfl rfl rfl rfl rfl rfl
  link w req raw _ _ _ _ := by
    rcases updateHtmlParserLink_cases cfg L req w raw with h | ⟨u, -, -, -, -, hc, h⟩
    · rw [h]; exact appends_of_eq rfl rfl rfl rfl rfl rfl rfl rfl
    · rw [h]
      refine ⟨1, ?_, ?_, ?_, ?_, ?_, rfl, rfl, rfl⟩ <;>
        simp [add_request_reqvec, hc]
  stdout w _ := appends_of_eq rfl rfl rfl rfl rfl rfl rfl rfl
  rst w _ := appends_of_eq rfl rfl rfl rfl rfl rfl rfl rfl

theorem on_stream_close_callback_cases (cfg : Config) (L : Lib H I) (w : World H I)
    (sid : Nat) :
    (w.client.streams.lookup sid = none ∧ on_stream_close_callback cfg L w sid = w) ∨
      ∃ i w2, w.client.streams.lookup sid = some i ∧ Appends w w2 ∧
        on_stream_close_callback cfg L w sid =
          { w2 with
            client := { w2.client with complete := w.client.complete + 1 }
            session := { w2.session with goaway :=
              if w.client.complete + 1 = w2.client.reqvec.length then w.session.goaway + 1
              else w.session.goaway } } := by
  unfold on_stream_close_callback
  rcases hl : w.client.streams.lookup sid with _ | i
  · exact .inl ⟨rfl, rfl⟩
  · have ha := update_htmlparser_rel (appends_closed cfg L) w i [] true
    refine .inr ⟨i, _, rfl, ha, ?_⟩
    obtain ⟨-, -, -, -, -, h5, -, -, h8⟩ := ha
    dsimp only
    generalize update_htmlparser cfg L w i [] true = w2 at h5 h8 ⊢
    simp only [all_requests_processed, h5, ← h8, beq_iff_eq]
    split_ifs <;> rfl

/-! ## Maps -/

theorem mapAssign_of_not_mem {m : List (Nat × Nat)} {k : Nat} (v : Nat)
    (h : k ∉ m.map Prod.fst) : mapAssign m k v = (k, v) :: m := by
  unfold mapAssign
  rw [List.filter_eq_self.2]
  intro p hp
  have : p.1 ≠ k := fun e => h (e ▸ List.mem_map_of_mem _ hp)
  simpa using this

@[simp] theorem lookup_mapAssign (m : List (Nat × Nat)) (k v : Nat) :
    (mapAssign m k v).lookup k = some v := by
  simp [mapAssign, List.lookup_cons]

theorem mem_of_lookup_eq_some {m : List (Nat × Nat)} {k v : Nat} (h : m.lookup k = some v) :
    (k, v) ∈ m := by
  induction m with
  | nil => simp at h
  | cons p m ih =>
    obtain ⟨a, b⟩ := p
    rw [List.lookup_cons] at h
    split at h
    · rename_i he; cases h; simp at he; simp [he]
    · exact List.mem_cons_of_mem _ (ih h)

theorem not_mem_of_lookup_eq_none {m : List (Nat × Nat)} {k : Nat} (h : m.lookup k = none) :
    k ∉ m.map Prod.fst := by
  induction m with
  | nil => simp
  | cons p m ih =>
    obtain ⟨a, b⟩ := p
    rw [List.lookup_cons] at h
    split at h
    · cases h
    · rename_i hne
      simp only [beq_eq_false_iff_ne, ne_eq] at hne
      simp [hne, ih h]

theorem length_filter_closed_append {m : List (Nat × Nat)} {closed : List Nat} {sid : Nat}
    (hk : (m.map Prod.fst).Nodup) (hs : sid ∉ closed) :
    (m.filter fun p => p.1 ∈ closed ++ [sid]).length =
      (m.filter fun p => p.1 ∈ closed).length + if sid ∈ m.map Prod.fst then 1 else 0 := by
  induction m with
  | nil => simp
  | cons p m ih =>
    simp only [List.map_cons, List.nodup_cons] at hk
    have ih := ih hk.2
    rw [List.filter_cons, List.filter_cons]
    by_cases hp : p.1 = sid
    · have hm : sid ∉ m.map Prod.fst := hp ▸ hk.1
      rw [if_pos (by simp [hp]), if_neg (by simp [hp, hs]), List.length_cons, ih, if_neg hm,
        if_pos (by simp [hp])]
    · have hm : (if sid ∈ (p :: m).map Prod.fst then 1 else 0) =
          if sid ∈ m.map Prod.fst then 1 else 0 := by
        rw [List.map_cons, if_congr (List.mem_cons.trans (or_iff_right (Ne.symm hp))) rfl rfl]
      by_cases hc : p.1 ∈ closed
      · rw [if_pos (by simp [hc]), if_pos (by simp [hc]), List.length_cons, List.length_cons, ih,
          hm]
        omega
      · rw [if_neg (by simp [hc, hp]), if_neg (by simp [hc]), ih, hm]

/-! ## The invariant of the stream map -/

/-- What every world of a run keeps: the streams map is the engine's user data, requests are
queued or bound once each, submitted in order, and `complete` counts closed streams. -/
structure Bound (w : World H I) : Prop where
  streams_eq : w.client.streams = w.session.stream_user_data
  keys_nodup : (w.client.streams.map Prod.fst).Nodup
  perm : (w.session.queue ++ w.client.streams.map Prod.snd).Perm
    (List.range w.client.reqvec.length)
  submitted : w.session.submitted.map Submission.req = List.range w.client.reqvec.length
  complete_eq : w.client.complete =
    (w.client.streams.filter fun p => p.1 ∈ w.session.closed).length

/-- GOAWAY has been submitted once if every request of a non-empty `reqvec` is complete, and
not at all otherwise. -/
def Goaway (w : World H I) : Prop :=
  w.session.goaway =
    if w.client.complete = w.client.reqvec.length ∧ 0 < w.client.reqvec.length then 1 else 0

theorem range_add_eq (n k : Nat) : List.range (n + k) = List.range n ++ List.range' n k := by
  simpa [List.range_eq_range', Nat.add_comm] using (List.range'_append_1 0 n k).symm

theorem perm_append_range' {q b : List Nat} {n : Nat} (k : Nat)
    (h : (q ++ b).Perm (List.range n)) :
    (q ++ List.range' n k ++ b).Perm (List.range (n + k)) := by
  rw [range_add_eq]
  refine List.Perm.trans ?_ (h.append_right (List.range' n k))
  rw [List.append_assoc, List.append_assoc]
  exact List.perm_append_comm.append_left _

section bound

variable {w w' : World H I}

theorem Bound.lt (hb : Bound w) {p : Nat × Nat} (hp : p ∈ w.client.streams) :
    p.2 < w.client.reqvec.length :=
  List.mem_range.1 (hb.perm.subset (List.mem_append_right _ (List.mem_map_of_mem _ hp)))

theorem Bound.vals_nodup (hb : Bound w) : (w.client.streams.map Prod.snd).Nodup :=
  ((hb.perm.nodup_iff.2 (List.nodup_range _)).sublist (List.sublist_append_right _ _))

theorem Bound.length_le (hb : Bound w) : w.client.streams.length ≤ w.client.reqvec.length := by
  have := hb.perm.length_eq
  simp only [List.length_append, List.length_map, List.length_range] at this
  omega

theorem Bound.complete_le (hb : Bound w) : w.client.complete ≤ w.client.reqvec.length := by
  rw [hb.complete_eq]
  exact (List.length_filter_le _ _).trans hb.length_le

theorem Bound.complete_lt (hb : Bound w) {sid i : Nat} (hs : (sid, i) ∈ w.client.streams)
    (hc : sid ∉ w.session.closed) : w.client.complete < w.client.reqvec.length := by
  rw [hb.complete_eq]
  exact (List.length_filter_lt_length_iff_exists.2 ⟨_, hs, by simpa using hc⟩).trans_le
    hb.length_le

theorem Bound.appends (hb : Bound w) (ha : Appends w w') : Bound w' := by
  obtain ⟨k, h1, h2, h3, h4, h5, h6, h7, -⟩ := ha
  refine ⟨by rw [h4, h6, hb.streams_eq], by rw [h4]; exact hb.keys_nodup, ?_, ?_, ?_⟩
  · rw [h1, h2, h4]; exact perm_append_range' k hb.perm
  · rw [h1, h3, hb.submitted, range_add_eq]
  · rw [h5, h4, h7, hb.complete_eq]

theorem Goaway.appends (hg : Goaway w) (ha : Appends w w')
    (hl : w'.client.reqvec.length = w.client.reqvec.length ∨
      w.client.complete < w.client.reqvec.length) : Goaway w' := by
  obtain ⟨k, h1, -, -, -, h5, -, -, h8⟩ := ha
  unfold Goaway at *
  rw [h8, hg, h5, h1]
  rcases hl with hl | hl
  · rw [h1] at hl; simp [show k = 0 by omega]
  · have : ¬ w.client.complete = w.client.reqvec.length := by omega
    have : ¬ w.client.complete = w.client.reqvec.length + k := by omega
    simp [*]

theorem Bound.headers_sent (hb : Bound w) {sid i : Nat} {nva : List (String × String)}
    (hq : i ∈ w.session.queue) (hs : sid ∉ w.session.stream_user_data.map Prod.fst)
    (hc : sid ∉ w.session.closed)
    (h : on_frame_send_callback2 (w.openStream sid i)
      ⟨.NGHTTP2_HEADERS, sid, .NGHTTP2_HCAT_START_STREAM, nva⟩ = some w') : Bound w' := by
  simp only [on_frame_send_callback2, check_stream_id, World.openStream, lookup_mapAssign,
    and_self, if_true, Option.some.injEq] at h
  subst h
  have hs' : sid ∉ w.client.streams.map Prod.fst := hb.streams_eq ▸ hs
  rw [mapAssign_of_not_mem _ hs', mapAssign_of_not_mem _ hs]
  refine ⟨by rw [hb.streams_eq], List.nodup_cons.2 ⟨hs', hb.keys_nodup⟩, ?_, hb.submitted, ?_⟩
  · refine List.Perm.trans ?_ hb.perm
    simp only [List.map_cons]
    exact List.perm_middle.trans (((List.perm_cons_erase hq).append_right _).symm)
  · simp [List.filter_cons, hc, hb.complete_eq]

theorem Bound.goaway (hb : Bound w) (n : Nat) :
    Bound { w with session := { w.session with goaway := n } } :=
  ⟨hb.1, hb.2, hb.3, hb.4, hb.5⟩

@[simp] theorem World.closeStream_client (sid : Nat) : (w.closeStream sid).client = w.client :=
  rfl
@[simp] theorem World.closeStream_goaway (sid : Nat) :
    (w.closeStream sid).session.goaway = w.session.goaway := rfl

theorem Bound.stream_close (cfg : Config) (L : Lib H I) (hb : Bound w) {sid : Nat}
    (hc : sid ∉ w.session.closed) :
    Bound (on_stream_close_callback cfg L (w.closeStream sid) sid) := by
  have hcnt := length_filter_closed_append hb.keys_nodup hc
  rcases on_stream_close_callback_cases cfg L (w.closeStream sid) sid with
    ⟨hl, he⟩ | ⟨i, w2, hl, ⟨k, h1, h2, h3, h4, -, h6, h7, -⟩, he⟩ <;> rw [he] <;>
    simp only [World.closeStream_client] at hl
  · refine ⟨hb.streams_eq, hb.keys_nodup, hb.perm, hb.submitted, ?_⟩
    simp only [World.closeStream]
    rw [hcnt, if_neg (not_mem_of_lookup_eq_none hl), hb.complete_eq, Nat.add_zero]
  · simp only [World.closeStream_client] at h1 h2 h3 h4 h6 h7
    refine ⟨by simp [h4, h6, hb.streams_eq, World.closeStream], by simp [h4, hb.keys_nodup],
      ?_, ?_, ?_⟩
    · simp only [h1, h2, h4, World.closeStream]; exact perm_append_range' k hb.perm
    · simp only [h1, h3, World.closeStream, hb.submitted, range_add_eq]
    · simp only [h4, h7, World.closeStream, World.closeStream_client]
      rw [hcnt, if_pos (List.mem_map_of_mem Prod.fst (mem_of_lookup_eq_some hl)), hb.complete_eq]

theorem Goaway.stream_close (cfg : Config) (L : Lib H I) (hb : Bound w) (hg : Goaway w)
    {sid : Nat} (hc : sid ∉ w.session.closed) :
    Goaway (on_stream_close_callback cfg L (w.closeStream sid) sid) := by
  rcases on_stream_close_callback_cases cfg L (w.closeStream sid) sid with
    ⟨-, he⟩ | ⟨i, w2, hl, ⟨k, h1, -, -, -, -, -, -, -⟩, he⟩ <;> rw [he]
  · exact hg
  · have hlt := hb.complete_lt (mem_of_lookup_eq_some hl) hc
    simp only [World.closeStream_client] at h1
    unfold Goaway at hg ⊢
    rw [if_neg (by omega)] at hg
    simp only [World.closeStream_client, World.closeStream_goaway, hg, h1]
    split_ifs <;> omega

end bound

/-! ## One step, and every run -/

section step

variable {cfg : Config} {L : Lib H I} {file : List UInt8} {w w' : World H I}

theorem appends_setReq (i : Nat) (r : Request H I) : Appends w (w.setReq i r) :=
  appends_of_eq (by simp) rfl rfl rfl rfl rfl rfl rfl

theorem on_data_chunk_recv_callback_cases {fuel sid : Nat} {data : List UInt8}
    (h : on_data_chunk_recv_callback cfg L fuel w sid data = some w') :
    w' = w ∨ ∃ i, (sid, i) ∈ w.client.streams := by
  rcases hl : w.client.streams.lookup sid with _ | i
  · simp only [on_data_chunk_recv_callback, hl, Option.some.injEq] at h
    exact .inl h.symm
  · exact .inr ⟨i, mem_of_lookup_eq_some hl⟩

theorem Bound.stream_close_effect (hb : Bound w) {sid : Nat} (hc : sid ∉ w.session.closed) :
    w.client.complete ≤ (on_stream_close_callback cfg L (w.closeStream sid) sid).client.complete ∧
      ((on_stream_close_callback cfg L (w.closeStream sid) sid).client.reqvec.length =
        w.client.reqvec.length ∨ w.client.complete < w.client.reqvec.length) := by
  rcases on_stream_close_callback_cases cfg L (w.closeStream sid) sid with
    ⟨-, he⟩ | ⟨i, w2, hl, -, he⟩ <;> rw [he]
  · exact ⟨le_rfl, .inl rfl⟩
  · exact ⟨Nat.le_succ _, .inr (hb.complete_lt (mem_of_lookup_eq_some hl) hc)⟩

/-- What one step of a run does, from a world that keeps the invariants: it keeps them, never
lowers `complete`, and appends requests only while one is incomplete. -/
theorem Bound.step (hb : Bound w) (hg : Goaway w) (h : Step cfg L file w w') :
    Bound w' ∧ Goaway w' ∧ w.client.complete ≤ w'.client.complete ∧
      (w'.client.reqvec.length = w.client.reqvec.length ∨
        w.client.complete < w.client.reqvec.length) := by
  have of_appends : Appends w w' → (w'.client.reqvec.length = w.client.reqvec.length ∨
      w.client.complete < w.client.reqvec.length) →
      Bound w' ∧ Goaway w' ∧ w.client.complete ≤ w'.client.complete ∧
        (w'.client.reqvec.length = w.client.reqvec.length ∨
          w.client.complete < w.client.reqvec.length) := fun ha hl =>
    ⟨hb.appends ha, hg.appends ha hl, ha.elim fun _ h => h.2.2.2.2.1.ge, hl⟩
  cases h with
  | headers_sent hq hs hc h =>
    have hb' := hb.headers_sent hq hs hc h
    simp only [on_frame_send_callback2, check_stream_id, World.openStream, lookup_mapAssign,
      and_self, if_true, Option.some.injEq] at h
    subst h
    exact ⟨hb', hg, le_refl _, .inl rfl⟩
  | frame_sent hf h =>
    simp only [on_frame_send_callback2, if_neg hf, Option.some.injEq] at h
    subst h
    exact ⟨hb, hg, le_refl _, .inl rfl⟩
  | frame_recv _ h =>
    rw [on_frame_recv_callback2_eq h]
    rcases check_response_header_cases cfg L w _ with he | ⟨i, r, r', -, -, he⟩ <;> rw [he]
    · exact ⟨hb, hg, le_refl _, .inl rfl⟩
    · exact ⟨hb.appends (appends_setReq i r'), hg.appends (appends_setReq i r') (.inl (by simp)),
        le_refl _, .inl (by simp)⟩
  | data_chunk_recv hc h =>
    refine of_appends (on_data_chunk_recv_callback_rel (appends_closed cfg L) h) ?_
    rcases on_data_chunk_recv_callback_cases h with he | ⟨i, hi⟩
    · exact .inl (by rw [he])
    · exact .inr (hb.complete_lt hi hc)
  | stream_close hc =>
    exact ⟨hb.stream_close cfg L hc, hg.stream_close cfg L hb hc, hb.stream_close_effect hc⟩
  | data_read _ _ _ _ _ _ h =>
    have hs : ∀ (w1 : World H I) sid eof buf, Appends w1 (w1.sendData sid eof buf) :=
      fun _ _ _ _ => appends_of_eq rfl rfl rfl rfl rfl rfl rfl rfl
    rcases file_read_callback_cases h with he | ⟨i, req, n, -, he⟩ <;> subst he
    · exact of_appends (hs _ _ _ _) (.inl rfl)
    · exact of_appends ((appends_closed cfg L).trans (appends_setReq i _) (hs _ _ _ _))
        (.inl (by simp [World.sendData]))

end step

/-! ## The start of a session -/

theorem submitAll_queue (cfg : Config) (L : Lib H I) (w : World H I) :
    (submitAll cfg L w).client = w.client ∧
      (submitAll cfg L w).session.queue = w.session.queue ++ List.range w.client.reqvec.length ∧
      (submitAll cfg L w).session.submitted.map Submission.req =
        w.session.submitted.map Submission.req ++ List.range w.client.reqvec.length ∧
      (submitAll cfg L w).session.stream_user_data = w.session.stream_user_data ∧
      (submitAll cfg L w).session.closed = w.session.closed ∧
      (submitAll cfg L w).session.goaway = w.session.goaway := by
  rw [submitAll_eq]; simp [Function.comp_def]

/-- The world `communicate` starts from keeps the invariants: every request queued and
submitted in order, no stream, nothing complete, no GOAWAY. -/
theorem sessionStart_bound (cfg : Config) (L : Lib H I)
    (requests : List (String × Bool × Nat)) :
    Bound (sessionStart cfg L requests) ∧ Goaway (sessionStart cfg L requests) := by
  have hs : (update_hostport (addRequests cfg L HttpClient.new requests)).streams = [] := by
    simp [HttpClient.new]
  have hc : (update_hostport (addRequests cfg L HttpClient.new requests)).complete = 0 := by
    simp [HttpClient.new]
  unfold sessionStart
  generalize update_hostport (addRequests cfg L HttpClient.new requests) = c at hs hc
  obtain ⟨h1, h2, h3, h4, h5, h6⟩ :=
    submitAll_queue cfg L ⟨{ c with state := .STATE_CONNECTED }, nghttp2_session.new, []⟩
  generalize submitAll cfg L _ = w at h1 h2 h3 h4 h5 h6 ⊢
  simp only [nghttp2_session.new] at h1 h2 h3 h4 h5 h6
  refine ⟨⟨?_, ?_, ?_, ?_, ?_⟩, ?_⟩ <;> simp [h1, h2, h3, h4, h5, h6, hs, hc, Goaway]
  exact (if_neg fun h => by omega).symm

theorem Reachable.bound_goaway {cfg : Config} {L : Lib H I} {file : List UInt8}
    {requests : List (String × Bool × Nat)} {w : World H I}
    (hw : Reachable cfg L file requests w) : Bound w ∧ Goaway w := by
  induction hw with
  | refl => exact sessionStart_bound cfg L requests
  | tail _ hs ih => exact ⟨(ih.1.step ih.2 hs).1, (ih.1.step ih.2 hs).2.1⟩

theorem Goaway.le_one {w : World H I} (hg : Goaway w) : w.session.goaway ≤ 1 := by
  unfold Goaway at hg; split at hg <;> omega

theorem Goaway.eq_one_iff {w : World H I} (hg : Goaway w) : w.session.goaway = 1 ↔
    w.client.complete = w.client.reqvec.length ∧ 0 < w.client.reqvec.length := by
  unfold Goaway at hg; split at hg <;> simp_all

/-- With `multiply <= 0` the admission loop admits nothing, and no event admits a request
later: every world of the run has no request, none complete, and no GOAWAY. -/
theorem Reachable.reqvec_nil_of_multiply_nonpos {cfg : Config} {L : Lib H I}
    {file : List UInt8} {requests : List (String × Bool × Nat)} {w : World H I}
    (hm : cfg.multiply ≤ 0) (hw : Reachable cfg L file requests w) :
    w.client.reqvec = [] ∧ w.client.complete = 0 ∧ w.session.goaway = 0 := by
  have hlen : w.client.reqvec.length = 0 := by
    induction hw with
    | refl =>
      have h := addRequests_new_uris cfg L requests
      rw [if_neg (by omega), Int.toNat_eq_zero.2 hm] at h
      have hnil : requests.flatMap (fun r => List.replicate 0 r.1) = [] :=
        List.flatMap_eq_nil_iff.2 fun _ _ => rfl
      rw [hnil, List.map_eq_nil_iff] at h
      simp [sessionStart, submitAll_eq, h]
    | tail hr hs ih =>
      obtain ⟨hb, hg⟩ := Reachable.bound_goaway hr
      rcases (hb.step hg hs).2.2.2 with h | h <;> omega
  obtain ⟨hb, hg⟩ := hw.bound_goaway
  have := hb.complete_le
  refine ⟨List.eq_nil_of_length_eq_zero hlen, by omega, ?_⟩
  rw [hg, if_neg (by omega)]

theorem Bound.all_closed {w : World H I} (hb : Bound w)
    (hc : w.client.complete = w.client.reqvec.length) :
    ∀ i < w.client.reqvec.length, ∃ sid, (sid, i) ∈ w.client.streams ∧ sid ∈ w.session.closed := by
  have hf := List.length_filter_le (fun p => decide (p.1 ∈ w.session.closed)) w.client.streams
  have hlen := hb.perm.length_eq
  simp only [List.length_append, List.length_map, List.length_range] at hlen
  have hce := hb.complete_eq
  have he : (w.client.streams.filter fun p => p.1 ∈ w.session.closed).length =
      w.client.streams.length := by omega
  have hq : w.session.queue = [] := List.eq_nil_of_length_eq_zero (by omega)
  intro i hi
  have hm : i ∈ w.client.streams.map Prod.snd := by
    simpa [hq] using hb.perm.symm.subset (List.mem_range.2 hi)
  obtain ⟨⟨sid, j⟩, hp, rfl⟩ := List.mem_map.1 hm
  exact ⟨sid, hp, by simpa using List.filter_length_eq_length.1 he _ hp⟩

theorem Bound.complete_of_all_closed {w : World H I} (hb : Bound w)
    (hc : ∀ i < w.client.reqvec.length, ∃ sid, (sid, i) ∈ w.client.streams ∧
      sid ∈ w.session.closed) :
    w.client.complete = w.client.reqvec.length := by
  have hsub : List.range w.client.reqvec.length ⊆ w.client.streams.map Prod.snd := fun i hi => by
    obtain ⟨sid, hp, -⟩ := hc i (List.mem_range.1 hi)
    exact List.mem_map_of_mem _ hp
  have hge := (List.subperm_of_subset (List.nodup_range _) hsub).length_le
  simp only [List.length_range, List.length_map] at hge
  have hall : ∀ p ∈ w.client.streams, p.1 ∈ w.session.closed := fun p hp => by
    obtain ⟨sid, hq, hcl⟩ := hc p.2 (hb.lt hp)
    rwa [List.inj_on_of_nodup_map hb.vals_nodup hp hq rfl]
  rw [hb.complete_eq, List.filter_eq_self.2 (by simpa using hall)]
  exact le_antisymm hb.length_le hge

/-! ## The laws -/

section laws

variable (cfg : Config) (L : Lib H I) (file : List UInt8) (requests : List (String × Bool × Nat))

/-- In every world the streams map is injective into `reqvec`, and `complete` counts its
closed streams: never above `reqvec.size()`, never lowered. -/
theorem streams_injective_complete_counts_closed (w : World H I)
    (hw : Reachable cfg L file requests w) :
    (w.client.streams.map Prod.fst).Nodup ∧ (w.client.streams.map Prod.snd).Nodup ∧
      (∀ p ∈ w.client.streams, p.2 < w.client.reqvec.length) ∧
      w.client.complete = (w.client.streams.filter fun p => p.1 ∈ w.session.closed).length ∧
      w.client.complete ≤ w.client.reqvec.length ∧
      ∀ w', Step cfg L file w w' → w.client.complete ≤ w'.client.complete := by
  obtain ⟨hb, hg⟩ := hw.bound_goaway
  exact ⟨hb.keys_nodup, hb.vals_nodup, fun _ => hb.lt, hb.complete_eq, hb.complete_le,
    fun _ hs => (hb.step hg hs).2.2.1⟩

theorem streams_injective_after_close :
    ∃ w : World Unit Unit, Reachable {} passLib [] [("https://h/a", false, 0)] w ∧
      w.session.closed = [1] ∧ w.client.complete = 1 ∧
      (w.client.streams.map Prod.fst).Nodup ∧ (w.client.streams.map Prod.snd).Nodup ∧
      (∀ p ∈ w.client.streams, p.2 < w.client.reqvec.length) ∧
      w.client.complete = (w.client.streams.filter fun p => p.1 ∈ w.session.closed).length ∧
      w.client.complete ≤ w.client.reqvec.length ∧
      ∀ w', Step {} passLib [] w w' → w.client.complete ≤ w'.client.complete := by
  obtain ⟨w, hw, -, hcl, hc, -⟩ := one_request_completes
  exact ⟨w, hw, hcl, hc, streams_injective_complete_counts_closed {} passLib [] _ w hw⟩

/-- In every run each request of `reqvec` is submitted exactly once, in index order. -/
theorem submissions_are_reqvec_in_order (w : World H I) (hw : Reachable cfg L file requests w) :
    w.session.submitted.map Submission.req = List.range w.client.reqvec.length :=
  hw.bound_goaway.1.submitted

theorem submissions_in_order_after_close :
    ∃ w : World Unit Unit, Reachable {} passLib [] [("https://h/a", false, 0)] w ∧
      w.session.closed = [1] ∧ w.client.complete = 1 ∧
      w.session.submitted.map Submission.req = List.range w.client.reqvec.length := by
  obtain ⟨w, hw, -, hcl, hc, -⟩ := one_request_completes
  exact ⟨w, hw, hcl, hc, submissions_are_reqvec_in_order {} passLib [] _ w hw⟩

/-- GOAWAY is submitted at most once, exactly when every request of a non-empty `reqvec` is
complete; then each is bound to a closed stream, and nothing is admitted or submitted again. -/
theorem goaway_once_when_all_complete (w : World H I) (hw : Reachable cfg L file requests w) :
    w.session.goaway ≤ 1 ∧
      (w.session.goaway = 1 ↔
        w.client.complete = w.client.reqvec.length ∧ 0 < w.client.reqvec.length) ∧
      (w.session.goaway = 1 → ∀ i < w.client.reqvec.length,
        ∃ sid, (sid, i) ∈ w.client.streams ∧ sid ∈ w.session.closed) ∧
      (w.session.goaway = 1 → ∀ w', Relation.ReflTransGen (Step cfg L file) w w' →
        w'.client.reqvec.length = w.client.reqvec.length ∧ w'.session.goaway = 1) := by
  obtain ⟨hb, hg⟩ := hw.bound_goaway
  refine ⟨hg.le_one, hg.eq_one_iff, fun h => hb.all_closed (hg.eq_one_iff.1 h).1,
    fun h w' hr => ?_⟩
  induction hr with
  | refl => exact ⟨rfl, h⟩
  | @tail b c hr hs ih =>
    obtain ⟨hl, h1⟩ := ih
    obtain ⟨hb', hg'⟩ := Reachable.bound_goaway (hw.trans hr : Reachable cfg L file requests b)
    obtain ⟨hb'', hg'', hc, hgrow⟩ := hb'.step hg' hs
    obtain ⟨hcb, hpos⟩ := hg'.eq_one_iff.1 h1
    have hlen : c.client.reqvec.length = b.client.reqvec.length := hgrow.resolve_right (by omega)
    have := hb''.complete_le
    exact ⟨hlen.trans hl, hg''.eq_one_iff.2 ⟨by omega, by omega⟩⟩

theorem goaway_once_after_close :
    ∃ w : World Unit Unit, Reachable {} passLib [] [("https://h/a", false, 0)] w ∧
      w.session.closed = [1] ∧ w.session.goaway = 1 ∧
      w.session.goaway ≤ 1 ∧
      (w.session.goaway = 1 ↔
        w.client.complete = w.client.reqvec.length ∧ 0 < w.client.reqvec.length) ∧
      (w.session.goaway = 1 → ∀ i < w.client.reqvec.length,
        ∃ sid, (sid, i) ∈ w.client.streams ∧ sid ∈ w.session.closed) ∧
      (w.session.goaway = 1 → ∀ w', Relation.ReflTransGen (Step {} passLib []) w w' →
        w'.client.reqvec.length = w.client.reqvec.length ∧ w'.session.goaway = 1) := by
  obtain ⟨w, hw, -, hcl, hc, hl⟩ := one_request_completes
  have h := goaway_once_when_all_complete {} passLib [] _ w hw
  exact ⟨w, hw, hcl, h.2.1.2 ⟨hc.trans hl.symm, by omega⟩, h⟩

/-- With `-m 0` the admission loop of `communicate` admits nothing: in every world of the
session `reqvec` is empty, so `complete == reqvec.size()`, while no GOAWAY is ever submitted. -/
theorem goaway_missing_without_requests :
    Reachable { multiply := 0 } passLib [] [("https://h/a", false, 0)]
        (sessionStart { multiply := 0 } passLib [("https://h/a", false, 0)]) ∧
      ∀ (file : List UInt8) (w : World Unit Unit),
        Reachable { multiply := 0 } passLib file [("https://h/a", false, 0)] w →
          w.client.reqvec = [] ∧ w.client.complete = w.client.reqvec.length ∧
            w.session.goaway = 0 := by
  refine ⟨.refl, fun file w hw => ?_⟩
  obtain ⟨hr, hc, hg⟩ := hw.reqvec_nil_of_multiply_nonpos (by decide)
  rw [hr, hc]
  exact ⟨rfl, rfl, hg⟩

end laws

end nghttp2
