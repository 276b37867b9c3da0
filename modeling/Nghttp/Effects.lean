-- What each callback does to the registry, said once: a turn of the link
-- loop appends at most one request and submits it; every other change a
-- callback makes leaves each request where it was, its identity unchanged.
import Nghttp.Session

namespace nghttp2

open http_parser_url_fields

variable {H I : Type}

/-- What the callbacks never change of a request: all but its inflater, its link extractor
and its status. -/
def Request.ident (r : Request H I) : String × http_parser_url × Bool × Nat × Nat × Nat :=
  (r.uri, r.u, r.data_prd, r.data_length, r.data_offset, r.level)

/-! ## Small lemmas of the updates -/

section updates

variable (w : World H I) (i : Nat) (r : Request H I)

@[simp] theorem World.setReq_reqvec : (w.setReq i r).client.reqvec = w.client.reqvec.set i r :=
  rfl
@[simp] theorem World.setReq_streams : (w.setReq i r).client.streams = w.client.streams := rfl
@[simp] theorem World.setReq_complete : (w.setReq i r).client.complete = w.client.complete :=
  rfl
@[simp] theorem World.setReq_path_cache :
    (w.setReq i r).client.path_cache = w.client.path_cache := rfl
@[simp] theorem World.setReq_session : (w.setReq i r).session = w.session := rfl
@[simp] theorem World.setReq_stdout : (w.setReq i r).stdout = w.stdout := rfl

variable (cfg : Config) (L : Lib H I)

@[simp] theorem submit_request_client : (submit_request cfg L w i r).client = w.client := rfl
@[simp] theorem submit_request_stdout : (submit_request cfg L w i r).stdout = w.stdout := rfl
@[simp] theorem submit_request_queue :
    (submit_request cfg L w i r).session.queue = w.session.queue ++ [i] := rfl
@[simp] theorem submit_request_submitted_req :
    (submit_request cfg L w i r).session.submitted.map Submission.req =
      w.session.submitted.map Submission.req ++ [i] := by
  simp [submit_request]
@[simp] theorem submit_request_stream_user_data :
    (submit_request cfg L w i r).session.stream_user_data = w.session.stream_user_data := rfl
@[simp] theorem submit_request_closed :
    (submit_request cfg L w i r).session.closed = w.session.closed := rfl
@[simp] theorem submit_request_goaway :
    (submit_request cfg L w i r).session.goaway = w.session.goaway := rfl
@[simp] theorem submit_request_data_sent :
    (submit_request cfg L w i r).session.data_sent = w.session.data_sent := rfl
@[simp] theorem submit_request_data_eof :
    (submit_request cfg L w i r).session.data_eof = w.session.data_eof := rfl

theorem foldl_submit_request (l : List (Nat × Request H I)) :
    l.foldl (fun w p => submit_request cfg L w p.1 p.2) w =
      { w with session := { w.session with
          submitted := w.session.submitted ++
            l.map fun p => ⟨p.1, submitNv L cfg.headers p.2 w.client.hostport⟩
          queue := w.session.queue ++ l.map Prod.fst } } := by
  induction l generalizing w with
  | nil => simp
  | cons p l ih => rw [List.foldl_cons, ih]; simp [submit_request]

theorem submitAll_eq : submitAll cfg L w =
    { w with session := { w.session with
        submitted := w.session.submitted ++ w.client.reqvec.enum.map fun p =>
          ⟨p.1, submitNv L cfg.headers p.2 w.client.hostport⟩
        queue := w.session.queue ++ List.range w.client.reqvec.length } } := by
  rw [submitAll, foldl_submit_request, List.enum_map_fst]

end updates

/-! ## The link loop -/

section links

variable (cfg : Config) (L : Lib H I)

theorem updateHtmlParserLink_cases (req : Request H I) (w : World H I) (raw_uri : String) :
    updateHtmlParserLink cfg L req w raw_uri = w ∨
      ∃ u, L.http_parser_parse_url (strip_fragment raw_uri) = some u ∧
        fieldeq u req.u UF_SCHEMA = true ∧ fieldeq u req.u UF_HOST = true ∧
        porteq u req.u = true ∧ strip_fragment raw_uri ∉ w.client.path_cache ∧
        updateHtmlParserLink cfg L req w raw_uri =
          submit_request cfg L
            { w with client :=
                (add_request cfg L w.client (strip_fragment raw_uri) false 0 (req.level + 1)).2 }
            w.client.reqvec.length
            (Request.new (strip_fragment raw_uri) u false 0 (req.level + 1)) := by
  rcases hu : L.http_parser_parse_url (strip_fragment raw_uri) with _ | u
  · left; simp [updateHtmlParserLink, hu]
  by_cases hf : (fieldeq u req.u UF_SCHEMA && fieldeq u req.u UF_HOST && porteq u req.u) = true
  · simp only [Bool.and_eq_true] at hf
    by_cases hc : strip_fragment raw_uri ∈ w.client.path_cache
    · left; simp [updateHtmlParserLink, hu, hf, add_request, hc]
    · right
      refine ⟨u, rfl, hf.1.1, hf.1.2, hf.2, hc, ?_⟩
      simp [updateHtmlParserLink, hu, hf, add_request, hc]
  · left; simp [updateHtmlParserLink, hu, hf]

theorem updateHtmlParserLink_reqvec (req : Request H I) (w : World H I) (raw_uri : String) :
    ∃ news, (updateHtmlParserLink cfg L req w raw_uri).client.reqvec =
      w.client.reqvec ++ news := by
  rcases updateHtmlParserLink_cases cfg L req w raw_uri with h | ⟨u, -, -, -, -, hc, h⟩
  · exact ⟨[], by simp [h]⟩
  · exact ⟨_, by rw [h, submit_request_client, add_request_reqvec, if_neg hc]⟩

end links

/-! ## The other callbacks -/

section frames

variable {cfg : Config} {L : Lib H I} {w w' : World H I} {f : nghttp2_frame}

theorem on_frame_send_callback2_cases (h : on_frame_send_callback2 w f = some w') :
    w' = w ∨ ∃ i, w' = { w with client := { w.client with
      streams := mapAssign w.client.streams f.stream_id i } } := by
  unfold on_frame_send_callback2 check_stream_id at h
  split at h
  · split at h
    · exact .inr ⟨_, (Option.some.inj h).symm⟩
    · cases h
  · exact .inl (Option.some.inj h).symm

theorem on_frame_recv_callback2_eq (h : on_frame_recv_callback2 cfg L w f = some w') :
    w' = check_response_header cfg L w f := by
  unfold on_frame_recv_callback2 at h
  split at h
  · split at h
    · exact (Option.some.inj h).symm
    · cases h
  · exact (Option.some.inj h).symm

end frames

/-! ## Streams the client did not open -/

section foreign

variable (cfg : Config) (L : Lib H I) (w : World H I) (sid : Nat)

end foreign

theorem check_response_header_cases (cfg : Config) (L : Lib H I) (w : World H I)
    (f : nghttp2_frame) :
    check_response_header cfg L w f = w ∨ ∃ i r r', w.client.reqvec[i]? = some r ∧
      Request.ident r' = r.ident ∧ check_response_header cfg L w f = w.setReq i r' := by
  unfold check_response_header
  split
  · split
    · exact .inl rfl
    split
    · exact .inl rfl
    refine .inr ⟨_, _, _, ‹_›, ?_, rfl⟩
    split_ifs <;> rfl
  · exact .inl rfl

/-! ## Lifting one change to a whole callback -/

/-- A relation kept by every change a callback makes: a request changed in place, a turn of
the link loop, a write to standard output, a stream reset. -/
structure Closed (cfg : Config) (L : Lib H I) (R : World H I → World H I → Prop) : Prop where
  refl : ∀ w, R w w
  trans : ∀ {a b c}, R a b → R b c → R a c
  setReq : ∀ (w : World H I) (j : Nat) (r r' : Request H I), w.client.reqvec[j]? = some r →
    r'.ident = r.ident → R w (w.setReq j r')
  link : ∀ (w : World H I) (req : Request H I) (raw : String) (j : Nat) (r : Request H I),
    w.client.reqvec[j]? = some r → r.ident = req.ident →
    R w (updateHtmlParserLink cfg L req w raw)
  stdout : ∀ w out, R w { w with stdout := out }
  rst : ∀ w l, R w { w with session := { w.session with rst_stream := l } }

section lift

variable {cfg : Config} {L : Lib H I} {R : World H I → World H I → Prop}

theorem foldl_link_rel (hR : Closed cfg L R) (req : Request H I) (links : List String)
    {w : World H I} {j : Nat} {r : Request H I} (hj : w.client.reqvec[j]? = some r)
    (hid : r.ident = req.ident) :
    R w (links.foldl (updateHtmlParserLink cfg L req) w) ∧
      (links.foldl (updateHtmlParserLink cfg L req) w).client.reqvec[j]? = some r := by
  induction links generalizing w with
  | nil => exact ⟨hR.refl w, hj⟩
  | cons raw links ih =>
    obtain ⟨news, hn⟩ := updateHtmlParserLink_reqvec cfg L req w raw
    have hj' : (updateHtmlParserLink cfg L req w raw).client.reqvec[j]? = some r := by
      rw [hn, List.getElem?_append_left (List.getElem?_eq_some_iff.mp hj).1, hj]
    obtain ⟨h1, h2⟩ := ih hj'
    exact ⟨hR.trans (hR.link w req raw j r hj hid) h1, h2⟩

theorem update_htmlparser_rel (hR : Closed cfg L R) (w : World H I) (i : Nat)
    (data : List UInt8) (fin : Bool) : R w (update_htmlparser cfg L w i data fin) := by
  rcases hi : w.client.reqvec[i]? with _ | req
  · simp only [update_htmlparser, hi]; exact hR.refl w
  rcases hp : req.htmlparser with _ | parser
  · simp only [update_htmlparser, hi, hp]; exact hR.refl w
  obtain ⟨h1, h2⟩ := foldl_link_rel hR req (L.get_links (L.parse_chunk parser data fin)) hi rfl
  simp only [update_htmlparser, hi, hp]
  exact hR.trans h1 (hR.setReq _ i req _ h2 rfl)

theorem update_htmlparser_getElem (w : World H I) (i : Nat) (data : List UInt8) (fin : Bool) :
    (update_htmlparser cfg L w i data fin).client.reqvec[i]? =
      w.client.reqvec[i]?.map fun req => { req with
        htmlparser := req.htmlparser.map fun hp => L.clear_links (L.parse_chunk hp data fin) } := by
  have hT : Closed cfg L (fun _ _ : World H I => True) :=
    ⟨fun _ => trivial, fun _ _ => trivial, fun _ _ _ _ _ _ => trivial,
      fun _ _ _ _ _ _ _ => trivial, fun _ _ => trivial, fun _ _ => trivial⟩
  rcases hi : w.client.reqvec[i]? with _ | req
  · simp [update_htmlparser, hi]
  rcases hp : req.htmlparser with _ | parser
  · simp only [update_htmlparser, hi, hp, Option.map_some', Option.map_none']
    rw [← hp]
  have h2 := (foldl_link_rel hT req (L.get_links (L.parse_chunk parser data fin)) hi rfl).2
  simp only [update_htmlparser, hi, hp, Option.map_some']
  rw [World.setReq_reqvec, List.getElem?_set_self (List.getElem?_eq_some_iff.1 h2).1]

theorem update_htmlparser_stdout (w : World H I) (i : Nat) (data : List UInt8) (fin : Bool) :
    (update_htmlparser cfg L w i data fin).stdout = w.stdout := by
  have hlinks : ∀ (req : Request H I) (links : List String) (w : World H I),
      (links.foldl (updateHtmlParserLink cfg L req) w).stdout = w.stdout := by
    intro req links
    induction links with
    | nil => exact fun _ => rfl
    | cons raw links ih =>
      intro w
      rw [List.foldl_cons, ih]
      rcases updateHtmlParserLink_cases cfg L req w raw with h | ⟨u, -, -, -, -, -, h⟩ <;>
        rw [h]
      rfl
  unfold update_htmlparser
  split
  · rfl
  split
  · rfl
  · exact hlinks _ _ _

theorem inflateLoop_rel (hR : Closed cfg L R) (sid i : Nat) :
    ∀ fuel (w w' : World H I) data, inflateLoop cfg L sid i fuel w data = some w' → R w w'
  | 0, _, _, _, h => by simp [inflateLoop] at h
  | fuel + 1, w, w', data, h => by
    unfold inflateLoop at h
    split at h
    · cases h; exact hR.refl w
    rcases hi : w.client.reqvec[i]? with _ | req <;> simp only [hi] at h
    · cases h; exact hR.refl w
    rcases hf : req.inflater with _ | inf <;> simp only [hf] at h
    · cases h; exact hR.refl w
    rcases hz : L.nghttp2_gzip_inflate inf data with _ | ⟨inf', tlen, out⟩ <;> simp only [hz] at h
    · cases h; exact hR.rst w _
    have h1 := hR.setReq w i req { req with inflater := some inf' } hi rfl
    generalize w.setReq i { req with inflater := some inf' } = w1 at h h1
    have h2 : R w1 (if cfg.null_out then w1 else { w1 with stdout := w1.stdout ++ out }) := by
      split
      · exact hR.refl w1
      · exact hR.stdout w1 _
    generalize (if cfg.null_out then w1 else _) = w2 at h h2
    exact hR.trans h1 (hR.trans h2 (hR.trans (update_htmlparser_rel hR w2 i out false)
      (inflateLoop_rel hR sid i fuel _ w' _ h)))

theorem on_data_chunk_recv_callback_rel (hR : Closed cfg L R) {fuel sid : Nat}
    {w w' : World H I} {data : List UInt8}
    (h : on_data_chunk_recv_callback cfg L fuel w sid data = some w') : R w w' := by
  unfold on_data_chunk_recv_callback at h
  rcases hs : w.client.streams.lookup sid with _ | i <;> simp only [hs] at h
  · cases h; exact hR.refl w
  rcases hi : w.client.reqvec[i]? with _ | req <;> simp only [hi] at h
  · cases h; exact hR.refl w
  rcases hf : req.inflater with _ | inf <;> simp only [hf] at h
  · cases h
    have h2 : R w (if cfg.null_out then w else { w with stdout := w.stdout ++ data }) := by
      split
      · exact hR.refl w
      · exact hR.stdout w _
    exact hR.trans h2 (update_htmlparser_rel hR _ i data false)
  · exact inflateLoop_rel hR sid i fuel w w' data h

theorem check_response_header_rel (hR : Closed cfg L R) (w : World H I) (f : nghttp2_frame) :
    R w (check_response_header cfg L w f) := by
  rcases check_response_header_cases cfg L w f with h | ⟨i, r, r', hi, hid, h⟩ <;> rw [h]
  · exact hR.refl w
  · exact hR.setReq w i r r' hi hid

theorem on_stream_close_callback_rel (hR : Closed cfg L R)
    (hcount : ∀ (w : World H I) n g, R w { w with
      client := { w.client with complete := n }, session := { w.session with goaway := g } })
    (w : World H I) (sid : Nat) : R w (on_stream_close_callback cfg L w sid) := by
  unfold on_stream_close_callback
  split
  · exact hR.refl w
  · rename_i i _
    dsimp only
    refine hR.trans (update_htmlparser_rel hR w i [] true) ?_
    split <;> exact hcount _ _ _

end lift

/-! ## The end of the inflate loop -/

section total

variable (cfg : Config) (L : Lib H I)

/-- The `while(len > 0)` loop of `on_data_chunk_recv_callback` ends within one more turn than
there are bytes, when every call of the inflater on input consumes some of it. -/
theorem inflateLoop_isSome
    (hc : ∀ inf d inf' tlen out, d ≠ [] → L.nghttp2_gzip_inflate inf d = some (inf', tlen, out) →
      0 < tlen) (sid i : Nat) :
    ∀ fuel (w : World H I) data, data.length < fuel →
      (inflateLoop cfg L sid i fuel w data).isSome
  | 0, _, _, h => absurd h (Nat.not_lt_zero _)
  | fuel + 1, w, data, h => by
    unfold inflateLoop
    split
    · rfl
    rename_i hne
    have hd : data ≠ [] := fun e => hne (by simp [e])
    split
    · rfl
    split
    · rfl
    split
    · rfl
    rename_i hz
    exact inflateLoop_isSome hc sid i fuel _ _ (by
      have := hc _ _ _ _ _ hd hz
      have := List.length_pos.2 hd
      simp only [List.length_drop]; omega)

/-- `on_data_chunk_recv_callback` returns, when every call of the inflater on input consumes
some of it. -/
theorem on_data_chunk_recv_callback_returns
    (hc : ∀ inf d inf' tlen out, d ≠ [] → L.nghttp2_gzip_inflate inf d = some (inf', tlen, out) →
      0 < tlen) (w : World H I) (sid : Nat) (data : List UInt8) :
    ∃ w', on_data_chunk_recv_callback cfg L (data.length + 1) w sid data = some w' := by
  unfold on_data_chunk_recv_callback
  split
  · exact ⟨_, rfl⟩
  split
  · exact ⟨_, rfl⟩
  split
  · exact Option.isSome_iff_exists.1
      (inflateLoop_isSome cfg L hc sid _ _ w data (Nat.lt_succ_self _))
  · exact ⟨_, rfl⟩

end total

theorem file_read_callback_cases {file : List UInt8} {w w' : World H I} {sid : Nat}
    {r : PreadResult} {ret : Int} {eof : Bool} {buf : List UInt8}
    (h : file_read_callback file w sid r = some (w', ret, eof, buf)) :
    w' = w ∨ ∃ i req n, w.client.reqvec[i]? = some req ∧
      w' = w.setReq i { req with data_offset := n } := by
  unfold file_read_callback at h
  split at h
  · cases h
  split at h
  · cases h
  split at h
  · exact .inl (Prod.mk.inj (Option.some.inj h)).1.symm
  · exact .inl (Prod.mk.inj (Option.some.inj h)).1.symm
  · exact .inr ⟨_, _, _, ‹_›, (Prod.mk.inj (Option.some.inj h)).1.symm⟩

theorem on_data_chunk_recv_callback_returns_pass :
    (∀ inf d inf' tlen out, d ≠ [] → passLib.nghttp2_gzip_inflate inf d = some (inf', tlen, out) →
        0 < tlen) ∧
      ∃ w', on_data_chunk_recv_callback {} passLib 3 (sessionStart {} passLib
        [("https://h/a", false, 0)]) 1 [1, 2] = some w' := by
  have hc : ∀ inf d inf' tlen out, d ≠ [] →
      passLib.nghttp2_gzip_inflate inf d = some (inf', tlen, out) → 0 < tlen := by
    intro _ d _ _ _ hd h
    simp only [passLib, Option.some.injEq, Prod.mk.injEq] at h
    rw [← h.2.1]
    exact List.length_pos.2 hd
  exact ⟨hc, on_data_chunk_recv_callback_returns {} passLib hc _ 1 [1, 2]⟩

/-! ## A run of one request -/

/-- The session of `https://h/a` runs to its end: the engine opens stream 1 for the request
and closes it. -/
theorem one_request_completes :
    ∃ w : World Unit Unit, Reachable {} passLib [] [("https://h/a", false, 0)] w ∧
      w.client.streams = [(1, 0)] ∧ w.session.closed = [1] ∧ w.client.complete = 1 ∧
      w.client.reqvec.length = 1 :=
  ⟨_, .tail (.single (@Step.headers_sent Unit Unit {} passLib [] _ _ 1 0 [] (by decide)
    (by decide) (by decide) rfl)) (@Step.stream_close Unit Unit {} passLib [] _ 1 (by decide)),
    by decide, by decide, by decide, by decide⟩

end nghttp2
