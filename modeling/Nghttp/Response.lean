-- What the client does with a response: `check_response_header` reads the reply headers
-- into the request, and the `while(len > 0)` loop of `on_data_chunk_recv_callback` feeds
-- each DATA chunk through the inflater, moving only by what it consumes.
import Nghttp.Effects

namespace nghttp2

open nghttp2_frame_type nghttp2_headers_category

variable {H I : Type}

/-! ## A session with one reply -/

/-- The session for `https://h/a` once its request went out on stream 1 and the reply
HEADERS `nva` came back. -/
def replied (cfg : Config) (L : Lib H I) (nva : List (String × String)) : World H I :=
  let w0 := sessionStart cfg L [("https://h/a", false, 0)]
  check_response_header cfg L
    ((on_frame_send_callback2 (w0.openStream 1 0)
      ⟨.NGHTTP2_HEADERS, 1, .NGHTTP2_HCAT_START_STREAM, []⟩).getD w0)
    ⟨.NGHTTP2_HEADERS, 1, .NGHTTP2_HCAT_REPLY, nva⟩

/-- With each URI requested once, the engine can open the request's stream and deliver the
reply. -/
theorem replied_reachable (cfg : Config) (L : Lib H I) (nva : List (String × String))
    (hm : cfg.multiply = 1) : Reachable cfg L [] [("https://h/a", false, 0)] (replied cfg L nva) := by
  set w0 := sessionStart cfg L [("https://h/a", false, 0)] with hw0
  have hs : w0.session.queue = [0] ∧ w0.session.stream_user_data = [] ∧ w0.session.closed = [] := by
    simp [hw0, sessionStart, submitAll_eq, nghttp2_session.new, addRequests, addRequestTimes,
      add_request, hm, update_hostport_reqvec, HttpClient.new, List.range_succ]
  set w1 := (on_frame_send_callback2 (w0.openStream 1 0)
    ⟨.NGHTTP2_HEADERS, 1, .NGHTTP2_HCAT_START_STREAM, []⟩).getD w0 with hw1
  have h1 : Step cfg L [] w0 w1 :=
    @Step.headers_sent H I cfg L [] w0 w1 1 0 [] (by simp [hs.1]) (by simp [hs.2.1])
      (by simp [hs.2.2]) rfl
  have h2 : Step cfg L [] w1 (replied cfg L nva) :=
    @Step.frame_recv H I cfg L [] w1 _ ⟨.NGHTTP2_HEADERS, 1, .NGHTTP2_HCAT_REPLY, nva⟩
      (by simp [hw1, on_frame_send_callback2, check_stream_id, World.openStream, mapAssign, hs.2.2])
      rfl
  exact .tail (.single h1) h2

/-! ## The reply header block -/

/-- The value of the last field of a header block whose name is `name` up to case. -/
def lastField (nva : List (String × String)) (name : String) : Option String :=
  ((nva.filter fun f => strieq f.1 name).getLast?).map Prod.snd

theorem strieq_comm (a b : String) : strieq a b = strieq b a := by
  simp only [strieq, Bool.beq_comm]

theorem lastField_append_single (nva : List (String × String)) (f : String × String)
    (name : String) :
    lastField (nva ++ [f]) name = if strieq f.1 name then some f.2 else lastField nva name := by
  unfold lastField
  by_cases h : strieq f.1 name = true <;> simp [List.filter_append, h]

/-- The scan of `check_response_header` over a whole block: `gzip` is set by the last
`content-encoding` field, and the status is the value of the last `:status` field. -/
theorem foldl_scanResponseHeader (nva : List (String × String)) (g : Bool) (st : String) :
    nva.foldl scanResponseHeader (g, st) =
      ((lastField nva "content-encoding").elim g fun v => strieq "gzip" v || strieq "deflate" v,
        (lastField nva ":status").getD st) := by
  induction nva using List.reverseRecOn with
  | nil => rfl
  | append_singleton nva f ih =>
    rw [List.foldl_append, ih, List.foldl_cons, List.foldl_nil, lastField_append_single,
      lastField_append_single, scanResponseHeader, strieq_comm _ f.1, strieq_comm _ f.1]
    by_cases hc : strieq f.1 "content-encoding" = true
    · have hs : strieq f.1 ":status" = false := by
        rw [strieq_eq_of_strieq hc]; decide
      simp [hc, hs]
    · by_cases hs : strieq f.1 ":status" = true <;> simp [hc, hs]

section reply

variable (cfg : Config) (L : Lib H I) (w : World H I) (sid i : Nat) (req : Request H I)
  (nva : List (String × String))

/-- A reply HEADERS takes the last `:status`, attaches an inflater for a last
`content-encoding` of gzip or deflate and a link extractor as `-a` asks, replacing nothing. -/
theorem check_response_header_reply (hs : w.session.stream_user_data.lookup sid = some i)
    (hi : w.client.reqvec[i]? = some req) :
    ∃ req', check_response_header cfg L w ⟨.NGHTTP2_HEADERS, sid, .NGHTTP2_HCAT_REPLY, nva⟩ =
        w.setReq i req' ∧ req'.ident = req.ident ∧
      req'.status = (lastField nva ":status").getD req.status ∧
      req'.inflater = (if req.inflater.isNone ∧ (lastField nva "content-encoding").elim false
          fun v => strieq "gzip" v || strieq "deflate" v
        then some L.nghttp2_gzip_inflate_new else req.inflater) ∧
      req'.htmlparser = (if req.htmlparser.isNone ∧ cfg.get_assets = true ∧ req.level = 0
        then some (L.htmlparser_new req.uri) else req.htmlparser) := by
  simp only [check_response_header, and_self, if_true, hs, hi, foldl_scanResponseHeader]
  refine ⟨_, rfl, ?_, ?_, ?_, ?_⟩ <;> split_ifs <;> first | rfl | simp_all

end reply

/-- The first reply of a session for `https://h/a`, with status 200 and gzip: the request gets
the status and an inflater. -/
theorem check_response_header_reply_gzip :
    let w0 := sessionStart {} passLib [("https://h/a", false, 0)]
    let w1 := (on_frame_send_callback2 (w0.openStream 1 0)
      ⟨.NGHTTP2_HEADERS, 1, .NGHTTP2_HCAT_START_STREAM, []⟩).getD w0
    w1.session.stream_user_data.lookup 1 = some 0 ∧ ∃ req, w1.client.reqvec[0]? = some req ∧
      ∃ req', check_response_header {} passLib w1 ⟨.NGHTTP2_HEADERS, 1, .NGHTTP2_HCAT_REPLY,
          [(":status", "200"), ("content-encoding", "gzip")]⟩ = w1.setReq 0 req' ∧
        req'.status = "200" ∧ req'.inflater = some () := by
  intro w0 w1
  have hs : w1.session.stream_user_data.lookup 1 = some 0 := by decide
  refine ⟨hs, _, rfl, ?_⟩
  obtain ⟨req', h, -, hst, hinf, -⟩ := check_response_header_reply {} passLib w1 1 0 _
    [(":status", "200"), ("content-encoding", "gzip")] hs rfl
  exact ⟨req', h, hst.trans rfl, hinf.trans rfl⟩

/-- A reply header block that repeats `:status` and `content-encoding`. -/
def repeatedFields : List (String × String) :=
  [(":status", "200"), (":status", "404"), ("content-encoding", "gzip"),
    ("content-encoding", "identity")]

/-- A reply repeating `:status` and `content-encoding` keeps the last of each, so no inflater
for an earlier `gzip`; a second reply HEADERS overwrites the status. -/
theorem reply_header_block_last_field_wins :
    Reachable {} passLib [] [("https://h/a", false, 0)]
        (check_response_header {} passLib (replied {} passLib repeatedFields)
          ⟨.NGHTTP2_HEADERS, 1, .NGHTTP2_HCAT_REPLY, [(":status", "500")]⟩) ∧
      (replied {} passLib repeatedFields).client.reqvec[0]?.map Request.status = some "404" ∧
      ((replied {} passLib repeatedFields).client.reqvec[0]?.bind Request.inflater).isNone ∧
      (check_response_header {} passLib (replied {} passLib repeatedFields)
          ⟨.NGHTTP2_HEADERS, 1, .NGHTTP2_HCAT_REPLY, [(":status", "500")]⟩).client.reqvec[0]?.map
        Request.status = some "500" :=
  ⟨.tail (replied_reachable {} passLib repeatedFields rfl)
      (Step.frame_recv (f := ⟨.NGHTTP2_HEADERS, 1, .NGHTTP2_HCAT_REPLY, [(":status", "500")]⟩)
        (by decide) rfl),
    by decide, by decide, by decide⟩

/-! ## What the loop feeds the inflater -/

/-- The inflater's calls over what is left of a chunk, each consuming `tlen` bytes and writing
`out`, ending once nothing is left (`true`) or at a failure (`false`). -/
inductive Inflates (L : Lib H I) :
    I → List UInt8 → I → List (List UInt8) → List (List UInt8) → Bool → Prop
  | done (inf : I) : Inflates L inf [] inf [] [] true
  | fail {inf : I} {data : List UInt8} : data ≠ [] → L.nghttp2_gzip_inflate inf data = none →
      Inflates L inf data inf [] [] false
  | call {inf inf' inf'' : I} {data out : List UInt8} {tlen : Nat}
      {slices outs : List (List UInt8)} {ok : Bool} :
      data ≠ [] → L.nghttp2_gzip_inflate inf data = some (inf', tlen, out) →
      Inflates L inf' (data.drop tlen) inf'' slices outs ok →
      Inflates L inf data inf'' (data.take tlen :: slices) (out :: outs) ok

theorem Inflates.slices_join {L : Lib H I} {inf inf' : I} {data : List UInt8}
    {slices outs : List (List UInt8)} (h : Inflates L inf data inf' slices outs true) :
    slices.flatten = data := by
  generalize hok : true = ok at h
  induction h with
  | done => rfl
  | fail => cases hok
  | call _ _ _ ih => rw [List.flatten_cons, ih hok, List.take_append_drop]

/-- One turn of the link extractor per call of the inflater: the output parsed, the links
cleared. -/
def feedHtmlParser (L : Lib H I) (hp : H) (outs : List (List UInt8)) : H :=
  outs.foldl (fun hp out => L.clear_links (L.parse_chunk hp out false)) hp

section feed

variable {cfg : Config} {L : Lib H I} {sid i : Nat}

/-- The `while(len > 0)` loop's calls are a run of `Inflates`, whose outputs standard output
and the link extractor get in order. -/
theorem inflateLoop_inflates :
    ∀ fuel (w w' : World H I) (req : Request H I) (inf : I) (data : List UInt8),
      w.client.reqvec[i]? = some req → req.inflater = some inf →
      inflateLoop cfg L sid i fuel w data = some w' →
      ∃ inf' slices outs ok, Inflates L inf data inf' slices outs ok ∧
        w'.stdout = w.stdout ++ (if cfg.null_out then [] else outs.flatten) ∧
        w'.client.reqvec[i]?.map (fun r => (r.inflater, r.htmlparser)) =
          some (some inf', req.htmlparser.map fun hp => feedHtmlParser L hp outs)
  | 0, _, _, _, _, _, _, _, h => by simp [inflateLoop] at h
  | fuel + 1, w, w', req, inf, data, hi, hf, h => by
    unfold inflateLoop at h
    split at h
    · rename_i he
      cases h
      refine ⟨inf, [], [], true, List.isEmpty_iff.1 he ▸ .done inf, by simp, ?_⟩
      simp [hi, hf, feedHtmlParser]
    rename_i he
    have hd : data ≠ [] := fun e => he (by simp [e])
    simp only [hi, hf] at h
    rcases hz : L.nghttp2_gzip_inflate inf data with _ | ⟨inf1, tlen, out⟩ <;>
      simp only [hz] at h
    · cases h
      refine ⟨inf, [], [], false, .fail hd hz, by simp, ?_⟩
      simp [hi, hf, feedHtmlParser]
    have hi1 : (w.setReq i { req with inflater := some inf1 }).client.reqvec[i]? =
        some { req with inflater := some inf1 } := by
      rw [World.setReq_reqvec, List.getElem?_set_self (List.getElem?_eq_some_iff.1 hi).1]
    set w1 := w.setReq i { req with inflater := some inf1 }
    set w2 := if cfg.null_out then w1 else { w1 with stdout := w1.stdout ++ out } with hw2
    have h2 : w2.client.reqvec[i]? = some { req with inflater := some inf1 } ∧
        w2.stdout = w.stdout ++ (if cfg.null_out then [] else out) := by
      rw [hw2]; split <;> rename_i hn <;> exact ⟨hi1, by simp [hn, w1]⟩
    let step := fun hp => L.clear_links (L.parse_chunk hp out false)
    obtain ⟨inf', slices, outs, ok, hrun, hout, hreq⟩ :=
      inflateLoop_inflates fuel _ w'
        { req with inflater := some inf1, htmlparser := req.htmlparser.map step } inf1 _
        (by rw [update_htmlparser_getElem, h2.1]; rfl) rfl h
    refine ⟨inf', _, out :: outs, ok, .call hd hz hrun, ?_, ?_⟩
    · rw [hout, update_htmlparser_stdout, h2.2]
      split <;> simp
    · rw [hreq]
      cases req.htmlparser <;> rfl

/-- The loop stops once the chunk is consumed, whatever the inflater still holds: a first
call that consumes the whole chunk is the only one. -/
theorem inflateLoop_consumed {w : World H I} {req : Request H I} {inf inf' : I}
    {data out : List UInt8} (hi : w.client.reqvec[i]? = some req) (hf : req.inflater = some inf)
    (hd : data ≠ []) (hz : L.nghttp2_gzip_inflate inf data = some (inf', data.length, out))
    (fuel : Nat) :
    ∃ w', inflateLoop cfg L sid i (fuel + 2) w data = some w' ∧
      w'.stdout = w.stdout ++ (if cfg.null_out then [] else out) ∧
      w'.client.reqvec[i]?.bind Request.inflater = some inf' := by
  have hne : data.isEmpty = false := by
    cases data with
    | nil => exact absurd rfl hd
    | cons => rfl
  have hlt := (List.getElem?_eq_some_iff.1 hi).1
  simp only [inflateLoop, hne, Bool.false_eq_true, if_false, hi, hf, hz, List.drop_length,
    List.isEmpty_nil, if_true]
  refine ⟨_, rfl, ?_, ?_⟩
  · rw [update_htmlparser_stdout]
    split <;> simp
  · rw [update_htmlparser_getElem]
    split <;> simp [List.getElem?_set_self hlt]

/-- A DATA chunk goes through the inflater's calls, which without a failure consume it once
in order, and their outputs go to standard output and the extractor; else the chunk itself. -/
theorem data_chunk_feeds_inflater {fuel : Nat} {w w' : World H I} {req : Request H I}
    {data : List UInt8} (hs : w.client.streams.lookup sid = some i)
    (hi : w.client.reqvec[i]? = some req)
    (h : on_data_chunk_recv_callback cfg L fuel w sid data = some w') :
    (∀ inf, req.inflater = some inf → ∃ inf' slices outs ok,
      Inflates L inf data inf' slices outs ok ∧ (ok = true → slices.flatten = data) ∧
      w'.stdout = w.stdout ++ (if cfg.null_out then [] else outs.flatten) ∧
      w'.client.reqvec[i]?.map (fun r => (r.inflater, r.htmlparser)) =
        some (some inf', req.htmlparser.map fun hp => feedHtmlParser L hp outs)) ∧
    (req.inflater = none →
      w'.stdout = w.stdout ++ (if cfg.null_out then [] else data) ∧
      w'.client.reqvec[i]?.map (fun r => (r.inflater, r.htmlparser)) =
        some (none, req.htmlparser.map fun hp => feedHtmlParser L hp [data])) := by
  refine ⟨fun inf hf => ?_, fun hf => ?_⟩
  · simp only [on_data_chunk_recv_callback, hs, hi, hf] at h
    obtain ⟨inf', slices, outs, ok, hrun, hout, hreq⟩ :=
      inflateLoop_inflates fuel w w' req inf data hi hf h
    refine ⟨inf', slices, outs, ok, hrun, fun hok => ?_, hout, hreq⟩
    subst hok
    exact hrun.slices_join
  · simp only [on_data_chunk_recv_callback, hs, hi, hf, Option.some.injEq] at h
    subst h
    refine ⟨?_, ?_⟩
    · rw [update_htmlparser_stdout]
      split <;> simp
    · rw [update_htmlparser_getElem]
      have hi' : (if cfg.null_out then w else { w with stdout := w.stdout ++ data }).client.reqvec[i]? =
          some req := by
        split <;> exact hi
      rw [hi']
      cases hp : req.htmlparser <;> simp [hf, hp, feedHtmlParser]

end feed

/-- A gzip-encoded reply through the pass-through inflater: the chunk `[1, 2]` is consumed by
one call, and standard output gets it. -/
theorem data_chunk_feeds_inflater_pass :
    let w2 := replied {} passLib [("content-encoding", "gzip")]
    let w3 := (on_data_chunk_recv_callback {} passLib 3 w2 1 [1, 2]).getD w2
    w2.client.streams.lookup 1 = some 0 ∧ ∃ req, w2.client.reqvec[0]? = some req ∧
      on_data_chunk_recv_callback {} passLib 3 w2 1 [1, 2] = some w3 ∧ req.inflater = some () ∧
      ∃ inf' slices outs ok, Inflates passLib () [1, 2] inf' slices outs ok ∧
        (ok = true → slices.flatten = [1, 2]) ∧
        w3.stdout = w2.stdout ++ (if ({} : Config).null_out then [] else outs.flatten) ∧
        w3.client.reqvec[0]?.map (fun r => (r.inflater, r.htmlparser)) =
          some (some inf', req.htmlparser.map fun hp => feedHtmlParser passLib hp outs) := by
  intro w2 w3
  have hs : w2.client.streams.lookup 1 = some 0 := by decide
  obtain ⟨req, hi, hf⟩ : ∃ req, w2.client.reqvec[0]? = some req ∧ req.inflater = some () :=
    ⟨_, rfl, rfl⟩
  have h : on_data_chunk_recv_callback {} passLib 3 w2 1 [1, 2] = some w3 := rfl
  exact ⟨hs, req, hi, h, hf, (data_chunk_feeds_inflater hs hi h).1 () hf⟩

/-! ## Output left in the inflater -/

/-- Modelled from zlib's contract: an inflater that keeps the output past its 4096-byte buffer;
each input byte stands for 4097 copies of itself. -/
def holdLib : Lib Unit (List UInt8) where
  http_parser_parse_url := parseUrl
  nghttp2_gzip_inflate_new := []
  nghttp2_gzip_inflate := fun held d =>
    let all := held ++ d.flatMap fun b => List.replicate 4097 b
    some (all.drop 4096, d.length, all.take 4096)
  htmlparser_new := fun _ => ()
  parse_chunk := fun _ _ _ => ()
  get_links := fun _ => []
  clear_links := id
  NGHTTP2_VERSION := "0.1.0"
  NGHTTP2_PROTO_VERSION_ID := "HTTP-draft-04/2.0"

theorem holdLib_inflate_byte (b : UInt8) :
    holdLib.nghttp2_gzip_inflate [] [b] = some ([b], 1, List.replicate 4096 b) := by
  simp only [holdLib, List.nil_append, List.flatMap_cons, List.flatMap_nil, List.append_nil,
    List.drop_replicate, List.take_replicate]
  rfl

/-- A one-byte chunk that decodes to 4097 bytes: the loop ends with the last byte still in the
inflater, never written to standard output. -/
theorem decoded_output_left_in_inflater :
    ∃ w3, on_data_chunk_recv_callback {} holdLib 2
        (replied {} holdLib [("content-encoding", "gzip")]) 1 [7] = some w3 ∧
      Reachable {} holdLib [] [("https://h/a", false, 0)] w3 ∧
      w3.stdout = List.replicate 4096 7 ∧ w3.client.reqvec[0]?.bind Request.inflater = some [7] := by
  set w2 := replied ({} : Config) holdLib [("content-encoding", "gzip")]
  have hs : w2.client.streams.lookup 1 = some 0 := by decide
  obtain ⟨req, hi, hf⟩ : ∃ req, w2.client.reqvec[0]? = some req ∧ req.inflater = some [] :=
    ⟨_, rfl, rfl⟩
  obtain ⟨w3, h, hout, hinf⟩ : ∃ w3, inflateLoop {} holdLib 1 0 (0 + 2) w2 [7] = some w3 ∧
      w3.stdout = w2.stdout ++ (if ({} : Config).null_out then [] else List.replicate 4096 7) ∧
      w3.client.reqvec[0]?.bind Request.inflater = some [7] :=
    inflateLoop_consumed hi hf (by decide) (holdLib_inflate_byte 7) 0
  have h' : on_data_chunk_recv_callback {} holdLib 2 w2 1 [7] = some w3 := by
    simp only [on_data_chunk_recv_callback, hs, hi, hf]; exact h
  refine ⟨w3, h', .tail (replied_reachable {} holdLib _ rfl) (.data_chunk_recv (by decide) h'),
    ?_, hinf⟩
  rw [hout]
  rfl

/-! ## An inflater that consumes nothing -/

section spin

variable (cfg : Config) (L : Lib H I) (sid i : Nat)

/-- An inflater that reports success on what is left of the chunk without consuming any of
it, and stays as it was, keeps the `while(len > 0)` loop turning: no fuel is enough. -/
theorem inflateLoop_spins {inf : I} {data out : List UInt8} (hd : data ≠ [])
    (hz : L.nghttp2_gzip_inflate inf data = some (inf, 0, out)) :
    ∀ fuel (w : World H I) (req : Request H I), w.client.reqvec[i]? = some req →
      req.inflater = some inf → inflateLoop cfg L sid i fuel w data = none
  | 0, _, _, _, _ => rfl
  | fuel + 1, w, req, hi, hf => by
    have hne : data.isEmpty = false := by
      cases data with
      | nil => exact absurd rfl hd
      | cons => rfl
    simp only [inflateLoop, hne, Bool.false_eq_true, if_false, hi, hf, hz, List.drop_zero]
    have hi1 : (w.setReq i { req with inflater := some inf }).client.reqvec[i]? =
        some { req with inflater := some inf } := by
      rw [World.setReq_reqvec, List.getElem?_set_self (List.getElem?_eq_some_iff.1 hi).1]
    generalize hw2 : (if cfg.null_out then _ else _) = w2
    have hi2 : w2.client.reqvec[i]? = some { req with inflater := some inf } := by
      subst hw2; split <;> exact hi1
    apply inflateLoop_spins hd hz fuel
    · rw [update_htmlparser_getElem, hi2]; rfl
    · rfl

/-- The DATA callback on a stream whose inflater consumes none of the chunk never returns. -/
theorem data_chunk_loop_never_ends (w : World H I) (req : Request H I) {inf : I}
    {data out : List UInt8} (hs : w.client.streams.lookup sid = some i)
    (hi : w.client.reqvec[i]? = some req) (hf : req.inflater = some inf) (hd : data ≠ [])
    (hz : L.nghttp2_gzip_inflate inf data = some (inf, 0, out)) (fuel : Nat) :
    on_data_chunk_recv_callback cfg L fuel w sid data = none := by
  simp only [on_data_chunk_recv_callback, hs, hi, hf]
  exact inflateLoop_spins cfg L sid i hd hz fuel w req hi hf

end spin

/-- An inflater over a one-byte gzip member: later calls, on bytes past the member, succeed and
consume nothing, as `inflate` does after `Z_STREAM_END`. -/
def trailingLib : Lib Unit Bool where
  http_parser_parse_url := parseUrl
  nghttp2_gzip_inflate_new := false
  nghttp2_gzip_inflate := fun ended d =>
    if ended then some (true, 0, []) else some (true, 1, d.take 1)
  htmlparser_new := fun _ => ()
  parse_chunk := fun _ _ _ => ()
  get_links := fun _ => []
  clear_links := id
  NGHTTP2_VERSION := "0.1.0"
  NGHTTP2_PROTO_VERSION_ID := "HTTP-draft-04/2.0"

/-- A session for `https://h/a` whose reply is gzip-encoded: the first DATA chunk holds the
whole member, and the second chunk, of one trailing byte, is never done with. -/
theorem data_chunk_loop_never_ends_after_member :
    let w2 := replied {} trailingLib [("content-encoding", "gzip")]
    let w3 := (on_data_chunk_recv_callback {} trailingLib 2 w2 1 [31]).getD w2
    Reachable {} trailingLib [] [("https://h/a", false, 0)] w3 ∧
      ∃ req, w3.client.streams.lookup 1 = some 0 ∧ w3.client.reqvec[0]? = some req ∧
        req.inflater = some true ∧ ([0] : List UInt8) ≠ [] ∧
        trailingLib.nghttp2_gzip_inflate true [0] = some (true, 0, []) ∧
        ∀ fuel, on_data_chunk_recv_callback {} trailingLib fuel w3 1 [0] = none := by
  intro w2 w3
  have h3 : Step {} trailingLib [] w2 w3 :=
    @Step.data_chunk_recv Unit Bool {} trailingLib [] w2 w3 1 2 [31] (by decide) rfl
  refine ⟨.tail (replied_reachable {} trailingLib _ rfl) h3, _, by decide, rfl, rfl, by decide,
    rfl, data_chunk_loop_never_ends {} trailingLib 1 0 w3 _ (by decide) rfl rfl (by decide) rfl⟩

end nghttp2
