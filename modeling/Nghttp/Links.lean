-- The requests that pages add to a session: every URI a world stores is a URI
-- of the command line or a link, each cut by `strip_fragment`, so none holds
-- a fragment.
import Nghttp.Run
import Nghttp.Response

namespace nghttp2

open http_parser_url_fields

variable {H I : Type}

/-! ## URIs only grow by cut links -/

/-- `w'` keeps the URIs of `w`'s requests in place and appends links cut by
`strip_fragment`. -/
def LinksAppended (w w' : World H I) : Prop :=
  ∃ raws : List String, w'.client.reqvec.map Request.uri =
    w.client.reqvec.map Request.uri ++ raws.map strip_fragment

theorem links_appended_of_eq {w w' : World H I}
    (h : w'.client.reqvec.map Request.uri = w.client.reqvec.map Request.uri) :
    LinksAppended w w' :=
  ⟨[], by simp [h]⟩

theorem links_appended_closed (cfg : Config) (L : Lib H I) :
    Closed cfg L (LinksAppended : World H I → World H I → Prop) where
  refl _ := links_appended_of_eq rfl
  trans := by
    rintro a b c ⟨r1, h1⟩ ⟨r2, h2⟩
    exact ⟨r1 ++ r2, by rw [h2, h1, List.map_append, List.append_assoc]⟩
  setReq w j r r' hj hid := links_appended_of_eq <| by
    simp only [Request.ident, Prod.mk.injEq] at hid
    rw [World.setReq_reqvec, List.map_set, hid.1]
    exact set_self_of_getElem? (by rw [List.getElem?_map, hj]; rfl)
  link w req raw _ _ _ _ := by
    rcases updateHtmlParserLink_cases cfg L req w raw with h | ⟨u, -, -, -, -, hc, h⟩ <;>
      rw [h]
    · exact links_appended_of_eq rfl
    · exact ⟨[raw], by simp [add_request_reqvec, hc, Request.new]⟩
  stdout _ _ := links_appended_of_eq rfl
  rst _ _ := links_appended_of_eq rfl

section run

variable {cfg : Config} {L : Lib H I} {file : List UInt8} {w w' : World H I}

/-- No event of a run changes a stored URI, and the requests an event adds are links cut by
`strip_fragment`. -/
theorem Step.links_appended (h : Step cfg L file w w') : LinksAppended w w' := by
  cases h with
  | headers_sent _ _ _ h =>
    rcases on_frame_send_callback2_cases h with rfl | ⟨_, rfl⟩ <;> exact links_appended_of_eq rfl
  | frame_sent _ h =>
    rcases on_frame_send_callback2_cases h with rfl | ⟨_, rfl⟩ <;> exact links_appended_of_eq rfl
  | frame_recv _ h =>
    rw [on_frame_recv_callback2_eq h]
    exact check_response_header_rel (links_appended_closed cfg L) _ _
  | data_chunk_recv _ h => exact on_data_chunk_recv_callback_rel (links_appended_closed cfg L) h
  | @stream_close sid _ =>
    exact on_stream_close_callback_rel (links_appended_closed cfg L)
      (fun _ _ _ => links_appended_of_eq rfl) (w.closeStream sid) sid
  | data_read _ _ _ _ _ _ h =>
    rcases file_read_callback_cases h with rfl | ⟨i, req, n, hi, rfl⟩
    · exact links_appended_of_eq rfl
    · refine links_appended_of_eq ?_
      show (w.client.reqvec.set i _).map Request.uri = _
      rw [List.map_set]
      exact set_self_of_getElem? (by rw [List.getElem?_map, hi]; rfl)

theorem Reachable.links_appended {requests : List (String × Bool × Nat)}
    (hw : Reachable cfg L file requests w) :
    LinksAppended (sessionStart cfg L requests) w := by
  induction hw with
  | refl => exact (links_appended_closed cfg L).refl _
  | tail _ hs ih => exact (links_appended_closed cfg L).trans ih hs.links_appended

end run

/-! ## The links of one chunk of a page -/

/-- Modelled from the spec: the test a cut link of `parent`'s page passes, that it parses and
has the parent's scheme, host and effective port. -/
def sameOrigin (L : Lib H I) (parent : Request H I) (uri : String) : Bool :=
  match L.http_parser_parse_url uri with
  | some u => fieldeq u parent.u UF_SCHEMA && fieldeq u parent.u UF_HOST && porteq u parent.u
  | none => false

/-- The request admitted for the cut link `uri` of `parent`'s page: one level below the
parent, with no upload. -/
def linkRequest (L : Lib H I) (parent : Request H I) (uri : String) : Request H I :=
  Request.new uri ((L.http_parser_parse_url uri).getD default) false 0 (parent.level + 1)

/-- Modelled from the spec: the URIs one call of `update_html_parser` admits from `links`: the
cut links of the parent's origin not in `cache`, each once when `multiply == 1`. -/
def admittedLinks (multiply : Int) (cache : List String) (L : Lib H I) (parent : Request H I)
    (links : List String) : List String :=
  let uris := (links.map strip_fragment).filter (sameOrigin L parent)
  (if multiply = 1 then firstOccurrences uris else uris).filter fun x => !decide (x ∈ cache)

section admitted

variable {multiply : Int} {cache : List String} {L : Lib H I} {parent : Request H I}
  {raw : String} (links : List String)

theorem admittedLinks_cons_foreign (h : sameOrigin L parent (strip_fragment raw) = false) :
    admittedLinks multiply cache L parent (raw :: links) =
      admittedLinks multiply cache L parent links := by
  simp [admittedLinks, h]

theorem admittedLinks_cons_cached (h : sameOrigin L parent (strip_fragment raw) = true)
    (hc : strip_fragment raw ∈ cache) :
    admittedLinks multiply cache L parent (raw :: links) =
      admittedLinks multiply cache L parent links := by
  simp only [admittedLinks, List.map_cons, List.filter_cons, h, if_true]
  split
  · simp only [firstOccurrences, List.filter_cons, hc, decide_True, Bool.not_true,
      Bool.false_eq_true, if_false, List.filter_filter]
    exact List.filter_congr fun x _ => by by_cases hx : x = strip_fragment raw <;> simp [hx, hc]
  · simp [hc]

theorem admittedLinks_cons_fresh (h : sameOrigin L parent (strip_fragment raw) = true)
    (hc : strip_fragment raw ∉ cache) :
    admittedLinks multiply cache L parent (raw :: links) = strip_fragment raw ::
      admittedLinks multiply (if multiply = 1 then strip_fragment raw :: cache else cache) L
        parent links := by
  simp only [admittedLinks, List.map_cons, List.filter_cons, h, if_true]
  split
  · simp only [firstOccurrences, List.filter_cons, hc, decide_False, Bool.not_false, if_true,
      List.filter_filter, List.cons.injEq, true_and]
    exact List.filter_congr fun x _ => by by_cases hx : x = strip_fragment raw <;> simp [hx]
  · simp [hc]

end admitted

section loop

variable (cfg : Config) (L : Lib H I) (parent : Request H I)

theorem updateHtmlParserLink_eq (w : World H I) (raw : String) :
    updateHtmlParserLink cfg L parent w raw =
      if sameOrigin L parent (strip_fragment raw) ∧ strip_fragment raw ∉ w.client.path_cache
      then
        { client := { w.client with
            reqvec := w.client.reqvec ++ [linkRequest L parent (strip_fragment raw)]
            path_cache := if cfg.multiply = 1 then strip_fragment raw :: w.client.path_cache
              else w.client.path_cache }
          session := { w.session with
            submitted := w.session.submitted ++ [⟨w.client.reqvec.length,
              submitNv L cfg.headers (linkRequest L parent (strip_fragment raw))
                w.client.hostport⟩]
            queue := w.session.queue ++ [w.client.reqvec.length] }
          stdout := w.stdout }
      else w := by
  unfold updateHtmlParserLink
  rcases hu : L.http_parser_parse_url (strip_fragment raw) with _ | u
  · simp [sameOrigin, hu]
  by_cases hf : (fieldeq u parent.u UF_SCHEMA && fieldeq u parent.u UF_HOST &&
      porteq u parent.u) = true
  · by_cases hc : strip_fragment raw ∈ w.client.path_cache
    · simp [sameOrigin, hu, hf, hc, add_request]
    · simp [sameOrigin, hu, hf, hc, add_request, submit_request, linkRequest]
  · simp [sameOrigin, hu, hf]

theorem foldl_link_appends (links : List String) (w : World H I) :
    let uris := admittedLinks cfg.multiply w.client.path_cache L parent links
    let news := uris.map (linkRequest L parent)
    links.foldl (updateHtmlParserLink cfg L parent) w =
      { client := { w.client with
          reqvec := w.client.reqvec ++ news
          path_cache := if cfg.multiply = 1 then uris.reverse ++ w.client.path_cache
            else w.client.path_cache }
        session := { w.session with
          submitted := w.session.submitted ++ (news.enumFrom w.client.reqvec.length).map
            fun p => ⟨p.1, submitNv L cfg.headers p.2 w.client.hostport⟩
          queue := w.session.queue ++ (news.enumFrom w.client.reqvec.length).map Prod.fst }
        stdout := w.stdout } := by
  induction links generalizing w with
  | nil => simp [admittedLinks, firstOccurrences]
  | cons raw links ih =>
    rw [List.foldl_cons, updateHtmlParserLink_eq]
    by_cases hs : sameOrigin L parent (strip_fragment raw) = true
    · by_cases hc : strip_fragment raw ∈ w.client.path_cache
      · rw [if_neg (by simp [hc]), ih, admittedLinks_cons_cached _ hs hc]
      · rw [if_pos ⟨hs, hc⟩, ih, admittedLinks_cons_fresh _ hs hc]
        split <;> simp [List.enumFrom_cons]
    · rw [if_neg (by simp [hs]), ih, admittedLinks_cons_foreign _ (by simpa using hs)]

end loop

/-! ## Levels -/

/-- What every request of a session keeps: a level of at most 1, and a link extractor only at
level 0 and under `-a`. -/
def Request.levelOk (get_assets : Bool) (r : Request H I) : Prop :=
  r.level ≤ 1 ∧ (r.htmlparser.isSome → r.level = 0 ∧ get_assets = true)

def LevelsOk (get_assets : Bool) (w : World H I) : Prop :=
  ∀ r ∈ w.client.reqvec, r.levelOk get_assets

section levels

variable {cfg : Config} {L : Lib H I} {w w' : World H I}

theorem LevelsOk.get {g : Bool} (hw : LevelsOk g w) {i : Nat} {r : Request H I}
    (hi : w.client.reqvec[i]? = some r) : r.levelOk g :=
  hw r (List.mem_iff_getElem?.2 ⟨i, hi⟩)

theorem LevelsOk.setReq {g : Bool} (hw : LevelsOk g w) {i : Nat} {r : Request H I}
    (hr : r.levelOk g) : LevelsOk g (w.setReq i r) :=
  fun x hx => (List.mem_or_eq_of_mem_set hx).elim (hw x) fun e => e ▸ hr

theorem levelsOk_update_htmlparser (hw : LevelsOk cfg.get_assets w) (i : Nat)
    (data : List UInt8) (fin : Bool) :
    LevelsOk cfg.get_assets (update_htmlparser cfg L w i data fin) := by
  rcases hi : w.client.reqvec[i]? with _ | P
  · simp only [update_htmlparser, hi]; exact hw
  rcases hh : P.htmlparser with _ | hp
  · simp only [update_htmlparser, hi, hh]; exact hw
  have hP := (hw.get hi).2 (by simp [hh])
  simp only [update_htmlparser, hi, hh]
  refine LevelsOk.setReq (fun r hr => ?_) ⟨(hw.get hi).1, fun _ => hP⟩
  rw [foldl_link_appends] at hr
  simp only [List.mem_append, List.mem_map] at hr
  rcases hr with hr | ⟨uri, -, rfl⟩
  · exact hw r hr
  · simp [Request.levelOk, linkRequest, Request.new, hP.1]

theorem levelsOk_inflateLoop (sid i : Nat) :
    ∀ fuel (w w' : World H I) data, LevelsOk cfg.get_assets w →
      inflateLoop cfg L sid i fuel w data = some w' → LevelsOk cfg.get_assets w'
  | 0, _, _, _, _, h => by simp [inflateLoop] at h
  | fuel + 1, w, w', data, hw, h => by
    unfold inflateLoop at h
    split at h
    · cases h; exact hw
    rcases hi : w.client.reqvec[i]? with _ | req <;> simp only [hi] at h
    · cases h; exact hw
    rcases hf : req.inflater with _ | inf <;> simp only [hf] at h
    · cases h; exact hw
    rcases hz : L.nghttp2_gzip_inflate inf data with _ | ⟨inf', tlen, out⟩ <;>
      simp only [hz] at h
    · cases h; exact hw
    refine levelsOk_inflateLoop sid i fuel _ w' _ ?_ h
    refine levelsOk_update_htmlparser ?_ i out false
    have h1 : LevelsOk cfg.get_assets (w.setReq i { req with inflater := some inf' }) :=
      hw.setReq (hw.get hi : req.levelOk _)
    split <;> exact h1

theorem levelsOk_on_data_chunk_recv_callback (hw : LevelsOk cfg.get_assets w) {fuel sid : Nat}
    {data : List UInt8} (h : on_data_chunk_recv_callback cfg L fuel w sid data = some w') :
    LevelsOk cfg.get_assets w' := by
  unfold on_data_chunk_recv_callback at h
  rcases hs : w.client.streams.lookup sid with _ | i <;> simp only [hs] at h
  · cases h; exact hw
  rcases hi : w.client.reqvec[i]? with _ | req <;> simp only [hi] at h
  · cases h; exact hw
  rcases hf : req.inflater with _ | inf <;> simp only [hf] at h
  · cases h
    have h1 : LevelsOk cfg.get_assets
        (if cfg.null_out then w else { w with stdout := w.stdout ++ data }) := by
      split <;> exact hw
    exact levelsOk_update_htmlparser h1 i data false
  · exact levelsOk_inflateLoop sid i fuel w w' data hw h

theorem levelsOk_check_response_header (hw : LevelsOk cfg.get_assets w) (f : nghttp2_frame) :
    LevelsOk cfg.get_assets (check_response_header cfg L w f) := by
  unfold check_response_header
  split
  · rcases hs : w.session.stream_user_data.lookup f.stream_id with _ | i
    · exact hw
    dsimp only
    rcases hi : w.client.reqvec[i]? with _ | req
    · exact hw
    have hr := hw.get hi
    refine hw.setReq ?_
    dsimp only
    split_ifs <;> first | exact hr | simp_all [Request.levelOk]
  · exact hw

theorem levelsOk_on_stream_close_callback (hw : LevelsOk cfg.get_assets w) (sid : Nat) :
    LevelsOk cfg.get_assets (on_stream_close_callback cfg L w sid) := by
  unfold on_stream_close_callback
  split
  · exact hw
  · have h := levelsOk_update_htmlparser (L := L) hw ‹_› [] true
    dsimp only
    split <;> exact h

variable {file : List UInt8}

theorem Step.levelsOk (h : Step cfg L file w w') (hw : LevelsOk cfg.get_assets w) :
    LevelsOk cfg.get_assets w' := by
  cases h with
  | headers_sent _ _ _ h => rcases on_frame_send_callback2_cases h with rfl | ⟨_, rfl⟩ <;> exact hw
  | frame_sent _ h => rcases on_frame_send_callback2_cases h with rfl | ⟨_, rfl⟩ <;> exact hw
  | frame_recv _ h => rw [on_frame_recv_callback2_eq h]; exact levelsOk_check_response_header hw _
  | data_chunk_recv _ h => exact levelsOk_on_data_chunk_recv_callback hw h
  | stream_close => exact levelsOk_on_stream_close_callback (w := w.closeStream _) hw _
  | data_read _ _ _ _ _ _ h =>
    rcases file_read_callback_cases h with rfl | ⟨i, req, n, hi, rfl⟩
    · exact hw
    · exact hw.setReq (r := { req with data_offset := n }) (hw.get hi : req.levelOk _)

/-- In every world of a run, every request is of level 0 or 1, and only one of level 0 holds
a link extractor, and only under `-a`. -/
theorem Reachable.levelsOk {requests : List (String × Bool × Nat)}
    (hw : Reachable cfg L file requests w) : LevelsOk cfg.get_assets w := by
  induction hw with
  | refl =>
    intro r hr
    rw [sessionStart_reqvec] at hr
    rcases mem_addRequests cfg L hr with hr | ⟨x, -, rfl⟩
    · simp [HttpClient.new] at hr
    · simp [Request.levelOk, Request.new]
  | tail _ hs ih => exact hs.levelsOk ih

end levels

/-- For a request with a link extractor, each chunk appends the requests of `admittedLinks`
at level 1, in order, each submitted at once; every request is of level 0 or 1. -/
theorem update_htmlparser_admits_page_links (cfg : Config) (L : Lib H I) (file : List UInt8)
    (requests : List (String × Bool × Nat)) (w : World H I)
    (hw : Reachable cfg L file requests w) :
    (∀ r ∈ w.client.reqvec, r.level ≤ 1 ∧ (r.htmlparser.isSome → r.level = 0)) ∧
      (cfg.multiply ≠ 1 → w.client.path_cache = []) ∧
      ∀ i (P : Request H I) hp data fin, w.client.reqvec[i]? = some P →
        P.htmlparser = some hp →
        let hp' := L.parse_chunk hp data fin
        let news := (admittedLinks cfg.multiply w.client.path_cache L P
          (L.get_links hp')).map (linkRequest L P)
        let w' := update_htmlparser cfg L w i data fin
        P.level + 1 = 1 ∧ cfg.get_assets = true ∧
          w'.client.reqvec = w.client.reqvec.set i
            { P with htmlparser := some (L.clear_links hp') } ++ news ∧
          w'.session.submitted = w.session.submitted ++
            (news.enumFrom w.client.reqvec.length).map
              (fun p => ⟨p.1, submitNv L cfg.headers p.2 w.client.hostport⟩) ∧
          w'.session.queue = w.session.queue ++
            (news.enumFrom w.client.reqvec.length).map Prod.fst := by
  have hl := hw.levelsOk
  refine ⟨fun r hr => ⟨(hl r hr).1, fun h => ((hl r hr).2 h).1⟩,
    (Reachable.admitted cfg L file requests hw).empty, fun i P hp data fin hi hh => ?_⟩
  have hP := (hl.get hi).2 (by simp [hh])
  have hlt := (List.getElem?_eq_some_iff.1 hi).1
  simp only [update_htmlparser, hi, hh, foldl_link_appends]
  exact ⟨by rw [hP.1], hP.2, List.set_append_left i _ hlt, rfl, rfl⟩

/-- A link extractor that reports a link of the origin with a fragment, one of another scheme,
the first without its fragment, and one of another host. -/
def linkLib : Lib Unit Unit :=
  { passLib with
    get_links := fun _ => ["https://h/b#x", "http://h/c", "https://h/b", "https://g/d"] }

/-- Under `-a`, the reply to `https://h/a` attaches an extractor, and its first chunk admits
`https://h/b` alone, once. -/
theorem update_htmlparser_admits_page_links_at_reply :
    let cfg : Config := { get_assets := true }
    let w2 := replied cfg linkLib []
    Reachable cfg linkLib [] [("https://h/a", false, 0)] w2 ∧
      ∃ P, w2.client.reqvec[0]? = some P ∧ P.htmlparser = some () ∧
        (update_htmlparser cfg linkLib w2 0 [1] false).client.reqvec.map Request.uri =
          ["https://h/a", "https://h/b"] := by
  intro cfg w2
  have hw : Reachable cfg linkLib [] [("https://h/a", false, 0)] w2 :=
    replied_reachable cfg linkLib [] rfl
  refine ⟨hw, _, rfl, rfl, ?_⟩
  rw [((update_htmlparser_admits_page_links cfg linkLib [] _ w2 hw).2.2 0 _ () [1] false rfl
    rfl).2.2.1]
  decide

/-- No stored URI and none of `path_cache` holds a `#`: command line and links both go
through `strip_fragment`, which is idempotent. -/
theorem stored_uris_have_no_fragment (cfg : Config) (L : Lib H I)
    (datafile : Option (List UInt8)) (st_size : Nat) (uris : List String) (c : Call)
    (hc : c ∈ run L datafile st_size uris) (w : World H I)
    (hw : Reachable cfg L (datafile.getD []) c.requests w) :
    (∀ r ∈ w.client.reqvec, '#' ∉ r.uri.data) ∧ (∀ x ∈ w.client.path_cache, '#' ∉ x.data) ∧
      ∀ x : String, strip_fragment (strip_fragment x) = strip_fragment x ∧
        '#' ∉ (strip_fragment x).data ∧ '\x00' ∉ (strip_fragment x).data ∧
        ∃ rest, x.data = (strip_fragment x).data ++ rest ∧
          ∀ ch ∈ rest.head?, ch = '#' ∨ ch = '\x00' := by
  have hstart : ∀ r ∈ (sessionStart cfg L c.requests).client.reqvec, '#' ∉ r.uri.data := by
    intro r hr
    rw [sessionStart_reqvec] at hr
    rcases mem_addRequests cfg L hr with hr | ⟨x, hx, rfl⟩
    · simp [HttpClient.new] at hr
    obtain ⟨raw, -, hraw⟩ := run_request_stripped L datafile st_size uris hc hx
    simpa [Request.new, hraw] using hash_not_mem_strip_fragment raw
  have huris : ∀ r ∈ w.client.reqvec, '#' ∉ r.uri.data := by
    obtain ⟨raws, h⟩ := hw.links_appended
    intro r hr
    have hm : r.uri ∈ w.client.reqvec.map Request.uri := List.mem_map_of_mem _ hr
    rw [h, List.mem_append, List.mem_map, List.mem_map] at hm
    rcases hm with ⟨r0, hr0, he⟩ | ⟨raw, -, he⟩
    · exact he ▸ hstart r0 hr0
    · exact he ▸ hash_not_mem_strip_fragment raw
  refine ⟨huris, fun x hx => ?_, fun x => ⟨strip_fragment_idem x,
    hash_not_mem_strip_fragment x, strip_fragment_longest x⟩⟩
  have ha := Reachable.admitted cfg L (datafile.getD []) c.requests hw
  by_cases hm : cfg.multiply = 1
  · obtain ⟨r, hr, rfl⟩ := List.mem_map.1 ((ha.cache hm x).1 hx)
    exact huris r hr
  · simp [ha.empty hm] at hx

/-- `https://h/a#top` on the command line is stored as `https://h/a`. -/
theorem stored_uris_have_no_fragment_after_close :
    (⟨"h", 443, [("https://h/a", false, 0)]⟩ : Call) ∈ run passLib none 0 ["https://h/a#top"] ∧
      ∃ w : World Unit Unit, Reachable {} passLib [] [("https://h/a", false, 0)] w ∧
        w.session.closed = [1] ∧ w.client.complete = 1 ∧
        ∀ r ∈ w.client.reqvec, '#' ∉ r.uri.data := by
  have hc : (⟨"h", 443, [("https://h/a", false, 0)]⟩ : Call) ∈
      run passLib none 0 ["https://h/a#top"] := by decide
  obtain ⟨w, hw, -, hcl, hcomplete, -⟩ := one_request_completes
  exact ⟨hc, w, hw, hcl, hcomplete,
    (stored_uris_have_no_fragment {} passLib none 0 ["https://h/a#top"] _ hc w hw).1⟩

end nghttp2
