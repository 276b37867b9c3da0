-- The callbacks that the framing engine calls during one session, and the
-- runs of a session: the requests `communicate` admits and submits on
-- connect, then any order of the events the engine may deliver.
import Mathlib.Logic.Relation
import Nghttp.SubmitRequest

namespace nghttp2

open http_parser_url_fields

variable {H I : Type}

/-! ## Frames -/

inductive nghttp2_frame_type
  | NGHTTP2_DATA
  | NGHTTP2_HEADERS
  | NGHTTP2_PRIORITY
  | NGHTTP2_RST_STREAM
  | NGHTTP2_SETTINGS
  | NGHTTP2_PUSH_PROMISE
  | NGHTTP2_PING
  | NGHTTP2_GOAWAY
  | NGHTTP2_WINDOW_UPDATE
deriving DecidableEq, Repr

inductive nghttp2_headers_category
  | NGHTTP2_HCAT_START_STREAM
  | NGHTTP2_HCAT_REPLY
  | NGHTTP2_HCAT_HEADERS
deriving DecidableEq, Repr

open nghttp2_frame_type nghttp2_headers_category

/-- The parts of `nghttp2_frame` that the callbacks read: `hd.type`, `hd.stream_id`, and
for a HEADERS frame `headers.cat` and the header block `headers.nva`. -/
structure nghttp2_frame where
  type : nghttp2_frame_type
  stream_id : Nat
  cat : nghttp2_headers_category
  nva : List (String × String)

/-! ## The engine and the world -/

/-- A call of `nghttp2_submit_request`: the `Request*` given as stream user data, and the
name/value array. -/
structure Submission where
  req : Nat
  nv : NvArray

/-- What the engine keeps of the client's calls: submissions, the queue, the user data of open
streams, the closed streams, GOAWAY and RST_STREAM calls, and the DATA sent. -/
structure nghttp2_session where
  submitted : List Submission
  queue : List Nat
  stream_user_data : List (Nat × Nat)
  closed : List Nat
  goaway : Nat
  rst_stream : List Nat
  data_sent : List (Nat × List UInt8)
  data_eof : List Nat

/-- `nghttp2_session_client_new`. -/
def nghttp2_session.new : nghttp2_session := ⟨[], [], [], [], 0, [], [], []⟩

/-- The client, the engine, and what the client wrote to standard output. -/
structure World (H I : Type) where
  client : HttpClient H I
  session : nghttp2_session
  stdout : List UInt8

/-- The callbacks change a `Request` in place: the object at index `i`. -/
def World.setReq (w : World H I) (i : Nat) (r : Request H I) : World H I :=
  { w with client := { w.client with reqvec := w.client.reqvec.set i r } }

/-- `m[k] = v` on a `std::map`. -/
def mapAssign (m : List (Nat × Nat)) (k v : Nat) : List (Nat × Nat) :=
  (k, v) :: m.filter (·.1 != k)

/-- The value of `NGHTTP2_ERR_TEMPORAL_CALLBACK_FAILURE` in `nghttp2.h`. -/
def NGHTTP2_ERR_TEMPORAL_CALLBACK_FAILURE : Int := -521

section callbacks

variable (cfg : Config) (L : Lib H I)

/-! ## Submitting and discovering requests -/

/-- `submit_request`: the array of `req`, handed to `nghttp2_submit_request` with the
request `i` as stream user data. -/
def submit_request (w : World H I) (i : Nat) (req : Request H I) : World H I :=
  { w with session := { w.session with
      submitted := w.session.submitted ++ [⟨i, submitNv L cfg.headers req w.client.hostport⟩]
      queue := w.session.queue ++ [i] } }

/-- The loop of `on_connect`: every request of `reqvec`, in order. -/
def submitAll (w : World H I) : World H I :=
  w.client.reqvec.enum.foldl (fun w p => submit_request cfg L w p.1 p.2) w

/-- One turn of the link loop of `update_html_parser` under the parent `req`: a link with the
parent's scheme, host and port is admitted at the next level, and submitted when admitted. -/
def updateHtmlParserLink (req : Request H I) (w : World H I) (raw_uri : String) :
    World H I :=
  let uri := strip_fragment raw_uri
  match L.http_parser_parse_url uri with
  | none => w
  | some u =>
    if fieldeq u req.u UF_SCHEMA && fieldeq u req.u UF_HOST && porteq u req.u then
      let (added, c) := add_request cfg L w.client uri false 0 (req.level + 1)
      let w := { w with client := c }
      if added then
        match c.reqvec.getLast? with
        | some r => submit_request cfg L w (c.reqvec.length - 1) r
        | none => w
      else w
    else w

/-- `update_html_parser`: the chunk goes to the parser of request `i`, if it has one, and
every link it reports is considered once; then its links are cleared. -/
def update_htmlparser (w : World H I) (i : Nat) (data : List UInt8) (fin : Bool) :
    World H I :=
  match w.client.reqvec[i]? with
  | none => w
  | some req =>
    match req.htmlparser with
    | none => w
    | some hp =>
      let hp := L.parse_chunk hp data fin
      let w := (L.get_links hp).foldl (updateHtmlParserLink cfg L req) w
      w.setReq i { req with htmlparser := some (L.clear_links hp) }

/-! ## The callbacks -/

/-- `check_stream_id`: the stream user data of a new stream goes into `streams`; a stream
without it stops the client at `req->record_syn_stream_time()`. -/
def check_stream_id (w : World H I) (f : nghttp2_frame) : Option (World H I) :=
  match w.session.stream_user_data.lookup f.stream_id with
  | some i => some { w with client := { w.client with
      streams := mapAssign w.client.streams f.stream_id i } }
  | none => none

def on_frame_send_callback2 (w : World H I) (f : nghttp2_frame) : Option (World H I) :=
  if f.type = NGHTTP2_HEADERS ∧ f.cat = NGHTTP2_HCAT_START_STREAM then check_stream_id w f
  else some w

/-- One turn of the scan of `check_response_header`: each `content-encoding` sets `gzip`
anew, each `:status` sets the status anew. -/
def scanResponseHeader (s : Bool × String) (nv : String × String) : Bool × String :=
  if strieq "content-encoding" nv.1 then (strieq "gzip" nv.2 || strieq "deflate" nv.2, s.2)
  else if strieq ":status" nv.1 then (s.1, nv.2)
  else s

/-- `check_response_header`: on a reply HEADERS of a stream with user data, the status, the
inflater and the link extractor of its request. -/
def check_response_header (w : World H I) (f : nghttp2_frame) : World H I :=
  if f.type = NGHTTP2_HEADERS ∧ f.cat = NGHTTP2_HCAT_REPLY then
    match w.session.stream_user_data.lookup f.stream_id with
    | none => w
    | some i =>
      match w.client.reqvec[i]? with
      | none => w
      | some req =>
        let s := f.nva.foldl scanResponseHeader (false, req.status)
        let req := { req with status := s.2 }
        let req :=
          if s.1 && req.inflater.isNone then
            { req with inflater := some L.nghttp2_gzip_inflate_new }
          else req
        let req :=
          if cfg.get_assets && req.level == 0 && req.htmlparser.isNone then
            { req with htmlparser := some (L.htmlparser_new req.uri) }
          else req
        w.setReq i req
  else w

/-- `on_frame_recv_callback2`: a reply HEADERS on a stream without user data fails
`assert(req)`. -/
def on_frame_recv_callback2 (w : World H I) (f : nghttp2_frame) : Option (World H I) :=
  if f.type = NGHTTP2_HEADERS ∧ f.cat = NGHTTP2_HCAT_REPLY then
    match w.session.stream_user_data.lookup f.stream_id with
    | some _ => some (check_response_header cfg L w f)
    | none => none
  else some (check_response_header cfg L w f)

/-- The `while(len > 0)` loop of `on_data_chunk_recv_callback` for at most `fuel` turns; a
failure of the inflater resets the stream. -/
def inflateLoop (sid i : Nat) : Nat → World H I → List UInt8 → Option (World H I)
  | 0, _, _ => none
  | fuel + 1, w, data =>
    if data.isEmpty then some w
    else
      match w.client.reqvec[i]? with
      | none => some w
      | some req =>
        match req.inflater with
        | none => some w
        | some inf =>
          match L.nghttp2_gzip_inflate inf data with
          | none => some { w with session := { w.session with
              rst_stream := w.session.rst_stream ++ [sid] } }
          | some (inf, tlen, out) =>
            let w := w.setReq i { req with inflater := some inf }
            let w := if cfg.null_out then w else { w with stdout := w.stdout ++ out }
            let w := update_htmlparser cfg L w i out false
            inflateLoop sid i fuel w (data.drop tlen)

/-- `on_data_chunk_recv_callback`, for at most `fuel` turns of its loop. A stream not in
`streams` is ignored. -/
def on_data_chunk_recv_callback (fuel : Nat) (w : World H I) (sid : Nat) (data : List UInt8) :
    Option (World H I) :=
  match w.client.streams.lookup sid with
  | none => some w
  | some i =>
    match w.client.reqvec[i]? with
    | none => some w
    | some req =>
      match req.inflater with
      | some _ => inflateLoop cfg L sid i fuel w data
      | none =>
        let w := if cfg.null_out then w else { w with stdout := w.stdout ++ data }
        some (update_htmlparser cfg L w i data false)

/-- `on_stream_close_callback`: for a stream in `streams`, the last links of its page, one
more complete request, and `GOAWAY` once every request is complete. -/
def on_stream_close_callback (w : World H I) (sid : Nat) : World H I :=
  match w.client.streams.lookup sid with
  | none => w
  | some i =>
    let w := update_htmlparser cfg L w i [] true
    let w := { w with client := { w.client with complete := w.client.complete + 1 } }
    if all_requests_processed w.client then
      { w with session := { w.session with goaway := w.session.goaway + 1 } }
    else w

end callbacks

/-! ## The upload -/

/-- What the `pread` loop of `file_read_callback` ends with: a count of bytes, or `-1` with an
`errno` other than `EINTR`. -/
inductive PreadResult
  | ok (n : Nat)
  | error

/-- What `pread(fd, buf, length, off)` can give on a regular file that nobody changes: an
error, or `n` bytes of the file from `off`, at most `length`, and none only at its end. -/
def preadSpec (file : List UInt8) (off length : Nat) : PreadResult → Prop
  | .error => True
  | .ok n => n ≤ length ∧ off + n ≤ file.length ∧ (n = 0 ↔ file.length ≤ off)

/-- `file_read_callback` on stream `sid`: the world after it, its result, `*eof` and the bytes
read; a stream without user data stops the client. -/
def file_read_callback (file : List UInt8) (w : World H I) (sid : Nat) (r : PreadResult) :
    Option (World H I × Int × Bool × List UInt8) :=
  match w.session.stream_user_data.lookup sid with
  | none => none
  | some i =>
    match w.client.reqvec[i]? with
    | none => none
    | some req =>
      match r with
      | .error => some (w, NGHTTP2_ERR_TEMPORAL_CALLBACK_FAILURE, false, [])
      | .ok 0 => some (w, 0, true, [])
      | .ok (n + 1) =>
        some (w.setReq i { req with data_offset := req.data_offset + (n + 1) }, n + 1, false,
          (file.drop req.data_offset).take (n + 1))

/-! ## Runs -/

section runs

variable (cfg : Config) (L : Lib H I) (file : List UInt8)

/-- The session that `communicate` runs for `requests`: the admission loop and
`update_hostport`, then at connect a new engine and `on_connect`'s submissions. -/
def sessionStart (requests : List (String × Bool × Nat)) : World H I :=
  let c := update_hostport (addRequests cfg L HttpClient.new requests)
  submitAll cfg L ⟨{ c with state := .STATE_CONNECTED }, nghttp2_session.new, []⟩

/-- The engine opens the stream of a queued request under `sid`. -/
def World.openStream (w : World H I) (sid i : Nat) : World H I :=
  { w with session := { w.session with
      queue := w.session.queue.erase i
      stream_user_data := mapAssign w.session.stream_user_data sid i } }

/-- The engine closes stream `sid`. -/
def World.closeStream (w : World H I) (sid : Nat) : World H I :=
  { w with session := { w.session with closed := w.session.closed ++ [sid] } }

/-- The engine sends what the upload callback read. -/
def World.sendData (w : World H I) (sid : Nat) (eof : Bool) (buf : List UInt8) : World H I :=
  { w with session := { w.session with
      data_sent := w.session.data_sent ++ [(sid, buf)]
      data_eof := if eof then w.session.data_eof ++ [sid] else w.session.data_eof } }

/-- One event of a session as the engine may deliver it: a submitted request opens one fresh
stream, frames of any kind come on streams not closed, each stream closes once. -/
inductive Step : World H I → World H I → Prop
  | headers_sent {w w' : World H I} {sid i : Nat} {nva : List (String × String)} :
      i ∈ w.session.queue → sid ∉ w.session.stream_user_data.map Prod.fst →
      sid ∉ w.session.closed →
      on_frame_send_callback2 (w.openStream sid i)
        ⟨NGHTTP2_HEADERS, sid, NGHTTP2_HCAT_START_STREAM, nva⟩ = some w' → Step w w'
  | frame_sent {w w' : World H I} {f : nghttp2_frame} :
      ¬ (f.type = NGHTTP2_HEADERS ∧ f.cat = NGHTTP2_HCAT_START_STREAM) →
      on_frame_send_callback2 w f = some w' → Step w w'
  | frame_recv {w w' : World H I} {f : nghttp2_frame} :
      f.stream_id ∉ w.session.closed →
      on_frame_recv_callback2 cfg L w f = some w' → Step w w'
  | data_chunk_recv {w w' : World H I} {sid fuel : Nat} {data : List UInt8} :
      sid ∉ w.session.closed →
      on_data_chunk_recv_callback cfg L fuel w sid data = some w' → Step w w'
  | stream_close {w : World H I} {sid : Nat} :
      sid ∉ w.session.closed →
      Step w (on_stream_close_callback cfg L (w.closeStream sid) sid)
  | data_read {w w' : World H I} {sid i length : Nat} {req : Request H I} {r : PreadResult}
      {ret : Int} {eof : Bool} {buf : List UInt8} :
      0 < length → sid ∉ w.session.closed →
      w.session.stream_user_data.lookup sid = some i → w.client.reqvec[i]? = some req →
      req.data_prd = true → preadSpec file req.data_offset length r →
      file_read_callback file w sid r = some (w', ret, eof, buf) →
      Step w (w'.sendData sid eof buf)

/-- The worlds a session for `requests` can reach. -/
def Reachable (requests : List (String × Bool × Nat)) (w : World H I) : Prop :=
  Relation.ReflTransGen (Step cfg L file) (sessionStart cfg L requests) w

end runs

/-! ## A library for the examples -/

/-- Collaborators for concrete runs: the parser `parseUrl`, an inflater that hands its input
through, and a link extractor that finds no link. -/
def passLib : Lib Unit Unit where
  http_parser_parse_url := parseUrl
  nghttp2_gzip_inflate_new := ()
  nghttp2_gzip_inflate := fun _ d => some ((), d.length, d)
  htmlparser_new := fun _ => ()
  parse_chunk := fun _ _ _ => ()
  get_links := fun _ => []
  clear_links := id
  NGHTTP2_VERSION := "0.1.0"
  NGHTTP2_PROTO_VERSION_ID := "HTTP-draft-04/2.0"

end nghttp2
