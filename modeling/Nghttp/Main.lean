-- What the process answers: each `communicate`, the failures `run` counts, and the exit
-- status of `main`, where only a TLS context that cannot be set up counts.
import Nghttp.Streams
import Nghttp.Run
import Nghttp.Options

namespace nghttp2

variable {H I : Type}

/-! ## `communicate` -/

structure Files where
  keyfile : String := ""
  certfile : String := ""
  datafile : String := ""
deriving DecidableEq, Repr

/-- What the libraries answer one `communicate`: the TLS set-up calls, OpenSSL's error text,
and the client when `event_base_loop` returns (`none` when the connection cannot be made). -/
structure CommAnswers where
  ssl_ctx_new : Bool
  use_private_key_file : Bool
  use_certificate_chain_file : Bool
  error_string : String
  loop : Option (Nat × Nat)
deriving DecidableEq, Repr

/-- The TLS set-up of `communicate`: `none` without TLS or on success, else the message
printed before `goto fin`. -/
def sslCtxSetup (cfg : Config) (files : Files) (a : CommAnswers) : Option String :=
  if cfg.no_tls then none
  else if !a.ssl_ctx_new then some ("Failed to create SSL_CTX: " ++ a.error_string)
  else if files.keyfile != "" && !a.use_private_key_file then some a.error_string
  else if files.certfile != "" && !a.use_certificate_chain_file then some a.error_string
  else none

/-- `communicate`: -1 when the TLS set-up fails; else 0, whatever becomes of the connection,
with a warning when the loop ends with requests not processed. -/
def communicate (cfg : Config) (files : Files) (a : CommAnswers) : Int × List String :=
  match sslCtxSetup cfg files a with
  | some msg => (-1, [msg])
  | none =>
    match a.loop with
    | none => (0, [])
    | some (total, processed) =>
      (0, if processed == total then []
        else ["Some requests were not processed. total=" ++ toString total ++ ", processed=" ++
          toString processed])

def tlsSetupFails (cfg : Config) (files : Files) (a : CommAnswers) : Bool :=
  !cfg.no_tls && (!a.ssl_ctx_new || (files.keyfile != "" && !a.use_private_key_file) ||
    (files.certfile != "" && !a.use_certificate_chain_file))

section communicate

variable (cfg : Config) (files : Files) (a : CommAnswers)

theorem sslCtxSetup_isSome :
    (sslCtxSetup cfg files a).isSome = tlsSetupFails cfg files a := by
  unfold sslCtxSetup tlsSetupFails
  cases cfg.no_tls <;> cases a.ssl_ctx_new <;> simp
  split_ifs <;> simp_all

theorem communicate_ne_zero :
    (communicate cfg files a).1 ≠ 0 ↔ tlsSetupFails cfg files a = true := by
  rw [← sslCtxSetup_isSome, communicate]
  rcases sslCtxSetup cfg files a with _ | msg
  · rcases a.loop with _ | ⟨total, processed⟩ <;> simp
  · simp

end communicate

/-- When the event loop returns, `communicate` warns exactly when a request of the session
was never answered on a closed stream, and prints the size of `reqvec` and `complete`. -/
theorem unprocessed_warning_iff_stream_open (cfg : Config) (files : Files) (a : CommAnswers)
    (L : Lib H I) (file : List UInt8) (requests : List (String × Bool × Nat)) (w : World H I)
    (hw : Reachable cfg L file requests w) (hs : tlsSetupFails cfg files a = false)
    (hloop : a.loop = some (w.client.reqvec.length, w.client.complete)) :
    (communicate cfg files a).1 = 0 ∧
      ((communicate cfg files a).2 = [] ↔ ∀ i < w.client.reqvec.length,
        ∃ sid, (sid, i) ∈ w.client.streams ∧ sid ∈ w.session.closed) := by
  have hb := hw.bound_goaway.1
  have hsetup : sslCtxSetup cfg files a = none := by
    simpa [hs] using sslCtxSetup_isSome cfg files a
  refine ⟨by simp [communicate, hsetup, hloop], ?_⟩
  rw [← (show _ ↔ _ from ⟨hb.all_closed, hb.complete_of_all_closed⟩)]
  simp only [communicate, hsetup, hloop, beq_iff_eq]
  split_ifs with h <;> simp [h, eq_comm]

/-- The session of one request whose stream has closed: `communicate` prints no warning. -/
theorem unprocessed_warning_iff_stream_open_after_close :
    ∃ w : World Unit Unit, Reachable {} passLib [] [("https://h/a", false, 0)] w ∧
      w.session.closed = [1] ∧ (w.client.reqvec.length, w.client.complete) = (1, 1) ∧
      tlsSetupFails {} {} ⟨true, true, true, "", some (1, 1)⟩ = false ∧
      (communicate {} {} ⟨true, true, true, "", some (1, 1)⟩).2 = [] ∧
      ((communicate {} {} ⟨true, true, true, "", some (1, 1)⟩).1 = 0 ∧
        ((communicate {} {} ⟨true, true, true, "", some (1, 1)⟩).2 = [] ↔
          ∀ i < w.client.reqvec.length,
            ∃ sid, (sid, i) ∈ w.client.streams ∧ sid ∈ w.session.closed)) := by
  obtain ⟨w, hw, -, hcl, hc, hl⟩ := one_request_completes
  have hloop : (w.client.reqvec.length, w.client.complete) = (1, 1) := by rw [hl, hc]
  exact ⟨w, hw, hcl, hloop, rfl, rfl,
    unprocessed_warning_iff_stream_open {} {} _ passLib [] _ w hw rfl (congrArg some hloop).symm⟩

/-! ## `run` -/

inductive DataFile
  | open_failed
  | stat_failed
  | opened (contents : List UInt8)
deriving DecidableEq, Repr

/-- The start of `run`: the file of `-d`, or the message printed when `open` or `fstat`
fails. -/
def openDatafile (datafile : String) (file : DataFile) : Except String (Option (List UInt8)) :=
  if datafile = "" then .ok none
  else
    match file with
    | .open_failed => .error ("Could not open file " ++ datafile)
    | .stat_failed => .error ("Could not stat file " ++ datafile)
    | .opened contents => .ok (some contents)

/-- The calls of `communicate` that `run` makes, the `i`-th with answers `ans i`: how many
returned anything but 0, and what they printed. -/
def communicateCalls (cfg : Config) (files : Files) (ans : Nat → CommAnswers) (n : Nat) :
    Nat × List String :=
  (List.range n).foldl (fun (failures, err) i =>
    let (rv, msgs) := communicate cfg files (ans i)
    (if rv != 0 then failures + 1 else failures, err ++ msgs)) (0, [])

/-- What `run` returns and prints: 1 when the file of `-d` cannot be opened or examined, else
the failures of its calls of `communicate`. -/
def runResult (cfg : Config) (files : Files) (L : Lib H I) (file : DataFile) (st_size : Nat)
    (uris : List String) (ans : Nat → CommAnswers) : Int × List String :=
  match openDatafile files.datafile file with
  | .error msg => (1, [msg])
  | .ok data =>
    let (failures, err) := communicateCalls cfg files ans (run L data st_size uris).length
    (failures, err)

/-! ## The sessions -/

/-- The sessions that `nghttp` starts when every connection is made, each once `on_connect`
has submitted its requests. -/
def nghttpSessions (cfg : Config) (L : Lib H I) (data : Option (List UInt8)) (st_size : Nat)
    (uris : List String) : List (World H I) :=
  (run L data st_size uris).map fun c => sessionStart cfg L c.requests

/-- With `-m` other than 1 the sessions ask for each admissible URI `-m` times, in order;
with `-m 1` each session asks for its own URIs once, since `path_cache` is per session. -/
theorem sessions_request_uris (cfg : Config) (L : Lib H I) (data : Option (List UInt8))
    (st_size : Nat) (uris : List String) :
    (nghttpSessions cfg L data st_size uris).flatMap (fun w => w.client.reqvec.map Request.uri) =
      if cfg.multiply = 1 then
        (run L data st_size uris).flatMap fun c => firstOccurrences (c.requests.map Prod.fst)
      else (admissible L uris).flatMap fun uri => List.replicate cfg.multiply.toNat uri := by
  simp only [nghttpSessions, List.flatMap_map, sessionStart_reqvec, addRequests_new_uris]
  split_ifs
  · rfl
  · rw [← List.flatMap_assoc, run, RunState.flush_requests, foldl_runUri_handed]
    simp [RunState.handed, List.flatMap_map]

/-- With `-m 1`, the first URI is fetched twice: a URI of another host stands between its two
occurrences, and each session has its own `path_cache`. -/
example : (nghttpSessions {} passLib none 0 ["https://h/a", "https://g/b", "https://h/a"]).flatMap
    (fun w => w.client.reqvec.map Request.uri) = ["https://h/a", "https://g/b", "https://h/a"] := by
  decide

/-! ## `main` -/

def exitStatus (rv : Int) : Nat := (rv % 256).toNat

/-- `main` from its options on: the option loop, then `run`; the exit status and what went to
`stderr`, `none` where the option loop is undefined. -/
def nghttpMain (os : List MainOption) (files : Files) (L : Lib H I) (file : DataFile)
    (st_size : Nat) (uris : List String) (ans : Nat → CommAnswers) :
    Option (Nat × List String) :=
  match mainOptions {} os with
  | none => none
  | some (.error msg) => some (1, [msg])
  | some (.ok cfg) =>
    let (rv, err) := runResult cfg files L file st_size uris ans
    some (exitStatus rv, err)

/-! ## The exit status -/

theorem exitStatus_natCast (n : Nat) : exitStatus n = n % 256 := by
  unfold exitStatus
  omega

theorem communicateCalls_failures (cfg : Config) (files : Files) (ans : Nat → CommAnswers)
    (n : Nat) :
    (communicateCalls cfg files ans n).1 =
      (List.range n).countP fun i => tlsSetupFails cfg files (ans i) := by
  induction n with
  | zero => rfl
  | succ n ih =>
    unfold communicateCalls at ih ⊢
    rw [List.range_succ, List.foldl_append, List.foldl_cons, List.foldl_nil, List.countP_append,
      ← ih, List.countP_singleton]
    generalize List.foldl _ (0, []) (List.range n) = acc
    have h := communicate_ne_zero cfg files (ans n)
    rcases hc : communicate cfg files (ans n) with ⟨rv, msgs⟩
    rw [hc] at h
    by_cases hrv : rv = 0 <;> simp_all

/-- The exit status is 1 when the file of `-d` cannot be used, else the number of TLS set-ups
that failed, modulo 256: connections that fail and unprocessed requests never count. -/
theorem main_exit_status (os : List MainOption) (cfg : Config) (files : Files) (L : Lib H I)
    (file : DataFile) (st_size : Nat) (uris : List String) (ans : Nat → CommAnswers)
    (h : mainOptions {} os = some (.ok cfg)) :
    (nghttpMain os files L file st_size uris ans).map Prod.fst =
      some (match openDatafile files.datafile file with
        | .error _ => 1
        | .ok data =>
          ((List.range (run L data st_size uris).length).countP fun i =>
            tlsSetupFails cfg files (ans i)) % 256) := by
  unfold nghttpMain runResult
  rw [h]
  rcases openDatafile files.datafile file with msg | data
  · rfl
  · simp [exitStatus_natCast, ← communicateCalls_failures]

/-- Two hosts and `SSL_CTX_new` failing each time: the status is 2. -/
theorem main_exit_status_two_hosts :
    mainOptions {} [] = some (.ok {}) ∧
      (nghttpMain [] {} passLib .open_failed 0 ["https://h/a", "https://g/b"]
        (fun _ => ⟨false, true, true, "e", none⟩)).map Prod.fst = some 2 := by
  refine ⟨rfl, ?_⟩
  rw [main_exit_status [] {} {} passLib .open_failed 0 _ _ rfl]
  decide

end nghttp2
