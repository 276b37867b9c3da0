-- The upload of `-d` over every run: each stream's DATA is the file up to its request's
-- offset, offsets only grow, and `eof` comes after the whole file, its `content-length`.
import Nghttp.Streams
import Nghttp.Run

namespace nghttp2

variable {H I : Type}

/-! ## Sent bytes and the map -/

/-- The bytes the engine has sent on stream `sid`, in order. -/
def World.sent (w : World H I) (sid : Nat) : List UInt8 :=
  (w.session.data_sent.filter (·.1 == sid)).flatMap Prod.snd

@[simp] theorem World.sendData_client (w : World H I) (sid : Nat) (eof : Bool)
    (buf : List UInt8) : (w.sendData sid eof buf).client = w.client := rfl

@[simp] theorem World.sendData_stream_user_data (w : World H I) (sid : Nat) (eof : Bool)
    (buf : List UInt8) :
    (w.sendData sid eof buf).session.stream_user_data = w.session.stream_user_data := rfl

theorem World.mem_sendData_eof (w : World H I) (sid sid' : Nat) (eof : Bool)
    (buf : List UInt8) : sid' ∈ (w.sendData sid eof buf).session.data_eof ↔
      sid' ∈ w.session.data_eof ∨ (eof = true ∧ sid' = sid) := by
  cases eof <;> simp [World.sendData]

theorem World.sent_sendData (w : World H I) (sid sid' : Nat) (eof : Bool)
    (buf : List UInt8) :
    (w.sendData sid eof buf).sent sid' = w.sent sid' ++ if sid = sid' then buf else [] := by
  by_cases h : sid = sid' <;> simp [World.sent, World.sendData, List.filter_append, h]

theorem World.sent_of_not_key {w : World H I} {sid : Nat}
    (hk : ∀ p ∈ w.session.data_sent, p.1 ∈ w.session.stream_user_data.map Prod.fst)
    (hs : sid ∉ w.session.stream_user_data.map Prod.fst) : w.sent sid = [] := by
  rw [World.sent, List.filter_eq_nil_iff.2, List.flatMap_nil]
  intro p hp he
  rw [beq_iff_eq] at he
  exact hs (he ▸ hk p hp)

theorem lookup_cons_eq_some {m : List (Nat × Nat)} {k v k' v' : Nat}
    (h : ((k, v) :: m).lookup k' = some v') :
    (k' = k ∧ v' = v) ∨ (k' ≠ k ∧ m.lookup k' = some v') := by
  by_cases he : k' = k
  · subst he
    rw [List.lookup_cons, beq_self_eq_true, Option.some.injEq] at h
    exact .inl ⟨rfl, h.symm⟩
  · rw [List.lookup_cons, beq_false_of_ne he] at h
    exact .inr ⟨he, h⟩

theorem key_unique {m : List (Nat × Nat)} (hv : (m.map Prod.snd).Nodup) {a b i : Nat}
    (ha : m.lookup a = some i) (hb : m.lookup b = some i) : a = b := by
  have := List.inj_on_of_nodup_map hv (mem_of_lookup_eq_some ha) (mem_of_lookup_eq_some hb) rfl
  simpa using congrArg Prod.fst this

/-! ## The invariant -/

/-- What every world keeps of the upload: the bytes sent on a bound stream are the file up to
its request's offset, the whole file once `eof` is sent. -/
structure Upload (file : List UInt8) (w : World H I) : Prop where
  sent : ∀ sid i r, w.session.stream_user_data.lookup sid = some i →
    w.client.reqvec[i]? = some r → w.sent sid = file.take r.data_offset ∧
      r.data_offset ≤ file.length
  eof : ∀ sid i r, w.session.stream_user_data.lookup sid = some i →
    w.client.reqvec[i]? = some r → sid ∈ w.session.data_eof →
      r.data_offset = file.length ∧ r.data_prd = true
  sent_keys : ∀ p ∈ w.session.data_sent, p.1 ∈ w.session.stream_user_data.map Prod.fst
  eof_keys : ∀ sid ∈ w.session.data_eof, sid ∈ w.session.stream_user_data.map Prod.fst
  unbound : ∀ i r, w.client.reqvec[i]? = some r → i ∉ w.session.stream_user_data.map Prod.snd →
    r.data_offset = 0
  vals_lt : ∀ p ∈ w.session.stream_user_data, p.2 < w.client.reqvec.length

section upload

variable {file : List UInt8} {w w' : World H I}

/-- A change that keeps the engine's upload records, keeps the offset and the upload of every
request, and appends only requests at offset 0, keeps `Upload`. -/
theorem Upload.of_reqvec (hu : Upload file w)
    (h1 : w'.session.stream_user_data = w.session.stream_user_data)
    (h2 : w'.session.data_sent = w.session.data_sent)
    (h3 : w'.session.data_eof = w.session.data_eof)
    (hl : w.client.reqvec.length ≤ w'.client.reqvec.length)
    (hr : ∀ i r', w'.client.reqvec[i]? = some r' →
      (∃ r, w.client.reqvec[i]? = some r ∧ r'.data_offset = r.data_offset ∧
        r'.data_prd = r.data_prd) ∨ (w.client.reqvec.length ≤ i ∧ r'.data_offset = 0)) :
    Upload file w' := by
  have hsent : ∀ sid, w'.sent sid = w.sent sid := fun _ => by simp [World.sent, h2]
  refine ⟨fun sid i r' hs hi => ?_, fun sid i r' hs hi he => ?_, by rw [h1, h2]; exact hu.sent_keys,
    by rw [h1, h3]; exact hu.eof_keys, fun i r' hi hn => ?_,
    fun p hp => lt_of_lt_of_le (hu.vals_lt p (h1 ▸ hp)) hl⟩
  · rw [h1] at hs
    have hlt := hu.vals_lt _ (mem_of_lookup_eq_some hs)
    rcases hr i r' hi with ⟨r, hr, ho, -⟩ | ⟨hge, -⟩
    · rw [hsent, ho]; exact hu.sent sid i r hs hr
    · omega
  · rw [h1] at hs
    have hlt := hu.vals_lt _ (mem_of_lookup_eq_some hs)
    rcases hr i r' hi with ⟨r, hr, ho, hd⟩ | ⟨hge, -⟩
    · rw [ho, hd]; exact hu.eof sid i r hs hr (h3 ▸ he)
    · omega
  · rcases hr i r' hi with ⟨r, hr, ho, -⟩ | ⟨-, ho⟩
    · rw [ho]; exact hu.unbound i r hr (h1 ▸ hn)
    · exact ho

theorem Upload.of_same (hu : Upload file w)
    (h1 : w'.session.stream_user_data = w.session.stream_user_data)
    (h2 : w'.session.data_sent = w.session.data_sent)
    (h3 : w'.session.data_eof = w.session.data_eof)
    (hr : w'.client.reqvec = w.client.reqvec) : Upload file w' :=
  hu.of_reqvec h1 h2 h3 (congrArg List.length hr).ge fun i r' hi => .inl ⟨r', by rwa [hr] at hi, rfl, rfl⟩

variable (cfg : Config) (L : Lib H I)

theorem upload_closed :
    Closed cfg L (fun w w' : World H I => Upload file w → Upload file w') where
  refl _ := id
  trans h h' := h' ∘ h
  setReq w j r r' hj hid hu := by
    simp only [Request.ident, Prod.mk.injEq] at hid
    refine hu.of_reqvec rfl rfl rfl (by simp) fun i r'' hi => .inl ?_
    rw [World.setReq_reqvec, List.getElem?_set] at hi
    split_ifs at hi with hji
    · cases hi; subst hji; exact ⟨r, hj, hid.2.2.2.2.1, hid.2.2.1⟩
    · exact ⟨r'', hi, rfl, rfl⟩
  link w req raw _ _ _ _ hu := by
    rcases updateHtmlParserLink_cases cfg L req w raw with h | ⟨u, -, -, -, -, hc, h⟩ <;>
      rw [h]
    · exact hu
    refine hu.of_reqvec rfl rfl rfl (by simp [add_request_reqvec, hc]) fun i r' hi => ?_
    simp only [submit_request_client, add_request_reqvec, hc, if_false,
      List.getElem?_append] at hi
    split_ifs at hi with hlt
    · exact .inl ⟨r', hi, rfl, rfl⟩
    · refine .inr ⟨by omega, ?_⟩
      rcases hk : i - w.client.reqvec.length with _ | k <;> rw [hk] at hi
      · simp only [List.getElem?_cons_zero, Option.some.injEq] at hi; rw [← hi]; rfl
      · simp at hi
  stdout _ _ hu := hu.of_same rfl rfl rfl rfl
  rst _ _ hu := hu.of_same rfl rfl rfl rfl

end upload

/-! ## One step -/

section step

variable {cfg : Config} {L : Lib H I} {file : List UInt8} {w w' : World H I}

theorem Upload.openStream (hu : Upload file w) (hb : Bound w) {sid i : Nat}
    (hq : i ∈ w.session.queue) (hs : sid ∉ w.session.stream_user_data.map Prod.fst) :
    Upload file (w.openStream sid i) := by
  have hperm := hb.perm
  have hnd := hperm.nodup_iff.2 (List.nodup_range _)
  have hi : i ∉ w.session.stream_user_data.map Prod.snd := by
    rw [← hb.streams_eq]
    exact fun hm => (List.disjoint_of_nodup_append hnd) hq hm
  have hlt : i < w.client.reqvec.length :=
    List.mem_range.1 (hperm.subset (List.mem_append_left _ hq))
  have hsud : (w.openStream sid i).session.stream_user_data =
      (sid, i) :: w.session.stream_user_data := mapAssign_of_not_mem i hs
  refine ⟨fun sid' i' r hl hr => ?_, fun sid' i' r hl hr he => ?_, ?_, ?_, ?_, ?_⟩
  · rw [hsud] at hl
    rcases lookup_cons_eq_some hl with ⟨rfl, rfl⟩ | ⟨-, hl⟩
    · rw [hu.unbound _ r hr hi]
      exact ⟨(World.sent_of_not_key hu.sent_keys hs : w.sent _ = []), Nat.zero_le _⟩
    · exact hu.sent sid' i' r hl hr
  · rw [hsud] at hl
    rcases lookup_cons_eq_some hl with ⟨rfl, -⟩ | ⟨-, hl⟩
    · exact absurd (hu.eof_keys _ he) hs
    · exact hu.eof sid' i' r hl hr he
  · rw [hsud]; exact fun p hp => List.mem_cons_of_mem _ (hu.sent_keys p hp)
  · rw [hsud]; exact fun s hs => List.mem_cons_of_mem _ (hu.eof_keys s hs)
  · rw [hsud]
    exact fun i' r hr hn => hu.unbound i' r hr fun hm => hn (List.mem_cons_of_mem _ hm)
  · rw [hsud]
    rintro p (_ | ⟨_, hp⟩)
    · exact hlt
    · exact hu.vals_lt p hp

theorem World.setReq_self {w : World H I} {i : Nat} {r : Request H I}
    (h : w.client.reqvec[i]? = some r) : w.setReq i r = w := by
  unfold World.setReq; rw [set_self_of_getElem? h]

theorem Upload.update (hu : Upload file w) (hb : Bound w) {sid i : Nat} {req : Request H I}
    (hs : w.session.stream_user_data.lookup sid = some i) (hi : w.client.reqvec[i]? = some req)
    (off : Nat) (eof : Bool) (buf : List UInt8)
    (hbuf : file.take req.data_offset ++ buf = file.take off) (hoff : off ≤ file.length)
    (heof : eof = true ∨ sid ∈ w.session.data_eof → off = file.length)
    (hd : req.data_prd = true) :
    Upload file ((w.setReq i { req with data_offset := off }).sendData sid eof buf) := by
  have hkey : sid ∈ w.session.stream_user_data.map Prod.fst :=
    List.mem_map_of_mem _ (mem_of_lookup_eq_some hs)
  have hget : ∀ i' r', i' ≠ i → ((w.setReq i { req with data_offset := off }).client.reqvec[i']? =
      some r' ↔ w.client.reqvec[i']? = some r') := fun i' r' hne => by
    rw [World.setReq_reqvec, List.getElem?_set_ne (Ne.symm hne)]
  -- a stream with user data is `sid`, with the new offset, or reads the old `reqvec`
  have hcase : ∀ sid' i' r', w.session.stream_user_data.lookup sid' = some i' →
      (w.setReq i { req with data_offset := off }).client.reqvec[i']? = some r' →
      (sid' = sid ∧ r' = { req with data_offset := off }) ∨
        (sid ≠ sid' ∧ w.client.reqvec[i']? = some r') := by
    intro sid' i' r' hl hr
    by_cases he : sid = sid'
    · subst he
      rw [hs, Option.some.injEq] at hl
      subst hl
      rw [World.setReq_reqvec, List.getElem?_set_self (List.getElem?_eq_some_iff.1 hi).1] at hr
      exact .inl ⟨rfl, (Option.some.inj hr).symm⟩
    · refine .inr ⟨he, (hget i' r' fun e => he ?_).1 hr⟩
      exact key_unique (hb.streams_eq ▸ hb.vals_nodup) hs (e ▸ hl)
  refine ⟨fun sid' i' r' hl hr => ?_, fun sid' i' r' hl hr he => ?_, ?_, ?_, ?_, ?_⟩
  · simp only [World.sendData_stream_user_data, World.setReq_session,
      World.sendData_client] at hl hr
    rw [World.sent_sendData]
    rcases hcase sid' i' r' hl hr with ⟨rfl, rfl⟩ | ⟨he, hr⟩
    · rw [if_pos rfl]
      exact ⟨by rw [← hbuf, ← (hu.sent _ i req hs hi).1]; rfl, hoff⟩
    · rw [if_neg he, List.append_nil]
      exact hu.sent sid' i' r' hl hr
  · simp only [World.sendData_stream_user_data, World.setReq_session, World.sendData_client,
      World.mem_sendData_eof] at hl hr he
    rcases hcase sid' i' r' hl hr with ⟨rfl, rfl⟩ | ⟨hs', hr⟩
    · exact ⟨heof (he.symm.imp And.left id), hd⟩
    · exact hu.eof sid' i' r' hl hr (he.resolve_right fun h => hs' h.2.symm)
  · simp only [World.sendData, World.setReq_session, List.mem_append, List.mem_singleton]
    rintro p (hp | rfl)
    · exact hu.sent_keys p hp
    · exact hkey
  · intro s' hs'
    rcases (World.mem_sendData_eof _ _ _ _ _).1 hs' with hs' | ⟨-, rfl⟩
    · exact hu.eof_keys s' hs'
    · exact hkey
  · simp only [World.sendData, World.setReq_session]
    intro i' r' hr hn
    have hne : i' ≠ i := fun e => hn (e ▸ List.mem_map_of_mem _ (mem_of_lookup_eq_some hs))
    exact hu.unbound i' r' ((hget i' r' hne).1 hr) hn
  · simpa [World.sendData] using hu.vals_lt

theorem Upload.data_read (hu : Upload file w) (hb : Bound w) {sid i length : Nat}
    {req : Request H I} {r : PreadResult} {ret : Int} {eof : Bool} {buf : List UInt8}
    (hs : w.session.stream_user_data.lookup sid = some i) (hi : w.client.reqvec[i]? = some req)
    (hd : req.data_prd = true) (hp : preadSpec file req.data_offset length r)
    (h : file_read_callback file w sid r = some (w', ret, eof, buf)) :
    Upload file (w'.sendData sid eof buf) := by
  have ⟨hsent, hle⟩ := hu.sent sid i req hs hi
  have hend := fun h => (hu.eof sid i req hs hi h).1
  simp only [file_read_callback, hs, hi] at h
  split at h
  · obtain ⟨rfl, -, rfl, rfl⟩ := h
    have := hu.update hb hs hi req.data_offset false [] (List.append_nil _) hle
      (fun h => hend (h.resolve_left Bool.false_ne_true)) hd
    rwa [World.setReq_self hi] at this
  · obtain ⟨rfl, -, rfl, rfl⟩ := h
    have := hp.2.2.1 rfl
    have := hu.update hb hs hi req.data_offset true [] (List.append_nil _) hle
      (fun _ => by omega) hd
    rwa [World.setReq_self hi] at this
  · rename_i n
    obtain ⟨rfl, -, rfl, rfl⟩ := h
    obtain ⟨-, hfit, -⟩ := hp
    refine hu.update hb hs hi _ false _ (List.take_add _ _ _).symm hfit (fun h => ?_) hd
    have := hend (h.resolve_left Bool.false_ne_true)
    omega

theorem Upload.step (hu : Upload file w) (hb : Bound w) (h : Step cfg L file w w') :
    Upload file w' := by
  cases h with
  | headers_sent hq hs _ h =>
    have := hu.openStream hb hq hs
    rcases on_frame_send_callback2_cases h with rfl | ⟨_, rfl⟩
    · exact this
    · exact this.of_same rfl rfl rfl rfl
  | frame_sent _ h =>
    rcases on_frame_send_callback2_cases h with rfl | ⟨_, rfl⟩
    · exact hu
    · exact hu.of_same rfl rfl rfl rfl
  | frame_recv _ h =>
    rw [on_frame_recv_callback2_eq h]
    exact check_response_header_rel (upload_closed cfg L) w _ hu
  | data_chunk_recv _ h => exact on_data_chunk_recv_callback_rel (upload_closed cfg L) h hu
  | @stream_close sid _ =>
    exact on_stream_close_callback_rel (upload_closed cfg L)
      (fun _ _ _ hu => hu.of_same rfl rfl rfl rfl) (w.closeStream sid) sid
      (hu.of_same rfl rfl rfl rfl)
  | data_read _ _ hs hi hd hp h => exact hu.data_read hb hs hi hd hp h

end step

/-! ## Every run -/

section run

variable {cfg : Config} {L : Lib H I} {file : List UInt8} {w w' : World H I}

theorem Reachable.data_length {st_size : Nat} {uris : List String} {c : Call}
    (hc : c ∈ run L (some file) st_size uris) (hw : Reachable cfg L file c.requests w) :
    ∀ r ∈ w.client.reqvec, r.data_prd = true → r.data_length = file.length := by
  have key := hw.registry_induction (P := fun g =>
    ∀ r ∈ g.reqvec, r.data_prd = true → r.data_length = file.length) ?_ ?_
  · exact fun r hr => by simpa using key r.origin (List.mem_map_of_mem _ hr)
  · simp only [sessionStart_registry, List.mem_map]
    rintro _ ⟨r, hr, rfl⟩
    rcases mem_addRequests cfg L (update_hostport_reqvec _ ▸ hr) with hr | ⟨x, hx, rfl⟩
    · simp [HttpClient.new] at hr
    obtain ⟨-, -, -, -, -, hd⟩ := (run_calls_good L (some file) st_size uris c hc).2 x hx
    simp only [Option.isSome_some, Option.map_some', Option.getD_some] at hd
    simp [Request.origin, Request.new, hd]
  · rintro _ _ ⟨-, -, -, -, -, -⟩ h r hr
    rcases List.mem_append.1 hr with hr | hr
    · exact h r hr
    · rw [List.mem_singleton.1 hr]; exact fun hd => absurd hd Bool.false_ne_true

end run

end nghttp2
