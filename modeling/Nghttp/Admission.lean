-- The registry of a session seen from above: every event of a run moves it
-- only by admitting a link found under an admitted request, so whatever each
-- admission keeps holds in every world of every run.
import Nghttp.Effects

namespace nghttp2

open http_parser_url_fields

variable {H I : Type}

/-! ## The registry -/

/-- A request as `add_request` made it: the fields that the callbacks change in place reset. -/
def Request.origin (r : Request H I) : Request H I :=
  { r with inflater := none, htmlparser := none, data_offset := 0, status := "" }

section origin

variable (r : Request H I)

@[simp] theorem Request.origin_uri : r.origin.uri = r.uri := rfl
@[simp] theorem Request.origin_u : r.origin.u = r.u := rfl
@[simp] theorem Request.origin_data_prd : r.origin.data_prd = r.data_prd := rfl
@[simp] theorem Request.origin_data_length : r.origin.data_length = r.data_length := rfl
@[simp] theorem Request.origin_level : r.origin.level = r.level := rfl

@[simp] theorem Request.new_origin (uri : String) (u : http_parser_url) (data_prd : Bool)
    (data_length level : Nat) :
    (Request.new uri u data_prd data_length level : Request H I).origin =
      Request.new uri u data_prd data_length level := rfl

end origin

theorem Request.origin_eq_of_ident {r r' : Request H I} (h : r'.ident = r.ident) :
    r'.origin = r.origin := by
  simp only [Request.ident, Prod.mk.injEq] at h
  simp only [Request.origin, h]

/-- What the admission laws see of a session: the requests as admitted, `path_cache`, the
`:host` fallback `hostport`, and the calls of `nghttp2_submit_request`. -/
structure Registry (H I : Type) where
  reqvec : List (Request H I)
  path_cache : List String
  hostport : String
  submitted : List Submission

def World.registry (w : World H I) : Registry H I :=
  ⟨w.client.reqvec.map Request.origin, w.client.path_cache, w.client.hostport,
    w.session.submitted⟩

/-! ## The abstract machine -/

/-- The registry's one move in a session: a URI of an admitted request's origin, not in
`path_cache`, becomes a request one level below it, submitted at once. -/
inductive Registry.Admit (cfg : Config) (L : Lib H I) : Registry H I → Registry H I → Prop
  | link {g : Registry H I} {parent : Request H I} {uri : String} {u : http_parser_url} :
      parent ∈ g.reqvec → L.http_parser_parse_url uri = some u →
      fieldeq u parent.u UF_SCHEMA = true → fieldeq u parent.u UF_HOST = true →
      porteq u parent.u = true → uri ∉ g.path_cache →
      Admit cfg L g
        { reqvec := g.reqvec ++ [Request.new uri u false 0 (parent.level + 1)]
          path_cache := if cfg.multiply = 1 then uri :: g.path_cache else g.path_cache
          hostport := g.hostport
          submitted := g.submitted ++ [⟨g.reqvec.length,
            submitNv L cfg.headers (Request.new uri u false 0 (parent.level + 1)) g.hostport⟩] }

/-! ## The callbacks refine it -/

theorem set_self_of_getElem? {α : Type} {l : List α} {i : Nat} {a : α} (h : l[i]? = some a) :
    l.set i a = l :=
  List.ext_getElem? fun j => by
    rw [List.getElem?_set]
    by_cases hj : i = j
    · subst hj; simp [h, (List.getElem?_eq_some_iff.1 h).1]
    · simp [hj]

theorem registry_setReq {w : World H I} {j : Nat} {r r' : Request H I}
    (hj : w.client.reqvec[j]? = some r) (h : r'.origin = r.origin) :
    (w.setReq j r').registry = w.registry := by
  unfold World.registry
  congr 1
  rw [World.setReq_reqvec, List.map_set, h]
  exact set_self_of_getElem? (by rw [List.getElem?_map, hj]; rfl)

section refine

variable (cfg : Config) (L : Lib H I)

/-- `w'`'s registry is reached from `w`'s by admissions. -/
def Admits (w w' : World H I) : Prop :=
  Relation.ReflTransGen (Registry.Admit cfg L) w.registry w'.registry

theorem admits_link {w : World H I} {req r : Request H I} {raw : String} {j : Nat}
    (hj : w.client.reqvec[j]? = some r) (hid : r.ident = req.ident) :
    Admits cfg L w (updateHtmlParserLink cfg L req w raw) := by
  rcases updateHtmlParserLink_cases cfg L req w raw with h | ⟨u, hu, hs, hh, hp, hc, h⟩
  · rw [h]; exact .refl
  have ho := Request.origin_eq_of_ident hid
  have hmem : r.origin ∈ w.registry.reqvec :=
    List.mem_map_of_mem _ (List.mem_iff_getElem?.2 ⟨j, hj⟩)
  have := @Registry.Admit.link _ _ cfg L _ _ _ _ hmem hu (by simpa [ho] using hs)
    (by simpa [ho] using hh) (by simpa [ho] using hp) hc
  rw [h]
  refine .single (by convert this using 2 <;> simp [World.registry, add_request, submit_request, hc, ho, hu])

theorem admits_closed : Closed cfg L (Admits cfg L : World H I → World H I → Prop) where
  refl _ := .refl
  trans := Relation.ReflTransGen.trans
  setReq _ _ _ _ hj hid := by
    unfold Admits; rw [registry_setReq hj (Request.origin_eq_of_ident hid)]
  link _ _ _ _ _ hj hid := admits_link cfg L hj hid
  stdout _ _ := .refl
  rst _ _ := .refl

variable {cfg L}

theorem Step.admits {file : List UInt8} {w w' : World H I} (h : Step cfg L file w w') :
    Admits cfg L w w' := by
  cases h with
  | headers_sent _ _ _ h =>
    rcases on_frame_send_callback2_cases h with rfl | ⟨_, rfl⟩ <;> exact .refl
  | frame_sent _ h => rcases on_frame_send_callback2_cases h with rfl | ⟨_, rfl⟩ <;> exact .refl
  | frame_recv _ h =>
    rw [on_frame_recv_callback2_eq h]; exact check_response_header_rel (admits_closed cfg L) _ _
  | data_chunk_recv _ h => exact on_data_chunk_recv_callback_rel (admits_closed cfg L) h
  | @stream_close sid _ =>
    exact on_stream_close_callback_rel (admits_closed cfg L) (fun _ _ _ => .refl) (w.closeStream sid) sid
  | data_read _ _ _ _ _ _ h =>
    rcases file_read_callback_cases h with rfl | ⟨i, req, n, hi, rfl⟩
    · exact .refl
    · show Relation.ReflTransGen _ w.registry (w.setReq i _).registry
      rw [@registry_setReq _ _ w i req { req with data_offset := n } hi rfl]

end refine

/-! ## Every world of a run -/

theorem sessionStart_registry (cfg : Config) (L : Lib H I)
    (requests : List (String × Bool × Nat)) :
    (sessionStart cfg L requests).registry =
      let c := update_hostport (addRequests cfg L HttpClient.new requests)
      ⟨c.reqvec.map Request.origin, c.path_cache, c.hostport,
        c.reqvec.enum.map fun p => ⟨p.1, submitNv L cfg.headers p.2 c.hostport⟩⟩ := by
  simp [sessionStart, submitAll_eq, World.registry, nghttp2_session.new]

section reach

variable {cfg : Config} {L : Lib H I} {file : List UInt8} {requests : List (String × Bool × Nat)}
  {w : World H I}

theorem Reachable.admits (hw : Reachable cfg L file requests w) :
    Relation.ReflTransGen (Registry.Admit cfg L) (sessionStart cfg L requests).registry
      w.registry := by
  induction hw with
  | refl => exact .refl
  | tail _ hs ih => exact ih.trans hs.admits

/-- What the start of a session has and every admission keeps holds of the registry in every
world of every run. -/
theorem Reachable.registry_induction {P : Registry H I → Prop}
    (h0 : P (sessionStart cfg L requests).registry)
    (hP : ∀ g g', Registry.Admit cfg L g g' → P g → P g')
    (hw : Reachable cfg L file requests w) : P w.registry := by
  generalize hg : w.registry = g
  have := hw.admits
  rw [hg] at this
  clear hg
  induction this with
  | refl => exact h0
  | tail _ ha ih => exact hP _ _ ha ih

end reach

/-! ## What every admission keeps -/

section laws

variable (cfg : Config) (L : Lib H I) (file : List UInt8) (requests : List (String × Bool × Nat))

theorem sessionStart_reqvec :
    (sessionStart cfg L requests).client.reqvec =
      (addRequests cfg L HttpClient.new requests).reqvec := by
  simp [sessionStart, submitAll_eq]

theorem Reachable.admitted {w : World H I} (hw : Reachable cfg L file requests w) :
    Admitted cfg.multiply (w.client.reqvec.map Request.uri) w.client.path_cache := by
  have key := hw.registry_induction
    (P := fun g => Admitted cfg.multiply (g.reqvec.map Request.uri) g.path_cache) ?_ ?_
  · simpa [World.registry, Function.comp_def] using key
  · simpa [sessionStart_registry, Function.comp_def] using
      admitted_addRequests L requests (admitted_nil cfg.multiply)
  · rintro _ _ ⟨-, -, -, -, -, hc⟩ h
    simpa [Request.new] using h.snoc hc

theorem getElem?_append_of_getElem? {α : Type} {l : List α} {k : Nat} {a : α} (t : List α)
    (h : l[k]? = some a) : (l ++ t)[k]? = some a := by
  rw [List.getElem?_append_left (List.getElem?_eq_some_iff.1 h).1, h]

/-- Every array handed to `nghttp2_submit_request` is the one `submit_request` builds for
its request under the `hostport` that `update_hostport` set. -/
theorem Reachable.submitted_nv {w : World H I} (hw : Reachable cfg L file requests w) :
    w.client.hostport = (sessionStart cfg L requests).client.hostport ∧
      ∀ s ∈ w.session.submitted, ∃ r, w.client.reqvec[s.req]? = some r ∧
        s.nv = submitNv L cfg.headers r w.client.hostport := by
  have key := hw.registry_induction (P := fun g =>
    g.hostport = (sessionStart cfg L requests).registry.hostport ∧ ∀ s ∈ g.submitted,
      ∃ r, g.reqvec[s.req]? = some r ∧ s.nv = submitNv L cfg.headers r g.hostport) ?_ ?_
  · refine ⟨key.1, fun s hs => ?_⟩
    obtain ⟨r, hr, hnv⟩ := key.2 s hs
    simp only [World.registry, List.getElem?_map, Option.map_eq_some'] at hr
    obtain ⟨r0, hr0, rfl⟩ := hr
    exact ⟨r0, hr0, hnv⟩
  · refine ⟨rfl, ?_⟩
    simp only [sessionStart_registry, List.mem_map]
    rintro _ ⟨p, hp, rfl⟩
    refine ⟨p.2.origin, ?_, rfl⟩
    rw [List.getElem?_map, List.mem_enum_iff_getElem?.1 hp]; rfl
  · rintro _ _ ⟨-, -, -, -, -, -⟩ ⟨h1, h2⟩
    refine ⟨h1, fun s hs => ?_⟩
    rcases List.mem_append.1 hs with hs | hs
    · obtain ⟨r, hr, hnv⟩ := h2 s hs
      exact ⟨r, getElem?_append_of_getElem? _ hr, hnv⟩
    · rw [List.mem_singleton.1 hs]
      exact ⟨_, by simp, rfl⟩

/-- In every world of a run every array handed to `nghttp2_submit_request` carries as
`:host` the last user header named `host` in any letter case, else `hostport`. -/
theorem Reachable.host_header {w : World H I} (hw : Reachable cfg L file requests w) :
    w.client.hostport = (sessionStart cfg L requests).client.hostport ∧
      ∀ s ∈ w.session.submitted,
        s.nv.cells[7]? = some (some (lastValue cfg.headers.entries "host" w.client.hostport)) := by
  obtain ⟨h1, h2⟩ := hw.submitted_nv
  refine ⟨h1, fun s hs => ?_⟩
  obtain ⟨r, -, hnv⟩ := h2 s hs
  rw [hnv]
  exact submitNv_host L cfg.headers r _

/-- With `multiply == 1` the URIs of `reqvec` are distinct and cached, else the cache stays
empty; the admission loop keeps first occurrences, or each URI `multiply` times. -/
theorem add_request_dedup_laws (w : World H I) (hw : Reachable cfg L file requests w) :
    Admitted cfg.multiply (w.client.reqvec.map Request.uri) w.client.path_cache ∧
      (∀ uri data_prd data_length level,
        ((add_request cfg L w.client uri data_prd data_length level).1 = true ↔
          (cfg.multiply = 1 → uri ∉ w.client.reqvec.map Request.uri)) ∧
        (add_request cfg L w.client uri data_prd data_length level).2.reqvec.map Request.uri =
          if (add_request cfg L w.client uri data_prd data_length level).1 then
            w.client.reqvec.map Request.uri ++ [uri]
          else w.client.reqvec.map Request.uri) ∧
      (sessionStart cfg L requests).client.reqvec.map Request.uri =
        if cfg.multiply = 1 then firstOccurrences (requests.map (·.1))
        else requests.flatMap fun r => List.replicate cfg.multiply.toNat r.1 := by
  have ha := hw.admitted
  refine ⟨ha, fun uri _ _ _ => ⟨?_, ?_⟩, ?_⟩
  · by_cases hm : cfg.multiply = 1
    · simp [hm, ← ha.cache hm]
    · simp [hm, ha.empty hm]
  · rw [add_request_reqvec_uri, add_request_fst]; split <;> simp [*]
  · have h0 := admitted_nil cfg.multiply
    rw [sessionStart_reqvec]
    split
    · simpa [HttpClient.new] using addRequests_uri_of_one L requests ‹_› (c := HttpClient.new) h0
    · simpa [HttpClient.new] using addRequests_uri_of_ne_one L requests ‹_› (c := HttpClient.new) h0

theorem add_request_dedup_laws_at_start :
    Reachable {} passLib [] [("https://h/a", false, 0), ("https://h/a", false, 0)]
        (sessionStart {} passLib [("https://h/a", false, 0), ("https://h/a", false, 0)]) ∧
      (sessionStart ({} : Config) passLib
          [("https://h/a", false, 0), ("https://h/a", false, 0)]).client.reqvec.map Request.uri =
        ["https://h/a"] :=
  ⟨.refl, by
    simpa [firstOccurrences] using (add_request_dedup_laws {} passLib []
      [("https://h/a", false, 0), ("https://h/a", false, 0)] _ .refl).2.2⟩

end laws

end nghttp2
