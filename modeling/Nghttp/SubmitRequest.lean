-- The name/value array that `submit_request` builds: fourteen fixed entries,
-- `content-length` when there is a body, and the user headers, of which
-- `accept`, `user-agent` and `host` replace the value of the fixed entry.
import Mathlib.Tactic.IntervalCases
import Nghttp.Registry

namespace nghttp2

open http_parser_url_fields

variable {H I : Type}

/-! ## The array -/

/-- The `const char*` array `nv`: its cells, `nullptr` as `none`, and whether a store fell
past its end. -/
structure NvArray where
  cells : List (Option String)
  overrun : Bool

/-- `nv[i] = s`. A store past the end writes outside the array; it is recorded, and the
cells keep their values. -/
def NvArray.store (nv : NvArray) (i : Nat) (s : Option String) : NvArray :=
  if i < nv.cells.length then { nv with cells := nv.cells.set i s }
  else { nv with overrun := true }

@[simp] theorem NvArray.length_store (nv : NvArray) (i : Nat) (s : Option String) :
    (nv.store i s).cells.length = nv.cells.length := by
  unfold NvArray.store; split <;> simp

theorem NvArray.store_get_ne (nv : NvArray) {i j : Nat} (s : Option String) (h : i ≠ j) :
    (nv.store i s).cells[j]? = nv.cells[j]? := by
  unfold NvArray.store; split <;> simp [List.getElem?_set_ne h]

theorem NvArray.store_get_self (nv : NvArray) {i : Nat} (s : Option String)
    (h : i < nv.cells.length) : (nv.store i s).cells[i]? = some s := by
  simp [NvArray.store, h]

/-! ## `submit_request` -/

/-- `eStaticHeaderPosition`: the slot of a fixed header; its value is at `2 * pos + 1`. -/
def POS_HOST : Nat := 3
def POS_ACCEPT : Nat := 4
def POS_USERAGENT : Nat := 6

/-- `static_nv`: names and values alternating. -/
def static_nv (L : Lib H I) (req : Request H I) (hostport : String) : List String :=
  [":method", if req.data_prd then "POST" else "GET",
   ":path", make_reqpath req.u,
   ":scheme", get_uri_field req.u UF_SCHEMA,
   ":host", hostport,
   "accept", "*/*",
   "accept-encoding", "gzip, deflate",
   "user-agent", "nghttp2/" ++ L.NGHTTP2_VERSION]

/-- One turn of the header loop: the array and the cursor `pos`. -/
def nvHeaderStep (s : NvArray × Nat) (h : String × String) : NvArray × Nat :=
  if strieq h.1 "accept" then (s.1.store (POS_ACCEPT * 2 + 1) h.2, s.2)
  else if strieq h.1 "user-agent" then (s.1.store (POS_USERAGENT * 2 + 1) h.2, s.2)
  else if strieq h.1 "host" then (s.1.store (POS_HOST * 2 + 1) h.2, s.2)
  else ((s.1.store s.2 h.1).store (s.2 + 1) h.2, s.2 + 2)

/-- The array before the header loop: `total_entry_count + 1` cells, `static_nv` copied in,
`content-length` for a body, and the cursor after them. -/
def nvBase (L : Lib H I) (headers : HeaderMap) (req : Request H I) (hostport : String) :
    NvArray × Nat :=
  let hardcoded_entry_count := 14
  let total_entry_count := hardcoded_entry_count + headers.entries.length * 2 +
    if req.data_prd then 1 else 0
  let nv : NvArray :=
    ⟨(static_nv L req hostport).map some ++
      List.replicate (total_entry_count + 1 - hardcoded_entry_count) none, false⟩
  if req.data_prd then
    ((nv.store 14 "content-length").store 15 (toString req.data_length), 16)
  else (nv, 14)

/-- The array `submit_request` hands to `nghttp2_submit_request`: the header loop over
`nvBase`, then `nullptr` at `pos`. -/
def submitNv (L : Lib H I) (headers : HeaderMap) (req : Request H I) (hostport : String) :
    NvArray :=
  let s := headers.entries.foldl nvHeaderStep (nvBase L headers req hostport)
  s.1.store s.2 none

theorem nvBase_host (L : Lib H I) (headers : HeaderMap) (req : Request H I)
    (hostport : String) :
    14 ≤ (nvBase L headers req hostport).2 ∧ 7 < (nvBase L headers req hostport).1.cells.length ∧
      (nvBase L headers req hostport).1.cells[7]? = some (some hostport) := by
  have hl : (static_nv L req hostport).length = 14 := rfl
  have h7 : ∀ n, ((static_nv L req hostport).map some ++ List.replicate n none)[7]? =
      some (some hostport) := fun n => by
    rw [List.getElem?_append_left (by simp [hl]), List.getElem?_map]; rfl
  unfold nvBase
  dsimp only
  split
  · refine ⟨by simp, by simp [hl]; omega, ?_⟩
    rw [NvArray.store_get_ne _ _ (by decide), NvArray.store_get_ne _ _ (by decide), h7]
  · exact ⟨le_refl _, by simp [hl]; omega, h7 _⟩

/-! ## The value of `:host` -/

/-- The value of the last header whose name is `name` up to case, else `d`. -/
def lastValue (headers : List (String × String)) (name d : String) : String :=
  headers.foldl (fun v h => if strieq h.1 name then h.2 else v) d

theorem strieq_accept_host {n : String} (h : strieq n "accept" = true) :
    strieq n "host" = false := by
  simp only [strieq, beq_iff_eq] at h; simp only [strieq, h]; decide

theorem strieq_useragent_host {n : String} (h : strieq n "user-agent" = true) :
    strieq n "host" = false := by
  simp only [strieq, beq_iff_eq] at h; simp only [strieq, h]; decide

theorem nvHeaderStep_pos (s : NvArray × Nat) (h : String × String) :
    s.2 ≤ (nvHeaderStep s h).2 := by
  unfold nvHeaderStep; split_ifs <;> simp

@[simp] theorem nvHeaderStep_length (s : NvArray × Nat) (h : String × String) :
    (nvHeaderStep s h).1.cells.length = s.1.cells.length := by
  unfold nvHeaderStep; split_ifs <;> simp

theorem foldl_nvHeaderStep_pos (hs : List (String × String)) (s : NvArray × Nat) :
    s.2 ≤ (hs.foldl nvHeaderStep s).2 := by
  induction hs generalizing s with
  | nil => exact le_refl _
  | cons h hs ih => exact (nvHeaderStep_pos s h).trans (ih _)

theorem foldl_nvHeaderStep_host (hs : List (String × String)) (s : NvArray × Nat)
    (v : String) (hpos : 14 ≤ s.2) (hlen : 7 < s.1.cells.length)
    (hv : s.1.cells[7]? = some (some v)) :
    (hs.foldl nvHeaderStep s).1.cells[7]? = some (some (lastValue hs "host" v)) := by
  induction hs generalizing s v with
  | nil => simpa [lastValue] using hv
  | cons h hs ih =>
    simp only [List.foldl_cons, lastValue] at ih ⊢
    have hpos' := (nvHeaderStep_pos s h).trans' hpos
    have hlen' : 7 < (nvHeaderStep s h).1.cells.length := by simpa using hlen
    refine ih _ _ hpos' hlen' ?_
    unfold nvHeaderStep
    by_cases ha : strieq h.1 "accept" = true
    · simp only [ha, if_true, strieq_accept_host ha, Bool.false_eq_true, if_false]
      rw [NvArray.store_get_ne _ _ (by decide), hv]
    by_cases hu : strieq h.1 "user-agent" = true
    · simp only [ha, hu, if_true, strieq_useragent_host hu, Bool.false_eq_true, if_false]
      rw [NvArray.store_get_ne _ _ (by decide), hv]
    by_cases hh : strieq h.1 "host" = true
    · simp only [ha, hu, hh, if_true, Bool.false_eq_true, if_false]
      exact NvArray.store_get_self _ _ hlen
    · simp only [ha, hu, hh, Bool.false_eq_true, if_false]
      rw [NvArray.store_get_ne _ _ (by omega), NvArray.store_get_ne _ _ (by omega), hv]

theorem submitNv_host (L : Lib H I) (headers : HeaderMap) (req : Request H I)
    (hostport : String) :
    (submitNv L headers req hostport).cells[7]? =
      some (some (lastValue headers.entries "host" hostport)) := by
  have h0 := nvBase_host L headers req hostport
  have hp := foldl_nvHeaderStep_pos headers.entries (nvBase L headers req hostport)
  rw [submitNv, NvArray.store_get_ne _ _ (by omega)]
  exact foldl_nvHeaderStep_host _ _ _ h0.1 h0.2.1 h0.2.2

/-! ## The declared `content-length` -/

/-- A user header that replaces the value of a fixed entry instead of being appended: its
name is `accept`, `user-agent` or `host` up to case. -/
def overridesFixed (name : String) : Bool :=
  strieq name "accept" || strieq name "user-agent" || strieq name "host"

/-- The cells of name/value pairs: names and values alternating. -/
def pairCells : List (String × String) → List (Option String)
  | [] => []
  | p :: l => some p.1 :: some p.2 :: pairCells l

@[simp] theorem pairCells_append (l l' : List (String × String)) :
    pairCells (l ++ l') = pairCells l ++ pairCells l' := by
  induction l with
  | nil => rfl
  | cons p l ih => simp [pairCells, ih]

@[simp] theorem length_pairCells (l : List (String × String)) :
    (pairCells l).length = 2 * l.length := by
  induction l with
  | nil => rfl
  | cons p l ih => simp [pairCells, ih]; omega

/-- The seven fixed entries, with the values of `:host`, `accept` and `user-agent`. -/
def fixedPairs (req : Request H I) (host accept useragent : String) :
    List (String × String) :=
  [(":method", if req.data_prd then "POST" else "GET"), (":path", make_reqpath req.u),
   (":scheme", get_uri_field req.u UF_SCHEMA), (":host", host), ("accept", accept),
   ("accept-encoding", "gzip, deflate"), ("user-agent", useragent)]

/-- `content-length` and its value when the request has a body. -/
def contentLengthPair (req : Request H I) : List (String × String) :=
  if req.data_prd then [("content-length", toString req.data_length)] else []

/-- Modelled from the spec: a request's headers, the fixed entries with the last user value of
their name, `content-length` for a body, then the other user headers in map order. -/
def requestHeaders (L : Lib H I) (headers : HeaderMap) (req : Request H I)
    (hostport : String) : List (String × String) :=
  fixedPairs req (lastValue headers.entries "host" hostport)
      (lastValue headers.entries "accept" "*/*")
      (lastValue headers.entries "user-agent" ("nghttp2/" ++ L.NGHTTP2_VERSION)) ++
    contentLengthPair req ++ headers.entries.filter fun h => !overridesFixed h.1

theorem strieq_eq_of_strieq {n a : String} (h : strieq n a = true) (b : String) :
    strieq n b = strieq a b := by
  simp only [strieq, beq_iff_eq] at h ⊢
  rw [h]

theorem strieq_fixed_names :
    strieq "accept" "accept" = true ∧ strieq "accept" "user-agent" = false ∧
      strieq "accept" "host" = false ∧ strieq "user-agent" "accept" = false ∧
      strieq "user-agent" "user-agent" = true ∧ strieq "user-agent" "host" = false ∧
      strieq "host" "accept" = false ∧ strieq "host" "user-agent" = false ∧
      strieq "host" "host" = true := by
  decide

theorem NvArray.store_pad (pre : List (String × String)) (r : Nat) (p : String × String) :
    ((⟨pairCells pre ++ List.replicate (r + 2) none, false⟩ : NvArray).store
        (2 * pre.length) (some p.1)).store (2 * pre.length + 1) (some p.2) =
      ⟨pairCells (pre ++ [p]) ++ List.replicate r none, false⟩ := by
  simp [NvArray.store, List.set_append_right, pairCells, List.replicate_succ]

section fixed

variable (req : Request H I) (h a u : String) (rest : List (String × String))
  (pad : List (Option String))

theorem store_fixed_host (v : String) :
    (⟨pairCells (fixedPairs req h a u ++ rest) ++ pad, false⟩ : NvArray).store
        (POS_HOST * 2 + 1) (some v) =
      ⟨pairCells (fixedPairs req v a u ++ rest) ++ pad, false⟩ := by
  simp [NvArray.store, fixedPairs, pairCells, POS_HOST]

theorem store_fixed_accept (v : String) :
    (⟨pairCells (fixedPairs req h a u ++ rest) ++ pad, false⟩ : NvArray).store
        (POS_ACCEPT * 2 + 1) (some v) =
      ⟨pairCells (fixedPairs req h v u ++ rest) ++ pad, false⟩ := by
  simp [NvArray.store, fixedPairs, pairCells, POS_ACCEPT]

theorem store_fixed_useragent (v : String) :
    (⟨pairCells (fixedPairs req h a u ++ rest) ++ pad, false⟩ : NvArray).store
        (POS_USERAGENT * 2 + 1) (some v) =
      ⟨pairCells (fixedPairs req h a v ++ rest) ++ pad, false⟩ := by
  simp [NvArray.store, fixedPairs, pairCells, POS_USERAGENT]

end fixed

theorem foldl_nvHeaderStep_cells (req : Request H I) (hs : List (String × String))
    (h a u : String) (rest : List (String × String)) (r : Nat)
    (hr : 2 * (hs.filter fun x => !overridesFixed x.1).length ≤ r) :
    hs.foldl nvHeaderStep
        (⟨pairCells (fixedPairs req h a u ++ rest) ++ List.replicate r none, false⟩,
          2 * (7 + rest.length)) =
      (⟨pairCells (fixedPairs req (lastValue hs "host" h) (lastValue hs "accept" a)
          (lastValue hs "user-agent" u) ++ rest ++ hs.filter fun x => !overridesFixed x.1) ++
          List.replicate (r - 2 * (hs.filter fun x => !overridesFixed x.1).length) none, false⟩,
        2 * (7 + rest.length + (hs.filter fun x => !overridesFixed x.1).length)) := by
  induction hs generalizing h a u rest r with
  | nil => simp [lastValue]
  | cons x hs ih =>
    simp only [List.foldl_cons, lastValue] at ih ⊢
    by_cases ha : strieq x.1 "accept" = true
    · have hf : overridesFixed x.1 = true := by simp [overridesFixed, ha]
      simp only [List.filter_cons, hf, Bool.not_true, Bool.false_eq_true, if_false] at hr ⊢
      rw [nvHeaderStep, if_pos ha, store_fixed_accept, ih _ _ _ _ _ hr]
      simp [strieq_eq_of_strieq ha, strieq_fixed_names]
    by_cases hu : strieq x.1 "user-agent" = true
    · have hf : overridesFixed x.1 = true := by simp [overridesFixed, hu]
      simp only [List.filter_cons, hf, Bool.not_true, Bool.false_eq_true, if_false] at hr ⊢
      rw [nvHeaderStep, if_neg ha, if_pos hu, store_fixed_useragent, ih _ _ _ _ _ hr]
      simp [strieq_eq_of_strieq hu, strieq_fixed_names]
    by_cases hh : strieq x.1 "host" = true
    · have hf : overridesFixed x.1 = true := by simp [overridesFixed, hh]
      simp only [List.filter_cons, hf, Bool.not_true, Bool.false_eq_true, if_false] at hr ⊢
      rw [nvHeaderStep, if_neg ha, if_neg hu, if_pos hh, store_fixed_host, ih _ _ _ _ _ hr]
      simp [strieq_eq_of_strieq hh, strieq_fixed_names]
    · have hf : overridesFixed x.1 = false := by
        rw [overridesFixed, Bool.eq_false_iff.2 ha, Bool.eq_false_iff.2 hu,
          Bool.eq_false_iff.2 hh]
        rfl
      simp only [List.filter_cons, hf, Bool.not_false, if_true, List.length_cons] at hr ⊢
      obtain ⟨r, rfl⟩ : ∃ r', r = r' + 2 := ⟨r - 2, by omega⟩
      have hstep : nvHeaderStep (⟨pairCells (fixedPairs req h a u ++ rest) ++
            List.replicate (r + 2) none, false⟩, 2 * (7 + rest.length)) x =
          (⟨pairCells (fixedPairs req h a u ++ (rest ++ [x])) ++ List.replicate r none, false⟩,
            2 * (7 + (rest ++ [x]).length)) := by
        have hpos : 2 * (7 + rest.length) = 2 * (fixedPairs req h a u ++ rest).length := by
          simp [fixedPairs]; omega
        rw [nvHeaderStep, if_neg ha, if_neg hu, if_neg hh, hpos, NvArray.store_pad,
          List.append_assoc]
        simp [fixedPairs]
        omega
      rw [hstep, ih _ _ _ _ _ (by omega)]
      simp [ha, hu, hh]
      constructor <;> omega

/-- The cells of `nullptr` left after the pairs: the `1 + 2 * headers.size()` beyond the
fixed entries, less `content-length`'s two and two for each appended user header. -/
def nvPadding (headers : HeaderMap) (req : Request H I) : Nat :=
  2 * headers.entries.length + 1 - (if req.data_prd then 1 else 0) -
    2 * (headers.entries.filter fun h => !overridesFixed h.1).length

/-- The terminating `nullptr` goes into the first cell after the pairs, which already holds
one, or past the end when there is none. -/
theorem NvArray.store_end (l : List (Option String)) (r : Nat) :
    (⟨l ++ List.replicate r none, false⟩ : NvArray).store l.length none =
      ⟨l ++ List.replicate r none, decide (r = 0)⟩ := by
  cases r <;> simp [NvArray.store, List.set_append_right, List.replicate_succ]

theorem nvBase_eq (L : Lib H I) (headers : HeaderMap) (req : Request H I)
    (hostport : String) :
    nvBase L headers req hostport =
      (⟨pairCells (fixedPairs req hostport "*/*" ("nghttp2/" ++ L.NGHTTP2_VERSION) ++
          contentLengthPair req) ++
        List.replicate (2 * headers.entries.length + 1 - (if req.data_prd then 1 else 0)) none,
        false⟩, 2 * (7 + (contentLengthPair req).length)) := by
  have hs : (static_nv L req hostport).map some =
      pairCells (fixedPairs req hostport "*/*" ("nghttp2/" ++ L.NGHTTP2_VERSION)) := rfl
  unfold nvBase contentLengthPair
  cases hd : req.data_prd
  · simp only [Bool.false_eq_true, if_false, List.append_nil, hs]
    rw [show 14 + headers.entries.length * 2 + 0 + 1 - 14 = 2 * headers.entries.length + 1 - 0 by
      omega]
    rfl
  · simp only [if_true, hs]
    rw [show 14 + headers.entries.length * 2 + 1 + 1 - 14 = 2 * headers.entries.length + 2 by
      omega, show 2 * headers.entries.length + 1 - 1 = 2 * headers.entries.length by omega]
    have hp := NvArray.store_pad (fixedPairs req hostport "*/*" ("nghttp2/" ++
      L.NGHTTP2_VERSION)) (2 * headers.entries.length) ("content-length", toString req.data_length)
    simp only [show (fixedPairs req hostport "*/*" ("nghttp2/" ++ L.NGHTTP2_VERSION)).length = 7
      from rfl, Nat.reduceMul, Nat.reduceAdd] at hp
    rw [hp]
    rfl

/-- The array handed to `nghttp2_submit_request`: the pairs of `requestHeaders`, then the
padding; a store fell past the end exactly when no padding is left. -/
theorem submitNv_eq (L : Lib H I) (headers : HeaderMap) (req : Request H I)
    (hostport : String) :
    submitNv L headers req hostport =
      ⟨pairCells (requestHeaders L headers req hostport) ++
        List.replicate (nvPadding headers req) none, decide (nvPadding headers req = 0)⟩ := by
  have hn := List.length_filter_le (fun h : String × String => !overridesFixed h.1)
    headers.entries
  have hb : (contentLengthPair req).length = if req.data_prd then 1 else 0 := by
    unfold contentLengthPair; split <;> rfl
  unfold submitNv
  rw [nvBase_eq, foldl_nvHeaderStep_cells _ _ _ _ _ _ _ (by split <;> omega)]
  dsimp only
  have hrh : fixedPairs req (lastValue headers.entries "host" hostport)
      (lastValue headers.entries "accept" "*/*")
      (lastValue headers.entries "user-agent" ("nghttp2/" ++ L.NGHTTP2_VERSION)) ++
      contentLengthPair req ++ headers.entries.filter (fun h => !overridesFixed h.1) =
      requestHeaders L headers req hostport := List.append_assoc _ _ _
  have hpos : 2 * (7 + (contentLengthPair req).length +
      (headers.entries.filter fun h => !overridesFixed h.1).length) =
      (pairCells (requestHeaders L headers req hostport)).length := by
    rw [← hrh]; simp [fixedPairs]; omega
  have hpad : 2 * headers.entries.length + 1 - (if req.data_prd then 1 else 0) -
      2 * (headers.entries.filter fun h => !overridesFixed h.1).length =
      nvPadding headers req := rfl
  rw [hrh, hpos, hpad, NvArray.store_end]

/-! ## What `nghttp2_submit_request` reads -/

/-- What `nghttp2_submit_request` reads of `nv`: the pairs before the first `nullptr` name,
and whether it meets that `nullptr` inside the array. -/
def nvPairs : List (Option String) → List (String × String) × Bool
  | none :: _ => ([], true)
  | some n :: some v :: rest => ((n, v) :: (nvPairs rest).1, (nvPairs rest).2)
  | _ => ([], false)

theorem nvPairs_pairCells (l : List (String × String)) (rest : List (Option String)) :
    nvPairs (pairCells l ++ rest) = (l ++ (nvPairs rest).1, (nvPairs rest).2) := by
  induction l with
  | nil => rfl
  | cons p l ih => simp [pairCells, nvPairs, ih]

theorem nvPairs_replicate (r : Nat) :
    nvPairs (List.replicate r none) = ([], decide (0 < r)) := by
  cases r <;> simp [nvPairs, List.replicate_succ]

/-- No padding is left exactly for a request with a body none of whose user headers
overrides a fixed entry. -/
theorem nvPadding_eq_zero_iff (headers : HeaderMap) (req : Request H I) :
    nvPadding headers req = 0 ↔
      req.data_prd = true ∧ ∀ h ∈ headers.entries, overridesFixed h.1 = false := by
  have hn := List.length_filter_le (fun h : String × String => !overridesFixed h.1)
    headers.entries
  have hall : (headers.entries.filter fun h => !overridesFixed h.1).length =
      headers.entries.length ↔ ∀ h ∈ headers.entries, overridesFixed h.1 = false := by
    rw [List.filter_length_eq_length]; simp
  rw [← hall, nvPadding]
  cases req.data_prd
  · simp only [Bool.false_eq_true, if_false, false_and, iff_false]; omega
  · simp only [if_true, true_and]; omega

/-- A store falls past the `total_entry_count + 1` cells exactly when the request has a body
and no user header overrides a fixed entry: `content-length` takes two cells, not one. -/
theorem submit_nv_overrun_iff (L : Lib H I) (headers : HeaderMap) (req : Request H I)
    (hostport : String) :
    (submitNv L headers req hostport).cells.length =
        14 + headers.entries.length * 2 + (if req.data_prd then 1 else 0) + 1 ∧
      ((submitNv L headers req hostport).overrun = true ↔
        req.data_prd = true ∧ ∀ h ∈ headers.entries, overridesFixed h.1 = false) := by
  have hn := List.length_filter_le (fun h : String × String => !overridesFixed h.1)
    headers.entries
  rw [submitNv_eq, ← nvPadding_eq_zero_iff]
  refine ⟨?_, by simp⟩
  simp only [requestHeaders, nvPadding, List.length_append, length_pairCells,
    List.length_replicate, fixedPairs, contentLengthPair]
  split <;> simp <;> omega

theorem colon_mem_of_strieq_host {n : String} (h : strieq n ":host" = true) : ':' ∈ n.data := by
  have hl : n.data.map Char.toLower = [':', 'h', 'o', 's', 't'] := by
    simpa [strieq] using h
  obtain ⟨c, hc, hlow⟩ : ∃ c ∈ n.data, c.toLower = ':' :=
    List.mem_map.1 (hl ▸ List.mem_cons_self _ _)
  suffices c = ':' from this ▸ hc
  unfold Char.toLower at hlow
  dsimp only at hlow
  split at hlow
  · rename_i hu
    obtain ⟨h1, h2⟩ := hu
    generalize c.toNat = k at h1 h2 hlow
    interval_cases k <;> exact absurd hlow (by decide)
  · exact hlow

theorem countP_requestHeaders (L : Lib H I) (headers : HeaderMap) (req : Request H I)
    (hostport name : String) (hn : strieq "content-length" name = false)
    (ha : ∀ h ∈ headers.entries, overridesFixed h.1 = false → strieq h.1 name = false) :
    (requestHeaders L headers req hostport).countP (fun p => strieq p.1 name) =
      [":method", ":path", ":scheme", ":host", "accept", "accept-encoding",
        "user-agent"].countP (fun n => strieq n name) := by
  have hcl : (contentLengthPair req).countP (fun p => strieq p.1 name) = 0 := by
    unfold contentLengthPair
    split <;> simp [hn]
  have happ : (headers.entries.filter fun h => !overridesFixed h.1).countP
      (fun p => strieq p.1 name) = 0 :=
    List.countP_eq_zero.2 fun p hp => by
      obtain ⟨hp, hf⟩ := List.mem_filter.1 hp
      simp [ha p hp (by simpa using hf)]
  rw [requestHeaders, List.countP_append, List.countP_append, hcl, happ]
  rfl

/-- `nghttp2_submit_request` reads exactly `requestHeaders`, up to a `nullptr` inside the array
unless it was written past the end; a second `:host` needs a user name holding `:`. -/
theorem submit_nv_reads_request_headers (L : Lib H I) (headers : HeaderMap)
    (req : Request H I) (hostport : String) :
    (nvPairs (submitNv L headers req hostport).cells).1 =
        requestHeaders L headers req hostport ∧
      ((nvPairs (submitNv L headers req hostport).cells).2 = true ↔
        ¬ (req.data_prd = true ∧ ∀ h ∈ headers.entries, overridesFixed h.1 = false)) ∧
      (requestHeaders L headers req hostport).countP (fun p => strieq p.1 "accept") = 1 ∧
      (requestHeaders L headers req hostport).countP (fun p => strieq p.1 "user-agent") = 1 ∧
      ((∀ h ∈ headers.entries, ':' ∉ h.1.data) →
        (requestHeaders L headers req hostport).countP (fun p => strieq p.1 ":host") = 1) := by
  rw [submitNv_eq, nvPairs_pairCells, nvPairs_replicate]
  refine ⟨List.append_nil _, ?_, ?_, ?_, fun hc => ?_⟩
  · simp [Nat.pos_iff_ne_zero, nvPadding_eq_zero_iff]
  · refine (countP_requestHeaders L headers req hostport "accept" (by decide)
      fun h _ hf => ?_).trans (by decide)
    simp only [overridesFixed, Bool.or_eq_false_iff] at hf
    exact hf.1.1
  · refine (countP_requestHeaders L headers req hostport "user-agent" (by decide)
      fun h _ hf => ?_).trans (by decide)
    simp only [overridesFixed, Bool.or_eq_false_iff] at hf
    exact hf.1.2
  · refine (countP_requestHeaders L headers req hostport ":host" (by decide)
      fun h hh _ => ?_).trans (by decide)
    exact Bool.eq_false_iff.2 fun he => hc h hh (colon_mem_of_strieq_host he)

end nghttp2
