-- The options of `main` that fill `Config`: `-t`, whose argument becomes the idle
-- timeout of the connection, `-w` and `-m`, read by `strtoul`, `-H`, whose header goes
-- into the `std::map` of user headers, and the flags; and the option loop over them.
import Nghttp.Transport

namespace nghttp2

/-! ## The C library -/

/-- The largest and the smallest `int`. -/
def INT_MAX : Int := 2147483647
def INT_MIN : Int := -2147483648

/-- `isspace` in the C locale: the blank, and `\t`, `\n`, `\v`, `\f` and `\r`. -/
def isspace (c : Char) : Bool := c == ' ' || (9 ≤ c.toNat && c.toNat ≤ 13)

/-- The value of a run of decimal digits. -/
def decimalValue (ds : List Char) : Int :=
  ds.foldl (fun n c => 10 * n + ((c.toNat - '0'.toNat : Nat) : Int)) 0

/-- `atoi`: white space, a sign, then the longest run of decimal digits; `none` where the
value leaves the range of `int`, which C leaves undefined. -/
def atoi (s : String) : Option Int :=
  let cs := s.data.dropWhile isspace
  let (neg, cs) : Bool × List Char :=
    match cs with
    | '-' :: cs => (true, cs)
    | '+' :: cs => (false, cs)
    | cs => (false, cs)
  let n := decimalValue (cs.takeWhile Char.isDigit)
  let v := if neg then -n else n
  if INT_MIN ≤ v ∧ v ≤ INT_MAX then some v else none

/-- The product of two `int`s; `none` where it leaves the range of `int`, which C leaves
undefined. -/
def intMul (a b : Int) : Option Int :=
  if INT_MIN ≤ a * b ∧ a * b ≤ INT_MAX then some (a * b) else none

/-- The largest `unsigned long`. -/
def ULONG_MAX : Nat := 2 ^ 64 - 1

/-- The sign that `strtoul` reads before the digits: whether it is `-`, and the rest. -/
def stripSign : List Char → Bool × List Char
  | '-' :: cs => (true, cs)
  | '+' :: cs => (false, cs)
  | cs => (false, cs)

/-- `strtoul(s, 0, 10)` of glibc: white space, a sign, the longest run of digits (0 if none),
saturating at `ULONG_MAX` with `errno` set, a minus sign negating modulo 2^64. -/
def strtoul (s : String) : Nat × Bool :=
  let (neg, cs) := stripSign (s.data.dropWhile isspace)
  let n := (decimalValue (cs.takeWhile Char.isDigit)).toNat
  if ULONG_MAX < n then (ULONG_MAX, true)
  else (if neg then (2 ^ 64 - n) % 2 ^ 64 else n, false)

/-- The conversion of an `unsigned long` to `int`, as gcc does it: the value modulo 2^32,
less 2^32 when that is 2^31 or more. -/
def intOfUlong (n : Nat) : Int :=
  if n % 2 ^ 32 < 2 ^ 31 then (n % 2 ^ 32 : Nat) else ((n % 2 ^ 32 : Nat) : Int) - 2 ^ 32

/-! ## `std::map::insert` -/

/-- `insert` on the entries of a `std::map`, in key order: a key already stored keeps its
value. -/
def insertEntry (k v : String) : List (String × String) → List (String × String)
  | [] => [(k, v)]
  | e :: es =>
    if k < e.1 then (k, v) :: e :: es
    else if k = e.1 then e :: es
    else e :: insertEntry k v es

section insert

variable (k v : String)

theorem mem_insertEntry {es : List (String × String)} {e : String × String}
    (h : e ∈ insertEntry k v es) : e = (k, v) ∨ e ∈ es := by
  induction es with
  | nil => simpa [insertEntry] using h
  | cons e' es ih =>
    unfold insertEntry at h
    split_ifs at h
    · simpa using h
    · exact .inr h
    · rcases List.mem_cons.1 h with rfl | h
      · exact .inr (List.mem_cons_self _ _)
      · exact (ih h).imp_right (List.mem_cons_of_mem _)

theorem insertEntry_pairwise : ∀ es : List (String × String),
    (es.map Prod.fst).Pairwise (· < ·) → ((insertEntry k v es).map Prod.fst).Pairwise (· < ·)
  | [], _ => by simp [insertEntry]
  | e :: es, h => by
    rw [List.map_cons, List.pairwise_cons] at h
    unfold insertEntry
    split_ifs with hlt heq
    · refine List.pairwise_cons.2 ⟨fun y hy => ?_, List.pairwise_cons.2 h⟩
      rcases List.mem_cons.1 hy with rfl | hy
      · exact hlt
      · exact lt_trans hlt (h.1 y hy)
    · exact List.pairwise_cons.2 h
    · have hgt : e.1 < k := (lt_trichotomy k e.1).resolve_left hlt |>.resolve_left heq
      refine List.pairwise_cons.2 ⟨fun y hy => ?_, insertEntry_pairwise es h.2⟩
      obtain ⟨e', he', rfl⟩ := List.mem_map.1 hy
      rcases mem_insertEntry k v he' with rfl | he'
      · exact hgt
      · exact h.1 _ (List.mem_map_of_mem _ he')

theorem lookup_cons_eq (x : String) (e : String × String) (es : List (String × String)) :
    (e :: es).lookup x = if x = e.1 then some e.2 else es.lookup x := by
  obtain ⟨k', v'⟩ := e
  rw [List.lookup_cons]
  by_cases h : x = k'
  · subst h; simp
  · simp [beq_eq_false_iff_ne.2 h, h]

theorem lookup_of_lt {k : String} : ∀ {es : List (String × String)},
    (∀ y ∈ es.map Prod.fst, k < y) → es.lookup k = none
  | [], _ => rfl
  | e :: es, h => by
    rw [lookup_cons_eq, if_neg (ne_of_lt (h e.1 (List.mem_cons_self _ _)))]
    exact lookup_of_lt fun y hy => h y (List.mem_cons_of_mem _ hy)

theorem lookup_insertEntry (x : String) : ∀ es : List (String × String),
    (es.map Prod.fst).Pairwise (· < ·) →
      (insertEntry k v es).lookup x =
        if x = k then some ((es.lookup k).getD v) else es.lookup x
  | [], _ => by by_cases hx : x = k <;> simp [insertEntry, lookup_cons_eq, hx]
  | e :: es, h => by
    rw [List.map_cons, List.pairwise_cons] at h
    unfold insertEntry
    by_cases hlt : k < e.1
    · have hn : (e :: es).lookup k = none := lookup_of_lt fun y hy => by
        rcases List.mem_cons.1 hy with rfl | hy
        · exact hlt
        · exact lt_trans hlt (h.1 y hy)
      rw [if_pos hlt, lookup_cons_eq, hn]
      by_cases hx : x = k <;> simp [hx]
    by_cases heq : k = e.1
    · rw [if_neg hlt, if_pos heq]
      by_cases hx : x = k
      · subst hx; simp [lookup_cons_eq, heq]
      · rw [if_neg hx]
    · rw [if_neg hlt, if_neg heq]
      simp only [lookup_cons_eq, lookup_insertEntry x es h.2]
      by_cases hx : x = k
      · subst hx; simp [heq]
      · simp [hx]

end insert

/-- `headers.insert(std::pair(name, value))`. -/
def HeaderMap.insert (m : HeaderMap) (k v : String) : HeaderMap :=
  ⟨insertEntry k v m.entries, List.chain'_iff_pairwise.2
    (insertEntry_pairwise k v _ (List.chain'_iff_pairwise.1 m.sorted))⟩

theorem HeaderMap.find_insert (m : HeaderMap) (k v x : String) :
    (m.insert k v).find x = if x = k then some ((m.find k).getD v) else m.find x :=
  lookup_insertEntry k v x _ (List.chain'_iff_pairwise.1 m.sorted)

/-! ## `-t` -/

/-- The `-t` case of `main`: `config.timeout = atoi(optarg) * 1000`, the timeout in
milliseconds; `none` where `atoi` or the product is undefined. -/
def optionT (cfg : Config) (optarg : String) : Option Config :=
  (atoi optarg).bind fun n => (intMul n 1000).map fun t => { cfg with timeout := t }

/-- `initiate_connection` sets the timeouts to `config.timeout` seconds unless it is `-1`,
with TLS or without. -/
theorem initiate_connection_timeouts (cfg : Config) (host : String) (port : UInt16) :
    (initiate_connection cfg host port).timeouts =
      if cfg.timeout != -1 then some cfg.timeout else none := by
  unfold initiate_connection
  dsimp only
  split <;> split <;> rfl

/-- `-t N` stores `N * 1000` where that fits in an `int`, and `initiate_connection` installs
it as seconds: the idle timeouts are `N * 1000` seconds. -/
theorem timeout_option_installs_milliseconds_as_seconds (cfg : Config) (optarg : String)
    (N : Int) (host : String) (port : UInt16) (h : atoi optarg = some N) (hN : 0 ≤ N) :
    optionT cfg optarg =
        (if N ≤ 2147483 then some { cfg with timeout := N * 1000 } else none) ∧
      (N * 1000 ≤ INT_MAX ↔ N ≤ 2147483) ∧
      (initiate_connection { cfg with timeout := N * 1000 } host port).timeouts =
        some (N * 1000) ∧
      ((initiate_connection { cfg with timeout := N * 1000 } host port).timeouts = some N ↔
        N = 0) := by
  have hm : intMul N 1000 = if N ≤ 2147483 then some (N * 1000) else none := by
    unfold intMul INT_MIN INT_MAX
    split_ifs <;> first | rfl | omega
  have ht : (initiate_connection { cfg with timeout := N * 1000 } host port).timeouts =
      some (N * 1000) := by
    rw [initiate_connection_timeouts, if_pos (bne_iff_ne.2 (by dsimp only; omega))]
  refine ⟨?_, by unfold INT_MAX; omega, ht, by rw [ht, Option.some.injEq]; omega⟩
  simp only [optionT, h, Option.some_bind, hm]
  split <;> rfl

/-- `-t 5` makes the idle timeouts 5000 seconds; `-t 2147484` overflows `int`. -/
theorem timeout_option_at_five :
    atoi "5" = some 5 ∧ (0 : Int) ≤ 5 ∧
      (initiate_connection { ({} : Config) with timeout := 5 * 1000 } "h" 443).timeouts =
        some 5000 ∧
      atoi "2147484" = some 2147484 ∧ optionT {} "2147484" = none :=
  ⟨by decide, by decide,
    (timeout_option_installs_milliseconds_as_seconds {} "5" 5 "h" 443 (by decide)
      (by decide)).2.2.1,
    by decide,
    (timeout_option_installs_milliseconds_as_seconds {} "2147484" 2147484 "h" 443 (by decide)
      (by decide)).1⟩

/-! ## `-w` and `-m` -/

/-- The `-w` case of `main`: the value `strtoul` reads, when it set no error and is below 31;
else the message printed before `exit(EXIT_FAILURE)`. -/
def optionW (cfg : Config) (optarg : String) : Except String Config :=
  let (n, erange) := strtoul optarg
  if !erange && n < 31 then .ok { cfg with window_bits := n }
  else .error "-w: specify the integer in the range [0, 30], inclusive"

/-- The `-m` case of `main`: `config.multiply = strtoul(optarg, 0, 10)`, the `unsigned long`
stored in an `int`. -/
def optionM (cfg : Config) (optarg : String) : Config :=
  { cfg with multiply := intOfUlong (strtoul optarg).1 }

theorem optionW_ok {cfg cfg' : Config} {optarg : String} (h : optionW cfg optarg = .ok cfg') :
    (strtoul optarg).2 = false ∧ (strtoul optarg).1 < 31 ∧
      cfg' = { cfg with window_bits := (strtoul optarg).1 } := by
  unfold optionW at h
  rcases hs : strtoul optarg with ⟨n, erange⟩
  rw [hs] at h
  dsimp only at h
  split_ifs at h with hok
  · cases h
    simpa using hok

/-! ## `-H` -/

/-- The `-H` case of `main`: a name up to the first `:` and a value after white space, both
non-empty; `std::map::insert` keeps a stored value. An error is its message and exit. -/
def optionH (cfg : Config) (optarg : String) : Except String Config :=
  match optarg.data.span (· != ':') with
  | (c :: cs, _ :: value) =>
    let value := value.dropWhile isspace
    if value.isEmpty then .error ("-H: invalid header - value missing: " ++ String.mk (c :: cs))
    else .ok { cfg with headers := cfg.headers.insert (String.mk (c :: cs)) (String.mk value) }
  | _ => .error ("-H: invalid header: " ++ optarg)

theorem span_colon (s : List Char) :
    s = (s.span (· != ':')).1 ++ (s.span (· != ':')).2 ∧ ':' ∉ (s.span (· != ':')).1 ∧
      ∀ c rest, (s.span (· != ':')).2 = c :: rest → c = ':' := by
  simp only [List.span_eq_take_drop, List.takeWhile_append_dropWhile, true_and]
  refine ⟨fun h => by simpa using List.mem_takeWhile_imp h, fun c rest hd => ?_⟩
  have := List.head?_dropWhile_not (· != ':') s
  rw [hd] at this
  simpa using this

section header

variable {cfg cfg' : Config} {optarg : String}

/-- `-H name:rest` adds `name` with `rest` after its white space, unless the map holds `name`
already; no other name changes. -/
theorem optionH_inserts_header (h : optionH cfg optarg = .ok cfg') :
    ∃ name rest, optarg.data = name.data ++ ':' :: rest ∧ name ≠ "" ∧ ':' ∉ name.data ∧
      rest.dropWhile isspace ≠ [] ∧
      cfg' = { cfg with headers := cfg.headers.insert name (String.mk (rest.dropWhile isspace)) } ∧
      ∀ x, cfg'.headers.find x = if x = name
        then some ((cfg.headers.find name).getD (String.mk (rest.dropWhile isspace)))
        else cfg.headers.find x := by
  obtain ⟨hsplit, hcolon, hhead⟩ := span_colon optarg.data
  unfold optionH at h
  rcases hs : optarg.data.span (· != ':') with ⟨_ | ⟨c, cs⟩, _ | ⟨colon, rest⟩⟩ <;>
    rw [hs] at h hsplit hcolon hhead
  · cases h
  · cases h
  · cases h
  obtain rfl : colon = ':' := hhead _ _ rfl
  dsimp only at h
  split at h
  · cases h
  rename_i hv
  cases h
  exact ⟨String.mk (c :: cs), rest, hsplit, fun he => List.cons_ne_nil c cs (congrArg String.data he),
    hcolon, fun he => hv (by rw [he]; rfl), rfl, fun x => HeaderMap.find_insert _ _ _ x⟩

/-- The failures of `-H`: an argument with no `:`, or one that starts with `:`, is shown
whole; one whose value is only white space shows its name alone. -/
theorem optionH_error_messages {msg : String} (h : optionH cfg optarg = .error msg) :
    (msg = "-H: invalid header: " ++ optarg ∧
        (':' ∉ optarg.data ∨ optarg.data.head? = some ':')) ∨
      ∃ name rest, optarg.data = name.data ++ ':' :: rest ∧ name ≠ "" ∧ ':' ∉ name.data ∧
        (∀ c ∈ rest, isspace c = true) ∧ msg = "-H: invalid header - value missing: " ++ name := by
  obtain ⟨hsplit, hcolon, hhead⟩ := span_colon optarg.data
  unfold optionH at h
  rcases hs : optarg.data.span (· != ':') with ⟨_ | ⟨c, cs⟩, _ | ⟨colon, rest⟩⟩ <;>
    rw [hs] at h hsplit hcolon hhead <;> simp only [List.nil_append, List.append_nil] at hsplit
  · cases h; exact .inl ⟨rfl, .inl (by simp [hsplit])⟩
  · cases h; exact .inl ⟨rfl, .inr (by rw [hsplit, hhead _ _ rfl]; rfl)⟩
  · cases h; exact .inl ⟨rfl, .inl (by rw [hsplit]; exact hcolon)⟩
  obtain rfl : colon = ':' := hhead _ _ rfl
  dsimp only at h
  split at h
  · rename_i hv
    cases h
    exact .inr ⟨String.mk (c :: cs), rest, hsplit,
      fun he => List.cons_ne_nil c cs (congrArg String.data he), hcolon,
      List.dropWhile_eq_nil_iff.1 (List.isEmpty_iff.1 hv), rfl⟩
  · cases h

end header

/-! ## The option loop -/

/-- The options of `main` that set a field of `Config` that the model reads; `-a` is that of
a build with libxml2. -/
inductive MainOption
  | n
  | t (optarg : String)
  | w (optarg : String)
  | H (optarg : String)
  | a
  | m (optarg : String)
  | no_tls
deriving DecidableEq, Repr

/-- One turn of the option loop of `main`: `none` is undefined behaviour, an `error` the
message printed before `exit(EXIT_FAILURE)`. -/
def mainOption (cfg : Config) : MainOption → Option (Except String Config)
  | .n => some (.ok { cfg with null_out := true })
  | .t optarg => (optionT cfg optarg).map .ok
  | .w optarg => some (optionW cfg optarg)
  | .H optarg => some (optionH cfg optarg)
  | .a => some (.ok { cfg with get_assets := true })
  | .m optarg => some (.ok (optionM cfg optarg))
  | .no_tls => some (.ok { cfg with no_tls := true })

/-- The option loop of `main` over the options `getopt_long` returns, in order. -/
def mainOptions (cfg : Config) : List MainOption → Option (Except String Config)
  | [] => some (.ok cfg)
  | o :: os =>
    match mainOption cfg o with
    | some (.ok cfg) => mainOptions cfg os
    | r => r

/-- What `-H` keeps of every user header: a name not empty and free of `:`, and a value not
empty that starts with no white space. -/
def HeaderOk (e : String × String) : Prop :=
  e.1 ≠ "" ∧ ':' ∉ e.1.data ∧ e.2.data ≠ [] ∧ ∀ c ∈ e.2.data.head?, isspace c = false

section loop

variable {cfg cfg' : Config}

theorem mainOptions_induction (P : Config → Prop)
    (hstep : ∀ {cfg cfg'} (o : MainOption), P cfg → mainOption cfg o = some (.ok cfg') → P cfg') :
    ∀ (os : List MainOption) {cfg cfg' : Config}, P cfg → mainOptions cfg os = some (.ok cfg') →
      P cfg'
  | [], _, _, hp, h => by cases h; exact hp
  | o :: os, cfg, _, hp, h => by
    unfold mainOptions at h
    rcases ho : mainOption cfg o with _ | _ | c <;> rw [ho] at h
    · cases h
    · cases h
    · exact mainOptions_induction P hstep os (hstep o hp ho) h

theorem headerOk_optionH {optarg : String} (hm : ∀ e ∈ cfg.headers.entries, HeaderOk e)
    (h : optionH cfg optarg = .ok cfg') : ∀ e ∈ cfg'.headers.entries, HeaderOk e := by
  obtain ⟨name, rest, -, hn, hc, hv, rfl, -⟩ := optionH_inserts_header h
  intro e he
  rcases mem_insertEntry _ _ he with rfl | he
  · have hd := List.head?_dropWhile_not isspace rest
    refine ⟨hn, hc, hv, fun c hc => ?_⟩
    rw [Option.mem_def] at hc
    simp only [hc] at hd
    exact hd
  · exact hm e he

/-- What one turn of the option loop can change of the fields below: `-w` the window bits, to
a number below 31, and `-H` the headers, as `optionH` does; no other option either. -/
theorem mainOption_frame {o : MainOption} (h : mainOption cfg o = some (.ok cfg')) :
    (cfg'.window_bits = cfg.window_bits ∨ ∃ w : Nat, w < 31 ∧ cfg'.window_bits = w) ∧
      (cfg'.headers = cfg.headers ∨ ∃ optarg, optionH cfg optarg = .ok cfg') := by
  cases o with
  | t optarg =>
    simp only [mainOption, optionT, Option.map_eq_some', Option.bind_eq_some,
      Except.ok.injEq] at h
    obtain ⟨_, ⟨_, -, _, -, rfl⟩, rfl⟩ := h
    exact ⟨.inl rfl, .inl rfl⟩
  | w optarg =>
    obtain ⟨-, hlt, rfl⟩ := optionW_ok (Option.some.inj h)
    exact ⟨.inr ⟨_, hlt, rfl⟩, .inl rfl⟩
  | H optarg =>
    refine ⟨.inl ?_, .inr ⟨optarg, Option.some.inj h⟩⟩
    obtain ⟨-, -, -, -, -, -, rfl, -⟩ := optionH_inserts_header (Option.some.inj h)
    rfl
  | n | a | m | no_tls => cases h; exact ⟨.inl rfl, .inl rfl⟩

theorem headerOk_mainOption {o : MainOption} (hm : ∀ e ∈ cfg.headers.entries, HeaderOk e)
    (h : mainOption cfg o = some (.ok cfg')) : ∀ e ∈ cfg'.headers.entries, HeaderOk e := by
  rcases (mainOption_frame h).2 with he | ⟨optarg, hH⟩
  · exact he ▸ hm
  · exact headerOk_optionH hm hH

theorem headerOk_mainOptions (os : List MainOption) (cfg cfg' : Config)
    (hm : ∀ e ∈ cfg.headers.entries, HeaderOk e) (h : mainOptions cfg os = some (.ok cfg')) :
    ∀ e ∈ cfg'.headers.entries, HeaderOk e :=
  mainOptions_induction (fun cfg => ∀ e ∈ cfg.headers.entries, HeaderOk e)
    (fun _ => headerOk_mainOption) os hm h

end loop

/-- Every configuration the option loop builds from the defaults holds header names that are
non-empty and free of `:`, and values that are non-empty and start with no white space. -/
theorem main_options_header_names (os : List MainOption) (cfg : Config)
    (h : mainOptions {} os = some (.ok cfg)) :
    ∀ e ∈ cfg.headers.entries, e.1 ≠ "" ∧ ':' ∉ e.1.data ∧ e.2.data ≠ [] ∧
      ∀ c ∈ e.2.data.head?, isspace c = false :=
  headerOk_mainOptions os {} cfg (fun _ he => absurd he (List.not_mem_nil _)) h

/-- `-H "accept:  text/html" -t 5` runs through the loop. -/
theorem main_options_header_names_accept :
    ∃ cfg, mainOptions {} [.H "accept:  text/html", .t "5"] = some (.ok cfg) ∧
      ∀ e ∈ cfg.headers.entries, e.1 ≠ "" ∧ ':' ∉ e.1.data ∧ e.2.data ≠ [] ∧
        ∀ c ∈ e.2.data.head?, isspace c = false := by
  obtain ⟨cfg, h⟩ : ∃ cfg, mainOptions {} [.H "accept:  text/html", .t "5"] = some (.ok cfg) :=
    ⟨_, rfl⟩
  exact ⟨cfg, h, main_options_header_names _ cfg h⟩

/-! ## The window and the multiplier -/

/-- What the option loop leaves in `window_bits`: unset, or a number of bits up to 30. -/
def WindowBitsOk (cfg : Config) : Prop :=
  cfg.window_bits = -1 ∨ ∃ w : Nat, w ≤ 30 ∧ cfg.window_bits = w

theorem windowBitsOk_mainOptions (os : List MainOption) {cfg : Config}
    (h : mainOptions {} os = some (.ok cfg)) : WindowBitsOk cfg :=
  mainOptions_induction WindowBitsOk (fun _ hw h => by
    rcases (mainOption_frame h).1 with he | ⟨w, hw31, he⟩
    · rwa [WindowBitsOk, he]
    · exact .inr ⟨w, by omega, he⟩) os (.inl rfl) h

theorem onConnectSettings_of_bits {cfg : Config} {w : Nat} (hw : w ≤ 30)
    (h : cfg.window_bits = w) :
    onConnectSettings cfg = some [⟨.NGHTTP2_SETTINGS_INITIAL_WINDOW_SIZE, 2 ^ w⟩] := by
  have hne : cfg.window_bits ≠ -1 := by omega
  simp [onConnectSettings, h, hne, hw]

/-- Every configuration the option loop builds makes `on_connect` submit no setting or one
window of `2^w` bytes, `w ≤ 30`: the shift is defined, the window at most the maximum. -/
theorem main_options_window_size (os : List MainOption) (cfg : Config)
    (h : mainOptions {} os = some (.ok cfg)) :
    (cfg.window_bits = -1 ∧ onConnectSettings cfg = some []) ∨
      ∃ w : Nat, w ≤ 30 ∧
        onConnectSettings cfg = some [⟨.NGHTTP2_SETTINGS_INITIAL_WINDOW_SIZE, 2 ^ w⟩] ∧
        2 ^ w ≤ NGHTTP2_MAX_WINDOW_SIZE := by
  rcases windowBitsOk_mainOptions os h with hu | ⟨w, hw, he⟩
  · exact .inl ⟨hu, by simp [onConnectSettings, hu]⟩
  · refine .inr ⟨w, hw, onConnectSettings_of_bits hw he, ?_⟩
    calc 2 ^ w ≤ 2 ^ 30 := Nat.pow_le_pow_right (by norm_num) hw
      _ ≤ NGHTTP2_MAX_WINDOW_SIZE := by decide

/-- `-w 16 -H "accept: */*"` asks for a window of 65536 bytes. -/
theorem main_options_window_size_sixteen :
    ∃ cfg, mainOptions {} [.w "16", .H "accept: */*"] = some (.ok cfg) ∧
      ((cfg.window_bits = -1 ∧ onConnectSettings cfg = some []) ∨
        ∃ w : Nat, w ≤ 30 ∧
          onConnectSettings cfg = some [⟨.NGHTTP2_SETTINGS_INITIAL_WINDOW_SIZE, 2 ^ w⟩] ∧
          2 ^ w ≤ NGHTTP2_MAX_WINDOW_SIZE) := by
  obtain ⟨cfg, h⟩ : ∃ cfg, mainOptions {} [.w "16", .H "accept: */*"] = some (.ok cfg) :=
    ⟨_, rfl⟩
  exact ⟨cfg, h, main_options_window_size _ cfg h⟩

/-- `-m` stores `strtoul`'s value modulo 2^32 as an `int`: below 2^31 each request is added
that many times, else none, and a remainder of 1 acts as `-m 1`. -/
theorem multiply_option_wraps (cfg : Config) (L : Lib H I) (optarg : String)
    (requests : List (String × Bool × Nat)) :
    (sessionStart (optionM cfg optarg) L requests).client.reqvec.map Request.uri =
      if (strtoul optarg).1 % 2 ^ 32 = 1 then firstOccurrences (requests.map (·.1))
      else requests.flatMap fun r => List.replicate
        (if (strtoul optarg).1 % 2 ^ 32 < 2 ^ 31 then (strtoul optarg).1 % 2 ^ 32 else 0) r.1 := by
  have hm : (optionM cfg optarg).multiply = intOfUlong (strtoul optarg).1 := rfl
  rw [sessionStart_reqvec, addRequests_new_uris, hm, intOfUlong]
  by_cases h1 : (strtoul optarg).1 % 2 ^ 32 = 1
  · rw [if_pos h1, if_pos (by split_ifs <;> omega)]
  · rw [if_neg h1, if_neg (by split_ifs <;> omega)]
    congr! 3
    split_ifs <;> omega

/-! ## What the options mean -/

/-- The argument of a `-t`, `-w`, `-m` or `-H`. -/
def MainOption.tArg : MainOption → Option String
  | .t optarg => some optarg
  | _ => none

def MainOption.wArg : MainOption → Option String
  | .w optarg => some optarg
  | _ => none

def MainOption.mArg : MainOption → Option String
  | .m optarg => some optarg
  | _ => none

def MainOption.hArg : MainOption → Option String
  | .H optarg => some optarg
  | _ => none

/-- The header that an argument of `-H` names: the text up to its first `:`, and the text
after it with its leading white space skipped. -/
def headerOf (optarg : String) : String × String :=
  (String.mk (optarg.data.takeWhile (· != ':')),
    String.mk (((optarg.data.dropWhile (· != ':')).drop 1).dropWhile isspace))

/-- What the last option of a kind reads, if one was given. -/
def lastArg (f : MainOption → Option String) (os : List MainOption) : Option String :=
  (os.filterMap f).getLast?

/-- The value of the first `-H` that names `x`. -/
def firstHeader (os : List MainOption) (x : String) : Option String :=
  (((os.filterMap MainOption.hArg).map headerOf).find? (·.1 == x)).map (·.2)

/-- What a list of options describes: the flags given, the last `-t`, `-w` and `-m`, and for
each header name its first `-H`. -/
structure OptionsMeaning (os : List MainOption) (cfg : Config) : Prop where
  null_out : cfg.null_out = decide (MainOption.n ∈ os)
  get_assets : cfg.get_assets = decide (MainOption.a ∈ os)
  no_tls : cfg.no_tls = decide (MainOption.no_tls ∈ os)
  timeout : cfg.timeout =
    ((lastArg MainOption.tArg os).bind fun a => (atoi a).map (· * 1000)).getD (-1)
  window_bits : cfg.window_bits =
    ((lastArg MainOption.wArg os).map fun a => ((strtoul a).1 : Int)).getD (-1)
  multiply : cfg.multiply =
    ((lastArg MainOption.mArg os).map fun a => intOfUlong (strtoul a).1).getD 1
  headers : ∀ x, cfg.headers.find x = firstHeader os x
  output_upper_thres : cfg.output_upper_thres = 1024 * 1024

section meaning

variable {cfg cfg' c : Config} {optarg : String}

theorem optionH_headerOf (h : optionH cfg optarg = .ok cfg') :
    cfg' = { cfg with headers := cfg.headers.insert (headerOf optarg).1 (headerOf optarg).2 } := by
  obtain ⟨name, rest, hs, -, hc, -, rfl, -⟩ := optionH_inserts_header h
  have hp : ∀ a ∈ name.data, (a != ':') = true := fun a ha => bne_iff_ne.2 fun he => hc (he ▸ ha)
  simp only [headerOf, hs, List.takeWhile_append_of_pos hp, List.dropWhile_append_of_pos hp]
  simp

theorem mainOptions_snoc (os : List MainOption) (o : MainOption) :
    ∀ {cfg cfg' : Config}, mainOptions cfg (os ++ [o]) = some (.ok cfg') →
      ∃ c, mainOptions cfg os = some (.ok c) ∧ mainOption c o = some (.ok cfg') := by
  induction os with
  | nil =>
    intro cfg cfg' h
    refine ⟨cfg, rfl, ?_⟩
    rw [List.nil_append] at h
    unfold mainOptions at h
    rcases ho : mainOption cfg o with _ | _ | c <;> rw [ho] at h
    · cases h
    · cases h
    · cases h; rfl
  | cons o' os ih =>
    intro cfg cfg' h
    rw [List.cons_append, mainOptions] at h
    rw [mainOptions]
    rcases ho : mainOption cfg o' with _ | _ | c <;> rw [ho] at h
    · cases h
    · cases h
    · exact ih h

theorem lastArg_snoc (f : MainOption → Option String) (os : List MainOption) (o : MainOption) :
    lastArg f (os ++ [o]) = (f o).or (lastArg f os) := by
  unfold lastArg
  cases hf : f o <;> simp [hf]

theorem firstHeader_snoc (os : List MainOption) (o : MainOption) (x : String) :
    firstHeader (os ++ [o]) x = (firstHeader os x).or
      ((o.hArg.map headerOf).bind fun h => if h.1 = x then some h.2 else none) := by
  unfold firstHeader
  cases hf : o.hArg with
  | none =>
    simp only [List.filterMap_append, List.filterMap_cons, hf, List.filterMap_nil, List.append_nil,
      Option.map_none', Option.none_bind, Option.or_none]
  | some a =>
    simp only [List.filterMap_append, List.filterMap_cons, hf, List.filterMap_nil, List.map_append,
      List.map_cons, List.map_nil, List.find?_append, List.find?_cons, List.find?_nil,
      Option.map_some', Option.some_bind]
    generalize List.find? _ (List.map headerOf (List.filterMap MainOption.hArg os)) = r
    by_cases hx : (headerOf a).1 = x
    · cases r <;> simp [hx]
    · have hb : ((headerOf a).1 == x) = false := beq_eq_false_iff_ne.2 hx
      cases r <;> simp [hx, hb]

theorem decide_mem_snoc (x o : MainOption) (os : List MainOption) :
    decide (x ∈ os ++ [o]) = (decide (x ∈ os) || decide (x = o)) := by
  simp

theorem OptionsMeaning.snoc {os : List MainOption} {o : MainOption} (hm : OptionsMeaning os c)
    (h : mainOption c o = some (.ok cfg)) : OptionsMeaning (os ++ [o]) cfg := by
  obtain ⟨h1, h2, h3, h4, h5, h6, h7, h8⟩ := hm
  cases o with
  | t optarg =>
    simp only [mainOption, optionT, Option.map_eq_some', Option.bind_eq_some,
      Except.ok.injEq] at h
    obtain ⟨_, ⟨n, hn, t, ht, rfl⟩, rfl⟩ := h
    have ht' : t = n * 1000 := by
      unfold intMul at ht
      split_ifs at ht
      exact (Option.some.inj ht).symm
    refine ⟨?_, ?_, ?_, ?_, ?_, ?_, fun x => ?_, h8⟩ <;>
      simp [decide_mem_snoc, lastArg_snoc, firstHeader_snoc, MainOption.tArg,
        MainOption.wArg, MainOption.mArg, MainOption.hArg, hn, ht', *]
  | w optarg =>
    obtain ⟨-, -, rfl⟩ := optionW_ok (Option.some.inj h)
    refine ⟨?_, ?_, ?_, ?_, ?_, ?_, fun x => ?_, h8⟩ <;>
      simp [decide_mem_snoc, lastArg_snoc, firstHeader_snoc, MainOption.tArg,
        MainOption.wArg, MainOption.mArg, MainOption.hArg, *]
  | H optarg =>
    rw [optionH_headerOf (Option.some.inj h)]
    refine ⟨?_, ?_, ?_, ?_, ?_, ?_, fun x => ?_, h8⟩
    case refine_7 =>
      rw [HeaderMap.find_insert, firstHeader_snoc, h7, h7]
      simp only [MainOption.hArg, Option.map_some', Option.some_bind]
      by_cases hx : x = (headerOf optarg).1
      · subst hx
        cases firstHeader os (headerOf optarg).1 <;> simp
      · simp [hx, Ne.symm hx]
    all_goals simp [decide_mem_snoc, lastArg_snoc, MainOption.tArg, MainOption.wArg,
      MainOption.mArg, *]
  | n | a | m optarg | no_tls =>
    cases h
    refine ⟨?_, ?_, ?_, ?_, ?_, ?_, fun x => ?_, h8⟩ <;>
      simp [decide_mem_snoc, lastArg_snoc, firstHeader_snoc, MainOption.tArg,
        MainOption.wArg, MainOption.mArg, MainOption.hArg, optionM, *]

end meaning

/-- The option loop of `main` computes what its options describe: the flags given, what the
last `-t`, `-w` and `-m` read, and each header name's first `-H`. -/
theorem main_options_meaning (os : List MainOption) (cfg : Config)
    (h : mainOptions {} os = some (.ok cfg)) : OptionsMeaning os cfg := by
  induction os using List.reverseRecOn generalizing cfg with
  | nil =>
    cases h
    exact ⟨rfl, rfl, rfl, rfl, rfl, rfl, fun x => rfl, rfl⟩
  | append_singleton os o ih =>
    obtain ⟨c, hc, ho⟩ := mainOptions_snoc os o h
    exact (ih c hc).snoc ho

theorem main_options_meaning_accept :
    ∃ cfg, mainOptions {} [.H "accept: a", .w "3", .H "accept: b", .w "5"] = some (.ok cfg) ∧
      OptionsMeaning [.H "accept: a", .w "3", .H "accept: b", .w "5"] cfg := by
  obtain ⟨cfg, h⟩ : ∃ cfg,
      mainOptions {} [.H "accept: a", .w "3", .H "accept: b", .w "5"] = some (.ok cfg) :=
    ⟨_, rfl⟩
  exact ⟨cfg, h, main_options_meaning _ cfg h⟩

end nghttp2
