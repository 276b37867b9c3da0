-- The configuration that `main` fills and every part of the client reads,
-- with the user headers of `-H` as the `std::map` the source keeps them in:
-- names in increasing order, each name once.
import Mathlib.Data.List.Chain
import Mathlib.Data.String.Basic
import Nghttp.Uri

namespace nghttp2

/-! ## Header maps -/

/-- A `std::map<std::string, std::string>`: its entries in key order. -/
structure HeaderMap where
  entries : List (String × String)
  sorted : (entries.map Prod.fst).Chain' (· < ·)

instance : EmptyCollection HeaderMap := ⟨⟨[], trivial⟩⟩

theorem HeaderMap.keys_nodup (m : HeaderMap) : (m.entries.map Prod.fst).Nodup :=
  (List.chain'_iff_pairwise.1 m.sorted).imp ne_of_lt

/-- `headers.find(name)`: the value stored under exactly `name`. -/
def HeaderMap.find (m : HeaderMap) (name : String) : Option String := m.entries.lookup name

/-- Modelled from the spec: `util::strieq` of `util.h`, which is not in the source,
compares two names case-insensitively, ASCII letters folded. -/
def strieq (a b : String) : Bool := a.data.map Char.toLower == b.data.map Char.toLower

/-! ## The configuration -/

/-- The fields of `Config` that the modelled functions read. `timeout` is `-1` when unset,
and `N * 1000` after `-t N`; `window_bits` is `-1` when unset. -/
structure Config where
  null_out : Bool := false
  get_assets : Bool := false
  no_tls : Bool := false
  multiply : Int := 1
  timeout : Int := -1
  window_bits : Int := -1
  headers : HeaderMap := {}
  output_upper_thres : Nat := 1024 * 1024

end nghttp2
