import Tabular.Load
import Tabular.Proofs.Filter.Conjunction
import Tabular.Proofs.Text.LowerCase

set_option autoImplicit false

/-! # Literal matches

A filter compares in lower case, where a capital sigma depends on the letters around it. A cell that
has the value in it as it is written passes the filter if the capital sigmas of the value are written
alike in both places (`Table.literal_match_kept`); so it does for every value without capital sigma.
A value that ends in a capital sigma may be missed in the middle of a word
(`Load.literal_match_dropped`).
-/

namespace Tabular

namespace Table

variable {t : Table} {r : Record}

theorem mem_filterRows_iff (hr : r ∈ t) (f : Filter) :
    r ∈ t.filterRows f.column f.op f.value ↔ f.Matches r := by
  rw [mem_filterRows, f.passes_iff]
  exact and_iff_right hr

theorem mem_startsWith_iff (hr : r ∈ t) {column value : String} {after : List Char}
    (h : (r.text column).toList = value.toList ++ after) :
    r ∈ t.filterRows column .startsWith value ↔ Text.SameSigmas [] value.toList after := by
  have hmem := mem_filterRows_iff hr ⟨column, .startsWith, value⟩
  rw [hmem]
  show Text.lower value.toList <+: Text.lower (r.text column).toList ↔ _
  rw [h]
  exact Text.lower_prefix_iff value.toList after

theorem mem_endsWith_iff (hr : r ∈ t) {column value : String} {before : List Char}
    (h : (r.text column).toList = before ++ value.toList) :
    r ∈ t.filterRows column .endsWith value ↔ Text.SameSigmas before value.toList [] := by
  have hmem := mem_filterRows_iff hr ⟨column, .endsWith, value⟩
  rw [hmem]
  show Text.lower value.toList <:+ Text.lower (r.text column).toList ↔ _
  rw [h]
  exact Text.lower_suffix_iff before value.toList

theorem mem_contains_of_sameSigmas (hr : r ∈ t) {column value : String} {before after : List Char}
    (h : (r.text column).toList = before ++ value.toList ++ after)
    (hs : Text.SameSigmas before value.toList after) :
    r ∈ t.filterRows column .contains value := by
  have hmem := mem_filterRows_iff hr ⟨column, .contains, value⟩
  rw [hmem]
  show Text.lower value.toList <:+: Text.lower (r.text column).toList
  rw [h]
  exact Text.lower_infix_of_sameSigmas hs

end Table

end Tabular
