import Tabular.Load
import Tabular.Proofs.Json.Flat
import Tabular.Proofs.Load.JsonReload

set_option autoImplicit false

/-! # Flat tables loaded and restored

The text of a flat table can be restored as a stored table (`Table.ofStored`) and loaded as the
content of a JSON file (`Load.json`). Without a limit of rows both give the same table, the keys of
each record in the same order, or both fail, with the same fault
(`Load.flat_table_read_both_ways`). A text is refused when a number in it is out of range or half of
a surrogate pair stands alone. That a string is not empty matters: loading makes an empty cell of an
empty string, and restoring keeps it.
-/

namespace Tabular.Load

open Json

/-- A flat table is restored and loaded as the same table, or both fail with the same fault. -/
theorem flat_table_read_both_ways {o : Options} (ho : o.maxRows = none) {text : String}
    (h : FlatTable text.toList) :
    (∃ fault, Table.ofStored (Text.symbolsOf text) = .error fault ∧
        json o text.toUTF8 = .error (.json fault)) ∨
      ∃ t, Table.ofStored (Text.symbolsOf text) = .ok t ∧ json o text.toUTF8 = .ok t := by
  have heq : Table.ofStored (Text.symbolsOf text) = Table.ofForeign (Text.symbolsOf text) :=
    Table.ofStored_eq_ofForeign h
  rw [heq]
  cases hread : Table.ofForeign (Text.symbolsOf text) with
  | error fault =>
      refine .inl ⟨fault, rfl, ?_⟩
      rw [json, Text.symbols_toUTF8, hread]
  | ok t =>
      have hne : t ≠ [] := Table.ne_nil_of_ofForeign h hread
      exact .inr ⟨t, rfl, json_of_ofForeign ho hne hread⟩

/-- A record with a repeated key, one without members, and numbers that no floating-point number is
equal to. -/
theorem flat_table_read_both_ways_of_ragged :
    let text := "[\x7b\"b\": null,\"a\":\"\\u00e9\",\"b\":9007199254740993\x7d , \x7b\x7d,\n" ++
      "\x7b\"c\":-18446744073709551617\x7d]"
    let t : Table := [
      Record.ofList [("b", .number (Number.ofInt 9007199254740992)), ("a", .text "é")],
      Record.empty,
      Record.ofList [("c", .number (Number.ofInt (-18446744073709551616)))]]
    ({} : Options).maxRows = none ∧ FlatTable text.toList ∧
      Table.ofStored (Text.symbolsOf text) = .ok t ∧ json {} text.toUTF8 = .ok t := by
  intro text t
  have ho : ({} : Options).maxRows = none := rfl
  have hletter (c : Char) (hc : c ≠ '"' ∧ c ≠ '\\' ∧ ¬ c.toNat < 0x20) :
      ∀ text ∈ [[c]], CharText text :=
    List.forall_mem_singleton.mpr (.plain hc.1 hc.2.1 hc.2.2)
  have hcode : ∀ text ∈ [['\\', 'u', '0', '0', 'e', '9']], CharText text :=
    List.forall_mem_singleton.mpr (.code (by decide) (by decide) (by decide) (by decide))
  have hspace : Blank [' '] := List.forall_mem_singleton.mpr rfl
  have hline : Blank ['\n'] := List.forall_mem_singleton.mpr rfl
  have hwhole : NumberText _ := @NumberText.of_whole [] "9007199254740993".toList (.inl rfl)
    ⟨List.all_eq_true.mp (by decide +kernel), by decide +kernel, by decide +kernel⟩
  have hnegative : NumberText _ := @NumberText.of_whole ['-'] "18446744073709551617".toList
    (.inr rfl) ⟨List.all_eq_true.mp (by decide +kernel), by decide +kernel, by decide +kernel⟩
  have hb := hletter 'b' (by decide)
  have hfirst : Parts FlatMember _ :=
    .cons blank_nil (.intro hb blank_nil hspace .null) blank_nil <|
      .cons blank_nil (.intro (hletter 'a' (by decide)) blank_nil blank_nil
        (.string hcode (List.cons_ne_nil _ _))) blank_nil <|
      .one blank_nil (.intro hb blank_nil blank_nil (.number hwhole)) blank_nil
  have hlast : Parts FlatMember _ :=
    .one blank_nil (.intro (hletter 'c' (by decide)) blank_nil blank_nil (.number hnegative))
      blank_nil
  have hflat : FlatTable text.toList := by
    have hobjects : Parts FlatObject _ :=
      .cons blank_nil (.members hfirst) hspace <|
        .cons hspace (.empty blank_nil) blank_nil <|
        .one hline (.members hlast) blank_nil
    convert FlatTable.intro blank_nil hobjects blank_nil using 1
    decide +kernel
  have hstored : Table.ofStored (Text.symbolsOf text) = .ok t := by decide +kernel
  refine ⟨ho, hflat, hstored, ?_⟩
  obtain ⟨fault, hfault, -⟩ | ⟨u, hu, hload⟩ := flat_table_read_both_ways ho hflat
  · rw [hstored] at hfault
    cases hfault
  · rw [hstored] at hu
    cases hu
    exact hload

end Tabular.Load
