import PathQuery.Json.Printer
import PathQuery.Proofs.Number.PrintedNumbers

/-!
# Compact texts

Control characters stand in the strings of a document only, and strings escape them.  Numbers,
names and marks have none of their own, so the compact text of a document is one line whatever
the document holds.
-/

namespace PathQuery.Json

/-- If a text has no control characters. -/
def Printable (text : List Char) : Prop :=
  ∀ c ∈ text, 0x20 ≤ c.toNat

instance (text : List Char) : Decidable (Printable text) :=
  List.decidableBAll _ text

section Printable

variable {c : Char} {text rest : List Char}

theorem printable_nil : Printable [] :=
  nofun

theorem printable_cons : Printable (c :: text) ↔ 0x20 ≤ c.toNat ∧ Printable text :=
  List.forall_mem_cons

theorem printable_append : Printable (text ++ rest) ↔ Printable text ∧ Printable rest :=
  List.forall_mem_append

/-- A text without control characters is one line. -/
theorem Printable.newline_not_mem (h : Printable text) : '\n' ∉ text :=
  fun hmem => absurd (h '\n' hmem) (by decide)

end Printable

/-! ## Scalars -/

theorem hexByte_printable : ∀ n < 0x20, Printable (hexByte n) := by
  decide

/-- A character is escaped if it is a control character. -/
theorem escapeChar_printable (c : Char) : Printable (escapeChar c) := by
  unfold escapeChar
  split_ifs with _ _ _ _ _ _ _ hcontrol
  all_goals try decide
  · simp only [printable_cons]
    exact ⟨by decide, by decide, by decide, by decide, hexByte_printable _ hcontrol⟩
  · exact printable_cons.2 ⟨Nat.le_of_not_lt hcontrol, printable_nil⟩

theorem writeString_printable (s : String) : Printable (writeString s) := by
  have hchars : Printable (s.toList.flatMap escapeChar) := by
    intro c hc
    obtain ⟨d, -, hd⟩ := List.mem_flatMap.1 hc
    exact escapeChar_printable d c hd
  rw [writeString, printable_append, printable_cons]
  exact ⟨⟨by decide, hchars⟩, by decide⟩

theorem text_printable (value : Number) : Printable value.text := by
  intro c hc
  rcases value.text_chars c hc with hdigit | hmark
  · have hzero : 0x20 ≤ '0'.toNat := by decide
    exact hzero.trans (Char.isDigit_iff_toNat.1 hdigit).1
  · have hmarks : Printable ['-', '+', '.', 'e', 'E'] := by decide
    exact hmarks c hmark

/-! ## Documents -/

mutual

/-- The compact text of a document has no control characters. -/
theorem write_printable : ∀ node : Json, Printable node.write
  | null => by
      rw [write]
      decide
  | bool true => by
      rw [write]
      decide
  | bool false => by
      rw [write]
      decide
  | number value => text_printable value
  | string value => writeString_printable value
  | array items => by
      rw [write, printable_append, printable_cons]
      exact ⟨⟨by decide, writeItems_printable items⟩, by decide⟩
  | object members => by
      rw [write, printable_append, printable_cons]
      exact ⟨⟨by decide, writeMembers_printable members⟩, by decide⟩

theorem writeItems_printable : ∀ items : List Json, Printable (writeItems items)
  | [] => printable_nil
  | [item] => write_printable item
  | item :: next :: rest => by
      rw [writeItems, printable_append, printable_cons]
      · exact ⟨write_printable item, by decide, writeItems_printable (next :: rest)⟩
      · nofun

theorem writeMembers_printable : ∀ members : List (String × Json), Printable (writeMembers members)
  | [] => printable_nil
  | [(name, value)] => by
      rw [writeMembers, printable_append, printable_cons]
      exact ⟨writeString_printable name, by decide, write_printable value⟩
  | (name, value) :: next :: rest => by
      rw [writeMembers, printable_append, printable_append, printable_cons, printable_cons]
      · exact ⟨⟨writeString_printable name, by decide, write_printable value⟩, by decide,
          writeMembers_printable (next :: rest)⟩
      · nofun

end

end PathQuery.Json
