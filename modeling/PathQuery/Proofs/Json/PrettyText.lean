import PathQuery.Json.Printer
import PathQuery.Proofs.Number.PrintedNumbers
import PathQuery.Proofs.Select.Comparisons

/-!
# Documents and their pretty texts

A pretty text can be read in one way only: its first character tells the kind of the node, a
string ends at its quote, and a number ends where a comma or a line break follows.  So two
documents with one text are the same, down to the sign of a zero and the order of members.
-/

namespace PathQuery.Json

/-! ## Strings -/

/-- The characters that are escaped in a string. -/
def escapedChars : List Char :=
  '"' :: '\\' :: (List.range 0x20).map Char.ofNat

/-- What stands for an escaped character begins with a backslash. -/
theorem escapeChar_of_mem {c : Char} (h : c ∈ escapedChars) :
    ∃ rest, escapeChar c = '\\' :: rest := by
  have hall : escapedChars.all (fun c => (escapeChar c).head? == some '\\') = true := by
    decide
  exact List.head?_eq_some_iff.1 (eq_of_beq (List.all_eq_true.1 hall c h))

theorem escapeChar_of_not_mem {c : Char} (h : c ∉ escapedChars) :
    escapeChar c = [c] ∧ c ≠ '"' ∧ c ≠ '\\' := by
  simp only [escapedChars, List.mem_cons, List.mem_map, List.mem_range, not_or, not_exists,
    not_and] at h
  obtain ⟨hquote, hbackslash, hcontrol⟩ := h
  have hprintable : ¬ c.toNat < 0x20 := fun hlt => hcontrol c.toNat hlt (Char.ofNat_toNat c)
  have hne : ∀ d : Char, d.toNat < 0x20 → c ≠ d := by
    rintro d hd rfl
    exact hprintable hd
  refine ⟨?_, hquote, hbackslash⟩
  rw [escapeChar, if_neg hquote, if_neg hbackslash, if_neg (hne _ (by decide)),
    if_neg (hne _ (by decide)), if_neg (hne _ (by decide)), if_neg (hne _ (by decide)),
    if_neg (hne _ (by decide)), if_neg hprintable]

/-- No escaped form begins another one. -/
theorem escapeChar_prefixFree {c d : Char} (h : escapeChar c <+: escapeChar d) : c = d := by
  have hescaped : escapedChars.all (fun c => escapedChars.all fun d =>
      !(escapeChar c).isPrefixOf (escapeChar d) || c == d) = true := by
    decide +kernel
  by_cases hc : c ∈ escapedChars
  · by_cases hd : d ∈ escapedChars
    · have hsame := List.all_eq_true.1 (List.all_eq_true.1 hescaped c hc) d hd
      rw [List.isPrefixOf_iff_prefix.2 h] at hsame
      exact eq_of_beq hsame
    · obtain ⟨rest, hrest⟩ := escapeChar_of_mem hc
      obtain ⟨hplain, -, hne⟩ := escapeChar_of_not_mem hd
      rw [hrest, hplain, List.cons_prefix_cons] at h
      exact absurd h.1.symm hne
  · obtain ⟨hplain, -, hne⟩ := escapeChar_of_not_mem hc
    rw [hplain] at h
    by_cases hd : d ∈ escapedChars
    · obtain ⟨rest, hrest⟩ := escapeChar_of_mem hd
      rw [hrest, List.cons_prefix_cons] at h
      exact absurd h.1 hne
    · rw [(escapeChar_of_not_mem hd).1, List.cons_prefix_cons] at h
      exact h.1

/-- No escaped form begins with a quote. -/
theorem escapeChar_ne_quote (c : Char) (rest rest' : List Char) :
    escapeChar c ++ rest ≠ '"' :: rest' := by
  intro h
  by_cases hc : c ∈ escapedChars
  · obtain ⟨more, hmore⟩ := escapeChar_of_mem hc
    rw [hmore] at h
    exact absurd (List.cons.inj h).1 (by decide)
  · obtain ⟨hplain, hne, -⟩ := escapeChar_of_not_mem hc
    rw [hplain] at h
    exact hne (List.cons.inj h).1

/-- A string is read up to its closing quote in one way only. -/
theorem escaped_injective {chars chars' rest rest' : List Char}
    (h : chars.flatMap escapeChar ++ '"' :: rest = chars'.flatMap escapeChar ++ '"' :: rest') :
    chars = chars' ∧ rest = rest' := by
  induction chars generalizing chars' with
  | nil =>
      cases chars' with
      | nil => exact ⟨rfl, (List.cons.inj h).2⟩
      | cons d chars' =>
          rw [List.flatMap_cons, List.append_assoc] at h
          exact absurd h.symm (escapeChar_ne_quote d _ rest)
  | cons c chars ih =>
      cases chars' with
      | nil =>
          rw [List.flatMap_cons, List.append_assoc] at h
          exact absurd h (escapeChar_ne_quote c _ rest')
      | cons d chars' =>
          rw [List.flatMap_cons, List.append_assoc, List.flatMap_cons, List.append_assoc] at h
          have hsame : c = d := by
            rcases List.prefix_or_prefix_of_prefix (List.prefix_append (escapeChar c) _)
              (h ▸ List.prefix_append (escapeChar d) _) with hprefix | hprefix
            · exact escapeChar_prefixFree hprefix
            · exact (escapeChar_prefixFree hprefix).symm
          subst hsame
          obtain ⟨rfl, hrest⟩ := ih (List.append_cancel_left h)
          exact ⟨rfl, hrest⟩

theorem writeString_injective {s s' : String} {rest rest' : List Char}
    (h : writeString s ++ rest = writeString s' ++ rest') : s = s' ∧ rest = rest' := by
  simp only [writeString, List.append_assoc, List.cons_append, List.nil_append,
    List.cons.injEq, true_and] at h
  obtain ⟨hchars, hrest⟩ := escaped_injective h
  exact ⟨String.toList_inj.1 hchars, hrest⟩

/-! ## Numbers -/

/-- If a text goes on as it may behind a number. -/
def EndsNumber (rest : List Char) : Prop :=
  ∀ c ∈ rest.head?, c = ',' ∨ c = '\n'

theorem endsNumber_nil : EndsNumber [] := by
  rintro c ⟨⟩

/-- A number is read up to a comma or a line break in one way only. -/
theorem text_append_injective {a b : Number} {rest rest' : List Char} (hrest : EndsNumber rest)
    (hrest' : EndsNumber rest') (h : a.text ++ rest = b.text ++ rest') : a = b ∧ rest = rest' := by
  have hstop : ∀ {rest}, EndsNumber rest → ∀ c ∈ rest.head?, (c != ',' && c != '\n') = false := by
    intro rest hrest c hc
    rcases hrest c hc with rfl | rfl
    · rfl
    · rfl
  have hchars : ∀ (a : Number), ∀ c ∈ a.text, (c != ',' && c != '\n') = true := by
    intro a c hc
    by_contra hmark
    rw [Bool.not_eq_true, Bool.and_eq_false_iff, bne_eq_false_iff_eq, bne_eq_false_iff_eq] at hmark
    rcases hmark with rfl | rfl
    · exact absurd (a.text_chars _ hc) (by decide)
    · exact absurd (a.text_chars _ hc) (by decide)
  have htext : a.text = b.text := by
    rw [← takeWhile_run (hchars a) (hstop hrest), h, takeWhile_run (hchars b) (hstop hrest')]
  rw [htext] at h
  exact ⟨Number.text_injective htext, List.append_cancel_left h⟩

/-! ## Documents -/

/-- The kind of a node whose text begins with a character. -/
def leadKind : Char → Kind
  | '[' => .array
  | '{' => .object
  | '"' => .string
  | 'n' => .null
  | 't' | 'f' => .boolean
  | _ => .number

theorem leadKind_number {c : Char} (hc : c.isDigit = true ∨ c = '-') : leadKind c = .number := by
  unfold leadKind
  split
  all_goals first
    | rfl
    | (rcases hc with hc | hc <;> exact absurd hc (by decide))

/-- A pretty text begins with a character of the kind of its node. -/
theorem writePretty_lead (level : Nat) (node : Json) :
    ∃ c rest, node.writePretty level = c :: rest ∧ leadKind c = node.kind := by
  cases node with
  | null => exact ⟨'n', _, rfl, rfl⟩
  | bool value =>
      cases value with
      | false => exact ⟨'f', _, rfl, rfl⟩
      | true => exact ⟨'t', _, rfl, rfl⟩
  | number value =>
      obtain ⟨c, rest, htext, hc⟩ := value.text_exists_cons
      exact ⟨c, rest, htext, leadKind_number hc⟩
  | string value => exact ⟨'"', _, rfl, rfl⟩
  | array items =>
      cases items with
      | nil => exact ⟨'[', _, rfl, rfl⟩
      | cons item rest => exact ⟨'[', _, rfl, rfl⟩
  | object members =>
      cases members with
      | nil => exact ⟨'{', _, rfl, rfl⟩
      | cons member rest => exact ⟨'{', _, rfl, rfl⟩

theorem kind_eq_of_writePretty {level level' : Nat} {node node' : Json} {rest rest' : List Char}
    (h : node.writePretty level ++ rest = node'.writePretty level' ++ rest') :
    node.kind = node'.kind := by
  obtain ⟨c, more, htext, hkind⟩ := writePretty_lead level node
  obtain ⟨c', more', htext', hkind'⟩ := writePretty_lead level' node'
  rw [htext, htext'] at h
  rw [← hkind, ← hkind', (List.cons.inj h).1]

/-- What follows an item in its container: other items behind a comma, or the end. -/
def behindItem {α : Type} (write : List α → List Char) (others : List α) (tail : List Char) :
    List Char :=
  if others.isEmpty then tail else ',' :: write others ++ tail

section Items

variable {α : Type} {write : List α → List Char} {others others' : List α}
  {tail tail' : List Char}

theorem endsNumber_newline (h : tail.head? = some '\n') : EndsNumber tail := by
  intro c hc
  rw [h] at hc
  exact .inr (Option.some.inj hc).symm

theorem endsNumber_behindItem (h : tail.head? = some '\n') :
    EndsNumber (behindItem write others tail) := by
  rw [behindItem]
  split
  next => exact endsNumber_newline h
  next => exact fun c hc => .inl (Option.some.inj hc).symm

/-- A comma tells whether other items follow. -/
theorem behindItem_cases (htail : tail.head? = some '\n') (htail' : tail'.head? = some '\n')
    (h : behindItem write others tail = behindItem write others' tail') :
    (others = [] ∧ others' = [] ∧ tail = tail') ∨
      (others ≠ [] ∧ others' ≠ [] ∧ write others ++ tail = write others' ++ tail') := by
  cases others with
  | nil =>
      cases others' with
      | nil => exact .inl ⟨rfl, rfl, h⟩
      | cons other' more' =>
          have hcomma : tail = ',' :: (write (other' :: more') ++ tail') := h
          rw [hcomma] at htail
          exact absurd (Option.some.inj htail) (by decide)
  | cons other more =>
      cases others' with
      | nil =>
          have hcomma : ',' :: (write (other :: more) ++ tail) = tail' := h
          rw [← hcomma] at htail'
          exact absurd (Option.some.inj htail') (by decide)
      | cons other' more' => exact .inr ⟨nofun, nofun, (List.cons.inj h).2⟩

/-- What follows an opening bracket: items with a line break behind the last one, or the closing
bracket at once. -/
def inBrackets (write : List α → List Char) (items : List α) (lineBreak close : List Char) :
    List Char :=
  if items.isEmpty then close else write items ++ (lineBreak ++ close)

/-- Either both of two containers with one text are empty or neither is. -/
theorem inBrackets_cases {lineBreak close close' : List Char}
    (hclose : ∀ items ≠ [], ∀ tail, close ≠ write items ++ tail)
    (hclose' : ∀ items ≠ [], ∀ tail, close' ≠ write items ++ tail)
    (h : inBrackets write others lineBreak close = inBrackets write others' lineBreak close') :
    (others = [] ∧ others' = [] ∧ close = close') ∨
      (others ≠ [] ∧ others' ≠ [] ∧
        write others ++ (lineBreak ++ close) = write others' ++ (lineBreak ++ close')) := by
  cases others with
  | nil =>
      cases others' with
      | nil => exact .inl ⟨rfl, rfl, h⟩
      | cons other' more' => exact absurd h (hclose _ (List.cons_ne_nil other' more') _)
  | cons other more =>
      cases others' with
      | nil => exact absurd h.symm (hclose' _ (List.cons_ne_nil other more) _)
      | cons other' more' =>
          exact .inr ⟨List.cons_ne_nil other more, List.cons_ne_nil other' more', h⟩

end Items

theorem writePrettyItems_cons (level : Nat) (item : Json) (others : List Json)
    (tail : List Char) :
    writePrettyItems level (item :: others) ++ tail =
      newLine level ++ (item.writePretty level ++
        behindItem (writePrettyItems level) others tail) := by
  cases others with
  | nil =>
      rw [writePrettyItems, List.append_assoc]
      rfl
  | cons other more =>
      rw [writePrettyItems, List.append_assoc, List.append_assoc]
      · rfl
      · exact List.cons_ne_nil other more

theorem writePrettyMembers_cons (level : Nat) (name : String) (value : Json)
    (others : List (String × Json)) (tail : List Char) :
    writePrettyMembers level ((name, value) :: others) ++ tail =
      newLine level ++ (writeString name ++ ':' :: ' ' :: (value.writePretty level ++
        behindItem (writePrettyMembers level) others tail)) := by
  cases others with
  | nil =>
      rw [writePrettyMembers]
      simp [behindItem]
  | cons other more =>
      rw [writePrettyMembers]
      · simp [behindItem]
      · exact List.cons_ne_nil other more

/-- The text of an array. -/
theorem writePretty_array (level : Nat) (items : List Json) (rest : List Char) :
    (array items).writePretty level ++ rest =
      '[' :: inBrackets (writePrettyItems (level + 1)) items (newLine level) (']' :: rest) := by
  cases items with
  | nil => rfl
  | cons item others => simp [writePretty, inBrackets]

theorem writePretty_object (level : Nat) (members : List (String × Json)) (rest : List Char) :
    (object members).writePretty level ++ rest =
      '{' :: inBrackets (writePrettyMembers (level + 1)) members (newLine level)
        ('}' :: rest) := by
  cases members with
  | nil => rfl
  | cons member others => simp [writePretty, inBrackets]

/-- The items of an array begin on a line of their own, so no bracket stands there. -/
theorem writePrettyItems_ne_close (level : Nat) (rest : List Char) (items : List Json)
    (h : items ≠ []) (tail : List Char) : ']' :: rest ≠ writePrettyItems level items ++ tail := by
  obtain ⟨item, others, rfl⟩ := List.exists_cons_of_ne_nil h
  rw [writePrettyItems_cons]
  exact fun hsame => absurd (List.cons.inj hsame).1 (by decide)

theorem writePrettyMembers_ne_close (level : Nat) (rest : List Char)
    (members : List (String × Json)) (h : members ≠ []) (tail : List Char) :
    '}' :: rest ≠ writePrettyMembers level members ++ tail := by
  obtain ⟨⟨name, value⟩, others, rfl⟩ := List.exists_cons_of_ne_nil h
  rw [writePrettyMembers_cons]
  exact fun hsame => absurd (List.cons.inj hsame).1 (by decide)

mutual

/-- The pretty text of a document is that of no other one, whatever follows: what stands behind a
node in its container tells where the node ends, so texts that agree have the same parts. -/
theorem writePretty_injective (level : Nat) : ∀ (node : Json) {node' : Json}
    {rest rest' : List Char}, EndsNumber rest → EndsNumber rest' →
    node.writePretty level ++ rest = node'.writePretty level ++ rest' →
    node = node' ∧ rest = rest'
  | null, node', rest, rest', _, _, h => by
      have hkind := kind_eq_of_writePretty h
      cases node' with
      | null => exact ⟨rfl, List.append_cancel_left h⟩
      | _ => cases hkind
  | bool value, node', rest, rest', _, _, h => by
      have hkind := kind_eq_of_writePretty h
      cases node' with
      | bool value' =>
          have hvalue : value = value' := by
            cases value <;> cases value'
            case true.true => rfl
            case false.false => rfl
            all_goals exact absurd (List.cons.inj h).1 (by decide)
          subst hvalue
          exact ⟨rfl, List.append_cancel_left h⟩
      | _ => cases hkind
  | number value, node', rest, rest', hrest, hrest', h => by
      have hkind := kind_eq_of_writePretty h
      cases node' with
      | number value' =>
          obtain ⟨rfl, hrest⟩ := text_append_injective hrest hrest' h
          exact ⟨rfl, hrest⟩
      | _ => cases hkind
  | string value, node', rest, rest', _, _, h => by
      have hkind := kind_eq_of_writePretty h
      cases node' with
      | string value' =>
          obtain ⟨rfl, hrest⟩ := writeString_injective h
          exact ⟨rfl, hrest⟩
      | _ => cases hkind
  | array items, node', rest, rest', _, _, h => by
      have hkind := kind_eq_of_writePretty h
      cases node' with
      | array items' =>
          rw [writePretty_array, writePretty_array] at h
          rcases inBrackets_cases (writePrettyItems_ne_close _ rest)
            (writePrettyItems_ne_close _ rest') (List.cons.inj h).2 with
            ⟨rfl, rfl, hclose⟩ | ⟨hitems, hitems', hmore⟩
          · exact ⟨rfl, (List.cons.inj hclose).2⟩
          · obtain ⟨rfl, hend⟩ := writePrettyItems_injective (level + 1) items hitems hitems' rfl
              rfl hmore
            exact ⟨rfl, (List.cons.inj (List.append_cancel_left hend)).2⟩
      | _ => cases hkind
  | object members, node', rest, rest', _, _, h => by
      have hkind := kind_eq_of_writePretty h
      cases node' with
      | object members' =>
          rw [writePretty_object, writePretty_object] at h
          rcases inBrackets_cases (writePrettyMembers_ne_close _ rest)
            (writePrettyMembers_ne_close _ rest') (List.cons.inj h).2 with
            ⟨rfl, rfl, hclose⟩ | ⟨hmembers, hmembers', hmore⟩
          · exact ⟨rfl, (List.cons.inj hclose).2⟩
          · obtain ⟨rfl, hend⟩ := writePrettyMembers_injective (level + 1) members hmembers
              hmembers' rfl rfl hmore
            exact ⟨rfl, (List.cons.inj (List.append_cancel_left hend)).2⟩
      | _ => cases hkind

theorem writePrettyItems_injective (level : Nat) : ∀ (items : List Json) {items' : List Json}
    {tail tail' : List Char}, items ≠ [] → items' ≠ [] → tail.head? = some '\n' →
    tail'.head? = some '\n' →
    writePrettyItems level items ++ tail = writePrettyItems level items' ++ tail' →
    items = items' ∧ tail = tail'
  | [], _, _, _, hne, _, _, _, _ => absurd rfl hne
  | item :: others, items', tail, tail', _, hne', htail, htail', h => by
      obtain ⟨item', others', rfl⟩ := List.exists_cons_of_ne_nil hne'
      rw [writePrettyItems_cons, writePrettyItems_cons] at h
      obtain ⟨rfl, hbehind⟩ := writePretty_injective level item (endsNumber_behindItem htail)
        (endsNumber_behindItem htail') (List.append_cancel_left h)
      rcases behindItem_cases htail htail' hbehind with
        ⟨rfl, rfl, htails⟩ | ⟨hothers, hothers', hmore⟩
      · exact ⟨rfl, htails⟩
      · obtain ⟨rfl, htails⟩ := writePrettyItems_injective level others hothers hothers' htail
          htail' hmore
        exact ⟨rfl, htails⟩

theorem writePrettyMembers_injective (level : Nat) : ∀ (members : List (String × Json))
    {members' : List (String × Json)} {tail tail' : List Char}, members ≠ [] → members' ≠ [] →
    tail.head? = some '\n' → tail'.head? = some '\n' →
    writePrettyMembers level members ++ tail = writePrettyMembers level members' ++ tail' →
    members = members' ∧ tail = tail'
  | [], _, _, _, hne, _, _, _, _ => absurd rfl hne
  | (name, value) :: others, members', tail, tail', _, hne', htail, htail', h => by
      obtain ⟨⟨name', value'⟩, others', rfl⟩ := List.exists_cons_of_ne_nil hne'
      rw [writePrettyMembers_cons, writePrettyMembers_cons] at h
      obtain ⟨rfl, hvalue⟩ := writeString_injective (List.append_cancel_left h)
      obtain ⟨rfl, hbehind⟩ := writePretty_injective level value (endsNumber_behindItem htail)
        (endsNumber_behindItem htail') (List.cons.inj (List.cons.inj hvalue).2).2
      rcases behindItem_cases htail htail' hbehind with
        ⟨rfl, rfl, htails⟩ | ⟨hothers, hothers', hmore⟩
      · exact ⟨rfl, htails⟩
      · obtain ⟨rfl, htails⟩ := writePrettyMembers_injective level others hothers hothers' htail
          htail' hmore
        exact ⟨rfl, htails⟩

end

/-- Documents with the same pretty text are equal. -/
theorem pretty_injective {node node' : Json} (h : node.pretty = node'.pretty) : node = node' := by
  have htext : node.writePretty 0 ++ [] = node'.writePretty 0 ++ [] := by
    rw [List.append_nil, List.append_nil]
    exact String.ofList_injective h
  exact (writePretty_injective 0 node endsNumber_nil endsNumber_nil htext).1

end PathQuery.Json
