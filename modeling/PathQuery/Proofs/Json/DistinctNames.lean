import Mathlib.Data.List.Nodup
import PathQuery.Json.Reader
import PathQuery.Proofs.Select.Offspring

/-!
# Distinct names

An object that is read keeps one member of each name: a repeated name sets the member that
is there.  Main statement: in a document that was read no object has two members of the
same name, at any depth.
-/

namespace PathQuery.Json

/-- No object of a document has two members of the same name. -/
def HasDistinctNames (node : Json) : Prop :=
  ∀ found ∈ node.selfAndBeneath, (found.members.map Prod.fst).Nodup

instance (node : Json) : Decidable node.HasDistinctNames :=
  inferInstanceAs (Decidable (∀ found ∈ node.selfAndBeneath, (found.members.map Prod.fst).Nodup))

/-- A document has distinct names if its members have, and all its children. -/
theorem hasDistinctNames_iff (node : Json) :
    node.HasDistinctNames ↔
      (node.members.map Prod.fst).Nodup ∧ ∀ child ∈ node.children, child.HasDistinctNames := by
  unfold HasDistinctNames
  rw [selfAndBeneath_eq, List.forall_mem_cons, beneath_eq]
  simp only [List.mem_flatMap]
  constructor
  · rintro ⟨hnode, hbeneath⟩
    exact ⟨hnode, fun child hchild found hfound => hbeneath found ⟨child, hchild, hfound⟩⟩
  · rintro ⟨hnode, hchildren⟩
    refine ⟨hnode, ?_⟩
    rintro found ⟨child, hchild, hfound⟩
    exact hchildren child hchild found hfound

theorem hasDistinctNames_array {items : List Json} :
    (array items).HasDistinctNames ↔ ∀ item ∈ items, item.HasDistinctNames := by
  rw [hasDistinctNames_iff, children_array]
  exact and_iff_right List.nodup_nil

theorem hasDistinctNames_object {members : List (String × Json)} :
    (object members).HasDistinctNames ↔
      (members.map Prod.fst).Nodup ∧ ∀ member ∈ members, member.2.HasDistinctNames := by
  rw [hasDistinctNames_iff, children_object, List.forall_mem_map]
  rfl

/-! ## Members that are set -/

/-- Setting a member keeps the names, or adds the new one. -/
theorem mem_setMember {name : String} {value : Json} {members : List (String × Json)}
    {member : String × Json} (h : member ∈ setMember name value members) :
    member = (name, value) ∨ member ∈ members := by
  induction members with
  | nil => exact Or.inl (List.mem_singleton.1 h)
  | cons first rest ih =>
      rw [setMember] at h
      split at h
      · rw [List.mem_cons] at h
        exact h.imp id (List.mem_cons_of_mem _)
      · rw [List.mem_cons] at h
        rcases h with rfl | h
        · exact Or.inr List.mem_cons_self
        · exact (ih h).imp id (List.mem_cons_of_mem _)

theorem nodup_setMember (name : String) (value : Json) {members : List (String × Json)}
    (h : (members.map Prod.fst).Nodup) :
    ((setMember name value members).map Prod.fst).Nodup := by
  induction members with
  | nil => exact List.nodup_singleton name
  | cons first rest ih =>
      rw [List.map_cons, List.nodup_cons] at h
      rw [setMember]
      split
      · rename_i hname
        rw [List.map_cons, List.nodup_cons, ← hname]
        exact h
      · rename_i hname
        rw [List.map_cons, List.nodup_cons]
        refine ⟨?_, ih h.2⟩
        intro hmem
        obtain ⟨member, hmember, heq⟩ := List.mem_map.1 hmem
        rcases mem_setMember hmember with rfl | hrest
        · exact hname heq.symm
        · exact h.1 (heq ▸ List.mem_map_of_mem hrest)

/-- Setting a member keeps the names of an object distinct, at any depth. -/
theorem hasDistinctNames_setMember {name : String} {value : Json}
    {members : List (String × Json)} (hvalue : value.HasDistinctNames)
    (hmembers : (object members).HasDistinctNames) :
    (object (setMember name value members)).HasDistinctNames := by
  rw [hasDistinctNames_object] at hmembers ⊢
  refine ⟨nodup_setMember name value hmembers.1, ?_⟩
  intro member hmember
  rcases mem_setMember hmember with rfl | hold
  · exact hvalue
  · exact hmembers.2 member hold

/-- Setting the members of some declarations one by one keeps the names distinct. -/
theorem hasDistinctNames_foldl {declarations members : List (String × Json)}
    (h : ∀ declaration ∈ declarations, declaration.2.HasDistinctNames)
    (hmembers : (object members).HasDistinctNames) :
    (object (declarations.foldl (fun members d => setMember d.1 d.2 members) members)
      ).HasDistinctNames := by
  induction declarations generalizing members with
  | nil => exact hmembers
  | cons declaration rest ih =>
      rw [List.forall_mem_cons] at h
      exact ih h.2 (hasDistinctNames_setMember h.1 hmembers)

/-- The object of some declarations has distinct names if their values have. -/
theorem hasDistinctNames_ofDeclarations {declarations : List (String × Json)}
    (h : ∀ declaration ∈ declarations, declaration.2.HasDistinctNames) :
    (ofDeclarations declarations).HasDistinctNames := by
  have hempty : (object []).HasDistinctNames :=
    hasDistinctNames_object.2 ⟨List.nodup_nil, by simp⟩
  exact hasDistinctNames_foldl h hempty

/-! ## Documents that are read -/

/-- A reader reads only values with distinct names. -/
def ReadsDistinctNames (reader : Reader Json) : Prop :=
  ∀ text node rest, reader text = some (node, rest) → node.HasDistinctNames

theorem hasDistinctNames_of_not_isContainer {node : Json}
    (h : node.kind.isContainer = false) : node.HasDistinctNames := by
  rw [hasDistinctNames_iff, children, entries_of_not_isContainer h]
  cases node with
  | object members => cases h
  | _ => exact ⟨List.nodup_nil, by simp⟩

theorem readWord_eq_some {word text rest : List Char} {value node : Json}
    (h : readWord word value text = some (node, rest)) : node = value := by
  unfold readWord at h
  split at h
  · cases h
    rfl
  · cases h

theorem readScalar_not_isContainer {text rest : List Char} {node : Json}
    (h : readScalar text = some (node, rest)) : node.kind.isContainer = false := by
  unfold readScalar at h
  split at h
  · cases h
  · obtain ⟨⟨_, _⟩, _, h⟩ := Option.map_eq_some_iff.1 h
    cases h
    rfl
  · rw [readWord_eq_some h]
    rfl
  · rw [readWord_eq_some h]
    rfl
  · rw [readWord_eq_some h]
    rfl
  · obtain ⟨⟨_, _⟩, _, h⟩ := Option.bind_eq_some_iff.1 h
    obtain ⟨_, _, h⟩ := Option.bind_eq_some_iff.1 h
    cases h
    rfl

theorem readItems_distinct {item : Reader Json} (hitem : ReadsDistinctNames item)
    {rounds : Nat} {text rest : List Char} {items : List Json}
    (h : readItems item rounds text = some (items, rest)) :
    ∀ value ∈ items, value.HasDistinctNames := by
  induction rounds generalizing text items rest with
  | zero => cases h
  | succ rounds ih =>
      rw [readItems] at h
      obtain ⟨⟨value, after⟩, hvalue, h⟩ := Option.bind_eq_some_iff.1 h
      have hfirst := hitem _ _ _ hvalue
      simp only at h
      split at h
      · cases h
        exact List.forall_mem_singleton.2 hfirst
      · obtain ⟨⟨others, behind⟩, hothers, h⟩ := Option.bind_eq_some_iff.1 h
        cases h
        exact List.forall_mem_cons.2 ⟨hfirst, ih hothers⟩
      · cases h

theorem readMember_distinct {item : Reader Json} (hitem : ReadsDistinctNames item)
    {text rest : List Char} {member : String × Json}
    (h : readMember item text = some (member, rest)) : member.2.HasDistinctNames := by
  unfold readMember at h
  split at h
  · obtain ⟨⟨name, after⟩, _, h⟩ := Option.bind_eq_some_iff.1 h
    simp only at h
    split at h
    · obtain ⟨⟨value, behind⟩, hvalue, h⟩ := Option.bind_eq_some_iff.1 h
      cases h
      exact hitem _ _ _ hvalue
    · cases h
  · cases h

theorem readMembers_distinct {item : Reader Json} (hitem : ReadsDistinctNames item)
    {rounds : Nat} {text rest : List Char} {members : List (String × Json)}
    (h : readMembers item rounds text = some (members, rest)) :
    ∀ member ∈ members, member.2.HasDistinctNames := by
  induction rounds generalizing text members rest with
  | zero => cases h
  | succ rounds ih =>
      rw [readMembers] at h
      obtain ⟨⟨member, after⟩, hmember, h⟩ := Option.bind_eq_some_iff.1 h
      have hfirst := readMember_distinct hitem hmember
      simp only at h
      split at h
      · cases h
        exact List.forall_mem_singleton.2 hfirst
      · obtain ⟨⟨others, behind⟩, hothers, h⟩ := Option.bind_eq_some_iff.1 h
        cases h
        exact List.forall_mem_cons.2 ⟨hfirst, ih hothers⟩
      · cases h

theorem readValue_distinct (depth : Nat) : ReadsDistinctNames (readValue depth) := by
  induction depth with
  | zero =>
      intro text node rest h
      exact hasDistinctNames_of_not_isContainer (readScalar_not_isContainer h)
  | succ depth ih =>
      intro text node rest h
      unfold readValue at h
      split at h
      · split at h
        · cases h
          exact hasDistinctNames_array.2 (by simp)
        · obtain ⟨⟨items, after⟩, hitems, h⟩ := Option.map_eq_some_iff.1 h
          cases h
          exact hasDistinctNames_array.2 (readItems_distinct ih hitems)
      · split at h
        · cases h
          exact @hasDistinctNames_ofDeclarations [] (by simp)
        · obtain ⟨⟨members, after⟩, hmembers, h⟩ := Option.map_eq_some_iff.1 h
          cases h
          exact hasDistinctNames_ofDeclarations (readMembers_distinct ih hmembers)
      · exact hasDistinctNames_of_not_isContainer (readScalar_not_isContainer h)

/-- A document that is read has distinct names: a name that is declared again sets the
member that is there. -/
theorem hasDistinctNames_of_read {text : String} {node : Json} (h : read text = some node) :
    node.HasDistinctNames := by
  unfold read at h
  split at h
  · rename_i value rest hvalue
    split at h
    · cases h
      exact readValue_distinct maxDepth _ _ _ hvalue
    · cases h
  · cases h

end PathQuery.Json
