import Mathlib.Data.List.Induction
import Mathlib.Data.List.Lex
import PathQuery.Proofs.Select.Preorder

/-!
# Places in a document

A place is the way down to a node: the indices of the children on it.  The places of a
document are the ways that lead somewhere, in lexicographic order; so a node comes
before everything beneath it, and a child with all that is beneath it before the next
child.  A walk in pre-order meets the entries of the document in the order of their
places, each once.
-/

namespace PathQuery

/-- The indices of the children on the way to a node. -/
abbrev Place := List Nat

namespace Json

/-! ## What is at a place -/

/-- The entry at a place beneath an entry, if the place leads somewhere. -/
def entryBeneath (entry : Entry) : Place → Option Entry
  | [] => some entry
  | index :: place => entry.2.entries[index]?.bind fun child => entryBeneath child place

/-- The entry at a place of a document, which is no member itself. -/
def entryAt? (node : Json) (place : Place) : Option Entry :=
  entryBeneath (none, node) place

/-- The node at a place of a document. -/
def nodeAt? (node : Json) (place : Place) : Option Json :=
  (node.entryAt? place).map (·.2)

/-- The name of the node at a place, if it is a member of an object. -/
def nameAt? (node : Json) (place : Place) : Option String :=
  (node.entryAt? place).bind (·.1)

/-- A place behind a place leads beneath what is at the first one. -/
theorem entryBeneath_append (entry : Entry) (place beneath : Place) :
    entryBeneath entry (place ++ beneath) =
      (entryBeneath entry place).bind fun inner => entryBeneath inner beneath := by
  induction place generalizing entry with
  | nil => rfl
  | cons index place ih =>
      rw [List.cons_append, entryBeneath, entryBeneath, Option.bind_assoc]
      congr 1
      funext child
      exact ih child

/-- The name of an entry has no part in what is beneath it. -/
theorem map_entryBeneath_value (entry : Entry) (place : Place) :
    (entryBeneath entry place).map (·.2) = entry.2.nodeAt? place := by
  cases place with
  | nil => rfl
  | cons index place => rfl

theorem nodeAt?_append (node : Json) (place beneath : Place) :
    node.nodeAt? (place ++ beneath) =
      (node.nodeAt? place).bind fun inner => inner.nodeAt? beneath := by
  rw [nodeAt?, nodeAt?, entryAt?, entryAt?, entryBeneath_append, Option.map_bind,
    Option.bind_map]
  congr 1
  funext inner
  exact map_entryBeneath_value inner beneath

mutual

/-- The places of a document. -/
def places : Json → List Place
  | array items => [] :: itemPlaces 0 items
  | object members => [] :: memberPlaces 0 members
  | _ => [[]]

/-- The places of the items of an array from an index on. -/
def itemPlaces : Nat → List Json → List Place
  | _, [] => []
  | index, item :: rest => (places item).map (index :: ·) ++ itemPlaces (index + 1) rest

/-- The places of the members of an object from an index on. -/
def memberPlaces : Nat → List (String × Json) → List Place
  | _, [] => []
  | index, (_, value) :: rest =>
    (places value).map (index :: ·) ++ memberPlaces (index + 1) rest

end

/-- The places of the entries of a container from an index on. -/
def entryPlaces : Nat → List Entry → List Place
  | _, [] => []
  | index, entry :: rest => entry.2.places.map (index :: ·) ++ entryPlaces (index + 1) rest

theorem itemPlaces_eq (index : Nat) (items : List Json) :
    itemPlaces index items = entryPlaces index (items.map fun item => (none, item)) := by
  induction items generalizing index with
  | nil => rfl
  | cons item rest ih => rw [itemPlaces, ih, List.map_cons, entryPlaces]

theorem memberPlaces_eq (index : Nat) (members : List (String × Json)) :
    memberPlaces index members =
      entryPlaces index (members.map fun member => (some member.1, member.2)) := by
  induction members generalizing index with
  | nil => rfl
  | cons member rest ih => rw [memberPlaces, ih, List.map_cons, entryPlaces]

/-- The places of a document are its own and those of its entries. -/
theorem places_eq (node : Json) : node.places = [] :: entryPlaces 0 node.entries := by
  cases node with
  | array items => rw [places, entries, itemPlaces_eq]
  | object members => rw [places, entries, memberPlaces_eq]
  | _ => rfl

/-! ## Induction from the entries of a container -/

theorem size_eq (node : Json) : node.size = stackSize node.entries + 1 := by
  cases node with
  | array items => rw [size, entries, sizeItems_eq]
  | object members => rw [size, entries, sizeMembers_eq]
  | _ => rfl

theorem size_le_stackSize {entry : Entry} {stack : List Entry} (h : entry ∈ stack) :
    entry.2.size ≤ stackSize stack := by
  obtain ⟨before, after, rfl⟩ := List.append_of_mem h
  rw [stackSize_append, stackSize_cons]
  omega

/-- What holds of a node as soon as it holds of all its entries holds of every node. -/
theorem induction_entries {motive : Json → Prop}
    (step : ∀ node : Json, (∀ entry ∈ node.entries, motive entry.2) → motive node)
    (node : Json) : motive node := by
  refine step node ?_
  intro entry hentry
  have hsmaller : entry.2.size < node.size := by
    have := size_le_stackSize hentry
    have := node.size_eq
    omega
  exact induction_entries step entry.2
termination_by node.size

theorem length_flatMap_withDescendants {level : List Entry}
    (hlevel : ∀ entry ∈ level, (withDescendants entry).length = entry.2.size) :
    (level.flatMap withDescendants).length = stackSize level := by
  induction level with
  | nil => rfl
  | cons entry rest ih =>
      rw [List.flatMap_cons, List.length_append, stackSize_cons,
        hlevel entry List.mem_cons_self,
        ih fun other hother => hlevel other (List.mem_cons_of_mem _ hother)]

/-- An entry with everything beneath it is as many entries as its value has nodes. -/
theorem length_withDescendants (entry : Entry) :
    (withDescendants entry).length = entry.2.size := by
  obtain ⟨name, node⟩ := entry
  induction node using induction_entries generalizing name with
  | step node ih =>
      have hentries := length_flatMap_withDescendants fun entry hentry => ih entry hentry entry.1
      rw [withDescendants, List.length_cons, descendants_eq, hentries, size_eq]

/-! ## The places are those that lead somewhere, in order -/

theorem mem_entryPlaces_iff (index : Nat) (level : List Entry) (place : Place) :
    place ∈ entryPlaces index level ↔
      ∃ offset beneath entry, place = (index + offset) :: beneath ∧
        level[offset]? = some entry ∧ beneath ∈ entry.2.places := by
  induction level generalizing index with
  | nil => simp [entryPlaces]
  | cons entry rest ih =>
      rw [entryPlaces, List.mem_append, ih, List.mem_map]
      constructor
      · rintro (⟨beneath, hbeneath, rfl⟩ | ⟨offset, beneath, other, rfl, hother, hbeneath⟩)
        · exact ⟨0, beneath, entry, rfl, rfl, hbeneath⟩
        · refine ⟨offset + 1, beneath, other, ?_, hother, hbeneath⟩
          rw [Nat.add_right_comm, Nat.add_assoc]
      · rintro ⟨offset, beneath, other, rfl, hother, hbeneath⟩
        cases offset with
        | zero =>
            cases hother
            exact Or.inl ⟨beneath, hbeneath, rfl⟩
        | succ offset =>
            refine Or.inr ⟨offset, beneath, other, ?_, hother, hbeneath⟩
            rw [Nat.add_right_comm, Nat.add_assoc]

/-- The places beneath an entry are those that lead somewhere. -/
theorem mem_places_iff_entryBeneath (entry : Entry) (place : Place) :
    place ∈ entry.2.places ↔ (entryBeneath entry place).isSome = true := by
  induction place generalizing entry with
  | nil => simp [places_eq, entryBeneath]
  | cons index place ih =>
      rw [places_eq, List.mem_cons, mem_entryPlaces_iff, entryBeneath]
      constructor
      · rintro (hnil | ⟨offset, beneath, child, hplace, hchild, hbeneath⟩)
        · cases hnil
        · rw [Nat.zero_add] at hplace
          obtain ⟨rfl, rfl⟩ := List.cons.inj hplace
          rw [hchild, Option.bind_some]
          exact (ih child).1 hbeneath
      · intro hsome
        obtain ⟨found, hfound⟩ := Option.isSome_iff_exists.1 hsome
        obtain ⟨child, hchild, hbeneath⟩ := Option.bind_eq_some_iff.1 hfound
        refine Or.inr ⟨index, place, child, by rw [Nat.zero_add], hchild, ?_⟩
        exact (ih child).2 (by rw [hbeneath]; rfl)

theorem mem_places_iff (node : Json) (place : Place) :
    place ∈ node.places ↔ (node.nodeAt? place).isSome = true := by
  rw [nodeAt?, Option.isSome_map, entryAt?]
  exact mem_places_iff_entryBeneath (none, node) place

/-- The places of the entries of a container are in order if those of each entry are, for a later
entry has a greater index. -/
theorem pairwise_entryPlaces {level : List Entry}
    (hlevel : ∀ entry ∈ level, entry.2.places.Pairwise (· < ·)) (index : Nat) :
    (entryPlaces index level).Pairwise (· < ·) := by
  induction level generalizing index with
  | nil => exact .nil
  | cons entry rest ih =>
      rw [entryPlaces, List.pairwise_append]
      refine ⟨?_, ih (fun other hother => hlevel other (List.mem_cons_of_mem _ hother)) _, ?_⟩
      · refine (hlevel entry List.mem_cons_self).map _ ?_
        intro place other hlt
        exact List.Lex.cons hlt
      · intro place hplace other hother
        obtain ⟨beneath, _, rfl⟩ := List.mem_map.1 hplace
        obtain ⟨offset, beneath', _, rfl, _, _⟩ := (mem_entryPlaces_iff _ _ _).1 hother
        exact List.Lex.rel (by omega)

/-- The places of a document are in lexicographic order, and none is there twice. -/
theorem pairwise_places (node : Json) : node.places.Pairwise (· < ·) := by
  induction node using induction_entries with
  | step node ih =>
      rw [places_eq, List.pairwise_cons]
      refine ⟨?_, pairwise_entryPlaces ih 0⟩
      intro place hplace
      obtain ⟨offset, beneath, _, rfl, _, _⟩ := (mem_entryPlaces_iff _ _ _).1 hplace
      exact List.Lex.nil

/-! ## A walk in pre-order follows the places -/

/-- The places of the last entries of a container lead to these entries and to what is
beneath them. -/
theorem map_entryPlaces {container : Entry} {rest : List Entry}
    (hrest : ∀ entry ∈ rest, entry.2.places.map (entryBeneath entry) =
      (withDescendants entry).map some)
    (before : List Entry) (hcontainer : container.2.entries = before ++ rest) :
    (entryPlaces before.length rest).map (entryBeneath container) =
      (rest.flatMap withDescendants).map some := by
  induction rest generalizing before with
  | nil => rfl
  | cons entry rest ih =>
      have hindex : container.2.entries[before.length]? = some entry := by
        rw [hcontainer, List.getElem?_append_right (Nat.le_refl _), Nat.sub_self]
        rfl
      have hfirst : (entry.2.places.map (before.length :: ·)).map (entryBeneath container) =
          (withDescendants entry).map some := by
        rw [← hrest entry List.mem_cons_self, List.map_map]
        refine List.map_congr_left fun place _ => ?_
        rw [Function.comp_apply, entryBeneath, hindex, Option.bind_some]
      have hothers := ih (fun other hother => hrest other (List.mem_cons_of_mem _ hother))
        (before ++ [entry]) (by rw [hcontainer, List.append_assoc, List.singleton_append])
      rw [List.length_append, List.length_singleton] at hothers
      rw [entryPlaces, List.map_append, hfirst, hothers, List.flatMap_cons, List.map_append]

theorem map_entryBeneath (entry : Entry) :
    entry.2.places.map (entryBeneath entry) = (withDescendants entry).map some := by
  obtain ⟨name, node⟩ := entry
  induction node using induction_entries generalizing name with
  | step node ih =>
      have hentries := @map_entryPlaces (name, node) node.entries
        (fun entry hentry => ih entry hentry entry.1) [] rfl
      rw [List.length_nil] at hentries
      rw [places_eq, List.map_cons, hentries, withDescendants, List.map_cons, descendants_eq]
      rfl

/-- The places of a document lead to its entries in pre-order, the document first. -/
theorem map_entryAt? (node : Json) :
    node.places.map node.entryAt? = ((none, node) :: node.descendants).map some :=
  map_entryBeneath (none, node)

/-! ## Names -/

theorem entryBeneath_child (entry : Entry) (index : Nat) :
    entryBeneath entry [index] = entry.2.entries[index]? := by
  rw [entryBeneath]
  exact Option.bind_fun_some _

/-- A named place is that of a member of an object: neither the document itself nor an
item of an array has a name. -/
theorem nameAt?_eq_some_iff (node : Json) (place : Place) (name : String) :
    node.nameAt? place = some name ↔
      ∃ container index members value, place = container ++ [index] ∧
        node.nodeAt? container = some (.object members) ∧
        members[index]? = some (name, value) := by
  cases place using List.reverseRecOn with
  | nil => simp [nameAt?, entryAt?, entryBeneath]
  | append_singleton place index =>
      rw [nameAt?, entryAt?, entryBeneath_append, Option.bind_eq_some_iff]
      simp only [entryBeneath_child]
      constructor
      · rintro ⟨entry, hentry, hname⟩
        obtain ⟨container, hcontainer, hindex⟩ := Option.bind_eq_some_iff.1 hentry
        obtain ⟨owner, inner⟩ := container
        have hnode : node.nodeAt? place = some inner := by
          rw [nodeAt?, entryAt?, hcontainer]
          rfl
        cases inner with
        | object members =>
            rw [entries, List.getElem?_map] at hindex
            obtain ⟨member, hmember, rfl⟩ := Option.map_eq_some_iff.1 hindex
            cases hname
            exact ⟨place, index, members, member.2, rfl, hnode, hmember⟩
        | array items =>
            rw [entries, List.getElem?_map] at hindex
            obtain ⟨item, _, rfl⟩ := Option.map_eq_some_iff.1 hindex
            cases hname
        | _ => cases hindex
      · rintro ⟨container, position, members, value, hplace, hnode, hmember⟩
        obtain ⟨rfl, hposition⟩ := List.append_inj' hplace rfl
        cases hposition
        obtain ⟨entry, hentry, hinner⟩ := Option.map_eq_some_iff.1 hnode
        rw [entryAt?] at hentry
        refine ⟨(some name, value), ?_, rfl⟩
        rw [hentry, Option.bind_some, hinner, entries, List.getElem?_map, hmember]
        rfl

end Json

end PathQuery
