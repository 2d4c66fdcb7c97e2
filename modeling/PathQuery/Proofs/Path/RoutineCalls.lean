import PathQuery.Proofs.Path.LiteralEnd
import PathQuery.Proofs.Path.RoutineAnswers

/-!
# The calls of routines

A routine depends on the routines that it calls only where they are called.  This module
follows the routines of a text from call to call: each calls others only where their parts
may begin, and either further on in the text or, at the same place, further down in the
grammar.  What is answered to other calls makes no difference.
-/

namespace PathQuery.Path

namespace Scan

variable {α β : Type} {scan scan' : Scan α} {next next' : α → Scan β} {here : Nat}

/-- Scans in a row agree if the first ones do, and the others where the first ones come to. -/
theorem bind_agrees (hscan : scan here = scan' here)
    (hnext : ∀ value there, scan' here = some (.ok (value, there)) →
      next value there = next' value there) :
    (scan >>= next) here = (scan' >>= next') here := by
  simp only [bind, hscan]
  split
  next => rfl
  next => rfl
  next value there hok => exact hnext value there hok

/-- If scans in a row answer, the first one does, and the other where the first one comes to. -/
theorem exists_of_bind {result : β × Nat} (h : (scan >>= next) here = some (.ok result)) :
    ∃ value there, scan here = some (.ok (value, there)) ∧
      next value there = some (.ok result) := by
  simp only [bind] at h
  split at h
  next => cases h
  next => cases h
  next value there hok => exact ⟨value, there, hok, h⟩

end Scan

namespace Cursor

open Scan

section Places

variable {text : List Char}

/-- An ASCII byte begins an end of the text. -/
theorem suffix_of_byteAt {c : Char} (hc : c.toNat < 128) {here : Nat}
    (h : byteAt text here = some c) :
    ∃ after, c :: after <:+ text ∧ here = placeOf text (c :: after) := by
  obtain ⟨before, after, rfl, rfl⟩ := exists_of_byteAt hc h
  exact ⟨after, List.suffix_append _ _, (placeOf_append _ _).symm⟩

@[simp] theorem peek_bind {β : Type} (next : Option Char → Scan β) (here : Nat) :
    (peek text >>= next) here = next (byteAt text here) here := rfl

/-- A name is cut out without a move of the cursor. -/
theorem place_of_pendingName {descending : Bool} {start here there : Nat} {steps : List Step}
    (h : pendingName text descending start here = some (.ok (steps, there))) : there = here := by
  rw [pendingName, place_bind] at h
  split_ifs at h
  · obtain ⟨name, behind, hcut, hpure⟩ := exists_of_bind h
    obtain ⟨token, -, hshape⟩ := Option.map_eq_some_iff.1 hcut
    obtain ⟨-, rfl⟩ := Prod.mk.inj (Except.ok.inj hshape)
    obtain ⟨-, rfl⟩ := Prod.mk.inj (Except.ok.inj (Option.some.inj hpure))
    rfl
  · obtain ⟨-, rfl⟩ := Prod.mk.inj (Except.ok.inj (Option.some.inj h))
    rfl

/-- Behind a name that is cut out, what follows is scanned from the same place. -/
theorem pendingName_agrees {descending : Bool} {start here : Nat} {β : Type}
    {next next' : List Step → Scan β} (hnext : ∀ steps, next steps here = next' steps here) :
    (pendingName text descending start >>= next) here =
      (pendingName text descending start >>= next') here := by
  apply bind_agrees rfl
  intro steps there hpending
  obtain rfl := place_of_pendingName hpending
  exact hnext steps

end Places

/-! ## Further on and further down -/

/-- How far down in the grammar a routine is, among those that may be called at one place. -/
def Routine.level : Routine → Nat
  | main => 0
  | path | disjunction => 1
  | indexer | conjunction => 2
  | array | names | filter | term => 3
  | operand => 4
  | string | number | regex => 5

/-- If the first byte of a part has been looked at when its routine is called.  Nothing is
known of what stands in front of a predicate or behind the first character of its paths. -/
def Frame.sighted : Frame → Bool
  | ⟨.disjunction, _, _⟩ | ⟨.conjunction, _, _⟩ | ⟨.term, _, _⟩ | ⟨.operand, _, _⟩ => false
  | ⟨.path, inPredicate, _⟩ => !inPredicate
  | _ => true

/-- The end of what has been looked at when a routine is called. -/
def Frame.seen (frame : Frame) : Nat :=
  if frame.sighted then frame.place + 1 else frame.place

/-- A call that another one may make: it is made where its part may begin, and either further
on or further down.  The same is true of what has been looked at. -/
structure Frame.MayCall (text : List Char) (caller callee : Frame) : Prop where
  stands : ∃ rest, callee.Stands text rest
  place : 6 * caller.place + caller.routine.level < 6 * callee.place + callee.routine.level
  seen : 6 * caller.seen + caller.routine.level < 6 * callee.seen + callee.routine.level

section MayCall

variable {text : List Char} {caller callee : Frame}

theorem Routine.level_lt (routine : Routine) : routine.level < 6 := by
  cases routine with
  | _ => decide

theorem Frame.place_le_seen (frame : Frame) : frame.place ≤ frame.seen := by
  rw [Frame.seen]
  split
  · exact Nat.le_succ _
  · exact Nat.le_refl _

/-- A call behind all that has been looked at. -/
theorem mayCall_later (hstands : ∃ rest, callee.Stands text rest)
    (hplace : caller.seen < callee.place) : caller.MayCall text callee := by
  have hcaller := caller.place_le_seen
  have hcallee := callee.place_le_seen
  have hlevel := caller.routine.level_lt
  constructor
  · exact hstands
  · omega
  · omega

/-- A call further down, which has looked at a byte if its caller has. -/
theorem mayCall_below (hstands : ∃ rest, callee.Stands text rest)
    (hplace : caller.place ≤ callee.place) (hsighted : caller.sighted ≤ callee.sighted)
    (hlevel : caller.routine.level < callee.routine.level) : caller.MayCall text callee := by
  have hseen : caller.seen ≤ callee.seen := by
    by_cases hcaller : caller.sighted = true
    · rw [Frame.seen, Frame.seen, if_pos hcaller, if_pos (hsighted hcaller)]
      exact Nat.succ_le_succ hplace
    · rw [Frame.seen, if_neg hcaller]
      exact hplace.trans callee.place_le_seen
  constructor
  · exact hstands
  · omega
  · omega

end MayCall

/-! ## What the calls of a routine decide -/

/-- If some routines answer what the routines of a text do, as far as a caller may ask. -/
def Agrees (text : List Char) (calls : Routines) (caller : Frame) : Prop :=
  ∀ callee, caller.MayCall text callee → calls.answer callee = (routines text).answer callee

section Local

variable {text rest : List Char} {calls : Routines} {flag : Bool}

/-- The path begins at a character, behind blanks and perhaps a dollar sign. -/
theorem main_local (hcalls : Agrees text calls ⟨.main, flag, 0⟩) :
    calls.main text 0 = (routines text).main text 0 := by
  have hpath : ∀ {rest}, rest <:+ text → rest ≠ [] →
      calls.wholePath text (placeOf text rest) =
        (routines text).wholePath text (placeOf text rest) := by
    intro rest hsuffix hne
    have hcall := hcalls ⟨.path, false, placeOf text rest⟩ (mayCall_below
      ⟨rest, hsuffix, rfl, fun _ => hne⟩ (Nat.zero_le _) (Bool.le_true _) Nat.zero_lt_one)
    exact bind_agrees hcall fun _ _ _ => rfl
  have hskip := skipBlanks_suffix (List.suffix_rfl (l := text))
  rw [← placeOf_self text]
  simp only [Routines.main, bind_of_ok (skipBlanks_follows List.suffix_rfl)]
  cases heq : Text.skipBlanks text with
  | nil => simp only [bind_of_ok peek_nil]
  | cons c after =>
      rw [heq] at hskip
      have hafter := suffix_of_cons hskip
      simp only [bind_of_ok (peek_cons hskip)]
      simp (disch := decide) only [lead_eq_iff]
      by_cases hdollar : c = '$'
      · subst hdollar
        simp only [if_true, place_bind]
        rw [byteAt_next (by decide) hskip]
        split_ifs with hmark hblank
        · rw [skip_bind, skip_bind, placeOf_ascii (by decide) hskip]
          apply hpath hafter
          rintro rfl
          simp at hmark
        · rfl
        · exact hpath hskip (List.cons_ne_nil _ _)
      · rw [if_neg hdollar, if_neg hdollar]
        exact hpath hskip (List.cons_ne_nil _ _)

theorem segments_local {place : Nat} (hcalls : Agrees text calls ⟨.path, flag, place⟩)
    (rounds' : Nat) (descending : Bool) (before : Before) (start : Nat) {here : Nat}
    (hplace : place ≤ here) :
    calls.segments text flag rounds' descending before start here =
      (routines text).segments text flag rounds' descending before start here := by
  induction rounds' generalizing descending before start here with
  | zero => rfl
  | succ rounds' ih =>
      simp only [Routines.segments, place_bind, peek_bind]
      cases hbyte : byteAt text here with
      | none => rfl
      | some c =>
          simp only
          split_ifs with hbracket hdot hdots hname hbefore
          · subst hbracket
            obtain ⟨after, hsuffix, hhere⟩ := suffix_of_byteAt (by decide) hbyte
            have hstands : ∀ descending, Frame.Stands text ('[' :: after)
                ⟨.indexer, descending, here⟩ := fun _ => ⟨hsuffix, hhere, after, rfl⟩
            apply pendingName_agrees
            intro steps
            apply bind_agrees
            · apply hcalls ⟨.indexer, _, here⟩
              exact mayCall_below ⟨_, hstands _⟩ hplace (Bool.le_true _) Nat.one_lt_two
            · intro found behind hfound
              have hle := (hstands _).place_le hfound
              simp only [skip_bind, place_bind]
              apply bind_agrees
              · exact ih _ _ _ (hplace.trans (hle.trans (Nat.le_succ _)))
              · exact fun _ _ _ => rfl
          · apply pendingName_agrees
            intro steps
            simp only [skip_bind, place_bind]
            exact bind_agrees (ih _ _ _ (hplace.trans (Nat.le_add_right _ _))) fun _ _ _ => rfl
          · apply pendingName_agrees
            intro steps
            simp only [skip_bind, place_bind]
            exact bind_agrees (ih _ _ _ (hplace.trans (Nat.le_succ _))) fun _ _ _ => rfl
          · rfl
          · exact ih _ _ _ (hplace.trans (Nat.le_succ _))
          · rfl

theorem indexer_local (h : '[' :: rest <:+ text)
    (hcalls : Agrees text calls ⟨.indexer, flag, placeOf text ('[' :: rest)⟩) :
    calls.indexer text flag (placeOf text ('[' :: rest)) =
      (routines text).indexer text flag (placeOf text ('[' :: rest)) := by
  have hrest := suffix_of_cons h
  have hskip := skipBlanks_suffix hrest
  have hplace : placeOf text ('[' :: rest) ≤ placeOf text (Text.skipBlanks rest) :=
    placeOf_mono text ((skipBlanks_suffix List.suffix_rfl).trans (List.suffix_cons _ _))
  have hblank := Text.skipBlanks_skipBlanks rest
  simp only [Routines.indexer, skip_bind]
  rw [placeOf_ascii (by decide) h]
  simp only [bind_of_ok (skipBlanks_follows hrest)]
  cases heq : Text.skipBlanks rest with
  | nil => simp only [bind_of_ok peek_nil]
  | cons c after =>
      rw [heq] at hskip hplace hblank
      simp only [bind_of_ok (peek_cons hskip)]
      simp (disch := decide) only [lead_eq_iff]
      split_ifs with hquote hquery
      · subst hquote
        have hcall := hcalls ⟨.names, flag, placeOf text ('\'' :: after)⟩ (mayCall_below
          ⟨_, hskip, rfl, after, rfl⟩ hplace (Bool.le_true _) (Nat.lt_succ_self 2))
        exact bind_agrees hcall fun _ _ _ => rfl
      · subst hquery
        have hcall := hcalls ⟨.filter, flag, placeOf text ('?' :: after)⟩ (mayCall_below
          ⟨_, hskip, rfl, after, rfl⟩ hplace (Bool.le_true _) (Nat.lt_succ_self 2))
        exact bind_agrees hcall fun _ _ _ => rfl
      all_goals
        have hcall := hcalls ⟨.array, false, placeOf text (c :: after)⟩ (mayCall_below
          ⟨_, hskip, rfl, List.cons_ne_nil c after, hblank⟩ hplace (Bool.le_true _)
          (Nat.lt_succ_self 2))
        exact bind_agrees hcall fun _ _ _ => rfl

theorem names_local {place : Nat} (hcalls : Agrees text calls ⟨.names, flag, place⟩)
    (rounds' : Nat) (h : rest <:+ text) (hplace : place ≤ placeOf text rest) :
    calls.names text rounds' (placeOf text rest) =
      (routines text).names text rounds' (placeOf text rest) := by
  induction rounds' generalizing rest with
  | zero => rfl
  | succ rounds' ih =>
      simp only [Routines.names]
      cases rest with
      | nil => simp only [bind_of_ok peek_nil]
      | cons c after =>
          simp only [bind_of_ok (peek_cons h)]
          simp (disch := decide) only [lead_eq_iff]
          split_ifs with hquote
          · subst hquote
            have hstands : Frame.Stands text ('\'' :: after)
                ⟨.string, false, placeOf text ('\'' :: after)⟩ := ⟨h, rfl, after, rfl⟩
            apply bind_agrees
            · apply hcalls ⟨.string, false, placeOf text ('\'' :: after)⟩
              exact mayCall_below ⟨_, hstands⟩ hplace (Bool.le_true _) (show 3 < 5 by decide)
            · intro name there hname
              obtain ⟨left, rfl, hleaves⟩ := hstands.exists_left hname
              have hleft := hleaves.suffix.trans h
              have hskip := skipBlanks_suffix hleft
              simp only [bind_of_ok (skipBlanks_follows hleft)]
              cases heq : Text.skipBlanks left with
              | nil => simp only [bind_of_ok peek_nil]
              | cons mark more =>
                  rw [heq] at hskip
                  simp only [bind_of_ok (peek_cons hskip)]
                  simp (disch := decide) only [lead_eq_iff]
                  split_ifs with hclose hcomma
                  · rfl
                  · subst hcomma
                    have hmore := suffix_of_cons hskip
                    have hbehind : Text.skipBlanks more <:+ '\'' :: after :=
                      (skipBlanks_suffix (suffix_of_cons
                        (suffix_of_skipBlanks List.suffix_rfl heq))).trans hleaves.suffix
                    simp only [skip_bind]
                    rw [placeOf_ascii (by decide) hskip]
                    simp only [bind_of_ok (skipBlanks_follows hmore)]
                    apply bind_agrees
                    · exact ih (skipBlanks_suffix hmore) (hplace.trans (placeOf_mono text hbehind))
                    · exact fun _ _ _ => rfl
                  · rfl
          · rfl

theorem filter_local (h : '?' :: rest <:+ text)
    (hcalls : Agrees text calls ⟨.filter, flag, placeOf text ('?' :: rest)⟩) :
    filterIndexer text (calls .disjunction false) flag (placeOf text ('?' :: rest)) =
      filterIndexer text (routines text .disjunction false) flag (placeOf text ('?' :: rest)) := by
  have hrest := suffix_of_cons h
  have hplace := placeOf_ascii (by decide) h
  simp only [filterIndexer, skip_bind]
  rw [hplace]
  cases rest with
  | nil => simp only [bind_of_ok peek_nil]
  | cons c after =>
      simp only [bind_of_ok (peek_cons hrest)]
      simp (disch := decide) only [lead_eq_iff]
      by_cases hopen : c = '('
      · subst hopen
        have hlater : placeOf text ('?' :: '(' :: after) + 1 < placeOf text after := by
          rw [hplace, ← placeOf_ascii (by decide) hrest]
          exact Nat.lt_succ_self _
        have hcall := hcalls ⟨.disjunction, false, placeOf text after⟩ (mayCall_later
          ⟨after, suffix_of_cons hrest, rfl, trivial⟩ hlater)
        rw [if_pos rfl, if_pos rfl, skip_bind, skip_bind, placeOf_ascii (by decide) hrest]
        exact bind_agrees hcall fun _ _ _ => rfl
      · rw [if_neg hopen, if_neg hopen]

/-- Conditions agree if their items do wherever one may begin. -/
theorem joined_local {item item' : Scan Condition} {mark : Char} (hmark : mark.toNat < 128)
    {place : Nat}
    (hitem : ∀ rest, rest <:+ text → place ≤ placeOf text rest →
      item (placeOf text rest) = item' (placeOf text rest))
    (hadvances : ∀ rest value there, rest <:+ text →
      item' (placeOf text rest) = some (.ok (value, there)) → placeOf text rest ≤ there)
    (rounds' : Nat) (h : rest <:+ text) (hplace : place ≤ placeOf text rest) :
    joined text item mark rounds' (placeOf text rest) =
      joined text item' mark rounds' (placeOf text rest) := by
  induction rounds' generalizing rest with
  | zero => rfl
  | succ rounds' ih =>
      simp only [joined]
      apply bind_agrees (hitem rest h hplace)
      intro first there hfirst
      have hthere := hadvances rest first there h hfirst
      simp only [peek_bind]
      split_ifs with hbyte
      · obtain ⟨after, hsuffix, rfl⟩ := suffix_of_byteAt hmark hbyte
        apply bind_agrees rfl
        intro doubled behind heat
        rw [eat_doubled hmark hsuffix] at heat
        split_ifs at heat with hdoubled
        · obtain ⟨rfl, rfl⟩ := Prod.mk.inj (Except.ok.inj (Option.some.inj heat))
          have htail : after.tail <:+ mark :: after :=
            (List.tail_suffix after).trans (List.suffix_cons mark after)
          simp only [if_true]
          apply bind_agrees
          · apply ih (htail.trans hsuffix)
            exact hplace.trans (hthere.trans (placeOf_mono text htail))
          · exact fun _ _ _ => rfl
        · obtain ⟨rfl, rfl⟩ := Prod.mk.inj (Except.ok.inj (Option.some.inj heat))
          rfl
      · rfl

/-- A term may call for its operands at an end of the text that is not before it. -/
theorem term_local (h : rest <:+ text)
    (hcalls : Agrees text calls ⟨.term, flag, placeOf text rest⟩) :
    calls.term text (placeOf text rest) = (routines text).term text (placeOf text rest) := by
  have hskip := skipBlanks_suffix h
  have hplace := placeOf_mono text (skipBlanks_suffix (List.suffix_rfl (l := rest)))
  have hoperand : ∀ {side}, side <:+ text → placeOf text rest ≤ placeOf text side →
      calls .operand false (placeOf text side) =
        routines text .operand false (placeOf text side) := by
    intro side hside hlater
    apply hcalls ⟨.operand, false, placeOf text side⟩
    exact mayCall_below ⟨side, hside, rfl, trivial⟩ hlater (Bool.false_le _) (Nat.lt_succ_self 3)
  simp only [Routines.term, bind_of_ok (skipBlanks_follows h)]
  cases heq : Text.skipBlanks rest with
  | nil => simp only [bind_of_ok peek_nil]
  | cons c after =>
      rw [heq] at hskip hplace
      simp only [bind_of_ok (peek_cons hskip)]
      simp (disch := decide) only [lead_eq_iff]
      split_ifs with hopen
      · subst hopen
        have hafter := placeOf_ascii (by decide) hskip
        have hcall := hcalls ⟨.disjunction, false, placeOf text after⟩ (mayCall_later
          ⟨after, suffix_of_cons hskip, rfl, trivial⟩ (hafter ▸ Nat.lt_succ_of_le hplace))
        simp only [skip_bind]
        rw [hafter]
        exact bind_agrees hcall fun _ _ _ => rfl
      · have hstands : Frame.Stands text (c :: after)
            ⟨.operand, false, placeOf text (c :: after)⟩ := ⟨hskip, rfl, trivial⟩
        apply bind_agrees (hoperand hskip hplace)
        intro left there hleft
        obtain ⟨behind, rfl, hleaves⟩ := hstands.exists_left hleft
        have hbehind := hleaves.suffix.trans hskip
        simp only [peek_bind]
        split_ifs with hends
        · rfl
        · apply bind_agrees rfl
          intro operator there hoperator
          rw [readOperator_follows hbehind] at hoperator
          obtain ⟨side, hread, rfl⟩ := exists_of_placed hoperator
          have hside := readOperator_anchored.suffix hread
          apply bind_agrees
          · apply hoperand (hside.trans hbehind)
            exact hplace.trans (placeOf_mono text (hside.trans hleaves.suffix))
          · exact fun _ _ _ => rfl

theorem operandPath_local {c : Char} (hascii : c.toNat < 128) (h : c :: rest <:+ text)
    {place : Nat} (hplace : place ≤ placeOf text (c :: rest))
    (hcalls : Agrees text calls ⟨.operand, flag, place⟩) (first : List Step) :
    calls.operandPath text first (placeOf text (c :: rest)) =
      (routines text).operandPath text first (placeOf text (c :: rest)) := by
  have hrest := placeOf_ascii hascii h
  have hcall := hcalls ⟨.path, true, placeOf text rest⟩ (mayCall_later
    ⟨rest, suffix_of_cons h, rfl, nofun⟩ (hrest ▸ Nat.lt_succ_of_le hplace))
  simp only [Routines.operandPath, skip_bind]
  rw [hrest]
  exact bind_agrees hcall fun _ _ _ => rfl

theorem bareOperand_local (h : rest <:+ text) {place : Nat} (hplace : place ≤ placeOf text rest)
    (hcalls : Agrees text calls ⟨.operand, flag, place⟩) :
    calls.bareOperand text (placeOf text rest) =
      (routines text).bareOperand text (placeOf text rest) := by
  simp only [Routines.bareOperand]
  cases rest with
  | nil => simp only [bind_of_ok peek_nil]
  | cons c after =>
      simp only [bind_of_ok (peek_cons h)]
      simp (disch := decide) only [lead_eq_iff, asciiKind_isIndexChar.lead]
      split_ifs with hat hdollar hquote hslash hindex htrue hfalse hnull
      · exact operandPath_local (by rw [hat]; decide) h hplace hcalls []
      · exact operandPath_local (by rw [hdollar]; decide) h hplace hcalls [.root]
      · subst hquote
        have hcall := hcalls ⟨.string, false, placeOf text ('\'' :: after)⟩ (mayCall_below
          ⟨_, h, rfl, after, rfl⟩ hplace (Bool.false_le _) (Nat.lt_succ_self 4))
        exact bind_agrees hcall fun _ _ _ => rfl
      · subst hslash
        have hcall := hcalls ⟨.regex, false, placeOf text ('/' :: after)⟩ (mayCall_below
          ⟨_, h, rfl, after, rfl⟩ hplace (Bool.false_le _) (Nat.lt_succ_self 4))
        exact bind_agrees hcall fun _ _ _ => rfl
      · have hcall := hcalls ⟨.number, false, placeOf text (c :: after)⟩ (mayCall_below
          ⟨_, h, rfl, c, after, rfl, hindex⟩ hplace (Bool.false_le _) (Nat.lt_succ_self 4))
        exact bind_agrees hcall fun _ _ _ => rfl
      all_goals rfl

/-- A routine depends on no other calls than those that it may make. -/
theorem body_local {caller : Frame} (hstands : caller.Stands text rest)
    (hcalls : Agrees text calls caller) :
    (calls.body text).answer caller = (routines text).answer caller := by
  rw [← hstands.unfolds]
  obtain ⟨routine, flag, place⟩ := caller
  obtain ⟨hsuffix, rfl, hbegins⟩ := hstands
  cases routine with
  | main =>
      obtain rfl : rest = text := hbegins
      rw [placeOf_self] at hcalls ⊢
      exact main_local hcalls
  | path => exact segments_local hcalls _ _ _ _ (Nat.le_refl _)
  | indexer =>
      obtain ⟨after, rfl⟩ := hbegins
      exact indexer_local hsuffix hcalls
  | array => rfl
  | names =>
      exact bind_agrees (names_local hcalls _ hsuffix (Nat.le_refl _)) fun _ _ _ => rfl
  | string => rfl
  | filter =>
      obtain ⟨after, rfl⟩ := hbegins
      exact filter_local hsuffix hcalls
  | disjunction =>
      refine bind_agrees (joined_local (by decide) ?_ ?_ _ hsuffix (Nat.le_refl _))
        fun _ _ _ => rfl
      · intro side hside hlater
        apply hcalls ⟨.conjunction, false, placeOf text side⟩
        exact mayCall_below ⟨side, hside, rfl, trivial⟩ hlater (Bool.false_le _)
          (Nat.lt_succ_self 1)
      · intro side value there hside hanswer
        have hstands : Frame.Stands text side ⟨.conjunction, false, placeOf text side⟩ :=
          ⟨hside, rfl, trivial⟩
        exact hstands.place_le hanswer
  | conjunction =>
      refine bind_agrees (joined_local (by decide) ?_ ?_ _ hsuffix (Nat.le_refl _))
        fun _ _ _ => rfl
      · intro side hside hlater
        apply hcalls ⟨.term, false, placeOf text side⟩
        exact mayCall_below ⟨side, hside, rfl, trivial⟩ hlater (Bool.false_le _)
          (Nat.lt_succ_self 2)
      · intro side value there hside hanswer
        have hstands : Frame.Stands text side ⟨.term, false, placeOf text side⟩ :=
          ⟨hside, rfl, trivial⟩
        exact hstands.place_le hanswer
  | term => exact term_local hsuffix hcalls
  | operand =>
      have hskip := skipBlanks_suffix hsuffix
      have hplace := placeOf_mono text (skipBlanks_suffix (List.suffix_rfl (l := rest)))
      simp only [Routines.answer, Routines.body, Routines.operand,
        bind_of_ok (skipBlanks_follows hsuffix)]
      exact bind_agrees (bareOperand_local hskip hplace hcalls) fun _ _ _ => rfl
  | number => rfl
  | regex => rfl

/-- Where its part may begin, a routine invokes others only as it may. -/
theorem Invokes.mayCall {caller callee : Frame} (h : Invokes text caller callee)
    (hstands : caller.Stands text rest) : caller.MayCall text callee := by
  by_contra hnot
  have hagrees : Agrees text ((routines text).without callee) caller := by
    intro other hother
    have hne : other ≠ callee := by
      rintro rfl
      exact hnot hother
    exact if_neg hne
  have hanswer := body_local hstands hagrees
  rw [hstands.answer_eq, h] at hanswer
  exact nomatch hanswer

end Local

end Cursor

end PathQuery.Path
