import PathQuery.Proofs.Path.Continuation
import PathQuery.Proofs.Path.Concatenation
import PathQuery.Proofs.Path.Phrases

/-!
# Paths of dotted names

A text without brackets, parentheses and blanks is a path of names with dots
between them.  Two dots look at every depth, and so do more of them: the reader
keeps the two in mind until a name follows.  Only dots at the end of the text
are no path.
-/

namespace PathQuery.Path

open Text

/-! ## Names with white space behind them -/

theorem trimEnd_append {spaces : List Char} (hspaces : ∀ c ∈ spaces, isWhiteSpace c = true)
    (text : List Char) : trimEnd (text ++ spaces) = trimEnd text := by
  have hreverse : ∀ c ∈ spaces.reverse, isWhiteSpace c = true := fun c hc =>
    hspaces c (List.mem_reverse.1 hc)
  rw [trimEnd, List.reverse_append, List.dropWhile_append_of_pos hreverse, trimEnd]

/-- A text is parted in front of the white space at its end. -/
theorem exists_trimEnd (text : List Char) :
    ∃ spaces, (∀ c ∈ spaces, isWhiteSpace c = true) ∧ text = trimEnd text ++ spaces := by
  refine ⟨(text.reverse.takeWhile isWhiteSpace).reverse, ?_, ?_⟩
  · intro c hc
    exact List.mem_takeWhile_imp (List.mem_reverse.1 hc)
  · rw [trimEnd, ← List.reverse_append, List.takeWhile_append_dropWhile, List.reverse_reverse]

theorem getLast?_trimEnd (text : List Char) :
    ∀ c ∈ (trimEnd text).getLast?, isWhiteSpace c = false := by
  intro c hc
  rw [trimEnd, List.getLast?_reverse] at hc
  obtain ⟨rest, hrest⟩ := List.head?_eq_some_iff.1 hc
  exact eq_false_of_dropWhile hrest

/-- The texts of a name between dots: white space may stand behind the name, and a star stands
for every name. -/
inductive DottedName : Option String → List Char → Prop
  | every {spaces : List Char} :
      (∀ c ∈ spaces, isWhiteSpace c = true) → DottedName none ('*' :: spaces)
  | plain {name : String} {spaces : List Char} :
      name.toList ≠ ['*'] → (∀ c ∈ name.toList.getLast?, isWhiteSpace c = false) →
      (∀ c ∈ spaces, isWhiteSpace c = true) → '.' ∉ name.toList →
      name.toList ++ spaces ≠ [] → DottedName (some name) (name.toList ++ spaces)

namespace DottedName

variable {name : Option String} {text : List Char}

theorem nonempty (h : DottedName name text) : text ≠ [] := by
  cases h with
  | every _ => exact List.cons_ne_nil _ _
  | plain _ _ _ _ hnonempty => exact hnonempty

theorem dot_notMem (h : DottedName name text) : '.' ∉ text := by
  have hwhite : ∀ {spaces : List Char}, (∀ c ∈ spaces, isWhiteSpace c = true) → '.' ∉ spaces :=
    fun hspaces hdot => absurd (hspaces '.' hdot) (by decide)
  cases h with
  | every hspaces =>
      rw [List.mem_cons]
      rintro (hstar | hdot)
      · exact absurd hstar (by decide)
      · exact hwhite hspaces hdot
  | plain _ _ hspaces hdots _ =>
      rw [List.mem_append]
      rintro (hdot | hdot)
      · exact hdots hdot
      · exact hwhite hspaces hdot

/-- A name is read from each of its texts. -/
theorem dottedName_eq (h : DottedName name text) : dottedName text = name := by
  rw [dottedName]
  cases h with
  | every hspaces =>
      rw [← List.singleton_append, trimEnd_append hspaces]
      rfl
  | plain hstar hlast hspaces _ _ =>
      rw [trimEnd_append hspaces, trimEnd_of_last hlast, if_neg hstar, String.ofList_toList]

/-- Everything without a dot is the text of a name. -/
theorem of_dot_notMem (hnonempty : text ≠ []) (hdot : '.' ∉ text) :
    DottedName (dottedName text) text := by
  obtain ⟨spaces, hspaces, htext⟩ := exists_trimEnd text
  rw [dottedName]
  by_cases hstar : trimEnd text = ['*']
  · rw [if_pos hstar]
    rw [hstar, List.singleton_append] at htext
    rw [htext]
    exact .every hspaces
  · rw [if_neg hstar]
    have hname : (String.ofList (trimEnd text)).toList = trimEnd text := String.toList_ofList
    have hplain : DottedName (some (String.ofList (trimEnd text)))
        ((String.ofList (trimEnd text)).toList ++ spaces) := by
      refine .plain ?_ ?_ hspaces ?_ ?_
      · rwa [hname]
      · rw [hname]
        exact getLast?_trimEnd text
      · rw [hname]
        intro hmem
        rw [htext] at hdot
        exact hdot (List.mem_append_left _ hmem)
      · rwa [hname, ← htext]
    rwa [hname, ← htext] at hplain

end DottedName

/-! ## Chains of names -/

/-- Names, each behind a separator that tells at which depth it is looked for. -/
inductive DottedPairs (IsSeparator : Bool → List Char → Prop) : List Step → List Char → Prop
  | nil : DottedPairs IsSeparator [] []
  | cons {descending : Bool} {dots : List Char} {name : Option String} {segment : List Char}
      {steps : List Step} {rest : List Char} :
      IsSeparator descending dots → DottedName name segment →
      DottedPairs IsSeparator steps rest →
      DottedPairs IsSeparator (nameStep descending name :: steps) (dots ++ (segment ++ rest))

/-- A first name, which may be absent, and names behind separators. -/
inductive DottedPath (IsSeparator : Bool → List Char → Prop) : List Step → List Char → Prop
  | pairs {steps : List Step} {text : List Char} :
      DottedPairs IsSeparator steps text → DottedPath IsSeparator steps text
  | first {name : Option String} {segment : List Char} {steps : List Step} {rest : List Char} :
      DottedName name segment → DottedPairs IsSeparator steps rest →
      DottedPath IsSeparator (nameStep false name :: steps) (segment ++ rest)

/-- The separators of the notation: one dot, or two that look at every depth. -/
def IsNameDots (descending : Bool) (dots : List Char) : Prop :=
  dots = nameDots descending

/-- A run of dots; more than one look at every depth. -/
def IsDotRun (descending : Bool) (dots : List Char) : Prop :=
  ∃ n, dots = List.replicate (n + 1) '.' ∧ descending = decide (0 < n)

/-- The text behind a dollar sign that stands for the root: a dot follows it. -/
def dropRoot : List Char → List Char
  | '$' :: '.' :: rest => '.' :: rest
  | text => text

section Separators

variable {steps : List Step} {text : List Char}

theorem isDotRun_nameDots (descending : Bool) : IsDotRun descending (nameDots descending) := by
  cases descending with
  | false => exact ⟨0, rfl, rfl⟩
  | true => exact ⟨1, rfl, rfl⟩

/-- A run of dots that does not hold three of them is a separator of the notation. -/
theorem IsDotRun.isNameDots {descending : Bool} {dots : List Char}
    (h : IsDotRun descending dots) (hthree : ¬['.', '.', '.'] <:+: dots) :
    IsNameDots descending dots := by
  obtain ⟨n, rfl, rfl⟩ := h
  match n with
  | 0 => rfl
  | 1 => rfl
  | n + 2 => exact absurd ⟨[], List.replicate n '.', rfl⟩ hthree

theorem DottedPairs.mono {IsSeparator IsSeparator' : Bool → List Char → Prop}
    (h : DottedPairs IsSeparator steps text)
    (hmono : ∀ descending dots, dots <:+: text → IsSeparator descending dots →
      IsSeparator' descending dots) :
    DottedPairs IsSeparator' steps text := by
  induction h with
  | nil => exact .nil
  | @cons descending dots name segment steps rest hdots hname _ ih =>
      refine .cons (hmono _ _ (List.infix_append [] dots (segment ++ rest)) hdots) hname ?_
      have hrest : rest <:+: dots ++ (segment ++ rest) :=
        ((List.suffix_append segment rest).trans (List.suffix_append dots _)).isInfix
      exact ih fun descending dots hpart => hmono descending dots (hpart.trans hrest)

theorem DottedPath.mono {IsSeparator IsSeparator' : Bool → List Char → Prop}
    (h : DottedPath IsSeparator steps text)
    (hmono : ∀ descending dots, dots <:+: text → IsSeparator descending dots →
      IsSeparator' descending dots) :
    DottedPath IsSeparator' steps text := by
  cases h with
  | pairs hpairs => exact .pairs (hpairs.mono hmono)
  | @first name segment steps rest hname hpairs =>
      refine .first hname (hpairs.mono fun descending dots hpart => hmono descending dots ?_)
      exact hpart.trans (List.suffix_append segment rest).isInfix

end Separators

/-! ## Reading a chain -/

/-- If a text has no blanks and none of the brackets and parentheses that end a path. -/
def Undelimited (text : List Char) : Prop :=
  ∀ c ∈ text, isBlank c = false ∧ c ∉ ['[', ']', ')']

instance (text : List Char) : Decidable (Undelimited text) :=
  List.decidableBAll (fun c => isBlank c = false ∧ c ∉ ['[', ']', ')']) text

theorem isNameChar_of_undelimited {c : Char}
    (hc : isBlank c = false ∧ c ∉ ['[', ']', ')']) (hdot : c ≠ '.') :
    isNameChar false c = true := by
  obtain ⟨hblank, hmarks⟩ := hc
  simp only [List.mem_cons, List.not_mem_nil, or_false, not_or] at hmarks
  simp [isNameChar, hblank, hmarks, hdot]

/-- A name ends at a dot or with the text. -/
def AtDot (text : List Char) : Prop :=
  ∀ c ∈ text.head?, c = '.'

theorem AtDot.noName {text : List Char} (h : AtDot text) : NoName false text := by
  intro c hc
  rw [h c hc]
  rfl

theorem DottedPairs.atDot {steps : List Step} {text rest : List Char}
    (h : DottedPairs IsDotRun steps text) (hrest : AtDot rest) : AtDot (text ++ rest) := by
  cases h with
  | nil => exact hrest
  | cons hdots _ _ =>
      obtain ⟨n, rfl, -⟩ := hdots
      rw [List.replicate_succ, List.cons_append, List.cons_append]
      intro c hc
      exact (Option.some.inj hc).symm

section Reading

variable (nested : Reader Condition) {steps : List Step} {text rest : List Char}

/-- Dots are passed over; the reader keeps in mind if there were two in a row. -/
theorem segments_dotRun (htext : text.head? ≠ some '.') (n : Nat) :
    ∀ rounds descending before, (List.replicate (n + 1) '.' ++ text).length ≤ rounds →
      ∃ rounds', text.length ≤ rounds' ∧
        segments nested false rounds descending before (List.replicate (n + 1) '.' ++ text) =
          segments nested false rounds' (descending || decide (0 < n)) .dot text := by
  induction n using Nat.twoStepInduction with
  | zero =>
      intro rounds descending before hrounds
      obtain ⟨rounds, rfl⟩ : ∃ k, rounds = k + 1 := ⟨rounds - 1, by simp at hrounds; omega⟩
      refine ⟨rounds, by simp at hrounds; omega, ?_⟩
      rw [decide_eq_false (Nat.lt_irrefl 0), Bool.or_false]
      exact segments_dot htext rounds descending before
  | one =>
      intro rounds descending before hrounds
      obtain ⟨rounds, rfl⟩ : ∃ k, rounds = k + 1 := ⟨rounds - 1, by simp at hrounds; omega⟩
      refine ⟨rounds, by simp at hrounds; omega, ?_⟩
      rw [decide_eq_true Nat.one_pos, Bool.or_true]
      exact segments_dots rounds descending before
  | more n ih _ =>
      intro rounds descending before hrounds
      obtain ⟨rounds, rfl⟩ : ∃ k, rounds = k + 1 := ⟨rounds - 1, by simp at hrounds; omega⟩
      obtain ⟨rounds', hrounds', hread⟩ := ih rounds true .dot (by simp at hrounds ⊢; omega)
      refine ⟨rounds', hrounds', ?_⟩
      rw [decide_eq_true (Nat.succ_pos _), Bool.or_true, List.replicate_succ,
        List.replicate_succ, List.cons_append, List.cons_append, segments_dots, hread,
        Bool.true_or]

/-- A name between dots is a step of its own. -/
theorem segments_dottedName {name : Option String} {segment : List Char}
    (hname : DottedName name segment) (hchars : Undelimited segment) (hrest : AtDot rest)
    {before : Before} (hbefore : before ≠ .indexer) {rounds : Nat}
    (hrounds : (segment ++ rest).length ≤ rounds) (descending : Bool) :
    segments nested false rounds descending before (segment ++ rest) =
      (segments nested false rounds false .start rest).map
        (behind [nameStep descending name]) := by
  have hpos := List.length_pos_iff.2 hname.nonempty
  obtain ⟨rounds, rfl⟩ : ∃ k, rounds = k + 1 :=
    ⟨rounds - 1, by rw [List.length_append] at hrounds; omega⟩
  rw [segments_name ?_ hname.nonempty hrest.noName hbefore, hname.dottedName_eq]
  intro c hc
  refine isNameChar_of_undelimited (hchars c hc) ?_
  rintro rfl
  exact hname.dot_notMem hc

/-- Names behind dots are read up to where no name follows. -/
theorem segments_pairs (h : DottedPairs IsDotRun steps text) (hchars : Undelimited text)
    (hrest : AtDot rest) :
    ∀ rounds, (text ++ rest).length ≤ rounds → ∃ rounds', rest.length ≤ rounds' ∧
      segments nested false rounds false .start (text ++ rest) =
        (segments nested false rounds' false .start rest).map (behind steps) := by
  induction h with
  | nil =>
      intro rounds hrounds
      exact ⟨rounds, hrounds, (map_behind_nil _).symm⟩
  | @cons descending dots name segment steps more hdots hname hpairs ih =>
      intro rounds hrounds
      obtain ⟨n, rfl, rfl⟩ := hdots
      obtain ⟨-, hinner⟩ := List.forall_mem_append.1 hchars
      obtain ⟨hsegment, hmore⟩ := List.forall_mem_append.1 hinner
      have hhead : (segment ++ (more ++ rest)).head? ≠ some '.' := by
        obtain ⟨c, others, rfl⟩ := List.exists_cons_of_ne_nil hname.nonempty
        rintro hdot
        obtain rfl := Option.some.inj hdot
        exact hname.dot_notMem List.mem_cons_self
      rw [List.append_assoc, List.append_assoc] at hrounds ⊢
      obtain ⟨left, hleft, hread⟩ := segments_dotRun nested hhead n rounds false
        .start hrounds
      obtain ⟨rounds', hrounds', hreadMore⟩ := ih hmore left (by
        rw [List.length_append] at hleft
        omega)
      refine ⟨rounds', hrounds', ?_⟩
      rw [hread, Bool.false_or, segments_dottedName nested hname hsegment (hpairs.atDot hrest)
        (by decide) hleft, hreadMore, map_behind_behind]
      rfl

/-- A chain of names is read up to where no name follows. -/
theorem segments_dottedPath (h : DottedPath IsDotRun steps text) (hchars : Undelimited text)
    (hrest : AtDot rest) {rounds : Nat} (hrounds : (text ++ rest).length ≤ rounds) :
    ∃ rounds', rest.length ≤ rounds' ∧
      segments nested false rounds false .start (text ++ rest) =
        (segments nested false rounds' false .start rest).map (behind steps) := by
  cases h with
  | pairs hpairs => exact segments_pairs nested hpairs hchars hrest rounds hrounds
  | @first name segment steps more hname hpairs =>
      obtain ⟨hsegment, hmore⟩ := List.forall_mem_append.1 hchars
      rw [List.append_assoc] at hrounds ⊢
      obtain ⟨rounds', hrounds', hread⟩ := segments_pairs nested hpairs hmore hrest
        rounds (by rw [List.length_append] at hrounds; omega)
      refine ⟨rounds', hrounds', ?_⟩
      rw [segments_dottedName nested hname hsegment (hpairs.atDot hrest) (by decide) hrounds, hread,
        map_behind_behind]
      rfl

end Reading

/-! ## Every text is a chain with dots behind it -/

section Parted

variable {text : List Char}

theorem exists_segment (text : List Char) :
    ∃ segment rest, text = segment ++ rest ∧ '.' ∉ segment ∧ AtDot rest := by
  obtain ⟨segment, rest, htext, hsegment, hrest⟩ := exists_run (· != '.') text
  refine ⟨segment, rest, htext, ?_, ?_⟩
  · intro hdot
    exact absurd (hsegment '.' hdot) (by decide)
  · intro c hc
    simpa using hrest c hc

theorem exists_dots (text : List Char) :
    ∃ n rest, text = List.replicate n '.' ++ rest ∧ rest.head? ≠ some '.' := by
  obtain ⟨dots, rest, htext, hdots, hrest⟩ := exists_run (· == '.') text
  have hreplicate : dots = List.replicate dots.length '.' :=
    List.eq_replicate_iff.2 ⟨rfl, fun c hc => by simpa using hdots c hc⟩
  refine ⟨dots.length, rest, ?_, ?_⟩
  · rwa [← hreplicate]
  · intro hhead
    exact absurd (hrest '.' hhead) (by decide)

/-- What begins with a dot is a chain of names behind separators, with dots behind it: where no
name follows a run of dots, nothing does. -/
theorem exists_dottedPairs (htext : AtDot text) :
    ∃ steps chain n, text = chain ++ List.replicate n '.' ∧
      DottedPairs IsDotRun steps chain := by
  induction hlength : text.length using Nat.strongRecOn generalizing text with
  | ind length ih =>
      obtain ⟨n, rest, rfl, hrest⟩ := exists_dots text
      obtain ⟨segment, more, rfl, hsegment, hmore⟩ := exists_segment rest
      by_cases hempty : segment = []
      · obtain rfl : more = [] := by
          cases more with
          | nil => rfl
          | cons c others =>
              rw [hempty, List.nil_append, hmore c rfl] at hrest
              exact absurd rfl hrest
        exact ⟨[], [], n, by simp [hempty], .nil⟩
      · cases n with
        | zero =>
            obtain ⟨c, others, rfl⟩ := List.exists_cons_of_ne_nil hempty
            exact absurd (congrArg some (htext c rfl)) hrest
        | succ n =>
            have hshorter : more.length < length := by
              simp only [List.length_append, List.length_replicate] at hlength
              omega
            obtain ⟨steps, chain, m, rfl, hchain⟩ := ih _ hshorter hmore rfl
            refine ⟨_, _, m, ?_,
              .cons ⟨n, rfl, rfl⟩ (DottedName.of_dot_notMem hempty hsegment) hchain⟩
            simp only [List.append_assoc]

/-- Every text is a chain of names with dots behind it. -/
theorem exists_dottedPath (text : List Char) :
    ∃ steps chain n, text = chain ++ List.replicate n '.' ∧ DottedPath IsDotRun steps chain := by
  obtain ⟨segment, rest, rfl, hsegment, hrest⟩ := exists_segment text
  obtain ⟨steps, chain, n, rfl, hchain⟩ := exists_dottedPairs hrest
  by_cases hempty : segment = []
  · exact ⟨steps, chain, n, by rw [hempty, List.nil_append], .pairs hchain⟩
  · refine ⟨_, _, n, ?_, .first (DottedName.of_dot_notMem hempty hsegment) hchain⟩
    rw [List.append_assoc]

/-- A name does not end with a dot, and so no chain of names does. -/
theorem DottedName.getLast?_ne {name : Option String} {segment rest : List Char}
    (h : DottedName name segment) (hrest : rest.getLast? ≠ some '.') :
    (segment ++ rest).getLast? ≠ some '.' := by
  rw [List.getLast?_append]
  intro hlast
  cases hrestLast : rest.getLast? with
  | none =>
      rw [hrestLast, Option.none_or] at hlast
      exact h.dot_notMem (List.mem_of_getLast? hlast)
  | some c =>
      rw [hrestLast, Option.some_or] at hlast
      exact hrest (hrestLast.trans hlast)

theorem DottedPairs.getLast?_ne {IsSeparator : Bool → List Char → Prop} {steps : List Step}
    (h : DottedPairs IsSeparator steps text) : text.getLast? ≠ some '.' := by
  induction h with
  | nil => simp
  | @cons descending dots name segment steps rest _ hname _ ih =>
      have hname := hname.getLast?_ne ih
      cases hlast : (segment ++ rest).getLast? with
      | none =>
          have hsegment := (List.append_eq_nil_iff.1 (List.getLast?_eq_none_iff.1 hlast)).1
          exact absurd hsegment ‹DottedName name segment›.nonempty
      | some c => rwa [List.getLast?_append, hlast, Option.some_or, ← hlast]

theorem DottedPath.getLast?_ne {IsSeparator : Bool → List Char → Prop} {steps : List Step}
    (h : DottedPath IsSeparator steps text) : text.getLast? ≠ some '.' := by
  cases h with
  | pairs hpairs => exact hpairs.getLast?_ne
  | first hname hpairs => exact hname.getLast?_ne hpairs.getLast?_ne

/-- A text that does not end with a dot is a chain of names. -/
theorem exists_dottedPath_of_last (hlast : text.getLast? ≠ some '.') :
    ∃ steps, DottedPath IsDotRun steps text := by
  obtain ⟨steps, chain, n, rfl, hchain⟩ := exists_dottedPath text
  cases n with
  | zero => exact ⟨steps, by rwa [List.replicate_zero, List.append_nil]⟩
  | succ n => exact absurd (by simp [List.replicate_succ']) hlast

end Parted

/-! ## Whole texts -/

section Whole

variable {text : List Char}

theorem wholePath_dottedPath {steps : List Step} (h : DottedPath IsDotRun steps text)
    (hchars : Undelimited text) : wholePath text = .ok steps := by
  obtain ⟨rounds, -, hread⟩ := segments_dottedPath (predicate text.length) h hchars
    (show AtDot [] by simp [AtDot]) (Nat.le_refl _)
  rw [List.append_nil, segments_nil] at hread
  rw [wholePath, hread]
  simp [endPath, Except.map, behind, bind, Except.bind, skipBlanks]

/-- Dots at the end of a text are no path. -/
theorem wholePath_dots (hlast : text.getLast? = some '.') (hchars : Undelimited text) :
    wholePath text = failAt .unexpectedEnd [] := by
  obtain ⟨steps, chain, n, rfl, hchain⟩ := exists_dottedPath text
  cases n with
  | zero =>
      rw [List.replicate_zero, List.append_nil] at hlast
      exact absurd hlast hchain.getLast?_ne
  | succ n =>
      have hdots : AtDot (List.replicate (n + 1) '.') := by simp [AtDot, List.replicate_succ]
      have hend : ([] : List Char).head? ≠ some '.' := by simp
      obtain ⟨left, hleft, hread⟩ := segments_dottedPath
        (predicate (chain ++ List.replicate (n + 1) '.').length) hchain
        (List.forall_mem_append.1 hchars).1 hdots (Nat.le_refl _)
      obtain ⟨rounds, -, hreadDots⟩ := segments_dotRun
        (predicate (chain ++ List.replicate (n + 1) '.').length) hend n left false .start
        (by rwa [List.append_nil])
      rw [List.append_nil, segments_nil] at hreadDots
      rw [wholePath, hread, hreadDots]
      rfl

theorem wholePath_eq_ok_iff (hchars : Undelimited text) {steps : List Step} :
    wholePath text = .ok steps ↔ DottedPath IsDotRun steps text := by
  constructor
  · intro h
    by_cases hlast : text.getLast? = some '.'
    · rw [wholePath_dots hlast hchars] at h
      cases h
    · obtain ⟨found, hpath⟩ := exists_dottedPath_of_last hlast
      have hfound := wholePath_dottedPath hpath hchars
      obtain rfl := Except.ok.inj (h.symm.trans hfound)
      exact hpath
  · intro h
    exact wholePath_dottedPath h hchars

/-- A dollar sign stands for the root alone or in front of a dot; otherwise it begins a name. -/
theorem readSteps_undelimited (hchars : Undelimited text) (htext : text ≠ ['$']) :
    readSteps text = wholePath (dropRoot text) := by
  cases text with
  | nil => rfl
  | cons c rest =>
      obtain ⟨hc, hrest⟩ := List.forall_mem_cons.1 hchars
      have hskip : skipBlanks (c :: rest) = c :: rest := skipBlanks_cons hc.1 rest
      by_cases hdollar : c = '$'
      · subst hdollar
        cases rest with
        | nil => exact absurd rfl htext
        | cons d others =>
            obtain ⟨hd, -⟩ := List.forall_mem_cons.1 hrest
            have hbracket : d ≠ '[' := by
              rintro rfl
              exact hd.2 List.mem_cons_self
            rw [readSteps, hskip]
            by_cases hdot : d = '.'
            · subst hdot
              simp [dropRoot]
            · have hroot : dropRoot ('$' :: d :: others) = '$' :: d :: others := by
                rw [dropRoot]
                rintro _ ⟨⟩
                exact hdot rfl
              simp [hdot, hbracket, hd.1, hroot]
      · have hroot : dropRoot (c :: rest) = c :: rest := by
          rw [dropRoot]
          rintro _ ⟨⟩
          exact hdollar rfl
        rw [readSteps_of_ne hskip hdollar, hroot]

theorem dropRoot_suffix (text : List Char) : dropRoot text <:+ text := by
  unfold dropRoot
  split
  · exact List.suffix_cons _ _
  · exact List.suffix_rfl

theorem getLast?_dropRoot (text : List Char) : (dropRoot text).getLast? = text.getLast? := by
  unfold dropRoot
  split
  · rw [List.getLast?_cons_cons]
  · rfl

end Whole

/-- Which steps a text without blanks, brackets and parentheses stands for: none for a dollar
sign alone, and otherwise those of the names between its dots, behind a dollar sign that a dot
follows.  Every run of two dots or more looks at every depth.  Only dots at the end are no path.
Where no three dots stand in a row, the separators are those of the notation. -/
theorem parse_dotted (text : String)
    (hchars : ∀ c ∈ text.toList, isBlank c = false ∧ c ∉ ['[', ']', ')']) :
    (∀ steps, parse text = .ok ⟨text, steps⟩ ↔
      (text = "$" ∧ steps = []) ∨
        (text ≠ "$" ∧ DottedPath IsDotRun steps (dropRoot text.toList))) ∧
    (text.toList.getLast? ≠ some '.' → ∃ steps, parse text = .ok ⟨text, steps⟩) ∧
    (text.toList.getLast? = some '.' → parse text = .error ⟨.unexpectedEnd, text.utf8ByteSize⟩) ∧
    (¬['.', '.', '.'] <:+: text.toList → ∀ steps, parse text = .ok ⟨text, steps⟩ ↔
      (text = "$" ∧ steps = []) ∨
        (text ≠ "$" ∧ DottedPath IsNameDots steps (dropRoot text.toList))) := by
  have hdropped : Undelimited (dropRoot text.toList) := fun c hc =>
    hchars c ((dropRoot_suffix text.toList).subset hc)
  have hread : text ≠ "$" → readSteps text.toList = wholePath (dropRoot text.toList) := by
    intro hdollar
    refine readSteps_undelimited hchars fun hsame => hdollar ?_
    rw [← String.ofList_toList (s := text), hsame]
  have hdots : text.toList.getLast? = some '.' →
      parse text = .error ⟨.unexpectedEnd, text.utf8ByteSize⟩ := by
    intro hlast
    have hdollar : text ≠ "$" := by
      rintro rfl
      exact absurd hlast (by decide)
    have hfail := wholePath_dots (by rwa [getLast?_dropRoot]) hdropped
    rw [parse_eq, hread hdollar, hfail, ← byteLength_toList]
    rfl
  have hsteps : ∀ steps, parse text = .ok ⟨text, steps⟩ ↔
      (text = "$" ∧ steps = []) ∨
        (text ≠ "$" ∧ DottedPath IsDotRun steps (dropRoot text.toList)) := by
    intro steps
    rw [parse_eq_ok_iff]
    by_cases hdollar : text = "$"
    · subst hdollar
      constructor
      · intro h
        exact Or.inl ⟨rfl, (Except.ok.inj h).symm⟩
      · rintro (⟨-, rfl⟩ | ⟨hother, -⟩)
        · rfl
        · exact absurd rfl hother
    · rw [hread hdollar, wholePath_eq_ok_iff hdropped]
      simp [hdollar]
  refine ⟨hsteps, ?_, hdots, ?_⟩
  · intro hlast
    by_cases hdollar : text = "$"
    · exact ⟨[], (hsteps []).2 (Or.inl ⟨hdollar, rfl⟩)⟩
    · rw [← getLast?_dropRoot] at hlast
      obtain ⟨steps, hpath⟩ := exists_dottedPath_of_last hlast
      exact ⟨steps, (hsteps steps).2 (Or.inr ⟨hdollar, hpath⟩)⟩
  · intro hthree steps
    have hnotation : DottedPath IsDotRun steps (dropRoot text.toList) ↔
        DottedPath IsNameDots steps (dropRoot text.toList) := by
      constructor
      · intro h
        refine h.mono fun descending dots hpart hdots => hdots.isNameDots fun hinner => hthree ?_
        exact (hinner.trans hpart).trans (dropRoot_suffix text.toList).isInfix
      · intro h
        refine h.mono fun descending dots _ hdots => ?_
        obtain rfl : dots = nameDots descending := hdots
        exact isDotRun_nameDots descending
    rw [hsteps, hnotation]

/-- A dollar sign may begin a name, and a name may end with a wide space. -/
theorem parse_dotted_star :
    parse "$a..*\u00a0.b" =
        .ok ⟨"$a..*\u00a0.b", [.member (some "$a"), .descend none, .member (some "b")]⟩ ∧
      parse "a.." = .error ⟨.unexpectedEnd, 3⟩ := by
  constructor
  · have hpath : DottedPath IsNameDots [.member (some "$a"), .descend none, .member (some "b")]
        (['$', 'a'] ++ (['.', '.'] ++ (['*', '\u00a0'] ++ (['.'] ++ (['b'] ++ []))))) := by
      have hfirst : DottedName (some "$a") ['$', 'a'] :=
        @DottedName.of_dot_notMem ['$', 'a'] (by decide) (by decide)
      have hlast : DottedName (some "b") ['b'] :=
        @DottedName.of_dot_notMem ['b'] (by decide) (by decide)
      have hstar : DottedName none ['*', '\u00a0'] := .every (List.forall_mem_singleton.2 rfl)
      have hdot : IsNameDots false ['.'] := rfl
      have hdots : IsNameDots true ['.', '.'] := rfl
      exact .first hfirst (.cons hdots hstar (.cons hdot hlast .nil))
    have htext : "$a..*\u00a0.b".toList = ['$', 'a', '.', '.', '*', '\u00a0', '.', 'b'] := rfl
    have hthree : ¬['.', '.', '.'] <:+: "$a..*\u00a0.b".toList := by
      rw [htext]
      decide
    have hchars : Undelimited "$a..*\u00a0.b".toList := by decide
    have hdollar : "$a..*\u00a0.b" ≠ "$" := by decide
    exact ((parse_dotted "$a..*\u00a0.b" hchars).2.2.2 hthree _).2 (Or.inr ⟨hdollar, hpath⟩)
  · have hchars : Undelimited "a..".toList := by decide
    exact (parse_dotted "a.." hchars).2.2.1 (by decide)

/-- In the notation no name stands behind three dots. -/
theorem not_dottedPath_three_dots {steps : List Step} {more : List Char} :
    ¬DottedPath IsNameDots steps ('.' :: '.' :: '.' :: more) := by
  have hnever : ∀ {name : Option String} {segment rest more : List Char},
      DottedName name segment → segment ++ rest ≠ '.' :: more := by
    intro name segment rest more hname h
    obtain ⟨c, others, rfl⟩ := List.exists_cons_of_ne_nil hname.nonempty
    obtain ⟨rfl, -⟩ := List.cons.inj h
    exact hname.dot_notMem List.mem_cons_self
  intro h
  generalize htext : '.' :: '.' :: '.' :: more = text at h
  cases h with
  | first hname _ => exact hnever hname htext.symm
  | pairs hpairs =>
      cases hpairs with
      | nil => cases htext
      | @cons descending dots name segment steps rest hdots hname _ =>
          obtain rfl : dots = nameDots descending := hdots
          cases descending with
          | false => exact hnever hname (List.cons.inj htext).2.symm
          | true => exact hnever hname (List.cons.inj (List.cons.inj htext).2).2.symm

/-- Three dots in a row are no separator of the notation, but they are read as one. -/
theorem not_parse_dotted_notation :
    ¬∀ text : String, (∀ c ∈ text.toList, isBlank c = false ∧ c ∉ ['[', ']', ')']) →
      ∀ steps, parse text = .ok ⟨text, steps⟩ ↔
        (text = "$" ∧ steps = []) ∨
          (text ≠ "$" ∧ DottedPath IsNameDots steps (dropRoot text.toList)) := by
  intro h
  have hread : parse "...a" = .ok ⟨"...a", [.descend (some "a")]⟩ :=
    parse_eq_ok_iff.2 rfl
  have hchars : Undelimited "...a".toList := by decide
  rcases (h "...a" hchars _).1 hread with ⟨hdollar, -⟩ | ⟨-, hpath⟩
  · exact absurd hdollar (by decide)
  · exact not_dottedPath_three_dots hpath

end PathQuery.Path
