import Mathlib.Data.List.Induction
import PathQuery.Path.Reader
import PathQuery.Proofs.Path.WellFormed
import PathQuery.Proofs.Runs

/-!
# The texts of regular expressions

A path is read forwards, and a backslash takes the next character along.  A
literal is split backwards, at a slash with an even number of backslashes before
it.  Both find the same closing slash, so the reader of paths takes the whole
text of a literal and nothing more.
-/

namespace PathQuery

namespace RegexLiteral

/-- A first character other than a backslash has no part in what is escaped. -/
theorem isEscaped_append_of_ne
    {c : Char} (hc : c ≠ '\\') (before : List Char) :
    isEscaped (before ++ [c]) = isEscaped before := by
  have hsame : ((before ++ [c]).takeWhile (· == '\\')).length =
      (before.takeWhile (· == '\\')).length := by
    induction before with
    | nil => simp [hc]
    | cons d rest ih =>
        by_cases hd : d = '\\'
        · simp [hd, ih]
        · simp [hd]
  rw [isEscaped, isEscaped, hsame]

/-- A first backslash with the character that it takes along has no part in what
is escaped behind the two. -/
theorem isEscaped_append_pair
    (c : Char) (before : List Char) :
    isEscaped (before ++ [c, '\\']) = isEscaped before := by
  have hsame : ((before ++ [c, '\\']).takeWhile (· == '\\')).length % 2 =
      (before.takeWhile (· == '\\')).length % 2 := by
    induction before with
    | nil =>
        by_cases hc : c = '\\'
        · simp [hc]
        · simp [hc]
    | cons d rest ih =>
        by_cases hd : d = '\\'
        · simp [hd]
          omega
        · simp [hd]
  rw [isEscaped, isEscaped, hsame]

theorem SlashesEscaped.of_append
    {text more : List Char} (h : SlashesEscaped (text ++ more)) :
    SlashesEscaped text := by
  intro before after htext
  exact h before (after ++ more) (by rw [htext, List.append_assoc, List.cons_append])

theorem SlashesEscaped.of_cons
    {c : Char} {text : List Char} (h : SlashesEscaped (c :: text)) (hc : c ≠ '\\') :
    SlashesEscaped text := by
  intro before after htext
  have hescaped := h (c :: before) after (by rw [htext, List.cons_append])
  rwa [List.reverse_cons, isEscaped_append_of_ne hc] at hescaped

theorem SlashesEscaped.of_pair
    {c : Char} {text : List Char} (h : SlashesEscaped ('\\' :: c :: text)) :
    SlashesEscaped text := by
  intro before after htext
  have hescaped := h ('\\' :: c :: before) after
    (by rw [htext, List.cons_append, List.cons_append])
  rwa [List.reverse_cons, List.reverse_cons, List.append_assoc, List.singleton_append,
    isEscaped_append_pair] at hescaped

/-- Where every slash is escaped there is nothing to split at. -/
theorem splitBack_eq_none
    {text : List Char} (h : SlashesEscaped text) :
    ∀ flags, splitBack text.reverse flags = none := by
  induction text using List.reverseRecOn with
  | nil =>
      intro flags
      rfl
  | append_singleton before c ih =>
      intro flags
      rw [List.reverse_append, List.reverse_singleton, List.singleton_append, splitBack, if_neg]
      · exact ih h.of_append (c :: flags)
      · rintro ⟨rfl, hopen⟩
        rw [h before [] rfl] at hopen
        exact absurd hopen (by decide)

/-- Letters behind the closing slash are passed over. -/
theorem splitBack_letters
    {letters : List Char} (hletters : ∀ c ∈ letters, c.isAlpha = true)
    (before : List Char) :
    ∀ flags, splitBack (letters.reverse ++ before) flags = splitBack before (letters ++ flags) := by
  induction letters using List.reverseRecOn with
  | nil =>
      intro flags
      rfl
  | append_singleton others c ih =>
      intro flags
      have hletter : c ≠ '/' := by
        rintro rfl
        exact absurd (hletters '/' (by simp)) (by decide)
      rw [List.reverse_append, List.reverse_singleton, List.singleton_append, List.cons_append,
        splitBack, if_neg (fun h => hletter h.1), ih (fun d hd => hletters d (by simp [hd])),
        List.append_assoc, List.singleton_append]

/-- The closing slash of a literal is not escaped. -/
theorem not_isEscaped_of_text
    (literal : RegexLiteral) {body letters : List Char}
    (htext : literal.text.toList = '/' :: (body ++ '/' :: letters))
    (hbody : SlashesEscaped body) (hletters : ∀ c ∈ letters, c.isAlpha = true) :
    isEscaped body.reverse = false := by
  by_contra hescaped
  have hnone : split? literal.text.toList = none := by
    rw [htext, split?, List.reverse_append, List.reverse_cons, List.append_assoc,
      List.singleton_append, splitBack_letters hletters, splitBack,
      if_neg (fun h => hescaped h.2)]
    exact splitBack_eq_none hbody _
  have hcompiled := literal.compiled
  rw [compile, hnone] at hcompiled
  cases hcompiled

end RegexLiteral

namespace Path

open RegexLiteral

/-- The forward reader takes a body in which every slash is escaped, up to a slash
that is not. -/
theorem regexBody_text
    {body : List Char} (hbody : SlashesEscaped body)
    (hclosing : isEscaped body.reverse = false) (rest : List Char) :
    regexBody (body ++ '/' :: rest) = some (body, rest) := by
  induction body using regexBody.induct with
  | case1 => rfl
  | case2 after => exact absurd (hbody [] after rfl) (by decide)
  | case3 c text ih =>
      rw [List.reverse_cons, List.reverse_cons, List.append_assoc, List.singleton_append,
        isEscaped_append_pair] at hclosing
      rw [List.cons_append, List.cons_append, regexBody, ih hbody.of_pair hclosing]
      rfl
  | case4 c text hslash hpair ih =>
      have hbackslash : c ≠ '\\' := by
        rintro rfl
        cases text with
        | nil => exact absurd hclosing (by decide)
        | cons d others => exact hpair d others rfl rfl
      rw [List.reverse_cons, isEscaped_append_of_ne hbackslash] at hclosing
      rw [List.cons_append, regexBody, ih (hbody.of_cons hbackslash) hclosing]
      · rfl
      · exact hslash
      · intro d others hd
        exact absurd hd hbackslash

/-- A literal is read from its text, where no letter follows. -/
theorem readRegex_text
    {literal : RegexLiteral} (hliteral : literal.IsDelimited) :
    ∃ text, literal.text.toList = '/' :: text ∧
      ∀ rest, (∀ c ∈ rest.head?, c.isAlpha = false) →
        readRegex (text ++ rest) = .ok (literal, rest) := by
  obtain ⟨body, letters, htext, hbody, hletters⟩ := hliteral
  refine ⟨body ++ '/' :: letters, htext, ?_⟩
  intro rest hrest
  have hread : regexBody (body ++ '/' :: letters ++ rest) = some (body, letters ++ rest) := by
    rw [List.append_assoc, List.cons_append]
    exact regexBody_text hbody (not_isEscaped_of_text literal htext hbody hletters) _
  have hwhole : String.ofList ('/' :: body ++ '/' :: letters) = literal.text := by
    rw [List.cons_append, ← htext, String.ofList_toList]
  rw [readRegex, hread]
  simp only [takeWhile_run hletters hrest, dropWhile_run hletters hrest, hwhole, ofText_text]

end Path

end PathQuery
