import PathQuery.Proofs.Command.Effects
import PathQuery.Proofs.Json.PrettyText
import PathQuery.Proofs.Path.Listed
import PathQuery.Proofs.Select.SameSteps

/-!
# Explained paths

The listing of a path leaves nothing out that a selection looks at, and the report of a listing
can be read in one way only.  So a path may be identified by its explanation.
-/

namespace PathQuery.Command

/-- Two paths with one explanation have the same steps. -/
theorem steps_eq_of_pretty {path path' : Path}
    (h : path.listing.pretty = path'.listing.pretty) : path.steps = path'.steps :=
  listSteps_injective _ _ (Json.array.inj (Json.pretty_injective h))

/-- The listing identifies a path.  The listings of two lists of steps are the same constant if
and only if the steps are the same; steps that are the same make the same of every node of every
document, under all settings; and two path texts with one explanation are read as equal steps,
so they select the same. -/
theorem listing_identifies_path :
    (∀ steps steps' : List Step,
      (Json.array (listSteps steps)).same (.array (listSteps steps')) =
        sameSteps steps steps') ∧
    (∀ steps steps' : List Step, sameSteps steps steps' = true →
      ∀ settings root current,
        evaluate settings steps root current = evaluate settings steps' root current) ∧
    ∀ text text' report : String, explain text = .ok report → explain text' = .ok report →
      ∃ path path', Path.parse text = .ok path ∧ Path.parse text' = .ok path' ∧
        path.steps = path'.steps ∧
        ∀ settings root current,
          path.selectFrom settings root current = path'.selectFrom settings root current := by
  refine ⟨?_, ?_, ?_⟩
  · intro steps steps'
    rw [Json.same, listSteps_same]
  · intro steps steps' hsame settings root current
    exact applySteps_same settings root steps steps' hsame _
  · intro text text' report hreport hreport'
    obtain ⟨path, hpath, hpretty⟩ := explain_eq_ok_iff.1 hreport
    obtain ⟨path', hpath', hpretty'⟩ := explain_eq_ok_iff.1 hreport'
    have hsteps := steps_eq_of_pretty (hpretty.trans hpretty'.symm)
    refine ⟨path, path', hpath, hpath', hsteps, fun settings root current => ?_⟩
    rw [Path.selectFrom, Path.selectFrom, hsteps]

/-- A path may be written with a dollar sign and with blanks. -/
theorem listing_identifies_path_blanks :
    ∃ path path', Path.parse "a[0:]" = .ok path ∧ Path.parse "$.a[ 0 : ] " = .ok path' ∧
      path.steps = path'.steps := by
  have hpath : Path.parse "a[0:]" =
      .ok ⟨"a[0:]", [.member (some "a"), .slice (some 0) none none]⟩ := rfl
  have hpath' : Path.parse "$.a[ 0 : ] " =
      .ok ⟨"$.a[ 0 : ] ", [.member (some "a"), .slice (some 0) none none]⟩ := rfl
  obtain ⟨path, path', hread, hread', hsteps, -⟩ := listing_identifies_path.2.2 _ _ _
    (explain_eq_ok_iff.2 ⟨_, hpath, rfl⟩) (explain_eq_ok_iff.2 ⟨_, hpath', rfl⟩)
  exact ⟨path, path', hread, hread', hsteps⟩

end PathQuery.Command
