import Handbook.Proofs.Quotations
import Handbook.Proofs.Timeouts

/-! Reports of runs that cannot render a page. Where nobody answers, no page comes out; what is said
instead depends on the page that was asked for and on nothing else. -/
namespace Handbook.Reports
open CommandLine Fetch Exchanges Catalogues CommandLines Timeouts Quotations

/-! ## What a run comes to -/

/-- A run that asks for a page of the site reports that its document could not be requested. -/
def unanswered (plan : PagePlan) : Ending × List String :=
  let url := SiteMeta.standard.documentUrl plan.document
  (.failed ⟨"request for " ++ url ++ " failed", some ("While fetching " ++ url), none⟩, [url])

/-- A run that asks for any other page reports that it knows none of that name, and fetches
nothing. -/
def unknown (page : String) : Ending × List String :=
  (.failed ⟨"Unknown page " ++ Text.quote page, none,
    some "Known pages are index, install and userguide"⟩, [])

/-- Whether a text asks for a page of the site: by its stem, or by its file name. -/
def AsksFor (text : String) (plan : PagePlan) : Prop :=
  text = plan.name.stem ∨ text = plan.name.stem ++ ".html"

instance (text : String) (plan : PagePlan) : Decidable (AsksFor text plan) :=
  inferInstanceAs (Decidable (_ ∨ _))

/-- What a run comes to that asks for a page where nobody answers. -/
def verdict (page : String) : Ending × List String :=
  match standardPlans.find? fun plan => AsksFor page plan with
  | some plan => unanswered plan
  | none => unknown page

/-- Whatever it says, such a run fails, and nothing of a page is written. -/
theorem verdict_fails (page : String) :
    (verdict page).1.code = 1 ∧ (verdict page).1.output = "" := by
  unfold verdict
  cases standardPlans.find? _ with
  | none => exact ⟨rfl, rfl⟩
  | some plan => exact ⟨rfl, rfl⟩

/-! ## Pages of the site -/

/-- The stems of the site carry no ending, so each of them is a name of its page. -/
theorem names_standard_iff (member : plan ∈ standardPlans) :
    Names text plan.name.stem ↔ AsksFor text plan := by
  have unended : ∀ plan ∈ standardPlans, ¬pageEnding <:+ plan.name.stem.toList := by decide
  simp only [Names, unended plan member, not_false_eq_true, true_or, and_true]
  exact or_comm

theorem verdict_eq_unanswered (member : plan ∈ standardPlans) (asked : AsksFor text plan) :
    verdict text = unanswered plan := by
  have apart : (standardPlans.map fun plan => plan.name.stem).Nodup := by decide
  have known : (standardPlans.find? fun plan => AsksFor text plan).isSome :=
    List.find?_isSome.mpr ⟨plan, member, decide_eq_true asked⟩
  obtain ⟨other, found⟩ := Option.isSome_iff_exists.mp known
  have otherMember := List.mem_of_find?_eq_some found
  have otherAsked : AsksFor text other := by simpa using List.find?_some found
  have same : other.name.stem = plan.name.stem :=
    stem_eq_of_names ((names_standard_iff otherMember).mpr otherAsked)
      ((names_standard_iff member).mpr asked)
  rw [verdict, found, List.inj_on_of_nodup_map apart otherMember member same]

theorem verdict_eq_unknown (unasked : ∀ plan ∈ standardPlans, ¬AsksFor text plan) :
    verdict text = unknown text := by
  have nothing : standardPlans.find? (fun plan => AsksFor text plan) = none := by
    rw [List.find?_eq_none]
    intro plan member
    rw [decide_eq_true_iff]
    exact unasked plan member
  rw [verdict, nothing]

/-- Looking a page up and asking for it by its names come to the same. -/
theorem find?_standard_cases (text : String) :
    (∃ plan ∈ standardPlans, verdict text = unanswered plan ∧
      (Catalogue.standard .standard).find? text = some (plan.page .standard)) ∨
    (Catalogue.standard .standard).find? text = none ∧ verdict text = unknown text := by
  cases found : (Catalogue.standard .standard).find? text with
  | some page =>
    obtain ⟨member, named⟩ := find?_eq_some_iff_names.mp found
    obtain ⟨plan, planned, rfl⟩ := List.mem_map.mp member
    have asked := (names_standard_iff planned).mp named
    exact .inl ⟨plan, planned, verdict_eq_unanswered planned asked, rfl⟩
  | none =>
    refine .inr ⟨rfl, verdict_eq_unknown ?_⟩
    intro plan member asked
    have other : (Catalogue.standard .standard).find? text = some (plan.page .standard) :=
      find?_eq_some_iff_names.mpr
        ⟨List.mem_map_of_mem member, (names_standard_iff member).mpr asked⟩
    rw [found] at other
    cases other

/-! ## Runs -/

/-- Where nobody answers in time, rendering a page comes to the verdict on it. -/
theorem render_eq_verdict {invocation : Invocation} (deserted : Deserted network)
    (timely : Timely invocation.client network) (page : String) (fragments : Fragments) :
    invocation.render page fragments network = verdict page := by
  rcases find?_standard_cases page with ⟨plan, _, judged, found⟩ | ⟨missing, judged⟩
  · have timed : ¬Overdue invocation.client network (plan.page .standard).source :=
      fun overdue => overdue.1 timely
    have failed := fetch_deserted deserted timed
    rw [render_failed found failed, judged]
    rfl
  · rw [judged]
    simp only [Invocation.render, missing]
    rfl

/-- Settings in front of the command, with a directory that is named like it and the longest timeout
that is surely safe. -/
def manySettings : Prelude (2 ^ 31) where
  entries :=
    [(.root "render", .wide), (.timeout "2147483647", .close), (.quiet, .close),
      (.linkStyle .emphasized, .wide), (.noRibbon, .wide)]
  fits := by
    intro entry member
    simp only [List.mem_cons, List.not_mem_nil, or_false] at member
    rcases member with rfl | rfl | rfl | rfl | rfl
    · exact ⟨by decide, by decide⟩
    · exact ⟨2147483647, by decide, by decide⟩
    · trivial
    · trivial
    · trivial
  distinct := by decide
  apart := by decide

/-- A network in which nobody answers, at the last second at which a wait of that length is safe. -/
def lateSilence : Network :=
  { Network.unreachable with contact := fun _ => .silent, clock := 2 ^ 63 - 2 ^ 31 }

end Handbook.Reports
