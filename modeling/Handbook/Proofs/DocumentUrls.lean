import Handbook.StandardSite
import Mathlib.Data.List.TakeWhile

/-! Addresses of documents. A base and a path meet in one slash if what ends the base and begins the
path in slashes goes. The path loses its slashes wherever an address is written, the base where a
site is made from it; a base that was put into a site by other means keeps its own, and then one slash
is too many. -/
namespace Handbook.DocumentUrls

/-- So many slashes. -/
def slashes (n : Nat) : List Char := List.replicate n '/'

/-- An address in which a base and a path meet in exactly one slash: the base goes up to the slashes at
its end, and the path on from those at its start. -/
def JoinedOnce (base path url : List Char) : Prop :=
  ∃ body rest, (∃ n, base = body ++ slashes n) ∧ body.getLast? ≠ some '/' ∧
    (∃ n, path = slashes n ++ rest) ∧ rest.head? ≠ some '/' ∧ url = body ++ '/' :: rest

/-! ## Slashes at the start and at the end -/

theorem dropFirstSlashes_slashes_append (n : Nat) (cs : List Char) :
    dropFirstSlashes (slashes n ++ cs) = dropFirstSlashes cs := by
  induction n with
  | zero => rfl
  | succ n ih =>
    rw [slashes, List.replicate_succ, List.cons_append]
    exact ih

theorem dropFirstSlashes_of_head (bare : cs.head? ≠ some '/') : dropFirstSlashes cs = cs := by
  cases cs with
  | nil => rfl
  | cons c cs =>
    have other : c ≠ '/' := by simpa using bare
    rw [dropFirstSlashes, List.dropWhile_cons_of_neg (by simpa using other)]

theorem head?_dropFirstSlashes (cs : List Char) : (dropFirstSlashes cs).head? ≠ some '/' := by
  intro slash
  have stopped := List.head?_dropWhile_not (· == '/') cs
  rw [← dropFirstSlashes, slash] at stopped
  cases stopped

theorem exists_slashes_append (cs : List Char) : ∃ n, cs = slashes n ++ dropFirstSlashes cs := by
  refine ⟨(cs.takeWhile (· == '/')).length, ?_⟩
  have all : cs.takeWhile (· == '/') = slashes (cs.takeWhile (· == '/')).length := by
    refine List.eq_replicate_iff.mpr ⟨rfl, fun c member => ?_⟩
    simpa using List.mem_takeWhile_imp member
  calc cs = cs.takeWhile (· == '/') ++ cs.dropWhile (· == '/') := List.takeWhile_append_dropWhile.symm
    _ = slashes (cs.takeWhile (· == '/')).length ++ dropFirstSlashes cs := by
      rw [← all, dropFirstSlashes]

/-- What is left of a text without its first slashes is the part behind all of them. -/
theorem dropFirstSlashes_eq_iff :
    dropFirstSlashes cs = rest ↔ (∃ n, cs = slashes n ++ rest) ∧ rest.head? ≠ some '/' := by
  constructor
  · rintro rfl
    exact ⟨exists_slashes_append cs, head?_dropFirstSlashes cs⟩
  · rintro ⟨⟨n, rfl⟩, bare⟩
    rw [dropFirstSlashes_slashes_append, dropFirstSlashes_of_head bare]

/-- Read backwards, the last slashes of a text are its first ones. -/
theorem dropLastSlashes_eq_iff :
    dropLastSlashes cs = body ↔ (∃ n, cs = body ++ slashes n) ∧ body.getLast? ≠ some '/' := by
  have backwards : dropLastSlashes cs = body ↔ dropFirstSlashes cs.reverse = body.reverse :=
    List.reverse_eq_iff
  have written (n : Nat) : cs.reverse = slashes n ++ body.reverse ↔ cs = body ++ slashes n := by
    rw [List.reverse_eq_iff, List.reverse_append, List.reverse_reverse, slashes,
      List.reverse_replicate]
  rw [backwards, dropFirstSlashes_eq_iff, List.head?_reverse]
  simp only [written]

/-- There is one address in which a base and a path meet in one slash. -/
theorem joinedOnce_iff : JoinedOnce base path url ↔
    url = dropLastSlashes base ++ '/' :: dropFirstSlashes path := by
  constructor
  · rintro ⟨body, rest, base, bodyBare, path, restBare, rfl⟩
    rw [dropLastSlashes_eq_iff.mpr ⟨base, bodyBare⟩, dropFirstSlashes_eq_iff.mpr ⟨path, restBare⟩]
  · rintro rfl
    obtain ⟨written, bodyBare⟩ := dropLastSlashes_eq_iff.mp (rfl : dropLastSlashes base = _)
    obtain ⟨pathWritten, restBare⟩ := dropFirstSlashes_eq_iff.mp (rfl : dropFirstSlashes path = _)
    exact ⟨_, _, written, bodyBare, pathWritten, restBare, rfl⟩

/-! ## The addresses of a site -/

theorem toList_documentUrl (site : SiteMeta) (path : String) : (site.documentUrl path).toList =
    site.contentBase.toList ++ '/' :: dropFirstSlashes path.toList := by
  simp [SiteMeta.documentUrl]

/-- A site joins its base with one slash exactly when the base does not end with one already. -/
theorem joinedOnce_documentUrl_iff {site : SiteMeta} :
    JoinedOnce site.contentBase.toList path.toList (site.documentUrl path).toList ↔
      site.contentBase.toList.getLast? ≠ some '/' := by
  rw [joinedOnce_iff, toList_documentUrl, List.append_left_inj, eq_comm, dropLastSlashes_eq_iff]
  exact and_iff_right ⟨0, (List.append_nil _).symm⟩

/-- The base of a site that is made from a base has no slash at its end. -/
theorem getLast?_ofBase (base : String) :
    (SiteMeta.ofBase base).contentBase.toList.getLast? ≠ some '/' := by
  have bare := (dropLastSlashes_eq_iff.mp (rfl : dropLastSlashes base.toList = _)).2
  simpa [SiteMeta.ofBase] using bare

/-- Sites made from bases that differ in the slashes at their ends are one site. -/
theorem ofBase_append_slashes (base : String) (n : Nat) :
    SiteMeta.ofBase (base ++ String.ofList (slashes n)) = SiteMeta.ofBase base := by
  obtain ⟨⟨m, written⟩, bare⟩ := dropLastSlashes_eq_iff.mp (rfl : dropLastSlashes base.toList = _)
  have same : dropLastSlashes (base.toList ++ slashes n) = dropLastSlashes base.toList := by
    refine dropLastSlashes_eq_iff.mpr ⟨⟨m + n, ?_⟩, bare⟩
    calc base.toList ++ slashes n
        = dropLastSlashes base.toList ++ slashes m ++ slashes n := congrArg (· ++ _) written
      _ = dropLastSlashes base.toList ++ slashes (m + n) := by
        rw [List.append_assoc, slashes, slashes, slashes, List.replicate_append_replicate]
  simp [SiteMeta.ofBase, same]

/-- The slashes before a path change nothing. -/
theorem documentUrl_slashes_append (site : SiteMeta) (n : Nat) (path : String) :
    site.documentUrl (String.ofList (slashes n) ++ path) = site.documentUrl path := by
  apply String.toList_inj.mp
  rw [toList_documentUrl, toList_documentUrl, String.toList_append, String.toList_ofList,
    dropFirstSlashes_slashes_append]

/-- Two paths have one address exactly when they differ in the slashes before them only. -/
theorem documentUrl_eq_iff {site : SiteMeta} : site.documentUrl path = site.documentUrl other ↔
    ∃ rest m n, path.toList = slashes m ++ rest ∧ other.toList = slashes n ++ rest := by
  rw [← String.toList_inj, toList_documentUrl, toList_documentUrl, List.append_right_inj,
    List.cons_inj_right]
  constructor
  · intro same
    obtain ⟨m, written⟩ := exists_slashes_append path.toList
    obtain ⟨n, otherWritten⟩ := exists_slashes_append other.toList
    rw [← same] at otherWritten
    exact ⟨_, m, n, written, otherWritten⟩
  · rintro ⟨rest, m, n, written, otherWritten⟩
    rw [written, otherWritten, dropFirstSlashes_slashes_append, dropFirstSlashes_slashes_append]

/-- What holds of every site, however it came by its base. -/
structure Addressing (site : SiteMeta) : Prop where
  /-- The slashes before a path change nothing. -/
  start : ∀ path n, site.documentUrl (String.ofList (slashes n) ++ path) = site.documentUrl path
  /-- Paths that differ in anything else have different addresses. -/
  apart : ∀ path other, site.documentUrl path = site.documentUrl other ↔
    ∃ rest m n, path.toList = slashes m ++ rest ∧ other.toList = slashes n ++ rest
  /-- Base and path meet in one slash exactly where the base does not end with a slash already. -/
  once : ∀ path, JoinedOnce site.contentBase.toList path.toList (site.documentUrl path).toList ↔
    site.contentBase.toList.getLast? ≠ some '/'
  /-- So do the base and the documents of the published pages. -/
  sources : (∀ page ∈ (Catalogue.standard site).pages, ∃ plan ∈ standardPlans,
      page = plan.page site ∧
      JoinedOnce site.contentBase.toList plan.document.toList page.source.toList) ↔
    site.contentBase.toList.getLast? ≠ some '/'

theorem addressing (site : SiteMeta) : Addressing site where
  start path n := documentUrl_slashes_append site n path
  apart _ _ := documentUrl_eq_iff
  once _ := joinedOnce_documentUrl_iff
  sources := by
    have pages : (Catalogue.standard site).pages = standardPlans.map (PagePlan.page site) := rfl
    rw [pages]
    constructor
    · intro joined
      obtain ⟨page, member⟩ : ∃ page, page ∈ standardPlans.map (PagePlan.page site) :=
        List.exists_mem_of_ne_nil _ (List.cons_ne_nil _ _)
      obtain ⟨plan, _, rfl, once⟩ := joined page member
      exact joinedOnce_documentUrl_iff.mp once
    · intro bare page member
      obtain ⟨plan, planned, rfl⟩ := List.mem_map.mp member
      exact ⟨plan, planned, rfl, joinedOnce_documentUrl_iff.mpr bare⟩

/-- The base that a site is made from and a path meet in one slash, however many slashes end the one
and begin the other. A base that a site has by other means is joined in this way exactly where it does
not end with a slash; the path is so in every site. -/
theorem made_sites_join_base_and_path_once :
    (∀ base path m n,
      (SiteMeta.ofBase (base ++ String.ofList (slashes m))).documentUrl
          (String.ofList (slashes n) ++ path) = (SiteMeta.ofBase base).documentUrl path ∧
      JoinedOnce base.toList path.toList ((SiteMeta.ofBase base).documentUrl path).toList) ∧
    (∀ base, (SiteMeta.ofBase base).contentBase.toList.getLast? ≠ some '/') ∧
    ∀ site, Addressing site := by
  refine ⟨?_, getLast?_ofBase, addressing⟩
  intro base path m n
  rw [ofBase_append_slashes, documentUrl_slashes_append, joinedOnce_iff, toList_documentUrl]
  simp [SiteMeta.ofBase]

/-- A site that is given a base with a slash at its end, and not made from it, writes a second slash
behind that one, also for its pages. -/
theorem given_base_keeps_its_slash :
    let site : SiteMeta := ⟨siteTitle, "https://x/"⟩
    site.documentUrl "a.md" = "https://x//a.md" ∧
      ¬JoinedOnce site.contentBase.toList "a.md".toList (site.documentUrl "a.md").toList ∧
      ((Catalogue.standard site).pages.map Page.source).head? = some "https://x//Overview.md" := by
  intro site
  refine ⟨by decide, ?_, by decide⟩
  rw [joinedOnce_iff]
  decide

end Handbook.DocumentUrls
