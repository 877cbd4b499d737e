import Handbook.Http.CommonMediaTypes
import Handbook.Proofs.Decodings
import Handbook.Proofs.PageAnswers

/-! Paths of files. What no page takes is looked for under the root, once the path is decoded. Every
file there answers to every spelling of its path, no path leads out of the root, and a path with a
step up in it leads nowhere, however dots and slashes are written. -/
namespace Handbook.FilePaths
open Http Text Encodings Decodings Routing PageAnswers

/-! ## Steps of a path -/

theorem splitAtSlashes_eq (cs : List Char) : splitAtSlashes cs = cs.splitOn '/' := by
  induction cs with
  | nil => rfl
  | cons c rest ih =>
    rw [splitAtSlashes, ih, List.splitOn_cons_eq_if_modifyHead]
    split
    · rfl
    · cases parts : rest.splitOn '/' with
      | nil => exact absurd parts (List.splitOn_ne_nil _ _)
      | cons part parts => rfl

theorem slash_not_mem_step (member : step ∈ splitAtSlashes cs) : '/' ∉ step := by
  induction cs generalizing step with
  | nil =>
    obtain rfl := List.mem_singleton.mp member
    exact List.not_mem_nil
  | cons c rest ih =>
    rw [splitAtSlashes] at member
    split at member
    · rcases List.mem_cons.mp member with rfl | later
      · exact List.not_mem_nil
      · exact ih later
    · rename_i other
      have notSlash : '/' ≠ c := fun same => other (by simp [← same])
      cases parts : splitAtSlashes rest with
      | nil =>
        rw [parts] at member
        obtain rfl := List.mem_singleton.mp member
        simpa using notSlash
      | cons part parts =>
        rw [parts] at member ih
        rcases List.mem_cons.mp member with rfl | later
        · exact List.not_mem_cons_of_ne_of_not_mem notSlash (ih (List.mem_cons_self ..))
        · exact ih (List.mem_cons_of_mem _ later)

/-- A name that a path can follow down: it is neither empty nor a dot, it does not step up, and no
slash divides it. -/
def PlainName (name : String) : Prop :=
  name ≠ "" ∧ name ≠ "." ∧ name ≠ ".." ∧ '/' ∉ name.toList

/-- A path written from its names. -/
def joined (names : List String) : List Char := ['/'].intercalate (names.map String.toList)

/-- A decoded path is followed along its names, with the empty steps and the single dots left out,
unless it steps up. -/
theorem plainSteps?_eq_some_iff : plainSteps? path = some names ↔
    ['.', '.'] ∉ splitAtSlashes path ∧
      ((splitAtSlashes path).filter fun step => !step.isEmpty && step != ['.']).map String.ofList =
        names := by
  unfold plainSteps?
  simp only [List.contains_iff_mem, List.mem_filter]
  split
  · rename_i climbs
    simp [climbs.1]
  · rename_i stays
    have stays : ['.', '.'] ∉ splitAtSlashes path := fun climbs => stays ⟨climbs, rfl⟩
    simp [stays]

/-- A path is followed along plain names only. -/
theorem plainSteps?_plain (followed : plainSteps? path = some names) :
    ∀ name ∈ names, PlainName name := by
  obtain ⟨stays, rfl⟩ := plainSteps?_eq_some_iff.mp followed
  intro name member
  obtain ⟨step, kept, rfl⟩ := List.mem_map.mp member
  obtain ⟨inPath, named⟩ := List.mem_filter.mp kept
  simp only [Bool.and_eq_true, Bool.not_eq_true', List.isEmpty_eq_false_iff, bne_iff_ne] at named
  have differs : ∀ other, step ≠ other → String.ofList step ≠ String.ofList other :=
    fun other different same => different (String.ofList_injective same)
  refine ⟨differs [] named.1, differs ['.'] named.2, differs ['.', '.'] ?_, ?_⟩
  · rintro rfl
    exact stays inPath
  · rw [String.toList_ofList]
    exact slash_not_mem_step inPath

/-- A path divides into the names that it was made of. -/
theorem splitAtSlashes_joined (plain : ∀ name ∈ names, PlainName name) (nonempty : names ≠ []) :
    splitAtSlashes (joined names) = names.map String.toList := by
  rw [splitAtSlashes_eq]
  apply List.splitOn_intercalate
  · intro step member
    obtain ⟨name, inNames, rfl⟩ := List.mem_map.mp member
    exact (plain name inNames).2.2.2
  · simpa using nonempty

/-- A path made of plain names is followed along them. -/
theorem plainSteps?_joined (plain : ∀ name ∈ names, PlainName name) :
    plainSteps? (joined names) = some names := by
  by_cases root : names = []
  · rw [root]
    rfl
  · rw [plainSteps?_eq_some_iff, splitAtSlashes_joined plain root]
    constructor
    · intro climbs
      obtain ⟨name, inNames, dots⟩ := List.mem_map.mp climbs
      exact (plain name inNames).2.2.1 (String.toList_inj.mp dots)
    · rw [List.filter_eq_self.mpr]
      · simp
      · intro step member
        obtain ⟨name, inNames, rfl⟩ := List.mem_map.mp member
        obtain ⟨nonempty, noDot, _⟩ := plain name inNames
        have noDot : name.toList ≠ ['.'] := fun dot => noDot (String.toList_inj.mp dot)
        simp [nonempty, noDot]

theorem joined_ne_slash_cons (plain : ∀ name ∈ names, PlainName name) (rest : List Char) :
    joined names ≠ '/' :: rest := by
  intro slash
  cases names with
  | nil => cases slash
  | cons name others =>
    have steps := splitAtSlashes_joined plain (List.cons_ne_nil _ _)
    rw [slash, splitAtSlashes, if_pos (beq_self_eq_true _), List.map_cons] at steps
    have empty := String.toList_eq_nil_iff.mp (List.cons.inj steps).1.symm
    exact (plain name (List.mem_cons_self ..)).1 empty

/-! ## Paths as they are written -/

/-- A slash is a slash, written or decoded. -/
theorem percentDecode_slash_cons (cs : List Char) :
    percentDecode (encodeUtf8 ('/' :: cs)) = 0x2F :: percentDecode (encodeUtf8 cs) :=
  percentDecode_cons_plain (by decide) (encodeUtf8 cs)

/-- A text that spells a path made of plain names leads along them from the root. -/
theorem requestSteps?_of_spells (plain : ∀ name ∈ names, PlainName name)
    (spelled : Spells spelling (encodeUtf8 (joined names))) :
    requestSteps? ('/' :: spelling) = some names := by
  have decoded := percentDecode_of_spells spelled
  have unslashed : spelling.dropWhile (· == '/') = spelling := by
    cases spelling with
    | nil => rfl
    | cons c rest =>
      apply List.dropWhile_cons_of_neg
      intro slash
      rw [beq_iff_eq.mp slash, percentDecode_slash_cons] at decoded
      have read := decodeUtf8Lossy_of_valid (decodeUtf8?_encodeUtf8 (joined names))
      rw [← decoded, ← List.nil_append (0x2F :: _),
        decodeUtf8Lossy_append_ascii (by decide)] at read
      exact joined_ne_slash_cons plain _ read.symm
  unfold requestSteps?
  rw [List.dropWhile_cons_of_pos rfl, unslashed, decoded, decodeUtf8?_encodeUtf8]
  split
  · rename_i rest slash
    exact absurd (Option.some.inj slash) (joined_ne_slash_cons plain rest)
  · rename_i path same
    cases same
    exact plainSteps?_joined plain
  · rename_i none
    cases none

/-- Whether a path has a step up among its parts, once its bytes are decoded. -/
def StepsUp (path : List Char) : Prop :=
  [0x2E, 0x2E] ∈ (percentDecode (encodeUtf8 path)).splitOn 0x2F

/-- Slashes in front of a path make no step up. -/
theorem stepsUp_dropWhile (climbs : StepsUp path) : StepsUp (path.dropWhile (· == '/')) := by
  induction path with
  | nil => exact climbs
  | cons c rest ih =>
    by_cases slash : c = '/'
    · subst slash
      rw [List.dropWhile_cons_of_pos rfl]
      apply ih
      rw [StepsUp, percentDecode_slash_cons, List.splitOn_cons_eq_if_modifyHead,
        if_pos (beq_self_eq_true _)] at climbs
      rcases List.mem_cons.mp climbs with empty | later
      · cases empty
      · exact later
    · rwa [List.dropWhile_cons_of_neg (by simpa using slash)]

/-- A part of the bytes between two slashes is a part of the text that they read as. -/
theorem decodeUtf8Lossy_mem_splitOn (plain : '/' ∉ decodeUtf8Lossy part)
    (member : part ∈ bytes.splitOn 0x2F) :
    decodeUtf8Lossy part ∈ (decodeUtf8Lossy bytes).splitOn '/' := by
  have parted : [0x2F].intercalate (bytes.splitOn 0x2F) = bytes := List.intercalate_splitOn _
  rw [← parted]
  generalize bytes.splitOn 0x2F = parts at member
  induction parts with
  | nil => cases member
  | cons first others ih =>
    cases others with
    | nil =>
      obtain rfl := List.mem_singleton.mp member
      rw [List.intercalate_singleton, List.splitOn_eq_singleton plain]
      exact List.mem_singleton_self _
    | cons next others =>
      have slash : Char.ofNat (0x2F : UInt8).toNat = '/' := by decide
      rw [List.intercalate_cons_cons, List.append_assoc, List.singleton_append,
        decodeUtf8Lossy_append_ascii (by decide), slash, List.splitOn_append_cons_self,
        List.mem_append]
      rcases List.mem_cons.mp member with rfl | later
      · rw [List.splitOn_eq_singleton plain]
        exact .inl (List.mem_singleton_self _)
      · exact .inr (ih later)

/-- A path with a step up leads nowhere. -/
theorem requestSteps?_stepsUp (climbs : StepsUp path) : requestSteps? path = none := by
  have parts := stepsUp_dropWhile climbs
  unfold requestSteps?
  rw [StepsUp] at parts
  split
  · rfl
  · rename_i text read
    have dots := decodeUtf8Lossy_mem_splitOn (by decide) parts
    rw [decodeUtf8Lossy_of_valid read, ← splitAtSlashes_eq] at dots
    rw [Option.eq_none_iff_forall_ne_some]
    intro names followed
    exact (plainSteps?_eq_some_iff.mp followed).1 dots
  · rfl

/-- A path is followed along plain names only, however it is written. -/
theorem requestSteps?_plain (followed : requestSteps? path = some names) :
    ∀ name ∈ names, PlainName name := by
  unfold requestSteps? at followed
  split at followed
  · cases followed
  · exact plainSteps?_plain followed
  · cases followed

/-! ## What lies at a path -/

theorem find?_append (tree : FileTree) (path rest : List String) :
    tree.find? (path ++ rest) = (tree.find? path).bind fun child => child.find? rest := by
  induction path generalizing tree with
  | nil => cases tree <;> rfl
  | cons name path ih =>
    cases tree with
    | file content => rfl
    | directory entries =>
      simp only [List.cons_append, FileTree.find?]
      cases entries.lookup name with
      | none => rfl
      | some child => exact ih child

/-- An answer with a file that lies under the root, or an answer without a body. -/
def FromRoot (root : FileTree) (response : Response) : Prop :=
  (response.status = 200 ∧ ∃ names, (∀ name ∈ names, PlainName name) ∧
    root.find? names = some (.file response.body)) ∨
  (response.status ≠ 200 ∧ response.body = [])

theorem fromRoot_bare (other : status ≠ 200) : FromRoot root (.bare status) :=
  .inr ⟨other, rfl⟩

theorem fromRoot_redirect (root : FileTree) (uri : Uri) : FromRoot root (redirectResponse uri) := by
  unfold redirectResponse
  split
  · refine .inr ⟨?_, rfl⟩
    show 307 ≠ 200
    decide
  · exact fromRoot_bare (by decide)

section
variable [MediaTypes]

/-- What is found at a path is handed out if it is a file, and as its index if it is a directory that
is asked for with a slash. -/
theorem fromRoot_found (plain : ∀ name ∈ steps, PlainName name)
    (found : FileTree.find? root steps = some tree) :
    FromRoot root (foundResponse uri steps tree) := by
  cases tree with
  | file content => exact .inl ⟨rfl, steps, plain, found⟩
  | directory entries =>
    simp only [foundResponse]
    split
    · split
      · rename_i content index
        refine .inl ⟨rfl, steps ++ [indexFile], ?_, ?_⟩
        · rw [List.forall_mem_append, List.forall_mem_singleton]
          exact ⟨plain, by unfold PlainName; decide⟩
        · simp [find?_append, found, FileTree.find?, index, fileResponse]
      · exact fromRoot_bare (by decide)
    · exact fromRoot_redirect root uri

theorem fileAnswer_fromRoot (root : FileTree) (uri : Uri) :
    FromRoot root (fileAnswer root ⟨.get, uri⟩) := by
  simp only [fileAnswer, Response.forMethod]
  split
  · rename_i steps followed
    split
    · rename_i tree found
      exact fromRoot_found (requestSteps?_plain followed) found
    · exact fromRoot_bare (by decide)
  · exact fromRoot_bare (by decide)

/-- A file at the end of the way is handed out whole. -/
theorem fileAnswer_file (followed : requestSteps? uri.path = some names)
    (lies : FileTree.find? root names = some (.file content)) :
    fileAnswer root ⟨.get, uri⟩ = fileResponse names content := by
  simp only [fileAnswer, followed, lies, foundResponse, Response.forMethod]

theorem fileAnswer_stepsUp (climbs : StepsUp uri.path) (root : FileTree) :
    fileAnswer root ⟨.get, uri⟩ = .bare 404 := by
  simp only [fileAnswer, requestSteps?_stepsUp climbs, Response.forMethod]

/-! ## What the files answer -/

/-- A request that no page takes is answered from the files alone. -/
theorem respond_unpublished {site : Site} (built : site.routes? = some routes)
    (unpublished : Unpublished site request.uri.path) (files : FileTree) (source : Source) :
    site.respond routes files source request = (fileAnswer files request, []) :=
  respond_file ((untaken_iff_unpublished built).mpr unpublished) files source

/-- What a site answers to the requests that none of its pages takes. A page takes a path as it is
written, and the files take what it decodes to. -/
structure ServesFiles (site : Site) (routes : List Route) : Prop where
  /-- Every file is answered whole, under every spelling of its path. -/
  complete : ∀ files names content, (∀ name ∈ names, PlainName name) →
    FileTree.find? files names = some (.file content) →
    ∀ (uri : Uri) spelling, uri.path = '/' :: spelling →
      Spells spelling (encodeUtf8 (joined names)) →
      Unpublished site uri.path → ∀ source, ∃ headers,
        site.respond routes files source ⟨.get, uri⟩ = (⟨200, headers, content⟩, []) ∧
        headers.lookup .contentLength = some (toString content.length)
  /-- Nothing is answered but files that lie under the root. -/
  confined : ∀ files (uri : Uri), Unpublished site uri.path → ∀ source,
    FromRoot files (site.respond routes files source ⟨.get, uri⟩).1
  /-- A path with a step up is not found. -/
  refused : ∀ files (uri : Uri), Unpublished site uri.path → StepsUp uri.path → ∀ source,
    site.respond routes files source ⟨.get, uri⟩ = (.bare 404, [])

/-- Whatever the pages leave over is answered from the files: each of them under every spelling of
its path, and nothing from outside the root. -/
theorem files_are_complete_and_confined {site : Site} (built : site.routes? = some routes) :
    ServesFiles site routes := by
  refine ⟨?_, ?_, ?_⟩
  · intro files names content plain lies uri spelling written spelled unpublished source
    have followed := requestSteps?_of_spells plain spelled
    rw [← written] at followed
    refine ⟨(fileResponse names content).headers, ?_, rfl⟩
    rw [respond_unpublished built unpublished, fileAnswer_file followed lies]
    rfl
  · intro files uri unpublished source
    rw [respond_unpublished built unpublished]
    exact fileAnswer_fromRoot files uri
  · intro files uri unpublished climbs source
    rw [respond_unpublished built unpublished, fileAnswer_stepsUp climbs]

end

/-- A site with one page. -/
def notice : Site where
  layout := bareLayout
  catalogue := ⟨[⟨⟨"ö", by decide, by decide⟩, "", "u", none, false⟩], by decide⟩

/-- A file in the place of a page is answered where the name of the page is spelled otherwise, and no
spelling of two dots between slashes leads to it. -/
theorem spelled_page_name_is_a_file_and_spelled_climb_is_refused :
    let files : FileTree := .directory [("ö.html", .file [65]), ("s", .directory [])]
    let source : Source := ⟨fun _ => .error .breakdown⟩
    let spelled : Uri := ⟨none, none, "/%c3%B6.%68tml".toList, none⟩
    let climbing : Uri := ⟨none, none, "/s%2F%2e./ö.html".toList, none⟩
    ∃ routes headers, notice.routes? = some routes ∧
      notice.respond routes files source ⟨.get, spelled⟩ = (⟨200, headers, [65]⟩, []) ∧
      headers.lookup .contentLength = some "1" ∧
      notice.respond routes files source ⟨.get, climbing⟩ = (.bare 404, []) := by
  intro files source spelled climbing
  obtain ⟨routes, built⟩ := Option.isSome_iff_exists.mp (show notice.routes?.isSome by decide)
  have serves := files_are_complete_and_confined built
  have untaken : Unpublished notice spelled.path ∧ Unpublished notice climbing.path := by
    unfold Unpublished Publishes
    decide
  have plain : ∀ name ∈ ["ö.html"], PlainName name := by
    unfold PlainName
    decide
  have written : Spells "%c3%B6.%68tml".toList
      ([0xC3, 0xB6, 0x2E, 0x68] ++ encodeUtf8 "tml".toList) :=
    .digits rfl rfl (.digits rfl rfl (.plain (by decide) (.digits rfl rfl
      (.plain (by decide) (.plain (by decide) (.plain (by decide) .nil))))))
  obtain ⟨headers, answered, length⟩ := serves.complete files ["ö.html"] [65] plain rfl spelled _
    rfl written untaken.1 source
  have climbs : StepsUp climbing.path := by
    unfold StepsUp
    decide
  exact ⟨routes, headers, built, answered, length, serves.refused files climbing untaken.2
    climbs source⟩

end Handbook.FilePaths
