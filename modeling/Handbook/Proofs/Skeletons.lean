import Handbook.Proofs.Escaping
import Handbook.Proofs.Occurrences
import Handbook.Skeleton

/-! Pages as far as they can be told from their markup. Title and load hook may be any texts: they
never add a tag or a value to a page or take one away, and both can be read off the page, although
everything else in it is markup that may imitate what stands around them. -/
namespace Handbook.Skeletons
open Text Escaping Occurrences

/-! ## Where a mark stands for the first time -/

/-- A mark stands in a text right behind `before`, and nowhere earlier. -/
def FirstAt (mark before text : List Char) : Prop :=
  before ++ mark <+: text ∧
    ∀ earlier, earlier ++ mark <+: text → before.length ≤ earlier.length

theorem firstAt_of_avoids (clear : avoids mark before = true) (after : List Char) :
    FirstAt mark before (before ++ (mark ++ after)) := by
  refine ⟨⟨after, List.append_assoc ..⟩, ?_⟩
  intro earlier stands
  induction before generalizing earlier with
  | nil => exact Nat.zero_le _
  | cons c cs ih =>
    obtain ⟨whole, part, rest⟩ := avoids_cons.mp clear
    cases earlier with
    | nil =>
      rcases List.prefix_or_prefix_of_prefix stands (List.prefix_append (c :: cs) _) with
        inside | across
      · exact absurd inside whole
      · exact absurd across part
    | cons d earlier =>
      exact Nat.succ_le_succ (ih rest earlier (List.cons_prefix_cons.mp stands).2)

/-! ## The parts of a page around its texts -/

/-- What every page has before its title. -/
def frontMatter : Markup :=
  "<!DOCTYPE html>".toList ++ .openTag "html" [] ++ .openTag "head" [] ++
    .openTag "meta" [("charset", "utf-8")] ++
    .openTag "meta" [("http-equiv", "X-UA-Compatible"), ("content", "chrome=1")]

/-- The load hook in the start tag of the body. -/
def hookAttr : Option String → Markup
  | none => []
  | some hook => .attr "onload" hook

/-- What follows the start tag of the body. -/
def afterBodyTag (parts : Parts) : Markup :=
  parts.ribbon.getD [] ++ parts.wrapper ++ parts.footAssets ++ .closeTag "body" ++ .closeTag "html"

theorem openTag_body (onLoad : Option String) :
    Markup.openTag "body" (onLoad.toList.map fun hook => ("onload", hook)) =
      "<body".toList ++ (hookAttr onLoad ++ ['>']) := by
  cases onLoad with
  | none => rfl
  | some hook => simp [Markup.openTag, hookAttr]

/-- A page in the order in which it is written: only two places of it hold texts. -/
theorem html_eq (parts : Parts) (title : String) (onLoad : Option String) :
    { parts with title, onLoad }.html =
      frontMatter ++ ("<title>".toList ++ (escape title.toList ++ ("</title>".toList ++
        (parts.headAssets ++ ("</head><body".toList ++
          (hookAttr onLoad ++ (['>'] ++ afterBodyTag parts))))))) := by
  have opens : "<title>".toList = Markup.openTag "title" [] := by decide
  have closes : "</title>".toList = Markup.closeTag "title" := by decide
  have body : "</head><body".toList = Markup.closeTag "head" ++ "<body".toList := by decide
  unfold Parts.html Parts.head Parts.body Markup.element Markup.text frontMatter afterBodyTag
  simp only [openTag_body, opens, closes, body, List.append_assoc]
  rfl

/-- A load hook has the name of its attribute, and its escaped text between quotes. -/
theorem hookAttr_some (hook : String) : hookAttr (some hook) =
    " onload=\"".toList ++ (escape hook.toList ++ ['"']) := by
  simp [hookAttr, Markup.attr]

/-- A load hook has the marks of its attribute and none of its own. -/
theorem marks_hookAttr (onLoad : Option String) :
    marks (hookAttr onLoad) = if onLoad.isSome then ['"', '"'] else [] := by
  cases onLoad with
  | none => rfl
  | some hook =>
    have before : marks " onload=\"".toList = ['"'] := by decide
    rw [hookAttr_some, marks_append, marks_append, marks_escape, before]
    rfl

/-- A load hook can be read off its attribute, and a missing hook is none of the empty ones. -/
theorem hookAttr_injective : Function.Injective hookAttr := by
  intro onLoad other same
  cases onLoad with
  | none =>
    cases other with
    | none => rfl
    | some hook => cases same
  | some hook =>
    cases other with
    | none => cases same
    | some otherHook =>
      simp only [hookAttr_some, List.append_right_inj, List.append_left_inj] at same
      exact congrArg some (String.toList_inj.mp (escape_injective same))

/-! ## Pages and their texts -/

/-- The title stands between the first two tags that could enclose it. -/
theorem title_between_first_tags (parts : Parts) :
    FirstAt "<title>".toList frontMatter parts.html ∧
      FirstAt "</title>".toList (frontMatter ++ "<title>".toList ++ escape parts.title.toList)
        parts.html := by
  have unopened : avoids "<title>".toList frontMatter = true := by decide
  have unclosed : avoids "</title>".toList (frontMatter ++ "<title>".toList) = true := by decide
  have absent : '<' ∉ escape parts.title.toList := by
    intro member
    cases escape_unmarked _ _ member
  have written := html_eq parts parts.title parts.onLoad
  constructor
  · rw [written]
    exact firstAt_of_avoids unopened _
  · have first := firstAt_of_avoids (avoids_append unclosed (avoids_of_not_mem absent))
    simp only [List.append_assoc] at first written ⊢
    rw [written]
    exact first _

/-- The texts of a page leave its structure alone and can be read off it. Whatever title and load hook
are, the page has the same marks in the same order; its title is found between the first two title
tags, escaped; and no two pairs of title and hook make one page of the same parts, however these
parts imitate the tags around them. -/
theorem texts_keep_structure_and_read_back (parts : Parts) :
    (∀ title hook, marks { parts with title, onLoad := parts.onLoad.map fun _ => hook }.html =
      marks parts.html) ∧
    (∃ before shown, FirstAt "<title>".toList before parts.html ∧
      FirstAt "</title>".toList (before ++ "<title>".toList ++ shown) parts.html ∧
      unescape shown = parts.title.toList) ∧
    ∀ title onLoad otherTitle otherOnLoad,
      { parts with title, onLoad }.html =
        { parts with title := otherTitle, onLoad := otherOnLoad }.html ↔
      title = otherTitle ∧ onLoad = otherOnLoad := by
  refine ⟨?_, ?_, ?_⟩
  · intro title hook
    have written := html_eq parts parts.title parts.onLoad
    have hooked : (parts.onLoad.map fun _ => hook).isSome = parts.onLoad.isSome :=
      Option.isSome_map
    rw [html_eq, written]
    simp only [marks_append, marks_escape, marks_hookAttr, hooked]
  · obtain ⟨opens, closes⟩ := title_between_first_tags parts
    exact ⟨frontMatter, escape parts.title.toList, opens, closes, unescape_escape _⟩
  · intro title onLoad otherTitle otherOnLoad
    constructor
    · intro same
      have closes : ∀ rest, Marked ("</title>".toList ++ rest) := fun rest => ⟨'<', _, rfl, rfl⟩
      simp only [html_eq, List.append_right_inj] at same
      obtain ⟨titles, rest⟩ := escape_append_inj (closes _) (closes _) same
      simp only [List.append_right_inj, List.append_left_inj] at rest
      exact ⟨String.toList_inj.mp titles, hookAttr_injective rest⟩
    · rintro ⟨rfl, rfl⟩
      rfl

end Handbook.Skeletons
