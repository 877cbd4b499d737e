import Handbook.PageName
import Mathlib.Data.List.Basic

/-! Stems and file names. A name carries at most one ending that its stem drops, so a file name
stands for one stem, and both spellings of a page are made of the same kinds of characters. -/
namespace Handbook.PageNames

/-- An ending behind something is dropped, once. -/
theorem stemOf_append_ending (nonempty : body ≠ []) : stemOf (body ++ pageEnding) = body := by
  have ends : pageEnding.isSuffixOf (body ++ pageEnding) = true :=
    List.isSuffixOf_iff_suffix.mpr ⟨body, rfl⟩
  have longer : pageEnding.length < (body ++ pageEnding).length := by
    have positive := List.length_pos_iff.mpr nonempty
    simp only [List.length_append]
    omega
  rw [stemOf, if_pos ⟨ends, longer⟩, List.length_append, Nat.add_sub_cancel]
  exact List.take_left

/-- Either one ending is dropped and something is left, or the text is its own stem. -/
theorem stemOf_cases (cs : List Char) :
    (stemOf cs ≠ [] ∧ cs = stemOf cs ++ pageEnding) ∨ stemOf cs = cs := by
  by_cases dropped : pageEnding.isSuffixOf cs = true ∧ pageEnding.length < cs.length
  · obtain ⟨ends, longer⟩ := dropped
    obtain ⟨body, rfl⟩ := List.isSuffixOf_iff_suffix.mp ends
    have nonempty : body ≠ [] := by
      rintro rfl
      simp at longer
    rw [stemOf_append_ending nonempty]
    exact .inl ⟨nonempty, rfl⟩
  · exact .inr (if_neg dropped)

/-- A text is its own stem when it carries no ending, or nothing else. -/
theorem stemOf_eq_self_iff : stemOf cs = cs ↔ ¬pageEnding <:+ cs ∨ cs = pageEnding := by
  constructor
  · intro same
    by_cases bare : cs = pageEnding
    · exact .inr bare
    · refine .inl ?_
      rintro ⟨body, rfl⟩
      have nonempty : body ≠ [] := by
        rintro rfl
        exact bare rfl
      rw [stemOf_append_ending nonempty] at same
      exact absurd (List.append_right_eq_self.mp same.symm) (by decide)
  · rintro (unended | rfl)
    · rcases stemOf_cases cs with ⟨_, written⟩ | same
      · exact absurd ⟨stemOf cs, written.symm⟩ unended
      · exact same
    · decide

theorem stemOf_ne_nil (nonempty : cs ≠ []) : stemOf cs ≠ [] := by
  rcases stemOf_cases cs with ⟨left, _⟩ | same
  · exact left
  · rwa [same]

/-- A stem has the same kinds of characters as its text, as far as the ending has them. -/
theorem all_stemOf {kept : Char → Bool} (ending : pageEnding.all kept = true) (cs : List Char) :
    (stemOf cs).all kept = cs.all kept := by
  rcases stemOf_cases cs with ⟨_, written⟩ | same
  · have both := congrArg (List.all · kept) written
    simp only [List.all_append, ending, Bool.and_true] at both
    exact both.symm
  · rw [same]

@[simp] theorem toList_stem (name : PageName) : name.stem.toList = stemOf name.text.toList := by
  simp [PageName.stem]

@[simp] theorem toList_fileName (name : PageName) :
    name.fileName.toList = stemOf name.text.toList ++ pageEnding := by
  simp [PageName.fileName]

theorem text_toList_ne_nil (name : PageName) : name.text.toList ≠ [] :=
  fun empty => name.nonempty (String.toList_eq_nil_iff.mp empty)

theorem fileName_toList_ne_nil (name : PageName) : name.fileName.toList ≠ [] := by
  rw [toList_fileName]
  exact List.append_ne_nil_of_left_ne_nil (stemOf_ne_nil (text_toList_ne_nil name)) _

/-- Two pages share a file name exactly when they share a stem. -/
theorem fileName_eq_iff {a b : PageName} : a.fileName = b.fileName ↔ a.stem = b.stem := by
  simp [PageName.fileName]

/-- A file name has the same kinds of characters as the name it comes from, as far as the ending has
them. -/
theorem all_fileName {kept : Char → Bool} (ending : pageEnding.all kept = true)
    (name : PageName) : name.fileName.toList.all kept = name.text.toList.all kept := by
  rw [toList_fileName, List.all_append, all_stemOf ending, ending, Bool.and_true]

theorem eq_of_text_eq {a b : PageName} (same : a.text = b.text) : a = b := by
  cases a
  cases b
  cases same
  rfl

/-- A text is a name exactly when it is the text of that name. -/
theorem ofString?_eq_some_iff {name : PageName} :
    PageName.ofString? text = some name ↔ text = name.text := by
  constructor
  · intro read
    unfold PageName.ofString? at read
    split at read
    · split at read
      · cases read
        rfl
      · cases read
    · cases read
  · rintro rfl
    simp [PageName.ofString?, name.nonempty, name.visible]

/-- The stem of a page is a name as well. -/
theorem exists_name_of_stem (name : PageName) : ∃ bare : PageName, bare.text = name.stem := by
  have nonempty : name.stem ≠ "" := fun empty =>
    stemOf_ne_nil (text_toList_ne_nil name) (by rw [← toList_stem, empty]; rfl)
  have visible : name.stem.toList.all isNameChar = true := by
    rw [toList_stem, all_stemOf (by decide)]
    exact name.visible
  exact ⟨⟨name.stem, nonempty, visible⟩, rfl⟩

/-- The file name of a page is a name as well, and its stem is that of the page. -/
theorem exists_name_of_fileName (name : PageName) :
    ∃ file : PageName, file.text = name.fileName ∧ file.stem = name.stem := by
  have nonempty : name.fileName ≠ "" := fun empty =>
    fileName_toList_ne_nil name (by rw [empty]; rfl)
  have visible : name.fileName.toList.all isNameChar = true := by
    rw [all_fileName (by decide)]
    exact name.visible
  refine ⟨⟨name.fileName, nonempty, visible⟩, rfl, ?_⟩
  apply String.toList_inj.mp
  rw [toList_stem, toList_fileName, stemOf_append_ending (stemOf_ne_nil (text_toList_ne_nil name)),
    toList_stem]

end Handbook.PageNames
