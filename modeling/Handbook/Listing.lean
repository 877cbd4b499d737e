import Handbook.PageName
import Handbook.Text.Quoted

/-! Listings of pages. A menu and a catalogue both name pages, and both refuse two names with one
stem, because the stem alone decides which page is meant. The complaint quotes the name as it was
written. -/
namespace Handbook

/-- The two listings that name pages. -/
inductive Listing where
  | menu
  | catalogue
  deriving DecidableEq, Repr

/-- What a complaint calls an entry of the listing. -/
def Listing.word : Listing → String
  | .menu => "nav"
  | .catalogue => "page"

/-- Why a listing refuses a name. -/
inductive NameFault where
  | invalid
  | duplicate
  deriving DecidableEq, Repr

/-- What a complaint calls the fault. -/
def NameFault.word : NameFault → String
  | .invalid => "invalid"
  | .duplicate => "duplicate"

/-- A name that a listing refuses (`NavError`, `PageError`), as it was written. -/
structure NameError where
  listing : Listing
  fault : NameFault
  name : String
  deriving DecidableEq, Repr

/-- The complaint in one line. -/
def NameError.message (error : NameError) : String :=
  error.fault.word ++ " " ++ error.listing.word ++ " identifier " ++ Text.quote error.name

/-- Reads a name for a listing. -/
def Listing.name (listing : Listing) (text : String) : Except NameError PageName :=
  match PageName.ofString? text with
  | some name => .ok name
  | none => .error ⟨listing, .invalid, text⟩

/-- No two names have one stem. -/
def Distinct (names : List PageName) : Prop := (names.map PageName.stem).Nodup

instance (names : List PageName) : Decidable (Distinct names) :=
  inferInstanceAs (Decidable (names.map PageName.stem).Nodup)

/-- The first name whose stem was met before, where `seen` holds the stems met so far. -/
def firstRepeatAfter? (seen : List String) : List PageName → Option PageName
  | [] => none
  | name :: rest =>
    if name.stem ∈ seen then some name else firstRepeatAfter? (name.stem :: seen) rest

/-- The first name that repeats the stem of an earlier one. -/
def firstRepeat? (names : List PageName) : Option PageName := firstRepeatAfter? [] names

/-- Nothing repeats exactly when the stems differ from each other and from those met before. -/
theorem firstRepeatAfter?_eq_none_iff (seen : List String) (names : List PageName) :
    firstRepeatAfter? seen names = none ↔
      Distinct names ∧ ∀ name ∈ names, name.stem ∉ seen := by
  induction names generalizing seen with
  | nil => simp [firstRepeatAfter?, Distinct]
  | cons name rest ih =>
    unfold firstRepeatAfter?
    split
    · rename_i met
      simp [met]
    · rename_i fresh
      rw [ih]
      simp only [Distinct, List.map_cons, List.nodup_cons, List.mem_map, List.mem_cons, not_or]
      constructor
      · rintro ⟨distinct, apart⟩
        refine ⟨⟨?_, distinct⟩, ?_⟩
        · rintro ⟨other, member, same⟩
          exact (apart other member).1 same
        · rintro other (rfl | member)
          · exact fresh
          · exact (apart other member).2
      · rintro ⟨⟨alone, distinct⟩, apart⟩
        refine ⟨distinct, fun other member => ⟨fun same => alone ⟨other, member, same⟩, ?_⟩⟩
        exact apart other (.inr member)

theorem firstRepeat?_eq_none_iff {names : List PageName} :
    firstRepeat? names = none ↔ Distinct names := by
  simp [firstRepeat?, firstRepeatAfter?_eq_none_iff]

/-- Evidence that names are distinct, or the complaint about the first that repeats. `NavTable::new` and
`PageSet::new` check their entries alike. -/
def Listing.distinct (listing : Listing) (names : List PageName) :
    Except NameError (PLift (Distinct names)) :=
  match h : firstRepeat? names with
  | some name => .error ⟨listing, .duplicate, name.text⟩
  | none => .ok ⟨firstRepeat?_eq_none_iff.1 h⟩

end Handbook
